import Mathlib.Algebra.GroupWithZero.Nat
import Mnemes.Profile.Authorization
import Mnemes.Profile.Runs

/-!
# What a snapshot digest binds

The digest of a snapshot covers its texts one by one, each after its length, so equal digests are of
equal texts (`material_eq_of_digest`). But two of the texts are joined lists: the namespaces, and
the lines of the stores with their own joined fields. They are read back exactly where no separator
can be taken for another (`AuthorizationSnapshot.Unambiguous`).
-/

namespace Mnemes

open Concurrency

variable {M : SemanticMemory} {P : Platform}

/-! ## Bytes -/

/-- The bytes of the fields of a digest. -/
def framed (fields : List String) : Bytes :=
  fields.flatMap fun field => toBeBytes 8 field.utf8ByteSize ++ utf8 field

/-- Framed fields are read back one by one, as long as their lengths fit the frame. -/
theorem framed_inj {as bs : List String} (hlen : as.length = bs.length)
    (hsize : (framed as).length < 2 ^ 64) (h : framed as = framed bs) : as = bs := by
  induction as generalizing bs with
  | nil => simpa using hlen.symm
  | cons a as ih =>
    cases bs with
    | nil => simp at hlen
    | cons b bs =>
      have hframe : ∀ f fs, framed (f :: fs) =
          toBeBytes 8 f.utf8ByteSize ++ (utf8 f ++ framed fs) := by
        intro f fs
        simp [framed]
      have hsize' : (framed (b :: bs)).length < 2 ^ 64 := h ▸ hsize
      rw [hframe] at h hsize hsize'
      rw [hframe] at h
      obtain ⟨hlength, hrest⟩ := List.append_inj h (by simp [length_toBeBytes])
      simp only [List.length_append, length_toBeBytes, length_utf8] at hsize hsize'
      have hab : a.utf8ByteSize = b.utf8ByteSize := by
        have := toBeBytes_mod hlength
        rwa [Nat.mod_eq_of_lt (by omega), Nat.mod_eq_of_lt (by omega)] at this
      obtain ⟨hutf8, hrest⟩ := List.append_inj hrest (by rw [length_utf8, length_utf8, hab])
      rw [utf8_inj.1 hutf8, ih (by simpa using hlen) (by omega) hrest]

/-! ## Joined texts -/

/-- Joining texts joins their characters. -/
theorem toList_joinTexts (separator : String) (texts : List String) :
    (joinTexts separator texts).toList =
      List.intercalate separator.toList (texts.map String.toList) := by
  simp [joinTexts]

/-- Joined texts are read back exactly where they are one nonempty text without the separator. -/
theorem joinTexts_unique_iff {sep : Char} {texts : List String} :
    (∀ texts', joinTexts (String.singleton sep) texts' = joinTexts (String.singleton sep) texts →
        texts' = texts) ↔
      ∃ text, texts = [text] ∧ text ≠ "" ∧ sep ∉ text.toList := by
  have hinj : Function.Injective (List.map String.toList) :=
    List.map_injective_iff.2 fun a b h => String.toList_inj.1 h
  have hjoin : ∀ texts', joinTexts (String.singleton sep) texts' =
      joinTexts (String.singleton sep) texts ↔
      [sep].intercalate (texts'.map String.toList) =
        [sep].intercalate (texts.map String.toList) := by
    intro texts'
    rw [← String.toList_inj, toList_joinTexts, toList_joinTexts]
    simp
  constructor
  · intro h
    obtain ⟨x, hx, hne, hsep⟩ := Lists.intercalate_unique_iff.1
      (fun l (hl : [sep].intercalate l = [sep].intercalate (texts.map String.toList)) => by
        have hl' : (l.map String.ofList).map String.toList = l := by simp
        have := h (l.map String.ofList) ((hjoin _).2 (by rw [hl', hl]))
        rw [← this, hl'])
    obtain ⟨text, rfl, rfl⟩ := List.map_eq_singleton_iff.1 hx
    exact ⟨text, rfl, fun he => hne (by simp [he]), hsep⟩
  · rintro ⟨text, rfl, hne, hsep⟩ texts' h
    refine hinj (Lists.intercalate_unique_iff.2 ⟨text.toList, rfl, ?_, hsep⟩ _ ((hjoin _).1 h))
    intro he
    exact hne (String.toList_inj.1 he)

/-! ## Lines -/

namespace AuthorizedMemoryStore

/-- The fields of a store's line. -/
def fields (store : AuthorizedMemoryStore) : List String :=
  [store.storeId, store.profileId.text, store.ownerDeviceId.text, store.namespace,
    store.relativePath, joinTexts "," (store.grantIds.map (·.text)),
    toString store.authorizationExpiresAt.toNat]

/-- The line of a store joins its fields with bars. -/
theorem line_eq (store : AuthorizedMemoryStore) : store.line = joinTexts "|" store.fields := by
  rw [← String.toList_inj, toList_joinTexts]
  simp [line, fields, List.intercalate, toString]

/-- The fields do not contain the separator of a line. -/
def Separated (store : AuthorizedMemoryStore) : Prop := ∀ field ∈ store.fields, '|' ∉ field.toList

/-- The separators of a line are the six between its fields and those in them. -/
theorem count_line (store : AuthorizedMemoryStore) :
    store.line.toList.count '|' = 6 + (store.fields.map (·.toList.count '|')).sum := by
  rw [line_eq, toList_joinTexts]
  simp only [fields, List.map_cons, List.map_nil, List.intercalate_cons_cons,
    List.intercalate_singleton, List.count_append, List.sum_cons, List.sum_nil,
    show ("|" : String).toList = ['|'] from rfl, List.count_singleton_self]
  omega

/-- The fields of a store are separated exactly if its line has no other bars. -/
theorem separated_iff {store : AuthorizedMemoryStore} :
    store.Separated ↔ store.line.toList.count '|' = 6 := by
  rw [count_line]
  simp [Separated, fields, List.count_eq_zero]

/-- A line whose fields are separated is read back field by field. -/
theorem fields_eq {store store' : AuthorizedMemoryStore} (h : store.Separated)
    (hline : store'.line = store.line) : store'.fields = store.fields := by
  have h' : store'.Separated := separated_iff.2 (hline ▸ separated_iff.1 h)
  have hsplit : ∀ s : AuthorizedMemoryStore, s.Separated →
      s.line.toList.splitOn '|' = s.fields.map String.toList := by
    intro s hs
    rw [line_eq, toList_joinTexts]
    refine List.splitOn_intercalate '|' ?_ (by simp [fields])
    simpa [Separated] using hs
  have hmap := (hsplit store' h').symm.trans (hline ▸ hsplit store h)
  exact List.map_injective_iff.2 (fun a b hab => String.toList_inj.1 hab) hmap

/-- A separated store with one grant is read back from its line. -/
theorem eq_of_line {store store' : AuthorizedMemoryStore} (hsep : store.Separated)
    (hgrant : ∃ grant, store.grantIds.map (·.text) = [grant] ∧ grant ≠ "" ∧ ',' ∉ grant.toList)
    (hline : store'.line = store.line) : store' = store := by
  have hfields := fields_eq hsep hline
  simp only [fields, List.cons.injEq, and_true] at hfields
  obtain ⟨h1, h2, h3, h4, h5, h6, h7⟩ := hfields
  have hgrants : store'.grantIds = store.grantIds :=
    List.map_injective_iff.2 (fun a b hab => by cases a; cases b; cases hab; rfl)
      (joinTexts_unique_iff.2 hgrant _ h6)
  have htime : store'.authorizationExpiresAt = store.authorizationExpiresAt :=
    UInt64.toNat_inj.1 (eq_of_repr_eq h7)
  obtain ⟨_, ⟨_⟩, ⟨_⟩, _, _, _, _⟩ := store
  obtain ⟨_, ⟨_⟩, ⟨_⟩, _, _, _, _⟩ := store'
  simp only at h1 h2 h3 h4 h5 hgrants htime
  rw [h1, h2, h3, h4, h5, hgrants, htime]

end AuthorizedMemoryStore

/-- Each store brings at least the six separators of its line. -/
theorem count_lines (stores : List AuthorizedMemoryStore) :
    6 * stores.length ≤ (joinTexts "\n" (stores.map (·.line))).toList.count '|' := by
  rw [toList_joinTexts]
  induction stores with
  | nil => simp
  | cons store stores ih =>
    have hcount := store.count_line
    cases stores with
    | nil => simpa using (by omega : 6 ≤ store.line.toList.count '|')
    | cons next stores =>
      simp only [List.map_cons, List.intercalate_cons_cons, List.count_append, List.length_cons]
        at ih ⊢
      omega

/-! ## Snapshots -/

namespace AuthorizationSnapshot

/-- The bytes the digest of a snapshot hashes. -/
def preimage (snapshot : AuthorizationSnapshot) : Bytes :=
  digestPreimage "mnemes.authorization-snapshot.v1" snapshot.material

/-- What holds of every snapshot in memory: a device identity is a hyphenated UUID, and the hashed
texts fit the address space together. -/
structure InMemory (snapshot : AuthorizationSnapshot) : Prop where
  devices : ∀ store ∈ snapshot.authorizedStores,
    store.ownerDeviceId.text.toList.all fun c => c.isAlphanum || c = '-'
  size : snapshot.preimage.length < 2 ^ 64

/-- Equal actor, devices, profile, binding, effect, namespaces, stores, time and policy version. -/
def SameMaterial (a b : AuthorizationSnapshot) : Prop :=
  { a with snapshotDigest := "" } = { b with snapshotDigest := "" }

/-- No separator of the joined texts can be taken for another: there is one namespace, and at most
one store, which names one grant; the namespace and the grant are not empty and hold no comma, and
no field of the store holds a bar. -/
structure Unambiguous (snapshot : AuthorizationSnapshot) : Prop where
  namespaces : ∃ text, snapshot.namespaces = [text] ∧ text ≠ "" ∧ ',' ∉ text.toList
  stores : snapshot.authorizedStores = [] ∨ ∃ store, snapshot.authorizedStores = [store] ∧
    store.Separated ∧ ∃ grant, store.grantIds.map (·.text) = [grant] ∧ grant ≠ "" ∧
      ',' ∉ grant.toList

/-- SHA-256 does not collide on the two snapshots. -/
def NoCollision (P : Platform) (a b : AuthorizationSnapshot) : Prop :=
  P.sha256 a.preimage = P.sha256 b.preimage → a.preimage = b.preimage

/-- Equal digests are of equal texts. -/
theorem material_eq_of_digest {a b : AuthorizationSnapshot} (hsize : a.preimage.length < 2 ^ 64)
    (hcol : NoCollision P a b) (h : a.expectedDigest P = b.expectedDigest P) :
    a.material = b.material := by
  have hpre := hcol (Vector.toList_inj.1 (hex_inj h))
  exact (List.cons.inj (framed_inj (by simp [material]) hsize hpre)).2

/-- Texts that are equal come from equal stores, where the stores are read back from their lines. -/
theorem stores_eq {stores stores' : List AuthorizedMemoryStore}
    (h : stores = [] ∨ ∃ store, stores = [store] ∧ store.Separated ∧
      ∃ grant, store.grantIds.map (·.text) = [grant] ∧ grant ≠ "" ∧ ',' ∉ grant.toList)
    (hlines : joinTexts "\n" (stores'.map (·.line)) = joinTexts "\n" (stores.map (·.line))) :
    stores' = stores := by
  have hcount := count_lines stores'
  rw [hlines] at hcount
  rcases h with rfl | ⟨store, rfl, hsep, hgrant⟩
  · cases stores' with
    | nil => rfl
    | cons store stores' => simp [joinTexts] at hcount
  · have hone : joinTexts "\n" ([store].map (·.line)) = store.line := by
      simp [joinTexts]
    rw [hone] at hcount hlines
    rw [AuthorizedMemoryStore.separated_iff.1 hsep] at hcount
    have hsix := AuthorizedMemoryStore.separated_iff.1 hsep
    cases stores' with
    | nil =>
      rw [← hlines] at hsix
      simp [joinTexts] at hsix
    | cons store' rest =>
      cases rest with
      | nil =>
        have hline : store'.line = store.line := by
          rw [← hlines]
          simp [joinTexts]
        rw [AuthorizedMemoryStore.eq_of_line hsep hgrant hline]
      | cons next rest =>
        simp only [List.length_cons] at hcount
        omega

/-- An unambiguous snapshot is read back from its texts. -/
theorem sameMaterial_of_material {a b : AuthorizationSnapshot} (ha : a.Unambiguous)
    (h : b.material = a.material) : SameMaterial b a := by
  simp only [material, List.cons.injEq, and_true] at h
  obtain ⟨h1, h2, h3, h4, h5, h6, h7, h8, h9, h10⟩ := h
  have hnamespaces := joinTexts_unique_iff.2 ha.namespaces _ h7
  have hstores := stores_eq ha.stores h8
  have htime : b.evaluatedAt = a.evaluatedAt := UInt64.toNat_inj.1 (eq_of_repr_eq h9)
  have heffect : b.effect = a.effect := by
    cases hb : b.effect <;> cases ha : a.effect <;> first | rfl | simp [hb, ha,
      MemoryAccessEffect.asStr] at h6
  obtain ⟨⟨_⟩, ⟨_⟩, ⟨_⟩, ⟨_⟩, _, _, _, _, _, _, _⟩ := a
  obtain ⟨⟨_⟩, ⟨_⟩, ⟨_⟩, ⟨_⟩, _, _, _, _, _, _, _⟩ := b
  simp only at h1 h2 h3 h4 h5 heffect hnamespaces hstores htime h10
  rw [SameMaterial, h1, h2, h3, h4, h5, heffect, hnamespaces, hstores, htime, h10]

end AuthorizationSnapshot

/-! ## Other readings -/

/-- A text that holds a separator is two texts around it. -/
theorem exists_split {sep : Char} {text : String} (h : sep ∈ text.toList) :
    ∃ before after, text = before ++ String.singleton sep ++ after := by
  obtain ⟨before, after, h⟩ := List.append_of_mem h
  refine ⟨String.ofList before, String.ofList after, ?_⟩
  rw [← String.toList_inj, h]
  simp

/-- Adding a text that is not empty changes a text. -/
theorem append_ne_left {a b : String} (h : b ≠ "") : a ++ b ≠ a := by
  intro he
  have hlist : a.toList ++ b.toList = a.toList := by rw [← String.toList_append, he]
  exact h (String.toList_inj.1 (List.self_eq_append_right.1 hlist.symm))

/-- A text with a bar is not empty. -/
theorem bar_append_ne (a : String) : "|" ++ a ≠ "" := by
  intro he
  have := congrArg (·.toList) he
  simp at this

/-- A text before a bar is not the text with it. -/
theorem ne_append_bar (a b : String) : a ≠ a ++ "|" ++ b := by
  rw [String.append_assoc]
  exact (append_ne_left (bar_append_ne b)).symm

namespace AuthorizedMemoryStore

/-- A number is written without a bar. -/
theorem bar_notMem_time (n : Nat) : '|' ∉ (toString n).toList := by
  intro h
  have hdigits : (toString n).toList = Nat.toDigits 10 n := Nat.toList_repr
  rw [hdigits] at h
  exact absurd (Nat.isDigit_of_mem_toDigits (by decide) (by decide) h) (by decide)

/-- A bar in a field of a line can be taken for the one after the field before, or behind: another
store of the same device has the same line. -/
theorem exists_other_fields {store : AuthorizedMemoryStore} (h : ¬ store.Separated)
    (hdevice : '|' ∉ store.ownerDeviceId.text.toList) :
    ∃ store', store' ≠ store ∧ store'.line = store.line ∧
      store'.ownerDeviceId = store.ownerDeviceId := by
  have hbar : String.singleton '|' = "|" := rfl
  have hfield : '|' ∈ store.storeId.toList ∨ '|' ∈ store.profileId.text.toList ∨
      '|' ∈ store.namespace.toList ∨ '|' ∈ store.relativePath.toList ∨
      '|' ∈ (joinTexts "," (store.grantIds.map (·.text))).toList := by
    by_contra hno
    simp only [not_or] at hno
    obtain ⟨h1, h2, h3, h4, h5⟩ := hno
    refine h fun field hmem => ?_
    simp only [fields, List.mem_cons, List.not_mem_nil, or_false] at hmem
    rcases hmem with rfl | rfl | rfl | rfl | rfl | rfl | rfl
    · exact h1
    · exact h2
    · exact hdevice
    · exact h3
    · exact h4
    · exact h5
    · exact bar_notMem_time _
  obtain ⟨storeId, ⟨profile⟩, ⟨device⟩, ns, path, grants, time⟩ := store
  simp only at hfield
  rcases hfield with hmem | hmem | hmem | hmem | hmem
  · obtain ⟨before, after, rfl⟩ := exists_split hmem
    refine ⟨⟨before, ⟨after ++ "|" ++ profile⟩, ⟨device⟩, ns, path, grants, time⟩, fun he => ?_, ?_,
      rfl⟩
    · exact ne_append_bar before after (congrArg storeId he)
    · simp [line, toString, hbar, String.append_assoc]
  · obtain ⟨before, after, rfl⟩ := exists_split hmem
    refine ⟨⟨storeId ++ "|" ++ before, ⟨after⟩, ⟨device⟩, ns, path, grants, time⟩, fun he => ?_, ?_,
      rfl⟩
    · exact ne_append_bar storeId before (congrArg AuthorizedMemoryStore.storeId he).symm
    · simp [line, toString, hbar, String.append_assoc]
  · obtain ⟨before, after, rfl⟩ := exists_split hmem
    refine ⟨⟨storeId, ⟨profile⟩, ⟨device⟩, before, after ++ "|" ++ path, grants, time⟩,
      fun he => ?_, ?_, rfl⟩
    · exact ne_append_bar before after (congrArg AuthorizedMemoryStore.namespace he)
    · simp [line, toString, hbar, String.append_assoc]
  · obtain ⟨before, after, rfl⟩ := exists_split hmem
    refine ⟨⟨storeId, ⟨profile⟩, ⟨device⟩, ns ++ "|" ++ before, after, grants, time⟩, fun he => ?_,
      ?_, rfl⟩
    · exact ne_append_bar ns before (congrArg AuthorizedMemoryStore.namespace he).symm
    · simp [line, toString, hbar, String.append_assoc]
  · obtain ⟨before, after, hsplit⟩ := exists_split hmem
    refine ⟨⟨storeId, ⟨profile⟩, ⟨device⟩, ns, path ++ "|" ++ before, [⟨after⟩], time⟩,
      fun he => ?_, ?_, rfl⟩
    · exact ne_append_bar path before (congrArg AuthorizedMemoryStore.relativePath he).symm
    · have hone : joinTexts "," [after] = after := by simp [joinTexts]
      simp [line, toString, hbar, hsplit, hone, String.append_assoc]

/-- Grants that are not read back from their join leave the line another store. -/
theorem exists_other_grants {store : AuthorizedMemoryStore}
    (h : ¬ ∃ grant, store.grantIds.map (·.text) = [grant] ∧ grant ≠ "" ∧ ',' ∉ grant.toList) :
    ∃ store', store' ≠ store ∧ store'.line = store.line ∧
      store'.ownerDeviceId = store.ownerDeviceId := by
  rw [← joinTexts_unique_iff] at h
  simp only [not_forall] at h
  obtain ⟨texts, hjoin, hne⟩ := h
  have htexts : (texts.map MemoryGrantId.mk).map (·.text) = texts := by
    rw [List.map_map]
    exact List.map_id _
  refine ⟨{ store with grantIds := texts.map MemoryGrantId.mk }, fun he => hne ?_, ?_, rfl⟩
  · rw [← congrArg AuthorizedMemoryStore.grantIds he, htexts]
  · simp only [line, htexts]
    rw [show joinTexts "," texts = _ from hjoin]
    rfl

end AuthorizedMemoryStore

/-- Two stores read as one: the line of the second is part of a path of the first. -/
def AuthorizedMemoryStore.merge (a b : AuthorizedMemoryStore) : AuthorizedMemoryStore :=
  { a with
    relativePath := a.relativePath ++ "|" ++ joinTexts "," (a.grantIds.map (·.text)) ++ "|" ++
      toString a.authorizationExpiresAt.toNat ++ "\n" ++ b.storeId ++ "|" ++ b.profileId.text ++
      "|" ++ b.ownerDeviceId.text ++ "|" ++ b.namespace ++ "|" ++ b.relativePath
    grantIds := b.grantIds
    authorizationExpiresAt := b.authorizationExpiresAt }

/-- The line of two stores in one is their two lines. -/
theorem AuthorizedMemoryStore.line_merge (a b : AuthorizedMemoryStore) :
    (a.merge b).line = a.line ++ "\n" ++ b.line := by
  simp [line, merge, toString, String.append_assoc]

/-- The first two texts may be joined before the others. -/
theorem joinTexts_cons_cons (separator text next : String) (texts : List String) :
    joinTexts separator (text :: next :: texts) =
      joinTexts separator ((text ++ separator ++ next) :: texts) := by
  rw [← String.toList_inj, toList_joinTexts, toList_joinTexts]
  cases texts with
  | nil => simp [List.intercalate_cons_cons]
  | cons last texts => simp [List.intercalate_cons_cons]

namespace AuthorizationSnapshot

/-- Stores that are not read back from their lines are the lines of others. -/
theorem exists_other_stores {stores : List AuthorizedMemoryStore}
    (hdevices : ∀ store ∈ stores,
      store.ownerDeviceId.text.toList.all fun c => c.isAlphanum || c = '-')
    (h : ¬ (stores = [] ∨ ∃ store, stores = [store] ∧ store.Separated ∧
      ∃ grant, store.grantIds.map (·.text) = [grant] ∧ grant ≠ "" ∧ ',' ∉ grant.toList)) :
    ∃ stores', stores' ≠ stores ∧
      joinTexts "\n" (stores'.map (·.line)) = joinTexts "\n" (stores.map (·.line)) ∧
      ∀ store' ∈ stores', ∃ store ∈ stores, store'.ownerDeviceId = store.ownerDeviceId := by
  match stores with
  | [] => exact absurd (.inl rfl) h
  | [store] =>
    have hother : ∃ store', store' ≠ store ∧ store'.line = store.line ∧
        store'.ownerDeviceId = store.ownerDeviceId := by
      by_cases hsep : store.Separated
      · exact AuthorizedMemoryStore.exists_other_grants fun hgrant =>
          h (.inr ⟨store, rfl, hsep, hgrant⟩)
      · refine AuthorizedMemoryStore.exists_other_fields hsep fun hmem => ?_
        have hbar := List.all_eq_true.1 (hdevices store (by simp)) '|' hmem
        cases hbar
    obtain ⟨store', hne, hline, hdevice⟩ := hother
    refine ⟨[store'], fun he => hne (List.singleton_inj.1 he), by simp [hline], ?_⟩
    rintro _ hmem
    rw [List.mem_singleton.1 hmem]
    exact ⟨store, by simp, hdevice⟩
  | first :: second :: rest =>
    refine ⟨first.merge second :: rest, fun he => ?_, ?_, ?_⟩
    · have := congrArg List.length he
      simp at this
    · rw [List.map_cons, AuthorizedMemoryStore.line_merge, ← joinTexts_cons_cons]
      rfl
    · intro store' hmem
      rcases List.mem_cons.1 hmem with rfl | hmem
      · exact ⟨first, by simp, rfl⟩
      · exact ⟨store', by simp [hmem], rfl⟩

/-- An ambiguous snapshot has the texts of another. -/
theorem exists_other {a : AuthorizationSnapshot} (ha : a.InMemory) (h : ¬ a.Unambiguous) :
    ∃ b : AuthorizationSnapshot, b.InMemory ∧ b.material = a.material ∧ ¬ SameMaterial b a := by
  by_cases hnamespaces : ∃ text, a.namespaces = [text] ∧ text ≠ "" ∧ ',' ∉ text.toList
  · obtain ⟨stores, hne, hlines, hdevices⟩ := exists_other_stores ha.devices fun hstores =>
      h ⟨hnamespaces, hstores⟩
    have hmaterial : { a with authorizedStores := stores }.material = a.material := by
      simp only [material, hlines]
    refine ⟨{ a with authorizedStores := stores }, ⟨fun store hmem => ?_, ?_⟩, hmaterial,
      fun he => hne (congrArg AuthorizationSnapshot.authorizedStores he)⟩
    · obtain ⟨old, hold, hdevice⟩ := hdevices store hmem
      rw [hdevice]
      exact ha.devices old hold
    · rw [preimage, hmaterial]
      exact ha.size
  · rw [← joinTexts_unique_iff] at hnamespaces
    simp only [not_forall] at hnamespaces
    obtain ⟨texts, hjoin, hne⟩ := hnamespaces
    have hmaterial : { a with namespaces := texts }.material = a.material := by
      simp only [material]
      rw [show joinTexts "," texts = _ from hjoin]
      rfl
    refine ⟨{ a with namespaces := texts }, ⟨ha.devices, ?_⟩, hmaterial,
      fun he => hne (congrArg AuthorizationSnapshot.namespaces he)⟩
    rw [preimage, hmaterial]
    exact ha.size

/-! ## What validation returns -/

/-- A snapshot carries the digest of its own texts. -/
theorem new_digest {binding : ActorProfileBinding} {effect : MemoryAccessEffect}
    {namespaces : List String} {stores : List AuthorizedMemoryStore} {at' : UInt64} :
    (new P binding effect namespaces stores at').snapshotDigest =
      (new P binding effect namespaces stores at').expectedDigest P := rfl

/-- A snapshot that is built carries the digest of its material. -/
theorem snapshot_digest {db : PooledDb} {actor : ActorId} {effect : MemoryAccessEffect}
    {namespaces : Option (List String)} {at' : UInt64} {snapshot : AuthorizationSnapshot}
    (h : db.snapshot P actor effect namespaces at' = .ok snapshot) :
    snapshot.snapshotDigest = snapshot.expectedDigest P := by
  obtain ⟨i, -, h⟩ := bind_eq_ok.1 h
  obtain ⟨binding, -, h⟩ := bind_eq_ok.1 h
  cases h
  exact new_digest

/-- The namespaces that the validation of a snapshot asks for. -/
def requested (snapshot : AuthorizationSnapshot) : Option (List String) :=
  if snapshot.namespaces.isEmpty then none else some snapshot.namespaces

/-- What the validation of a snapshot establishes. -/
theorem validateSnapshot_eq_ok {db : PooledDb} {snapshot : AuthorizationSnapshot} {at' : UInt64} :
    db.validateSnapshot P snapshot at' = .ok () ↔
      snapshot.validate P = .ok () ∧ snapshot.evaluatedAt = at' ∧
        ∃ current, db.snapshot P snapshot.actorId snapshot.effect snapshot.requested at' =
          .ok current ∧ current.snapshotDigest = snapshot.snapshotDigest := by
  simp only [PooledDb.validateSnapshot, bind_eq_ok, guard_eq_ok, throw_guard_eq_ok, not_not]
  constructor
  · rintro ⟨⟨⟩, hvalid, hevaluated, current, hcurrent, hdigest⟩
    exact ⟨hvalid, hevaluated, current, hcurrent, hdigest⟩
  · rintro ⟨hvalid, hevaluated, current, hcurrent, hdigest⟩
    exact ⟨(), hvalid, hevaluated, current, hcurrent, hdigest⟩

/-- `list_authorized_stores`, alone. -/
theorem listAuthorizedStores_alone {s : MnemesStore M} {x : Choice} (hx : x.fault = none)
    {snapshot : AuthorizationSnapshot} {at' : UInt64} :
    (listAuthorizedStores P snapshot at').run.alone x s =
      (some ((s.db.validateSnapshot P snapshot at').map fun _ => snapshot.authorizedStores),
        s) := by
  unfold listAuthorizedStores
  rw [validateAuthorizationSnapshot_alone hx]
  cases s.db.validateSnapshot P snapshot at' <;> rfl

/-- A validated snapshot carries the digest of its texts. -/
theorem validate_digest {snapshot : AuthorizationSnapshot} (h : snapshot.validate P = .ok ()) :
    snapshot.snapshotDigest = snapshot.expectedDigest P := by
  unfold validate at h
  split at h
  · cases h
  · split at h
    · cases h
    · next hdigest => simpa using hdigest

/-- A list that is returned belongs to a snapshot with the digest of the current one. -/
theorem of_listAuthorizedStores {s s' : MnemesStore M} {x : Choice} (hx : x.fault = none)
    {snapshot : AuthorizationSnapshot} {at' : UInt64} {stores : List AuthorizedMemoryStore}
    (h : (listAuthorizedStores P snapshot at').run.alone x s = (some (.ok stores), s')) :
    stores = snapshot.authorizedStores ∧ snapshot.snapshotDigest = snapshot.expectedDigest P ∧
      ∃ current, s.db.snapshot P snapshot.actorId snapshot.effect snapshot.requested at' =
          .ok current ∧ current.snapshotDigest = snapshot.snapshotDigest := by
  rw [listAuthorizedStores_alone hx] at h
  cases hcheck : s.db.validateSnapshot P snapshot at' with
  | error e => simp [hcheck, Except.map] at h
  | ok u =>
    obtain ⟨hvalid, -, current, hcurrent, hdigest⟩ := validateSnapshot_eq_ok.1 hcheck
    simp only [hcheck, Except.map, Prod.mk.injEq, Option.some.injEq, Except.ok.injEq] at h
    exact ⟨h.1.symm, validate_digest hvalid, current, hcurrent, hdigest⟩

end AuthorizationSnapshot

/-! ## What the digest binds -/

/-- The digest of a snapshot binds its material, and a list that is returned for the snapshot is the
current one, exactly where the snapshot is unambiguous. -/
theorem snapshot_digest_binds_iff {a : AuthorizationSnapshot} (ha : a.InMemory) :
    ((∀ b : AuthorizationSnapshot, b.InMemory → a.NoCollision P b →
        a.expectedDigest P = b.expectedDigest P → b.SameMaterial a) ∧
      ∀ (s s' : MnemesStore M) (x : Choice) at' stores, x.fault = none →
        (∀ current s'', (buildAuthorizationSnapshot P a.actorId a.effect a.requested at').run.alone
          x s = (some (.ok current), s'') → a.NoCollision P current) →
        (listAuthorizedStores P a at').run.alone x s = (some (.ok stores), s') →
        ∃ current s'', (buildAuthorizationSnapshot P a.actorId a.effect a.requested at').run.alone
          x s = (some (.ok current), s'') ∧ stores = current.authorizedStores) ↔
      a.Unambiguous := by
  constructor
  · rintro ⟨h, -⟩
    by_contra hambiguous
    obtain ⟨b, hb, hmaterial, hne⟩ := AuthorizationSnapshot.exists_other ha hambiguous
    refine hne (h b hb (fun _ => ?_) ?_)
    · simp only [AuthorizationSnapshot.preimage, hmaterial]
    · simp only [AuthorizationSnapshot.expectedDigest, hmaterial]
  · intro hua
    refine ⟨fun b _ hcol hdigest => AuthorizationSnapshot.sameMaterial_of_material hua
      (AuthorizationSnapshot.material_eq_of_digest ha.size hcol hdigest).symm,
      fun s s' x at' stores hx hcol hlist => ?_⟩
    obtain ⟨rfl, hself, current, hcurrent, hdigest⟩ :=
      AuthorizationSnapshot.of_listAuthorizedStores hx hlist
    have hbuild : (buildAuthorizationSnapshot P a.actorId a.effect a.requested at').run.alone x s =
        (some (.ok current), s) := by
      rw [← bind_pure (buildAuthorizationSnapshot P a.actorId a.effect a.requested at'),
        buildAuthorizationSnapshot_alone hx, hcurrent]
      rfl
    have hequal : a.expectedDigest P = current.expectedDigest P := by
      rw [← hself, ← hdigest, AuthorizationSnapshot.snapshot_digest hcurrent]
    have hsame := AuthorizationSnapshot.sameMaterial_of_material hua
      (AuthorizationSnapshot.material_eq_of_digest ha.size (hcol current s hbuild) hequal).symm
    have hstores := congrArg AuthorizationSnapshot.authorizedStores hsame
    exact ⟨current, s, hbuild, hstores.symm⟩

namespace Sample

/-- The entry of a store in a snapshot. -/
def storeEntry (storeId profileId «namespace» relativePath : String) (grants : List MemoryGrantId)
    (expiresAt : UInt64) : AuthorizedMemoryStore where
  storeId := storeId
  profileId := ⟨profileId⟩
  ownerDeviceId := laptop
  «namespace» := «namespace»
  relativePath := relativePath
  grantIds := grants
  authorizationExpiresAt := expiresAt

/-- A snapshot for the operator's profile at time 50. -/
def snapshotOf (namespaces : List String) (stores : List AuthorizedMemoryStore) (digest : String) :
    AuthorizationSnapshot where
  actorId := alice
  actorDeviceId := laptop
  subjectProfileId := ⟨"alice"⟩
  bindingId := binding.bindingId
  bindingDigest := binding.bindingDigest
  effect := .search
  namespaces := namespaces
  authorizedStores := stores
  evaluatedAt := 50
  policyVersion := "mnemes.profile-authz.v1"
  snapshotDigest := digest

/-- The snapshot that asks for the shared namespace. -/
def requestedSnapshot : AuthorizationSnapshot :=
  snapshotOf ["shared"]
    [storeEntry "notes" "team" "shared" "memory/profiles/team/notes" [grant.grantId] 80]
    "7e3266881e627dca9ea487d3b0148ca4ba9916be71f70719ca1dd46719bc93d0"

/-- The snapshot with a store of the profile itself, in the namespace `private|work`. -/
def diarySnapshot : AuthorizationSnapshot :=
  snapshotOf [] [storeEntry "diary" "alice" "private|work" "memory/profiles/alice/diary" [] 90]
    "2e9613e2eea1be35ca2d61bb7361f0d3452a93f2fc95c2baf9ae8ee8751d254c"

/-- The same with the bar of the namespace taken for the end of the field. -/
def forgedSnapshot : AuthorizationSnapshot :=
  { diarySnapshot with
    authorizedStores :=
      [storeEntry "diary" "alice" "private" "work|memory/profiles/alice/diary" [] 90] }

/-- SHA-256, on these snapshots and the binding. -/
def snapshotDigests : Platform :=
  { digests with
    sha256 := fun bytes =>
      if bytes = requestedSnapshot.preimage then
        #v[126, 50, 102, 136, 30, 98, 125, 202, 158, 164, 135, 211, 176, 20, 140, 164, 186, 153, 22,
          190, 113, 247, 7, 25, 202, 29, 212, 103, 25, 188, 147, 208]
      else if bytes = diarySnapshot.preimage then
        #v[46, 150, 19, 226, 238, 161, 190, 53, 202, 45, 97, 187, 115, 97, 240, 211, 69, 42, 147,
          242, 252, 149, 194, 186, 249, 174, 142, 232, 117, 29, 37, 76]
      else digests.sha256 bytes }

/-- The operator with a store of its own. -/
def diaryStore : MnemesStore (journalMemory "notes") where
  db := controlRun snapshotDigests registry
    [(.registerMemoryProfile (profile "alice"), step),
      (.registerMemoryStore { storeOf "alice" "diary" with «namespace» := "private|work" }, step),
      (.bindActorProfile binding, step)]
  gate _ := none
  shards _ := []

/-- The current snapshot lists the diary. -/
theorem diary_built : diaryStore.db.snapshot snapshotDigests alice .search none 50 =
    .ok diarySnapshot := by decide +kernel

/-- The forged snapshot passes the validation. -/
theorem forged_valid : diaryStore.db.validateSnapshot snapshotDigests forgedSnapshot 50 =
    .ok () :=
  AuthorizationSnapshot.validateSnapshot_eq_ok.2
    ⟨by decide +kernel, rfl, diarySnapshot, diary_built, rfl⟩

end Sample

open Sample in
/-- No other material has the digest of the snapshot. -/
theorem snapshot_digest_binds_sample : requestedSnapshot.InMemory ∧
    ∀ b : AuthorizationSnapshot, b.InMemory →
      requestedSnapshot.NoCollision snapshotDigests b →
      requestedSnapshot.expectedDigest snapshotDigests = b.expectedDigest snapshotDigests →
      b.SameMaterial requestedSnapshot := by
  have hmemory : requestedSnapshot.InMemory := by
    refine ⟨fun store hstore => ?_, by decide +kernel⟩
    rw [List.mem_singleton.1 hstore]
    decide +kernel
  refine ⟨hmemory,
    ((snapshot_digest_binds_iff (M := journalMemory "notes") hmemory).2 ⟨?_, .inr ?_⟩).1⟩
  · exact ⟨"shared", rfl, by decide, by decide⟩
  · refine ⟨_, rfl, AuthorizedMemoryStore.separated_iff.2 (by decide +kernel), _, rfl, ?_, ?_⟩
    · decide
    · decide

open Sample in
/-- A snapshot for one store lists, with the digest of the current snapshot, the same store under a
namespace and a path that it does not have. -/
theorem forged_snapshot_listed :
    (buildAuthorizationSnapshot snapshotDigests alice .search none 50).run.alone step diaryStore =
      (some (.ok diarySnapshot), diaryStore) ∧
    forgedSnapshot.InMemory ∧ diarySnapshot.NoCollision snapshotDigests forgedSnapshot ∧
    forgedSnapshot.expectedDigest snapshotDigests = diarySnapshot.expectedDigest snapshotDigests ∧
    ¬ forgedSnapshot.SameMaterial diarySnapshot ∧
    (listAuthorizedStores snapshotDigests forgedSnapshot 50).run.alone step diaryStore =
      (some (.ok forgedSnapshot.authorizedStores), diaryStore) ∧
    forgedSnapshot.authorizedStores ≠ diarySnapshot.authorizedStores := by
  have hsize : forgedSnapshot.preimage.length < 2 ^ 64 := by decide +kernel
  have hsame : forgedSnapshot.preimage = diarySnapshot.preimage := by decide +kernel
  have hdigest : forgedSnapshot.expectedDigest snapshotDigests =
      diarySnapshot.expectedDigest snapshotDigests := by
    simp only [AuthorizationSnapshot.expectedDigest, digestFields]
    exact congrArg (fun bytes => hex (snapshotDigests.sha256 bytes).toList) hsame
  have hne : forgedSnapshot.authorizedStores ≠ diarySnapshot.authorizedStores := by decide
  refine ⟨?_, ⟨fun store hstore => ?_, hsize⟩, fun _ => hsame.symm, hdigest,
    fun h => hne (congrArg AuthorizationSnapshot.authorizedStores h :), ?_, hne⟩
  · rw [← bind_pure (buildAuthorizationSnapshot _ _ _ _ _), buildAuthorizationSnapshot_alone rfl,
      diary_built]
    rfl
  · rw [List.mem_singleton.1 hstore]
    decide +kernel
  · rw [AuthorizationSnapshot.listAuthorizedStores_alone rfl, forged_valid]
    rfl

end Mnemes
