import Mathlib.Data.List.Infix
import Mnemes.Profile.Runs

/-!
# Where stores live on disk

The directory of a profile store is its canonical path below the base directory, where a component
`.` names no directory of its own. Identities may be `.`, so two stores are kept apart exactly where
their names still differ without it (`store_isolation_iff`).
-/

namespace Mnemes

open Relational

/-- The components of a relative path (`Path::components`) without `..`: the directories that lead
to it. -/
def directory (path : String) : List String := (pathPieces path).filter fun c => c ≠ "" ∧ c ≠ "."

/-- The directory of all profile stores. -/
def profilesDirectory : List String := ["memory", "profiles"]

/-- Two directories are two places strictly below the profile stores, neither inside the other. -/
structure Isolated (a b : List String) : Prop where
  ne : a ≠ b
  outside : ¬ a <+: b
  outside' : ¬ b <+: a
  below : profilesDirectory <+: a ∧ a ≠ profilesDirectory
  below' : profilesDirectory <+: b ∧ b ≠ profilesDirectory

/-- The components that a profile and a store identity add. -/
def nameComponents (profileId : MemoryProfileId) (storeId : String) : List String :=
  [profileId.text, storeId].filter (· ≠ ".")

/-- The names stay apart: each adds a component, and either no identity is `.` or the first
components they add differ. -/
def NamesApart (profileId : MemoryProfileId) (storeId : String) (profileId' : MemoryProfileId)
    (storeId' : String) : Prop :=
  ¬ (profileId.text = "." ∧ storeId = ".") ∧ ¬ (profileId'.text = "." ∧ storeId' = ".") ∧
    ((profileId.text ≠ "." ∧ storeId ≠ "." ∧ profileId'.text ≠ "." ∧ storeId' ≠ ".") ∨
      (if profileId.text = "." then storeId else profileId.text) ≠
        if profileId'.text = "." then storeId' else profileId'.text)

/-! ## The components of a canonical path -/

/-- What a checked identity is: not empty, and without a separator. -/
theorem scopeId_text {value field : String}
    (h : validateText value field maxScopeIdBytes = .ok ()) (hall : value.toList.all isIdChar) :
    value ≠ "" ∧ '/' ∉ value.toList := by
  refine ⟨?_, fun hmem => ?_⟩
  · rintro rfl
    cases h
  · have hslash := List.all_eq_true.1 hall '/' hmem
    cases hslash

/-- The text of a profile is not empty, and is one component of a path. -/
theorem MemoryProfileId.parse_text {value : String} {profile : MemoryProfileId}
    (h : MemoryProfileId.parse value = .ok profile) :
    profile.text ≠ "" ∧ '/' ∉ profile.text.toList := by
  unfold parse at h
  simp only [bind_eq_ok, guard_eq_ok] at h
  obtain ⟨⟨⟩, hvalid, hall, h⟩ := h
  cases h
  exact scopeId_text hvalid (by simpa using hall)

/-- A canonical path has the profile and the store as components of their own. -/
theorem canonicalPath_eq {profile : MemoryProfileId} {storeId path : String}
    (h : canonicalMemoryStoreRelativePath profile storeId = .ok path) :
    path = s!"memory/profiles/{profile.text}/{storeId}" ∧ storeId ≠ "" ∧ '/' ∉ storeId.toList := by
  unfold canonicalMemoryStoreRelativePath at h
  simp only [bind_eq_ok, guard_eq_ok] at h
  obtain ⟨⟨⟩, hvalid, hall, h⟩ := h
  cases h
  exact ⟨rfl, scopeId_text hvalid (by simpa using hall)⟩

/-- The directory of a canonical path is the profile stores' with the components of the names. -/
theorem directory_canonical {profile : MemoryProfileId} {storeId : String}
    (hp : profile.text ≠ "" ∧ '/' ∉ profile.text.toList)
    (hs : storeId ≠ "" ∧ '/' ∉ storeId.toList) :
    directory s!"memory/profiles/{profile.text}/{storeId}" =
      profilesDirectory ++ nameComponents profile storeId := by
  have hpieces : pathPieces s!"memory/profiles/{profile.text}/{storeId}" =
      ["memory", "profiles", profile.text, storeId] := by
    have hjoin : s!"memory/profiles/{profile.text}/{storeId}".toList = ['/'].intercalate
        ["memory".toList, "profiles".toList, profile.text.toList, storeId.toList] := by
      simp [List.intercalate, toString]
    unfold pathPieces
    rw [hjoin, List.splitOn_intercalate '/' _ (by simp)]
    · simp
    · simp only [List.mem_cons, List.not_mem_nil, or_false]
      rintro l (rfl | rfl | rfl | rfl)
      · decide
      · decide
      · exact hp.2
      · exact hs.2
  unfold directory nameComponents
  rw [hpieces]
  simp [profilesDirectory, List.filter_cons, hp.1, hs.1]

/-! ## Isolation -/

/-- Both names add a component and neither leads into the other exactly where they stay apart. -/
theorem nameComponents_apart {profile profile' : MemoryProfileId} {storeId storeId' : String}
    (hne : (profile, storeId) ≠ (profile', storeId')) :
    (nameComponents profile storeId ≠ [] ∧ nameComponents profile' storeId' ≠ [] ∧
      ¬ nameComponents profile storeId <+: nameComponents profile' storeId' ∧
      ¬ nameComponents profile' storeId' <+: nameComponents profile storeId) ↔
    NamesApart profile storeId profile' storeId' := by
  obtain ⟨p⟩ := profile
  obtain ⟨p'⟩ := profile'
  unfold nameComponents NamesApart
  -- which of the four identities are `.` decides what is left of each name
  by_cases h1 : p = "." <;> by_cases h2 : storeId = "." <;> by_cases h3 : p' = "." <;>
    by_cases h4 : storeId' = "." <;>
    simp [h1, h2, h3, h4, List.cons_prefix_cons] <;> grind

/-- The directories of two registered stores are two places strictly below the profile stores,
neither inside the other, exactly where their names stay apart without `.`. -/
theorem store_isolation_iff {P : Platform} {db : PooledDb} (hdb : Reachable P db)
    {store store' : MemoryStoreIdentity} (hs : store ∈ db.memoryStores.rows)
    (hs' : store' ∈ db.memoryStores.rows) {raw raw' : String}
    (hp : MemoryProfileId.parse raw = .ok store.profileId)
    (hp' : MemoryProfileId.parse raw' = .ok store'.profileId)
    (hne : (store.profileId, store.storeId) ≠ (store'.profileId, store'.storeId)) :
    Isolated (directory store.relativePath) (directory store'.relativePath) ↔
      NamesApart store.profileId store.storeId store'.profileId store'.storeId := by
  obtain ⟨-, -, -, -, -, hpath⟩ := MemoryStoreIdentity.check_eq_ok.1 (hdb.storesValid store hs)
  obtain ⟨-, -, -, -, -, hpath'⟩ := MemoryStoreIdentity.check_eq_ok.1 (hdb.storesValid store' hs')
  obtain ⟨hpath, hsid⟩ := canonicalPath_eq hpath
  obtain ⟨hpath', hsid'⟩ := canonicalPath_eq hpath'
  rw [hpath, hpath', directory_canonical (MemoryProfileId.parse_text hp) hsid,
    directory_canonical (MemoryProfileId.parse_text hp') hsid', ← nameComponents_apart hne]
  constructor
  · rintro ⟨-, houtside, houtside', ⟨-, hbelow⟩, -, hbelow'⟩
    refine ⟨fun h => hbelow (by simp [h]), fun h => hbelow' (by simp [h]), fun h => ?_, fun h => ?_⟩
    · exact houtside ((List.prefix_append_right_inj _).2 h)
    · exact houtside' ((List.prefix_append_right_inj _).2 h)
  · rintro ⟨hsome, hsome', houtside, houtside'⟩
    refine ⟨fun h => houtside ?_, fun h => houtside ((List.prefix_append_right_inj _).1 h),
      fun h => houtside' ((List.prefix_append_right_inj _).1 h),
      ⟨List.prefix_append _ _, fun h => hsome (by simpa using h)⟩,
      List.prefix_append _ _, fun h => hsome' (by simpa using h)⟩
    rw [List.append_cancel_left h]

/-- Two stores of one profile. -/
def Sample.drafts : PooledDb :=
  controlRun digests registry
    (registrations ++ [(.registerMemoryStore (storeOf "team" "drafts"), step)])

open Sample in
/-- The paths of two stores of one profile are apart. -/
theorem store_isolation_sample : Isolated ["memory", "profiles", "team", "notes"]
    ["memory", "profiles", "team", "drafts"] := by
  have hnotes : drafts.memoryStores.find? "notes" =
      some { storeOf "team" "notes" with createdAt := "now" } := by decide +kernel
  have hdrafts : drafts.memoryStores.find? "drafts" =
      some { storeOf "team" "drafts" with createdAt := "now" } := by decide +kernel
  have hparse : MemoryProfileId.parse "team" = .ok ⟨"team"⟩ := by decide +kernel
  have hdir : directory (storeOf "team" "notes").relativePath =
      ["memory", "profiles", "team", "notes"] := by decide +kernel
  have hdir' : directory (storeOf "team" "drafts").relativePath =
      ["memory", "profiles", "team", "drafts"] := by decide +kernel
  have h := (store_isolation_iff (P := digests) ⟨registry, _, registry_fresh, rfl⟩
    (Table.find?_eq_some.1 hnotes).1 (Table.find?_eq_some.1 hdrafts).1 hparse hparse (by decide)).2
    ⟨by decide, by decide, .inl (by decide)⟩
  rw [← hdir, ← hdir']
  exact h

/-- A store named `.` and a profile named `.`. -/
def Sample.dotted : PooledDb :=
  controlRun digests registry
    [(.registerMemoryProfile (profile "s"), step), (.registerMemoryProfile (profile "."), step),
      (.registerMemoryStore (storeOf "s" "."), step),
      (.registerMemoryStore (storeOf "." "s"), step)]

open Sample in
/-- The store `.` of a profile `s` and the store `s` of a profile `.` are both registered, and live
in one directory. -/
theorem dotted_stores_share : Reachable digests dotted ∧
    ∃ store ∈ dotted.memoryStores.rows, ∃ store' ∈ dotted.memoryStores.rows,
      MemoryProfileId.parse "s" = .ok store.profileId ∧
      MemoryProfileId.parse "." = .ok store'.profileId ∧
      (store.profileId, store.storeId) ≠ (store'.profileId, store'.storeId) ∧
      directory store.relativePath = directory store'.relativePath ∧
      ¬ Isolated (directory store.relativePath) (directory store'.relativePath) := by
  have hs : dotted.memoryStores.find? "." =
      some { storeOf "s" "." with createdAt := "now" } := by decide +kernel
  have hs' : dotted.memoryStores.find? "s" =
      some { storeOf "." "s" with createdAt := "now" } := by decide +kernel
  have hparse : MemoryProfileId.parse "s" = .ok ⟨"s"⟩ := by decide +kernel
  have hparse' : MemoryProfileId.parse "." = .ok ⟨"."⟩ := by decide +kernel
  have hdir : directory (storeOf "s" ".").relativePath =
      directory (storeOf "." "s").relativePath := by decide +kernel
  exact ⟨⟨registry, _, registry_fresh, rfl⟩, _, (Table.find?_eq_some.1 hs).1, _,
    (Table.find?_eq_some.1 hs').1, hparse, hparse', by decide, hdir, fun h => h.ne hdir⟩

end Mnemes
