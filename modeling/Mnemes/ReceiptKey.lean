import Mnemes.Lib.Files
import Mnemes.Lib.RelyGuarantee
import Mnemes.Types

/-!
# The key of routing receipts

`load_or_create_receipt_auth_key` (`store.rs`) on a directory that any number of processes share.
Each call of the file system is one action, which the environment may fail; a process may die before
any of them. The processes agree on one key (`receipt_key_agreement`): a key file is published by a
link once it is written, and whoever returns a key has read the published one.

What is drawn from the system (the UUID in a temporary name, and a key) is a function of the
process.
-/

namespace Mnemes

open Concurrency Files

/-- What the environment chooses for a call of the file system: a failure, and how many bytes are
transferred. -/
structure IoChoice where
  fault : Option String
  count : Nat
  deriving DecidableEq

/-- Calls of the file system, in sequence. -/
abbrev IoOp (α : Type) := ExceptT MnemesError (Proc Directory IoChoice Unit) α

variable {α : Type}

/-- One call of the file system. -/
def syscall (f : Directory → IoChoice → Except MnemesError (α × Directory)) : IoOp α :=
  ExceptT.mk (Proc.atomic fun d x =>
    match x.fault with
    | some error => (.error (.io error), d, [])
    | none =>
      match f d x with
      | .error e => (.error e, d, [])
      | .ok (a, d) => (.ok a, d, []))

/-- `RECEIPT_AUTH_KEY_FILE`. -/
def receiptAuthKeyFile : String := ".routing-receipt-hmac.key"

/-- The name of the temporary file. -/
def temporaryName (uuid : String) : String := receiptAuthKeyFile ++ ".tmp-" ++ uuid

/-- The path of the key file, as error texts show it. -/
def receiptAuthKeyPath (baseDir : String) : String := baseDir ++ "/" ++ receiptAuthKeyFile

/-- The loop of `read_exact`: each call returns a byte at least, so there are at most as many calls
as bytes. -/
def readExact (file length : Nat) : Nat → Bytes → IoOp Bytes
  | 0, read => return read
  | calls + 1, read =>
    if length ≤ read.length then return read
    else do
      let bytes ← syscall fun d x =>
        .ok (d.readAt file read.length (min (max 1 x.count) (length - read.length)), d)
      if bytes.isEmpty then
        throw (.io "failed to fill whole buffer")
      readExact file length calls (read ++ bytes)

/-- `read_receipt_auth_key`. -/
def readReceiptAuthKey (baseDir : String) : IoOp Bytes32 := do
  let metadata ← syscall fun d _ =>
    (okOr (d.file? receiptAuthKeyFile) (.io "No such file or directory")).map (·, d)
  if !metadata.regular then
    throw (.invalidShardCatalog
      ("routing receipt authentication key is not a regular file: " ++ receiptAuthKeyPath baseDir))
  if metadata.mode &&& 0o077 ≠ 0 then
    throw (.invalidShardCatalog
      ("routing receipt authentication key permissions are too broad: " ++
        receiptAuthKeyPath baseDir))
  let file ← syscall fun d _ =>
    (okOr (d.entries receiptAuthKeyFile) (.io "No such file or directory")).map (·, d)
  let key ← readExact file 32 32 []
  let extra ← syscall fun d _ => .ok (d.readAt file 32 1, d)
  if !extra.isEmpty then
    throw (.invalidShardCatalog
      ("routing receipt authentication key has invalid length: " ++ receiptAuthKeyPath baseDir))
  return Vector.ofFn fun i => key.getD i 0

/-- The loop of `write_all`, with the bytes that are left. -/
def writeAll (file offset : Nat) : Nat → Bytes → IoOp Unit
  | 0, _ => return ()
  | calls + 1, bytes =>
    if bytes.isEmpty then return ()
    else do
      let count ← syscall fun d x =>
        .ok (min x.count bytes.length, d.writeAt file offset (bytes.take x.count))
      if count = 0 then
        throw (.io "failed to write whole buffer")
      writeAll file (offset + count) calls (bytes.drop count)

/-- `sync_all`, of a file or a directory. -/
def syncAll : IoOp Unit := syscall fun d _ => .ok ((), d)

/-- `remove_file`. -/
def removeFile (name : String) : IoOp Unit :=
  syscall fun d _ => (okOr (d.remove name) (.io "No such file or directory")).map ((), ·)

/-- The closure of `load_or_create_receipt_auth_key`: write the key to a temporary file, and publish
it unless there is one already. -/
def createReceiptAuthKey (umask : UInt32) (temporary : String) (key : Bytes32) : IoOp Unit := do
  let file ← syscall fun d _ =>
    okOr (d.createNew temporary (0o600 &&& ~~~umask)) (.io "File exists")
  writeAll file 0 32 key.toList
  syncAll
  syscall fun d _ =>
    match d.link temporary receiptAuthKeyFile with
    | .ok d => .ok ((), d)
    | .error .alreadyExists => .ok ((), d)
    | .error .notFound => .error (.io "No such file or directory")
  removeFile temporary
  -- the directory is opened, and synced
  syncAll
  syncAll

/-- `load_or_create_receipt_auth_key`. `Path::exists` is false of a path it cannot look at. -/
def loadOrCreateReceiptAuthKey (baseDir : String) (umask : UInt32) (temporary : String)
    (key : Bytes32) : IoOp Bytes32 := do
  let found ← ExceptT.mk (Proc.atomic fun d x =>
    (.ok (x.fault.isNone && (d.entries receiptAuthKeyFile).isSome), d, []))
  if found then readReceiptAuthKey baseDir
  else
    match ← ExceptT.lift (createReceiptAuthKey umask temporary key).run with
    | .error e => do
      let _ ← ExceptT.lift (removeFile temporary).run
      throw e
    | .ok () => readReceiptAuthKey baseDir

/-- The processes, each with its file mode creation mask. A process that dies leaves the directory
as it is. -/
def receiptKeyService (baseDir : String) (uuid : Tid → String) (key : Tid → Bytes32) :
    Service UInt32 Directory IoChoice Unit (Except MnemesError Bytes32) where
  body i umask :=
    (loadOrCreateReceiptAuthKey baseDir umask (temporaryName (uuid i)) (key i)).run
  release _ d := d

/-! ## Names -/

/-- A temporary file does not have the name of the key file. -/
theorem temporaryName_ne (uuid : String) : receiptAuthKeyFile ≠ temporaryName uuid := by
  intro h
  have hlen := congrArg String.length h
  have htmp : ".tmp-".length = 5 := rfl
  simp only [temporaryName, String.length_append] at hlen
  omega

/-- Temporary files of different identities have different names. -/
theorem temporaryName_inj {a b : String} (h : temporaryName a = temporaryName b) : a = b := by
  simpa [temporaryName] using h

/-! ## What the processes keep -/

section
variable {baseDir : String} {uuid : Tid → String} (huuid : Function.Injective uuid)
  {key : Tid → Bytes32}

/-- The key path names no file, or one that holds the key of a process. -/
def Published (key : Tid → Bytes32) (d : Directory) : Prop :=
  ∀ n, d.entries receiptAuthKeyFile = some n →
    ∃ i, (d.files[n]?).map (·.content) = some (key i).toList

/-- A harmless step that leaves the key path as it is. -/
theorem Published.harmless {own : String} (hne : receiptAuthKeyFile ≠ own) {d d' : Directory}
    (hp : Published key d) (h : Harmless receiptAuthKeyFile own d d')
    (hentries : d'.entries receiptAuthKeyFile = d.entries receiptAuthKeyFile) :
    Published key d' := by
  intro n hn
  rw [hentries] at hn
  rw [(h.files hne hn).1]
  exact hp n hn

/-- A process works under its temporary name. -/
def receiptKeyRules (baseDir : String) (huuid : Function.Injective uuid) (key : Tid → Bytes32) :
    RelyGuarantee (receiptKeyService baseDir uuid key) where
  inv h := Published key h.state
  rely i h h' := Undisturbed receiptAuthKeyFile (temporaryName (uuid i)) h.state h'.state
  guar i _ h h' := Harmless receiptAuthKeyFile (temporaryName (uuid i)) h.state h'.state ∧
    Published key h'.state
  rely_refl _ _ := .refl
  rely_trans := .trans
  guar_rely := fun hne _ hg => hg.1.undisturbed
    (fun h => hne (huuid (temporaryName_inj h)).symm) (temporaryName_ne _) (temporaryName_ne _).symm
  guar_inv := fun _ hg => hg.2
  release_guar := fun hinv => ⟨.refl, hinv⟩

section
variable {i : Tid} {umask : UInt32} {β : Type}
  {Q : Except MnemesError β → Hist Directory Unit → Prop} (hQ : ∀ e h, Q (.error e) h)
include hQ

/-- A call of the file system that succeeds does no harm and leads to a safe rest; one that fails
ends the process. -/
theorem syscall_safe {f : Directory → IoChoice → Except MnemesError (α × Directory)}
    {k : α → IoOp β} {h : Hist Directory Unit}
    (hf : ∀ h' : Hist Directory Unit, ∀ x a d,
      Undisturbed receiptAuthKeyFile (temporaryName (uuid i)) h.state h'.state →
      Published key h'.state → f h'.state x = .ok (a, d) →
      (Harmless receiptAuthKeyFile (temporaryName (uuid i)) h'.state d ∧ Published key d) ∧
        (k a).run.Safe ((receiptKeyRules baseDir huuid key).terms i umask) Q ⟨d, h'.trace⟩) :
    (syscall f >>= k).run.Safe ((receiptKeyRules baseDir huuid key).terms i umask) Q h := by
  refine Proc.Safe.attempt_atomic fun h' x hr hi => ?_
  cases x.fault with
  | some error => exact ⟨⟨.refl, hi⟩, fun h'' _ _ => hQ _ _⟩
  | none =>
    dsimp only
    cases hfx : f h'.state x with
    | error e => exact ⟨⟨.refl, hi⟩, fun h'' _ _ => hQ _ _⟩
    | ok r =>
      obtain ⟨hg, hsafe⟩ := hf h' x r.1 r.2 hr hi hfx
      refine ⟨hg, ?_⟩
      simpa only [Hist.after, List.map_nil, List.append_nil] using hsafe

/-- A call that only looks at the directory. -/
theorem look_safe {f : Directory → IoChoice → Except MnemesError α} {k : α → IoOp β}
    {h : Hist Directory Unit}
    (hf : ∀ h' : Hist Directory Unit, ∀ x a,
      Undisturbed receiptAuthKeyFile (temporaryName (uuid i)) h.state h'.state →
      Published key h'.state → f h'.state x = .ok a →
      (k a).run.Safe ((receiptKeyRules baseDir huuid key).terms i umask) Q h') :
    (syscall (fun d x => (f d x).map (·, d)) >>= k).run.Safe
      ((receiptKeyRules baseDir huuid key).terms i umask) Q h := by
  refine syscall_safe huuid hQ fun h' x a d hr hi hfx => ?_
  cases hfa : f h'.state x with
  | error e => simp [hfa, Except.map] at hfx
  | ok b =>
    simp only [hfa, Except.map, Except.ok.injEq, Prod.mk.injEq] at hfx
    obtain ⟨rfl, rfl⟩ := hfx
    exact ⟨⟨.refl, hi⟩, hf h' x b hr hi hfa⟩

/-- A failure ends the process. -/
theorem throw_safe {e : MnemesError} {k : α → IoOp β} {h : Hist Directory Unit} :
    ((throw e : IoOp α) >>= k).run.Safe ((receiptKeyRules baseDir huuid key).terms i umask) Q h :=
  Proc.Safe.done fun h' _ _ => hQ e h'

/-- A check in front of the rest. -/
theorem check_safe {c : Prop} [Decidable c] {e : MnemesError} {k : Unit → IoOp β}
    {h : Hist Directory Unit}
    (hk : (k ()).run.Safe ((receiptKeyRules baseDir huuid key).terms i umask) Q h) :
    (if c then do let r ← throw e; k r else k ()).run.Safe
      ((receiptKeyRules baseDir huuid key).terms i umask) Q h := by
  split
  · exact throw_safe huuid hQ
  · exact hk

/-! ### Reading -/

/-- The key path names the file, which holds the bytes. -/
def Shows (d : Directory) (n : Nat) (bytes : Bytes) : Prop :=
  d.entries receiptAuthKeyFile = some n ∧ (d.files[n]?).map (·.content) = some bytes

omit hQ in
/-- A key file that is shown stays so while others work. -/
theorem Shows.undisturbed {own : String} {d d' : Directory} {n : Nat} {bytes : Bytes}
    (h : Shows d n bytes) (hd : Undisturbed receiptAuthKeyFile own d d') : Shows d' n bytes := by
  obtain ⟨hn, hfile⟩ := hd.shared_kept h.1
  exact ⟨hn, by rw [hfile, h.2]⟩

omit hQ in
/-- What is read of a key file that is shown is part of the key. -/
theorem Shows.readAt {d : Directory} {n : Nat} {bytes : Bytes} (h : Shows d n bytes)
    (offset count : Nat) : d.readAt n offset count = (bytes.drop offset).take count := by
  obtain ⟨file, hfile, rfl⟩ := Option.map_eq_some_iff.1 h.2
  simp [Directory.readAt, hfile]

/-- Reading the published file yields the first bytes of its content. -/
theorem readExact_safe {n : Nat} {content : Bytes} (hlen : content.length = 32)
    {k : Bytes → IoOp β}
    (hk : ∀ h : Hist Directory Unit, Shows h.state n content →
      (k content).run.Safe ((receiptKeyRules baseDir huuid key).terms i umask) Q h)
    (calls : Nat) {read : Bytes} (hread : read <+: content) (hcalls : 32 ≤ read.length + calls)
    {h : Hist Directory Unit} (hs : Shows h.state n content) :
    (readExact n 32 calls read >>= k).run.Safe
      ((receiptKeyRules baseDir huuid key).terms i umask) Q h := by
  have hfull : 32 ≤ read.length → read = content := fun hle =>
    hread.eq_of_length (by have := hread.length_le; omega)
  induction calls generalizing read h with
  | zero =>
    obtain rfl := hfull (by omega)
    exact hk h hs
  | succ calls ih =>
    unfold readExact
    split
    · next hle =>
      obtain rfl := hfull hle
      exact hk h hs
    · next hlt =>
      rw [bind_assoc]
      refine look_safe (f := fun d x => .ok (d.readAt n read.length
        (min (max 1 x.count) (32 - read.length)))) huuid hQ fun h' x bytes hr hi hbytes => ?_
      have hs' := hs.undisturbed hr
      cases hbytes
      rw [hs'.readAt]
      dsimp only
      split
      · exact throw_safe huuid hQ
      · next hbytes =>
        have hprefix : read ++ ((content.drop read.length).take
            (min (max 1 x.count) (32 - read.length))) <+: content := by
          obtain ⟨rest, rfl⟩ := hread
          rw [List.drop_left]
          exact (List.prefix_append_right_inj _).2 (List.take_prefix _ _)
        refine ih hprefix ?_ hs' fun hle =>
          hprefix.eq_of_length (by have := hprefix.length_le; omega)
        have hpos := List.length_pos_iff.2 fun hnil => hbytes (List.isEmpty_iff.2 hnil)
        rw [List.length_append]
        omega

end

/-- Whoever has read a key has read the published one. -/
def ReadsPublished (r : Except MnemesError Bytes32) (h : Hist Directory Unit) : Prop :=
  ∀ k, r = .ok k → ∃ n, Shows h.state n k.toList

/-- A call that fails has read no key. -/
theorem readsPublished_error (e : MnemesError) (h : Hist Directory Unit) :
    ReadsPublished (.error e) h := fun k hk => by cases hk

/-- The bytes of a key make the key again. -/
theorem ofFn_getD (k : Bytes32) : (Vector.ofFn fun i : Fin 32 => k.toList.getD i 0) = k := by
  refine Vector.ext fun i hi => ?_
  simp

/-- Reading the key keeps the rules, and reads a published key. -/
theorem readReceiptAuthKey_safe {i : Tid} {umask : UInt32} {h : Hist Directory Unit} :
    (readReceiptAuthKey baseDir).run.Safe ((receiptKeyRules baseDir huuid key).terms i umask)
      ReadsPublished h := by
  have hQ := readsPublished_error
  unfold readReceiptAuthKey
  refine look_safe (f := fun d _ => okOr (d.file? receiptAuthKeyFile)
    (.io "No such file or directory")) huuid hQ fun h₁ x metadata _ _ _ => ?_
  refine check_safe huuid hQ (check_safe huuid hQ ?_)
  refine look_safe (f := fun d _ => okOr (d.entries receiptAuthKeyFile)
    (.io "No such file or directory")) huuid hQ fun h₂ x n _ hi hn => ?_
  have hn := okOr_eq_ok.1 hn
  obtain ⟨j, hfile⟩ := hi n hn
  refine readExact_safe huuid hQ (key j).length_toList (fun h₃ hs => ?_) 32 List.nil_prefix
    (by simp) ⟨hn, hfile⟩
  refine look_safe (f := fun d _ => .ok (d.readAt n 32 1)) huuid hQ fun h₄ x extra hr _ _ => ?_
  refine check_safe huuid hQ ?_
  rw [ofFn_getD]
  refine Proc.Safe.done fun h₅ hr' _ k hk => ?_
  cases hk
  exact ⟨n, (hs.undisturbed hr).undisturbed hr'⟩

/-! ### Creating -/

/-- The temporary file of a process while it is written: no other name refers to it. -/
def Draft (own : String) (d : Directory) (n : Nat) (written : Bytes) : Prop :=
  Sole d own n ∧ (d.files[n]?).map (·.content) = some written

/-- A draft stays as it is while others work. -/
theorem Draft.undisturbed {own : String} {d d' : Directory} {n : Nat} {written : Bytes}
    (h : Draft own d n written) (hd : Undisturbed receiptAuthKeyFile own d d') :
    Draft own d' n written := by
  obtain ⟨hsole, hfile⟩ := h.1.undisturbed hd
  exact ⟨hsole, by rw [hfile, h.2]⟩

/-- A write at the end of the draft. -/
theorem Draft.writeAt {own : String} (hne : receiptAuthKeyFile ≠ own) {d : Directory} {n : Nat}
    {written : Bytes} (h : Draft own d n written) (hp : Published key d) (bytes : Bytes) :
    (Harmless receiptAuthKeyFile own d (d.writeAt n written.length bytes) ∧
      Published key (d.writeAt n written.length bytes)) ∧
      Draft own (d.writeAt n written.length bytes) n (written ++ bytes) := by
  have hwrite : Harmless receiptAuthKeyFile own d (d.writeAt n written.length bytes) ∧
      Sole (d.writeAt n written.length bytes) own n := writeAt_harmless h.1 written.length bytes
  obtain ⟨hharmless, hsole⟩ := hwrite
  obtain ⟨file, hfile, rfl⟩ := Option.map_eq_some_iff.1 h.2
  refine ⟨⟨hharmless, fun m hm => ?_⟩, hsole, ?_⟩
  · obtain ⟨j, hj⟩ := hp m hm
    have hnm : n ≠ m := by
      rintro rfl
      exact hne (h.1.2 _ hm)
    exact ⟨j, by rw [Directory.writeAt_files_of_ne hnm, hj]⟩
  · rw [Directory.writeAt_end hfile]
    rfl

section
variable {i : Tid} {umask : UInt32} {β : Type}
  {Q : Except MnemesError β → Hist Directory Unit → Prop} (hQ : ∀ e h, Q (.error e) h)
include hQ

/-- Writing the rest of the key completes the draft. -/
theorem writeAll_safe {n : Nat} {content : Bytes} {k : Unit → IoOp β}
    (hk : ∀ h : Hist Directory Unit, Draft (temporaryName (uuid i)) h.state n content →
      (k ()).run.Safe ((receiptKeyRules baseDir huuid key).terms i umask) Q h)
    (calls : Nat) {written rest : Bytes} (hcontent : written ++ rest = content)
    (hcalls : rest.length ≤ calls) {h : Hist Directory Unit}
    (hd : Draft (temporaryName (uuid i)) h.state n written) :
    (writeAll n written.length calls rest >>= k).run.Safe
      ((receiptKeyRules baseDir huuid key).terms i umask) Q h := by
  induction calls generalizing written rest h with
  | zero =>
    obtain rfl := List.length_eq_zero_iff.1 (Nat.le_zero.1 hcalls)
    rw [List.append_nil] at hcontent
    subst hcontent
    exact hk h hd
  | succ calls ih =>
    unfold writeAll
    split
    · next hnil =>
      rw [List.isEmpty_iff.1 hnil, List.append_nil] at hcontent
      subst hcontent
      exact hk h hd
    · rw [bind_assoc]
      refine syscall_safe huuid hQ fun h' x count d hr hi hwrite => ?_
      cases hwrite
      obtain ⟨hg, hd'⟩ := (hd.undisturbed hr).writeAt (temporaryName_ne _) hi (rest.take x.count)
      refine ⟨hg, ?_⟩
      split
      · exact throw_safe huuid hQ
      · next hcount =>
        have hlen : written.length + min x.count rest.length =
            (written ++ rest.take x.count).length := by
          rw [List.length_append, List.length_take]
        have htake : rest.drop (min x.count rest.length) = rest.drop x.count := by
          rcases Nat.le_total x.count rest.length with hle | hle
          · rw [Nat.min_eq_left hle]
          · rw [Nat.min_eq_right hle, List.drop_length, List.drop_of_length_le hle]
        rw [hlen, htake]
        refine ih ?_ ?_ hd'
        · rw [List.append_assoc, List.take_append_drop, hcontent]
        · rw [List.length_drop]
          omega

/-- Removing the temporary name. -/
theorem removeFile_safe {k : Unit → IoOp β} {h : Hist Directory Unit}
    (hk : ∀ h' : Hist Directory Unit,
      (k ()).run.Safe ((receiptKeyRules baseDir huuid key).terms i umask) Q h') :
    (removeFile (temporaryName (uuid i)) >>= k).run.Safe
      ((receiptKeyRules baseDir huuid key).terms i umask) Q h := by
  refine syscall_safe huuid hQ fun h' x _ d _ hi hremove => ?_
  cases hremoved : h'.state.remove (temporaryName (uuid i)) with
  | none => simp [hremoved, okOr, Except.map] at hremove
  | some d' =>
    simp only [hremoved, okOr, Except.map, Except.ok.injEq, Prod.mk.injEq, true_and] at hremove
    subst hremove
    obtain ⟨hg, hentries⟩ := remove_harmless (temporaryName_ne _) hremoved
    exact ⟨⟨hg, hi.harmless (temporaryName_ne _) hg hentries⟩, hk _⟩

end

/-- Creating the key keeps the rules. -/
theorem createReceiptAuthKey_safe {i : Tid} {umask : UInt32} {h : Hist Directory Unit} :
    (createReceiptAuthKey umask (temporaryName (uuid i)) (key i)).run.Safe
      ((receiptKeyRules baseDir huuid key).terms i umask) (fun _ _ => True) h := by
  have hQ : ∀ (e : MnemesError) (h : Hist Directory Unit), True := fun _ _ => trivial
  have hsync : ∀ {k : Unit → IoOp Unit} {h : Hist Directory Unit},
      (∀ h' : Hist Directory Unit,
        Undisturbed receiptAuthKeyFile (temporaryName (uuid i)) h.state h'.state →
        (k ()).run.Safe ((receiptKeyRules baseDir huuid key).terms i umask) (fun _ _ => True) h') →
      (syncAll >>= k).run.Safe ((receiptKeyRules baseDir huuid key).terms i umask)
        (fun _ _ => True) h :=
    fun hk => look_safe (f := fun _ _ => .ok ()) huuid hQ fun h' _ _ hr _ _ => hk h' hr
  unfold createReceiptAuthKey
  refine syscall_safe huuid hQ fun h₁ x n d hr hi hcreate => ?_
  obtain ⟨hg, hentries, hsole, hfile⟩ := createNew_harmless (temporaryName_ne _)
    (okOr_eq_ok.1 hcreate)
  refine ⟨⟨hg, hi.harmless (temporaryName_ne _) hg hentries⟩, ?_⟩
  have hdraft : Draft (temporaryName (uuid i)) d n [] := ⟨hsole, by rw [hfile]; rfl⟩
  refine writeAll_safe huuid hQ (fun h₂ hdraft => ?_) 32 (List.nil_append _) (by simp) hdraft
  refine hsync fun h₃ hr => ?_
  have hdraft := hdraft.undisturbed hr
  refine syscall_safe huuid hQ fun h₄ x _ d hr hi hlink => ?_
  have hdraft := hdraft.undisturbed hr
  have hpublish : Harmless receiptAuthKeyFile (temporaryName (uuid i)) h₄.state d ∧
      Published key d := by
    split at hlink
    · next d' hlinked =>
      cases hlink
      obtain ⟨hg, hshared, hfiles⟩ := link_harmless hdraft.1 hlinked
      refine ⟨hg, fun m hm => ⟨i, ?_⟩⟩
      rw [hshared] at hm
      cases hm
      rw [hfiles, hdraft.2]
    · cases hlink
      exact ⟨.refl, hi⟩
    · cases hlink
  refine ⟨hpublish, removeFile_safe huuid hQ fun h₅ => ?_⟩
  refine hsync fun h₆ _ => ?_
  rw [← bind_pure syncAll]
  exact hsync fun h₇ _ => Proc.Safe.done fun _ _ _ => trivial

/-- A process does no harm, and the key it returns is the published one. -/
theorem loadOrCreateReceiptAuthKey_safe {i : Tid} {umask : UInt32} {h : Hist Directory Unit} :
    (loadOrCreateReceiptAuthKey baseDir umask (temporaryName (uuid i)) (key i)).run.Safe
      ((receiptKeyRules baseDir huuid key).terms i umask) ReadsPublished h := by
  unfold loadOrCreateReceiptAuthKey
  refine Proc.Safe.attempt_atomic fun h₁ x _ hi => ⟨⟨.refl, hi⟩, ?_⟩
  dsimp only
  split
  · exact readReceiptAuthKey_safe huuid
  · refine Proc.Safe.lift_bind ((createReceiptAuthKey_safe huuid).mono_post fun r h₂ _ _ => ?_)
    cases r with
    | ok u => exact readReceiptAuthKey_safe huuid
    | error e =>
      refine Proc.Safe.lift_bind ?_
      rw [← bind_pure (removeFile _)]
      refine (removeFile_safe huuid (Q := fun _ _ => True) (fun _ _ => trivial) fun h₃ =>
        Proc.Safe.done fun _ _ _ => trivial).mono_post fun _ h₃ _ _ => ?_
      exact Proc.Safe.done fun h₄ _ _ => readsPublished_error e h₄

end

/-- Whatever the interleaving of the processes, the failures of their calls and their deaths, on a
directory without a key: all that return a key return the same, and the key path refers to no file
but one that holds the whole key of a process. -/
theorem receipt_key_agreement (baseDir : String) {uuid : Tid → String}
    (huuid : Function.Injective uuid) (key : Tid → Bytes32) {d : Directory}
    (hd : d.entries receiptAuthKeyFile = none) {cmds : List (Command UInt32 IoChoice)}
    {c : Config UInt32 Directory IoChoice Unit (Except MnemesError Bytes32)}
    (hrun : (receiptKeyService baseDir uuid key).run (Service.init d) cmds = some c) :
    (∀ i j k k', c.result? i = some (.ok k) → c.result? j = some (.ok k') → k = k') ∧
      ∀ n, c.hist.state.entries receiptAuthKeyFile = some n →
        ∃ i, (c.hist.state.files[n]?).map (·.content) = some (key i).toList := by
  have hbodies : (receiptKeyRules baseDir huuid key).Bodies fun _ _ => ReadsPublished :=
    fun i umask h _ _ => loadOrCreateReceiptAuthKey_safe huuid
  have hholds := (RelyGuarantee.Holds.init (R := receiptKeyRules baseDir huuid key)
    (Q := fun _ _ => ReadsPublished) (fun n hn => by rw [hd] at hn; cases hn)).run hbodies hrun
  refine ⟨fun i j k k' hi hj => ?_, hholds.inv⟩
  obtain ⟨_, hi⟩ := Config.result?_eq_some.1 hi
  obtain ⟨_, hj⟩ := Config.result?_eq_some.1 hj
  obtain ⟨n, hn, hk⟩ := hholds.result hi k rfl
  obtain ⟨n', hn', hk'⟩ := hholds.result hj k' rfl
  cases hn.symm.trans hn'
  rw [hk, Option.some.injEq] at hk'
  exact Vector.toList_inj.1 hk'

namespace Sample

/-- The keys two processes draw. -/
def drawnKeys (i : Tid) : Bytes32 := Vector.replicate 32 (if i = 0 then 7 else 9)

/-- A directory without files. -/
def emptyDirectory : Directory where
  entries _ := none
  files := []
  bound h := by cases h

/-- The second process creates its key while the first one writes, and is the one to publish. -/
def keyRace : List (Command UInt32 IoChoice) :=
  [.start 0 0, .start 1 0] ++ List.replicate 4 (.run 0 ⟨none, 32⟩) ++
    List.replicate 12 (.run 1 ⟨none, 32⟩) ++ List.replicate 8 (.run 0 ⟨none, 32⟩)

end Sample

open Sample in
/-- Of two processes that start together, both get the key of the second. -/
theorem receipt_key_agreement_sample : ∃ c k,
    (receiptKeyService "memory" toString drawnKeys).run (Service.init emptyDirectory) keyRace =
      some c ∧ c.result? 0 = some (.ok k) ∧ c.result? 1 = some (.ok k) ∧ k = drawnKeys 1 := by
  have hrun : ((receiptKeyService "memory" toString drawnKeys).run (Service.init emptyDirectory)
      keyRace).any (fun c => (c.result? 0).any (fun r => r.isOk) &&
        decide (c.result? 1 = some (.ok (drawnKeys 1)))) = true := by decide +kernel
  obtain ⟨c, hc, h⟩ := (Option.any_eq_true _ _).1 hrun
  obtain ⟨h0, h1⟩ := Bool.and_eq_true_iff.1 h
  obtain ⟨r, hr, hok⟩ := (Option.any_eq_true _ _).1 h0
  cases r with
  | error e => cases hok
  | ok k =>
    have h1 := of_decide_eq_true h1
    have hagree := (receipt_key_agreement "memory" (fun i j h => eq_of_repr_eq h) drawnKeys rfl
      hc).1 0 1 k (drawnKeys 1) hr h1
    exact ⟨c, k, hc, hr, hagree ▸ h1, hagree⟩

end Mnemes
