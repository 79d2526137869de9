import Mnemes.RunPack.Admission
import Mnemes.Sync.Replica

/-!
# Synchronizing in batches

`sync_batch` exports a page of the device's journal and applies its entries to the replica one by
one; `process_sync_request` does so with the entries of a request (`sync.rs`, `sync_handler.rs`).
Both go on after an entry that failed, and return the sequence after the last entry as the next one,
so a failed entry is skipped over by whoever resumes there (`sync_skips_failed`). Where every entry
applies, resuming loses nothing (`sync_resumes`).
-/

namespace Mnemes

open Concurrency Relational

/-- Typed replay boundary. A replay that fails leaves what it has written so far. -/
abbrev ReplayDispatch (R : Type) := String → Bytes → R → Except MnemesError Unit × R

/-- The stream that an applier targets. -/
structure ReplicaApplier where
  deviceId : String
  storeId : String

/-- The texts of the crates: the error of `hex::decode` for a text that it refuses, and the errors
of the memory crate. -/
structure SyncTexts where
  hexError : String → String
  memoryText : MemoryError → String

/-- Result of synchronizing one journal batch. -/
structure SyncResult where
  entriesSynced : Nat
  nextSequence : Int64
  hasMore : Bool
  errors : List String
  deriving DecidableEq, Repr

/-- A single journal entry within a sync request. -/
structure SyncEntry where
  sequence : Int64
  operationKind : String
  payloadHex : String
  deriving DecidableEq, Repr

/-- Request body for a sync batch push. -/
structure SyncRequest where
  homeDeviceId : String
  storeId : String
  startSequence : Int64
  entries : List SyncEntry
  deriving DecidableEq, Repr

/-- Response after processing a sync batch. -/
structure SyncResponse where
  synced : Nat
  nextSequence : Int64
  hasMore : Bool
  errors : List String
  deriving DecidableEq, Repr

/-- Where SQLite may fail an export. -/
inductive ExportPhase where
  | prepare
  | query
  | row
  deriving DecidableEq

/-- The error of a phase of an export. -/
def ExportPhase.error (phase : ExportPhase) (detail : String) : MnemesError :=
  match phase with
  | prepare => .replication s!"journal export: {detail}"
  | query => .replication s!"export query: {detail}"
  | row => .replication s!"row: {detail}"

section
variable {R : Type}

/-- The journal row of an entry of the stream. -/
def ReplicaApplier.row (applier : ReplicaApplier) (entry : JournalPayload) : MutationJournalRow :=
  ⟨applier.deviceId, applier.storeId, entry.sequence, entry.operationKind, entry.payload⟩

/-- The call of `apply_entry` for an entry. -/
def ReplicaApplier.call (applier : ReplicaApplier) (dispatch : ReplayDispatch R)
    (entry : JournalPayload) : ApplyCall R where
  deviceId := applier.deviceId
  storeId := applier.storeId
  sequence := entry.sequence
  operationKind := entry.operationKind
  payload := entry.payload
  replay := dispatch entry.operationKind entry.payload

/-- The loops of both functions: an entry that cannot be read or applied adds its text to the
errors, and the loop goes on. -/
def applyEach (P : Platform) {α : Type} (read : α → Except String (ApplyCall R))
    (refused : α → MnemesError → String) :
    List α → Proc (ReplicaDb R) ApplyFault (ApplyCall R) (Nat × List String)
  | [] => pure (0, [])
  | entry :: entries =>
    match read entry with
    | .error text => do
      let (synced, errors) ← applyEach P read refused entries
      return (synced, text :: errors)
    | .ok call => do
      let outcome ← (applyEntry P call).run
      let (synced, errors) ← applyEach P read refused entries
      match outcome with
      | .ok _ => return (synced + 1, errors)
      | .error e => return (synced, refused entry e :: errors)

/-- The error of a batch for an entry that does not apply. -/
def SyncTexts.batchRefused (T : SyncTexts) (entry : JournalPayload) (e : MnemesError) : String :=
  s!"seq {entry.sequence.toInt} apply failed: {e.display T.memoryText}"

/-- The error of a request for an entry that does not apply. -/
def SyncTexts.requestRefused (T : SyncTexts) (entry : SyncEntry) (e : MnemesError) : String :=
  s!"seq {entry.sequence.toInt} apply: {e.display T.memoryText}"

/-- The call of `apply_entry` for an entry of a request, whose payload is decoded first. -/
def ReplicaApplier.decodedCall (T : SyncTexts) (applier : ReplicaApplier)
    (dispatch : ReplayDispatch R) (entry : SyncEntry) : Except String (ApplyCall R) :=
  match hexDecode entry.payloadHex with
  | none => .error s!"seq {entry.sequence.toInt} hex: {T.hexError entry.payloadHex}"
  | some payload => .ok (applier.call dispatch ⟨entry.sequence, entry.operationKind, payload⟩)

/-- `sync_batch`. A failing export is a choice of the environment. -/
def syncBatch (P : Platform) (T : SyncTexts) (deviceJournal : MutationJournal)
    (exportFault : Option (ExportPhase × String)) (applier : ReplicaApplier)
    (homeDeviceId storeId : String) (startSequence : Int64) (maxBatch : UInt64)
    (dispatch : ReplayDispatch R) :
    Proc (ReplicaDb R) ApplyFault (ApplyCall R) (Except MnemesError SyncResult) :=
  match exportFault with
  | some (phase, detail) => pure (.error (phase.error detail))
  | none => do
    let page := exportDeviceJournal deviceJournal homeDeviceId storeId startSequence maxBatch
    let (synced, errors) ← applyEach P (fun entry => .ok (applier.call dispatch entry))
      T.batchRefused page.entries
    return .ok ⟨synced, page.nextSequence, page.hasMore, errors⟩

/-- `process_sync_request`, on the replica of the request's store. -/
def processSyncRequest (P : Platform) (T : SyncTexts) (request : SyncRequest)
    (dispatch : ReplayDispatch R) :
    Proc (ReplicaDb R) ApplyFault (ApplyCall R) (Except MnemesError SyncResponse) := do
  let applier : ReplicaApplier := ⟨request.homeDeviceId, request.storeId⟩
  let (synced, errors) ← applyEach P (applier.decodedCall T dispatch) T.requestRefused
    request.entries
  return .ok
    { synced
      nextSequence := request.startSequence + Int64.ofNat synced + Int64.ofNat errors.length
      hasMore := false
      errors }

/-! ## Runs that resume -/

/-- One call of the sync loop of a stream: a batch from the device's journal, or a request with a
page of it, its payloads written as texts. -/
inductive SyncStep (R : Type) where
  | batch (deviceJournal : MutationJournal) (exportFault : Option (ExportPhase × String))
    (maxBatch : UInt64) (dispatch : ReplayDispatch R)
  | request (deviceJournal : MutationJournal) (limit : UInt64)
    (payloadHex : JournalPayload → String) (dispatch : ReplayDispatch R)

/-- Where the sync loop of a stream stands: the sequence that it resumes at, the entries that were
exported since its start, and the replica. -/
structure SyncState (R : Type) where
  cursor : Int64
  exported : List JournalPayload
  db : ReplicaDb R

/-- The entries that a call exports from a sequence on. -/
def SyncStep.page (stream : ReplicaApplier) (start : Int64) : SyncStep R → List JournalPayload
  | batch journal _ limit _ =>
    (exportDeviceJournal journal stream.deviceId stream.storeId start limit).entries
  | request journal limit _ _ =>
    (exportDeviceJournal journal stream.deviceId stream.storeId start limit).entries

/-- The replay function of a call. -/
def SyncStep.dispatch : SyncStep R → ReplayDispatch R
  | batch _ _ _ dispatch => dispatch
  | request _ _ _ dispatch => dispatch

/-- A call from a sequence on: the next sequence that it returns. -/
def SyncStep.body (P : Platform) (T : SyncTexts) (stream : ReplicaApplier) (start : Int64)
    (step : SyncStep R) :
    Proc (ReplicaDb R) ApplyFault (ApplyCall R) (Except MnemesError Int64) :=
  match step with
  | batch journal fault maxBatch dispatch => do
    return (← syncBatch P T journal fault stream stream.deviceId stream.storeId start maxBatch
      dispatch).map (·.nextSequence)
  | request _ _ payloadHex dispatch => do
    return (← processSyncRequest P T
      { homeDeviceId := stream.deviceId
        storeId := stream.storeId
        startSequence := start
        entries := (step.page stream start).map fun entry =>
          ⟨entry.sequence, entry.operationKind, payloadHex entry⟩ } dispatch).map (·.nextSequence)

/-- A call with the choices of its actions, from where the loop stands. The next call resumes at the
sequence that this one returns, or where this one started if it returns an error. -/
def SyncStep.next (P : Platform) (T : SyncTexts) (stream : ReplicaApplier) (step : SyncStep R)
    (xs : List ApplyFault) (s : SyncState R) : Option (SyncState R) :=
  match (step.body P T stream s.cursor).exec xs s.db with
  | (none, _) => none
  | (some (.error _, _), db) => some { s with db }
  | (some (.ok cursor, _), db) => some ⟨cursor, s.exported ++ step.page stream s.cursor, db⟩

/-- The calls of a run, one after the other. -/
def syncRun (P : Platform) (T : SyncTexts) (stream : ReplicaApplier) :
    List (SyncStep R × List ApplyFault) → SyncState R → Option (SyncState R)
  | [], s => some s
  | (step, xs) :: steps, s => (step.next P T stream xs s).bind (syncRun P T stream steps)

/-! ## Entries that apply -/

section
variable {P : Platform} {T : SyncTexts} {stream : ReplicaApplier} {db db' : ReplicaDb R}
  {call : ApplyCall R} {calls : List (ApplyCall R)} {xs : List ApplyFault}

/-- An entry applies: it is stored with its operation kind and a payload of its digest, or not
stored and its replay is accepted. -/
inductive Applies (P : Platform) (call : ApplyCall R) (db : ReplicaDb R) : ReplicaDb R → Prop where
  | stored {row : MutationJournalRow} : db.journal.find? call.row.key = some row →
    row.operationKind = call.operationKind → P.sha256 row.payload = P.sha256 call.payload →
    Applies P call db db
  | commits {db' : ReplicaDb R} : db.journal.find? call.row.key = none → Commits call db db' →
    Applies P call db db'

/-- Entries that apply one after the other. -/
inductive AppliesAll (P : Platform) : List (ApplyCall R) → ReplicaDb R → ReplicaDb R → Prop where
  | nil {db : ReplicaDb R} : AppliesAll P [] db db
  | cons {call : ApplyCall R} {calls : List (ApplyCall R)} {db db₁ db' : ReplicaDb R} :
    Applies P call db db₁ → AppliesAll P calls db₁ db' → AppliesAll P (call :: calls) db db'

/-- The entry is recorded as applied: with its operation kind, and a payload of its digest. -/
def Journaled (P : Platform) (db : ReplicaDb R) (call : ApplyCall R) : Prop :=
  ∃ row, db.journal.find? call.row.key = some row ∧ row.operationKind = call.operationKind ∧
    P.sha256 row.payload = P.sha256 call.payload

/-- What is recorded stays so as rows are added. -/
theorem Journaled.later (h : Journaled P db call)
    (hrows : db.journal.rows <+: db'.journal.rows) : Journaled P db' call := by
  obtain ⟨row, hfind, hdigest⟩ := h
  obtain ⟨hrow, hkey⟩ := Table.find?_eq_some.1 hfind
  exact ⟨row, Table.find?_eq_some.2 ⟨hrows.subset hrow, hkey⟩, hdigest⟩

/-- An entry that applies adds rows at the end only. -/
theorem Applies.rows (h : Applies P call db db') : db.journal.rows <+: db'.journal.rows := by
  cases h with
  | stored => exact List.prefix_rfl
  | commits _ hcommits =>
    rw [hcommits.rows]
    exact List.prefix_append _ _

/-- An entry that applies adds its own row, if any. -/
theorem Applies.added (h : Applies P call db db') :
    ∀ row ∈ db'.journal.rows, row ∈ db.journal.rows ∨ row = call.row := by
  cases h with
  | stored => exact fun _ h => .inl h
  | commits _ hcommits =>
    rw [hcommits.rows]
    exact fun row hrow => (List.mem_append.1 hrow).imp_right List.mem_singleton.1

/-- An entry that applies is recorded then. -/
theorem Applies.recorded (h : Applies P call db db') : Journaled P db' call := by
  cases h with
  | stored hfind hkind hdigest => exact ⟨_, hfind, hkind, hdigest⟩
  | commits _ hcommits =>
    refine ⟨call.row, Table.find?_eq_some.2 ⟨?_, rfl⟩, rfl, rfl⟩
    rw [hcommits.rows]
    exact List.mem_append_right _ (List.mem_singleton_self _)

/-- Entries that apply add rows at the end only. -/
theorem AppliesAll.rows (h : AppliesAll P calls db db') : db.journal.rows <+: db'.journal.rows := by
  induction h with
  | nil => exact List.prefix_rfl
  | cons happlies _ ih => exact happlies.rows.trans ih

/-- Entries that apply add their own rows only. -/
theorem AppliesAll.added (h : AppliesAll P calls db db') :
    ∀ row ∈ db'.journal.rows, row ∈ db.journal.rows ∨ ∃ call ∈ calls, row = call.row := by
  induction h with
  | nil => exact fun _ h => .inl h
  | cons happlies _ ih =>
    intro row hrow
    rcases ih row hrow with hrow | ⟨call, hcall, rfl⟩
    · rcases happlies.added row hrow with hold | rfl
      · exact .inl hold
      · exact .inr ⟨_, List.mem_cons_self, rfl⟩
    · exact .inr ⟨call, List.mem_cons_of_mem _ hcall, rfl⟩

/-- Entries that apply are all recorded then. -/
theorem AppliesAll.recorded (h : AppliesAll P calls db db') :
    ∀ call ∈ calls, Journaled P db' call := by
  induction h with
  | nil => exact fun _ h => absurd h List.not_mem_nil
  | cons happlies hrest ih =>
    intro call hcall
    rcases List.mem_cons.1 hcall with rfl | hcall
    · exact happlies.recorded.later hrest.rows
    · exact ih call hcall

/-- Without faults an entry that applies is answered with `Ok`, unless the call is cut short. -/
theorem applyEntry_exec (hxs : ∀ x ∈ xs, x = none) (h : Applies P call db db') :
    (∃ db'', (applyEntry P call).run.exec xs db = (none, db'')) ∨
    ∃ outcome ys, (∀ y ∈ ys, y = none) ∧
      (applyEntry P call).run.exec xs db = (some (.ok outcome, ys), db') := by
  unfold applyEntry
  cases xs with
  | nil => exact .inl ⟨db, Proc.exec_attempt_nil db⟩
  | cons x xs =>
    obtain rfl := hxs x List.mem_cons_self
    have hxs : ∀ x ∈ xs, x = none := fun y hy => hxs y (List.mem_cons_of_mem _ hy)
    rw [Proc.exec_attempt]
    have hlookup : call.storedPayload none db =
        .ok ((db.journal.find? call.row.key).map (·.payload)) := rfl
    simp only [hlookup]
    cases h with
    | @stored row hfind hkind hdigest =>
      simp only [hfind, Option.map_some, hdigest]
      rw [if_neg (not_not.2 rfl)]
      exact .inr ⟨.alreadyApplied call.sequence, xs, hxs, rfl⟩
    | commits hnone hcommits =>
      simp only [hnone, Option.map_none]
      cases xs with
      | nil => exact .inl ⟨db, rfl⟩
      | cons y ys =>
        obtain rfl := hxs y List.mem_cons_self
        refine .inr ⟨.applied call.sequence, ys, fun y hy => hxs y (List.mem_cons_of_mem _ hy), ?_⟩
        have htransaction : transaction (call.replayAndRecord none) db =
            (.ok (.applied call.sequence), db') := by
          simp only [transaction, ApplyCall.replayAndRecord, hcommits.1, ApplyFault.attempt,
            hcommits.2]
        have hbegin : ApplyFault.attempt none .begin call.sequence = .ok () := rfl
        show (Proc.atomic _).exec (none :: ys) db = _
        simp only [Proc.atomic, Proc.await, Proc.exec, if_true, hbegin, htransaction]

/-- The loop over entries that can be read and apply reports no error. -/
theorem applyEach_exec {α : Type} {read : α → Except String (ApplyCall R)}
    {refused : α → MnemesError → String} {entries : List α}
    (hread : List.Forall₂ (fun entry call => read entry = .ok call) entries calls)
    (hxs : ∀ x ∈ xs, x = none) (h : AppliesAll P calls db db') :
    (∃ db'', (applyEach P read refused entries).exec xs db = (none, db'')) ∨
    ∃ ys, (applyEach P read refused entries).exec xs db =
      (some ((entries.length, []), ys), db') := by
  induction hread generalizing db xs with
  | nil =>
    cases h
    exact .inr ⟨xs, rfl⟩
  | @cons entry call entries calls hentry _ ih =>
    obtain ⟨_, happlies, hrest⟩ : ∃ db₁, Applies P call db db₁ ∧ AppliesAll P calls db₁ db' := by
      cases h with
      | cons happlies hrest => exact ⟨_, happlies, hrest⟩
    simp only [applyEach, hentry, Proc.bind_eq, Proc.exec_bind]
    rcases applyEntry_exec hxs happlies with ⟨db'', hexec⟩ | ⟨outcome, ys, hys, hexec⟩
    · exact .inl ⟨db'', by rw [hexec]⟩
    · rw [hexec]
      rcases ih hys hrest with ⟨db'', hloop⟩ | ⟨zs, hloop⟩
      · exact .inl ⟨db'', by simp only [hloop]⟩
      · exact .inr ⟨zs, by simp only [hloop]; rfl⟩

/-! ## Sequences -/

/-- The rows that an export returns have consecutive sequences, up to the next one. The arithmetic
is that of the machine. -/
theorem exportRows_sequences {expected next : Int64} {rows entries : List JournalPayload}
    {hasGap : Bool} (h : exportRows expected rows = (entries, next, hasGap)) :
    (∀ (i : Nat) entry, entries[i]? = some entry → entry.sequence = expected + Int64.ofNat i) ∧
      next = expected + Int64.ofNat entries.length := by
  induction rows generalizing expected entries with
  | nil =>
    cases h
    exact ⟨by simp, (Int64.add_zero _).symm⟩
  | cons entry rows ih =>
    unfold exportRows at h
    split at h
    · cases h
      exact ⟨by simp, (Int64.add_zero _).symm⟩
    · next heq =>
      have heq : entry.sequence = expected := not_not.1 heq
      obtain ⟨rest, next', gap, hrest⟩ : ∃ rest next' gap,
          exportRows (entry.sequence + 1) rows = (rest, next', gap) := ⟨_, _, _, rfl⟩
      rw [hrest] at h
      cases h
      obtain ⟨hsequences, hnext⟩ := ih hrest
      have hsucc :
          ∀ n : Nat, entry.sequence + 1 + Int64.ofNat n = expected + Int64.ofNat (n + 1) := by
        intro n
        rw [heq, Int64.add_assoc, Nat.add_comm, Int64.ofNat_add]
        rfl
      refine ⟨fun i e he => ?_, hnext.trans (hsucc _)⟩
      cases i with
      | zero =>
        cases he
        exact heq.trans (Int64.add_zero _).symm
      | succ i => exact (hsequences i e he).trans (hsucc i)

/-- The entries of a call have consecutive sequences. -/
theorem SyncStep.page_sequences {step : SyncStep R} {start : Int64} :
    ∀ (i : Nat) entry, (step.page stream start)[i]? = some entry →
      entry.sequence = start + Int64.ofNat i := by
  cases step <;> exact (exportRows_sequences rfl).1

/-- A sequence from a start to `n` further is one of these, also if the arithmetic wraps. -/
theorem exists_of_lt_add {start sequence : Int64} {n : Nat} (hle : start ≤ sequence)
    (hlt : sequence < start + Int64.ofNat n) : ∃ i < n, sequence = start + Int64.ofNat i := by
  rw [Int64.le_iff_toInt_le] at hle
  rw [Int64.lt_iff_toInt_lt, Int64.toInt_add, Int64.toInt_ofNat'] at hlt
  have hstart := start.le_toInt
  have hsequence := sequence.toInt_lt
  have hsize : Int64.size = 2 ^ 64 := rfl
  rw [hsize] at hlt
  refine ⟨(sequence.toInt - start.toInt).toNat, ?_, ?_⟩
  · simp only [Int.bmod_def] at hlt
    omega
  · rw [← Int64.toInt_inj, Int64.toInt_add, Int64.toInt_ofNat', hsize]
    simp only [Int.bmod_def]
    omega

/-! ## Resuming -/

/-- What a run that resumes has reached, from a replica at its start: what it exported are
consecutive entries, all recorded as applied, and no other row was added; and every sequence from
the first one up to where it stands is recorded. -/
structure SyncMeets (P : Platform) (stream : ReplicaApplier) (first : Int64) (db₀ : ReplicaDb R)
    (s : SyncState R) : Prop where
  consecutive : ∀ (i : Nat) entry, s.exported[i]? = some entry →
    entry.sequence = first + Int64.ofNat i
  cursor : s.cursor = first + Int64.ofNat s.exported.length
  applied (dispatch : ReplayDispatch R) :
    ∀ entry ∈ s.exported, Journaled P s.db (stream.call dispatch entry)
  kept : db₀.journal.rows <+: s.db.journal.rows
  added : ∀ row ∈ s.db.journal.rows, row ∈ db₀.journal.rows ∨
    ∃ entry ∈ s.exported, row = stream.row entry
  recorded : ∀ sequence, first ≤ sequence → sequence < s.cursor →
    (s.db.journal.find? (stream.deviceId, stream.storeId, sequence)).isSome

/-- Nothing goes wrong with the entries of a call: no access to the replica fails, the payloads of a
request are read as they were exported, and each entry is stored already or its replay is
accepted. -/
structure SyncStep.Untroubled (P : Platform) (stream : ReplicaApplier) (step : SyncStep R)
    (xs : List ApplyFault) (s : SyncState R) : Prop where
  faults : ∀ x ∈ xs, x = none
  payloads :
    ∀ journal limit payloadHex dispatch, step = .request journal limit payloadHex dispatch →
    ∀ entry ∈ step.page stream s.cursor, hexDecode (payloadHex entry) = some entry.payload
  applies :
    ∃ db', AppliesAll P ((step.page stream s.cursor).map (stream.call step.dispatch)) s.db db'

/-- Every call of a run is untroubled where it starts. -/
def Untroubled (P : Platform) (T : SyncTexts) (stream : ReplicaApplier) :
    List (SyncStep R × List ApplyFault) → SyncState R → Prop
  | [], _ => True
  | (step, xs) :: steps, s => step.Untroubled P stream xs s ∧
    ∀ s', step.next P T stream xs s = some s' → Untroubled P T stream steps s'

/-- The texts of a page are read as the entries that they were written from. -/
theorem request_reads {page : List JournalPayload} {payloadHex : JournalPayload → String}
    {dispatch : ReplayDispatch R}
    (hpayloads : ∀ entry ∈ page, hexDecode (payloadHex entry) = some entry.payload) :
    List.Forall₂ (fun entry call => stream.decodedCall T dispatch entry = .ok call)
      (page.map fun entry => ⟨entry.sequence, entry.operationKind, payloadHex entry⟩)
      (page.map (stream.call dispatch)) := by
  induction page with
  | nil => exact .nil
  | cons entry page ih =>
    refine .cons ?_ (ih fun e he => hpayloads e (List.mem_cons_of_mem _ he))
    simp only [ReplicaApplier.decodedCall, hpayloads entry List.mem_cons_self]

/-- The entries of a batch are read as they are. -/
theorem batch_reads {page : List JournalPayload} {dispatch : ReplayDispatch R} :
    List.Forall₂ (fun entry call => (.ok (stream.call dispatch entry) :
      Except String (ApplyCall R)) = .ok call) page (page.map (stream.call dispatch)) :=
  List.forall₂_map_right_iff.2 (List.forall₂_same.2 fun _ _ => rfl)

/-- An untroubled call is cut short, or cannot export and does nothing, or applies the entries of
its page and returns the sequence after them. -/
theorem SyncStep.body_exec {step : SyncStep R} {s : SyncState R}
    (h : step.Untroubled P stream xs s) :
    (∃ db', (step.body P T stream s.cursor).exec xs s.db = (none, db')) ∨
    (∃ e ys, (step.body P T stream s.cursor).exec xs s.db = (some (.error e, ys), s.db)) ∨
    ∃ db' ys, AppliesAll P ((step.page stream s.cursor).map (stream.call step.dispatch)) s.db db' ∧
      (step.body P T stream s.cursor).exec xs s.db = (some
        (.ok (s.cursor + Int64.ofNat (step.page stream s.cursor).length), ys), db') := by
  obtain ⟨db', happlies⟩ := h.applies
  cases step with
  | batch journal fault maxBatch dispatch =>
    cases fault with
    | some fault => exact .inr (.inl ⟨_, xs, rfl⟩)
    | none =>
      change AppliesAll P ((exportDeviceJournal journal stream.deviceId stream.storeId s.cursor
        maxBatch).entries.map (stream.call dispatch)) s.db db' at happlies
      simp only [SyncStep.body, syncBatch, Proc.bind_eq, Proc.exec_bind]
      rcases @applyEach_exec R P _ _ _ xs _ _ T.batchRefused _ batch_reads h.faults happlies with
        ⟨db'', hloop⟩ | ⟨ys, hloop⟩
      · exact .inl ⟨db'', by rw [hloop]⟩
      · refine .inr (.inr ⟨db', ys, happlies, ?_⟩)
        rw [hloop, SyncStep.page, exportDeviceJournal, ← (exportRows_sequences rfl).2]
        rfl
  | request journal limit payloadHex dispatch =>
    change AppliesAll P (((SyncStep.request journal limit payloadHex dispatch).page stream
      s.cursor).map (stream.call dispatch)) s.db db' at happlies
    simp only [SyncStep.body, processSyncRequest, Proc.bind_eq, Proc.exec_bind]
    rcases @applyEach_exec R P _ _ _ xs _ _ T.requestRefused _
      (request_reads (h.payloads journal limit payloadHex dispatch rfl)) h.faults happlies with
      ⟨db'', hloop⟩ | ⟨ys, hloop⟩
    · exact .inl ⟨db'', by rw [hloop]⟩
    · refine .inr (.inr ⟨db', ys, happlies, ?_⟩)
      rw [hloop, List.length_map]
      simp only [Proc.pure_eq, Proc.exec_done, Except.map, List.length_nil]
      rw [show Int64.ofNat 0 = 0 from rfl, Int64.add_zero]

/-- One untroubled call keeps what the run has reached. -/
theorem SyncMeets.step {first : Int64} {db₀ : ReplicaDb R} {step : SyncStep R}
    {s s' : SyncState R} (h : SyncMeets P stream first db₀ s)
    (hstep : step.Untroubled P stream xs s) (hnext : step.next P T stream xs s = some s') :
    SyncMeets P stream first db₀ s' := by
  unfold SyncStep.next at hnext
  rcases @SyncStep.body_exec R P T stream xs step s hstep with
    ⟨db', hexec⟩ | ⟨e, ys, hexec⟩ | ⟨db', ys, happlies, hexec⟩
  · rw [hexec] at hnext
    cases hnext
  · rw [hexec] at hnext
    cases hnext
    exact h
  · rw [hexec] at hnext
    cases hnext
    have hrows := happlies.rows
    have hpage : ∀ (dispatch : ReplayDispatch R), ∀ entry ∈ step.page stream s.cursor,
        Journaled P db' (stream.call dispatch entry) := fun dispatch entry hentry =>
      happlies.recorded (stream.call step.dispatch entry) (List.mem_map_of_mem hentry)
    constructor
    · intro i entry hentry
      rw [List.getElem?_append] at hentry
      split at hentry
      · exact h.consecutive i entry hentry
      · next hle =>
        rw [SyncStep.page_sequences _ _ hentry, h.cursor, Int64.add_assoc, ← Int64.ofNat_add,
          Nat.add_sub_cancel' (Nat.not_lt.1 hle)]
    · rw [List.length_append, Int64.ofNat_add, ← Int64.add_assoc, ← h.cursor]
    · intro dispatch entry hentry
      rcases List.mem_append.1 hentry with hold | hnew
      · exact (h.applied dispatch entry hold).later hrows
      · exact hpage dispatch entry hnew
    · exact h.kept.trans hrows
    · intro row hrow
      rcases happlies.added row hrow with hold | ⟨call, hcall, rfl⟩
      · refine (h.added row hold).imp_right ?_
        rintro ⟨entry, hentry, rfl⟩
        exact ⟨entry, List.mem_append_left _ hentry, rfl⟩
      · obtain ⟨entry, hentry, rfl⟩ := List.mem_map.1 hcall
        exact .inr ⟨entry, List.mem_append_right _ hentry, rfl⟩
    · intro sequence hfirst hlt
      by_cases hold : sequence < s.cursor
      · obtain ⟨row, hrow⟩ := Option.isSome_iff_exists.1 (h.recorded sequence hfirst hold)
        obtain ⟨hmem, hkey⟩ := Table.find?_eq_some.1 hrow
        exact Option.isSome_iff_exists.2
          ⟨row, Table.find?_eq_some.2 ⟨hrows.subset hmem, hkey⟩⟩
      · obtain ⟨i, hi, rfl⟩ := exists_of_lt_add (Int64.not_lt.1 hold) hlt
        have hget := List.getElem?_eq_getElem hi
        obtain ⟨row, hfind, -⟩ := hpage step.dispatch _ (List.mem_of_getElem? hget)
        rw [← SyncStep.page_sequences _ _ hget]
        exact Option.isSome_iff_exists.2 ⟨row, hfind⟩

end

end

/-- Resuming a sync loses nothing, in any run of untroubled calls, each from the sequence that the
one before returned: what was exported so far are consecutive entries from the first sequence, each
recorded as applied, and nothing else was added to the replica; and every sequence before the one
that the next call resumes at is recorded. -/
theorem sync_resumes {R : Type} (P : Platform) (T : SyncTexts) (stream : ReplicaApplier)
    (first : Int64) (db : ReplicaDb R) (steps : List (SyncStep R × List ApplyFault))
    (hsteps : Untroubled P T stream steps ⟨first, [], db⟩) (s : SyncState R)
    (hrun : syncRun P T stream steps ⟨first, [], db⟩ = some s) : SyncMeets P stream first db s := by
  have hrun' : ∀ {s₀ : SyncState R}, SyncMeets P stream first db s₀ →
      Untroubled P T stream steps s₀ → syncRun P T stream steps s₀ = some s →
      SyncMeets P stream first db s := by
    clear hsteps hrun
    induction steps with
    | nil =>
      intro s₀ h _ hrun
      cases hrun
      exact h
    | cons step steps ih =>
      intro s₀ h hsteps hrun
      obtain ⟨s₁, hnext, hrun⟩ := Option.bind_eq_some_iff.1 hrun
      exact ih (h.step hsteps.1 hnext) (hsteps.2 s₁ hnext) hrun
  refine hrun' ?_ hsteps hrun
  refine ⟨by simp, (Int64.add_zero _).symm, fun _ _ h => absurd h List.not_mem_nil,
    List.prefix_rfl, fun _ h => .inl h, ?_⟩
  exact fun sequence hle hlt => absurd hlt (Int64.not_lt.2 hle)

namespace Sample

/-- The stream of the device. -/
def deviceStream : ReplicaApplier := ⟨"device", "store"⟩

/-- Its journal, with two entries. -/
def deviceJournal : MutationJournal :=
  ⟨[⟨"device", "store", 1, "add_fact", [7]⟩, ⟨"device", "store", 2, "add_fact", [8]⟩], by decide⟩

/-- Replays that count the entries, and that refuse the first of the two. -/
def counting : ReplayDispatch Nat := fun _ _ n => (.ok (), n + 1)

def refusing : ReplayDispatch Nat := fun _ payload n =>
  if payload = [7] then (.error (.replication "simulated replay failure"), n) else (.ok (), n + 1)

def plainTexts : SyncTexts := ⟨fun _ => "Odd number of digits", fun _ => "memory error"⟩

/-- Two batches of one entry each. -/
def oneByOne : List (SyncStep Nat × List ApplyFault) :=
  [(.batch deviceJournal none 1 counting, [none, none]),
    (.batch deviceJournal none 1 counting, [none, none])]

/-- Entries that are not stored apply to a replica whose replays count. -/
theorem counting_applies {entry : JournalPayload} {db : ReplicaDb Nat}
    (hnew : (db.journal.find? (deviceStream.call counting entry).row.key) = none) :
    ∃ db', AppliesAll payloadDigests [deviceStream.call counting entry] db db' := by
  obtain ⟨journal, hinsert⟩ : ∃ journal,
      db.journal.insert? (deviceStream.call counting entry).row = some journal := by
    cases hinsert : db.journal.insert? (deviceStream.call counting entry).row with
    | some journal => exact ⟨journal, rfl⟩
    | none =>
      obtain ⟨row, hfound⟩ := Table.insert?_eq_none.1 hinsert
      rw [hnew] at hfound
      cases hfound
  exact ⟨⟨db.content + 1, journal⟩, .cons (.commits hnew ⟨rfl, hinsert⟩) .nil⟩

/-- Nothing goes wrong in two batches of one entry each. -/
theorem oneByOne_untroubled :
    Untroubled payloadDigests plainTexts deviceStream oneByOne ⟨1, [], emptyReplica⟩ := by
  have hfaults : ∀ x ∈ ([none, none] : List ApplyFault), x = none := by decide
  refine ⟨⟨hfaults, fun _ _ _ _ h => (by cases h), counting_applies rfl⟩, ?_⟩
  intro s' hs'
  cases hs'
  exact ⟨⟨hfaults, fun _ _ _ _ h => (by cases h), counting_applies rfl⟩, fun _ _ => trivial⟩

end Sample

open Sample in
/-- Two batches resume after one another. -/
theorem sync_resumes_sample : ∃ s,
    syncRun payloadDigests plainTexts deviceStream oneByOne ⟨1, [], emptyReplica⟩ = some s ∧
      s.cursor = 3 ∧ s.db.content = 2 ∧
        SyncMeets payloadDigests deviceStream 1 emptyReplica s := by
  have hrun : (syncRun payloadDigests plainTexts deviceStream oneByOne ⟨1, [], emptyReplica⟩).any
      (fun s => decide (s.cursor = 3 ∧ s.db.content = 2)) = true := by decide +kernel
  obtain ⟨s, hs, h⟩ := (Option.any_eq_true _ _).1 hrun
  exact ⟨s, hs, (of_decide_eq_true h).1, (of_decide_eq_true h).2,
    sync_resumes payloadDigests plainTexts deviceStream 1 emptyReplica oneByOne
      oneByOne_untroubled s hs⟩

open Sample in
/-- The replay refuses the first of two entries. The batch reports the error and returns the
sequence after both; the next batch, which resumes there, finds nothing more, and the first entry is
missing from the replica. -/
theorem sync_skips_failed :
    (syncRun payloadDigests plainTexts deviceStream
      [(.batch deviceJournal none 10 refusing, [none, none, none, none]),
        (.batch deviceJournal none 10 counting, [])] ⟨1, [], emptyReplica⟩).any (fun s =>
      s.cursor = 3 && (s.db.journal.find? ("device", "store", 1)).isNone &&
        (s.db.journal.find? ("device", "store", 2)).isSome) = true := by
  decide +kernel

end Mnemes
