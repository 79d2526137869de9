import Mnemes.Lib.RelyGuarantee
import Mnemes.Sync.Journal

/-!
# Applying entries to a replica

`ReplicaApplier::apply_entry` looks the sequence of an entry up in the replica's journal, and where
it is not there replays the entry and records it in one transaction (`replica.rs`). The lookup is
outside the transaction, so any number of calls may get past it; the unique index of the journal
lets one of them commit. So every entry takes effect at most once and only with its row, and a call
that fails leaves the database as it was, in every interleaving (`replica_applies_once`). The lookup
compares the digests of the payloads only: an entry whose operation kind differs from the stored one
is answered as applied already (`other_kind_already_applied`).

A transaction is isolated: it takes place as a whole when it commits, or not at all. Replay
functions write the replica's content, not its journal.
-/

namespace Mnemes

open Concurrency Relational

/-! ## The replica -/

/-- A replica database: what the replay functions write, and the journal. -/
structure ReplicaDb (R : Type) where
  content : R
  journal : MutationJournal

/-- One call of `apply_entry` on the applier of a stream. A replay function that fails leaves what
it has written so far. -/
structure ApplyCall (R : Type) where
  deviceId : String
  storeId : String
  sequence : Int64
  operationKind : String
  payload : Bytes
  replay : R → Except MnemesError Unit × R

/-- The journal row of an entry. -/
def ApplyCall.row {R : Type} (call : ApplyCall R) : MutationJournalRow :=
  ⟨call.deviceId, call.storeId, call.sequence, call.operationKind, call.payload⟩

/-- Result of applying a journal entry. -/
inductive ApplyOutcome where
  | applied (sequence : Int64)
  | alreadyApplied (sequence : Int64)
  deriving DecidableEq, Repr

/-- Where SQLite may fail a call. -/
inductive ApplyPhase where
  | openConnection
  | check
  | begin
  | record
  | commit
  deriving DecidableEq

/-- The text an error of a phase starts with. -/
def ApplyPhase.text (phase : ApplyPhase) (sequence : Int64) : String :=
  match phase with
  | openConnection => "cannot open replica for apply: "
  | check => s!"cannot check replay state for sequence {sequence.toInt}: "
  | begin => "begin apply tx: "
  | record => "journal record on apply: "
  | commit => "commit apply tx: "

/-- The error of a phase. -/
def ApplyPhase.error (phase : ApplyPhase) (sequence : Int64) (detail : String) : MnemesError :=
  .replication (phase.text sequence ++ detail)

/-- The phase that fails in an action, with the text of the failure. -/
abbrev ApplyFault := Option (ApplyPhase × String)

/-- A phase of an action. -/
def ApplyFault.attempt (fault : ApplyFault) (phase : ApplyPhase) (sequence : Int64) :
    Except MnemesError Unit :=
  match fault with
  | some (failed, detail) => if failed = phase then .error (phase.error sequence detail) else .ok ()
  | none => .ok ()

/-! ## The call -/

section
variable {R : Type}

/-- A transaction: what it has written is taken over when it commits, and discarded otherwise. -/
def transaction {α : Type} (body : ReplicaDb R → Except MnemesError α × ReplicaDb R)
    (db : ReplicaDb R) : Except MnemesError α × ReplicaDb R :=
  match body db with
  | (.ok a, db') => (.ok a, db')
  | (.error e, _) => (.error e, db)

/-- What `apply_entry` does in its transaction: the replay, then the journal row. -/
def ApplyCall.replayAndRecord (call : ApplyCall R) (fault : ApplyFault) (db : ReplicaDb R) :
    Except MnemesError ApplyOutcome × ReplicaDb R :=
  match call.replay db.content with
  | (.error e, content) => (.error e, { db with content })
  | (.ok (), content) =>
    match fault.attempt .record call.sequence, db.journal.insert? call.row with
    | .error e, _ => (.error e, { db with content })
    | .ok (), none =>
      (.error (ApplyPhase.record.error call.sequence
        ("UNIQUE constraint failed: mutation_journal.home_device_id, " ++
          "mutation_journal.store_id, mutation_journal.sequence")), { db with content })
    | .ok (), some journal =>
      match fault.attempt .commit call.sequence with
      | .error e => (.error e, ⟨content, journal⟩)
      | .ok () => (.ok (.applied call.sequence), ⟨content, journal⟩)

/-- The payload stored for the sequence of an entry. -/
def ApplyCall.storedPayload (call : ApplyCall R) (fault : ApplyFault) (db : ReplicaDb R) :
    Except MnemesError (Option Bytes) := do
  fault.attempt .openConnection call.sequence
  fault.attempt .check call.sequence
  return (db.journal.find? call.row.key).map (·.payload)

/-- `apply_entry`. An event is a call whose transaction has committed. -/
def applyEntry (P : Platform) (call : ApplyCall R) :
    ExceptT MnemesError (Proc (ReplicaDb R) ApplyFault (ApplyCall R)) ApplyOutcome := do
  let storedPayload ← ExceptT.mk (Proc.atomic fun db fault =>
    (call.storedPayload fault db, db, []))
  match storedPayload with
  | some storedPayload =>
    if P.sha256 storedPayload ≠ P.sha256 call.payload then
      throw (.replication s!"replay payload mismatch for sequence {call.sequence.toInt}")
    return .alreadyApplied call.sequence
  | none =>
    ExceptT.mk (Proc.atomic fun db fault =>
      match fault.attempt .begin call.sequence with
      | .error e => (.error e, db, [])
      | .ok () =>
        match transaction (call.replayAndRecord fault) db with
        | (.error e, db) => (.error e, db, [])
        | (.ok outcome, db) => (.ok outcome, db, [call]))

/-- The calls on one replica, in any number and any interleaving. A call that is dropped gives its
transaction up. -/
def replicaService (P : Platform) (R : Type) :
    Service (ApplyCall R) (ReplicaDb R) ApplyFault (ApplyCall R)
      (Except MnemesError ApplyOutcome) where
  body _ call := (applyEntry P call).run
  release _ db := db

/-! ## What the actions of a call do -/

/-- The transaction of a call: its replay and its row, as a whole. -/
def Commits (call : ApplyCall R) (db db' : ReplicaDb R) : Prop :=
  call.replay db.content = (.ok (), db'.content) ∧ db.journal.insert? call.row = some db'.journal

/-- Transactions that were committed one after the other. -/
inductive Committed (db₀ : ReplicaDb R) : List (ApplyCall R) → ReplicaDb R → Prop where
  | nil : Committed db₀ [] db₀
  | snoc {calls : List (ApplyCall R)} {call : ApplyCall R} {db db' : ReplicaDb R} :
    Committed db₀ calls db → Commits call db db' → Committed db₀ (calls ++ [call]) db'

/-- A transaction commits as a whole, or leaves the database as it was. -/
theorem transaction_replayAndRecord {call : ApplyCall R} {fault : ApplyFault} {db db' : ReplicaDb R}
    {r : Except MnemesError ApplyOutcome}
    (h : transaction (call.replayAndRecord fault) db = (r, db')) :
    (∃ e, r = .error e) ∧ db' = db ∨ r = .ok (.applied call.sequence) ∧ Commits call db db' := by
  unfold transaction ApplyCall.replayAndRecord at h
  rcases hreplay : call.replay db.content with ⟨answer, content⟩
  cases answer with
  | error e =>
    simp only [hreplay] at h
    cases h
    exact .inl ⟨⟨e, rfl⟩, rfl⟩
  | ok u =>
    simp only [hreplay] at h
    cases hrecord : fault.attempt .record call.sequence with
    | error e =>
      simp only [hrecord] at h
      cases h
      exact .inl ⟨⟨e, rfl⟩, rfl⟩
    | ok u =>
      cases hinsert : db.journal.insert? call.row with
      | none =>
        simp only [hrecord, hinsert] at h
        cases h
        exact .inl ⟨⟨_, rfl⟩, rfl⟩
      | some journal =>
        cases hcommit : fault.attempt .commit call.sequence with
        | error e =>
          simp only [hrecord, hinsert, hcommit] at h
          cases h
          exact .inl ⟨⟨e, rfl⟩, rfl⟩
        | ok u =>
          simp only [hrecord, hinsert, hcommit] at h
          cases h
          exact .inr ⟨rfl, hreplay, hinsert⟩

/-- A call that commits adds its row. -/
theorem Commits.rows {call : ApplyCall R} {db db' : ReplicaDb R} (h : Commits call db db') :
    db'.journal.rows = db.journal.rows ++ [call.row] := (Table.insert?_eq_some h.2).2

/-- The rows of a replica are the initial ones and those of the committed calls. -/
theorem Committed.rows {db₀ db : ReplicaDb R} {calls : List (ApplyCall R)}
    (h : Committed db₀ calls db) :
    db.journal.rows = db₀.journal.rows ++ calls.map (·.row) := by
  induction h with
  | nil => simp
  | snoc _ hcommit ih => rw [hcommit.rows, ih, List.map_append, List.append_assoc]; rfl

/-- No sequence is committed twice, or while it is stored. -/
theorem Committed.once {db₀ db : ReplicaDb R} {calls : List (ApplyCall R)}
    (h : Committed db₀ calls db) :
    (calls.map (·.row.key)).Nodup ∧ ∀ call ∈ calls, db₀.journal.find? call.row.key = none := by
  have hnodup := db.journal.nodup
  rw [h.rows, List.map_append, List.nodup_append, List.map_map] at hnodup
  refine ⟨hnodup.2.1, fun call hcall => Table.find?_eq_none.2 fun row hrow hkey => ?_⟩
  exact hnodup.2.2 _ (List.mem_map_of_mem hrow) _ (List.mem_map_of_mem hcall) hkey

/-! ## Every interleaving -/

/-- What a call has committed. -/
def committedBy (h : Hist (ReplicaDb R) (ApplyCall R)) (i : Tid) : List (ApplyCall R) :=
  (h.trace.filter (·.1 = i)).map (·.2)

/-- The terms of the calls: rows stay, and a call commits for itself only. -/
def applyTerms (P : Platform) (R : Type) : RelyGuarantee (replicaService P R) where
  inv := fun _ => True
  rely := fun i h h' =>
    committedBy h' i = committedBy h i ∧ h.state.journal.rows <+: h'.state.journal.rows
  guar := fun i call h h' => h' = h.after i (h.state, []) ∨
    ∃ db, Commits call h.state db ∧ h' = h.after i (db, [call])
  rely_refl := fun _ _ => ⟨rfl, List.prefix_rfl⟩
  rely_trans := fun h h' => ⟨h'.1.trans h.1, h.2.trans h'.2⟩
  guar_rely := by
    rintro i call j h h' hne - (rfl | ⟨db, hcommit, rfl⟩)
    · simp [committedBy, Hist.after]
    · refine ⟨by simp [committedBy, Hist.after, hne], ?_⟩
      show _ <+: db.journal.rows
      rw [hcommit.rows]
      exact List.prefix_append _ _
  guar_inv := fun _ _ => trivial
  release_guar := fun _ => .inl rfl

/-- What the result of a call says: the call has committed exactly if it is `Applied`, and
`AlreadyApplied` answers a stored sequence whose payload has the digest. -/
def applyPost (P : Platform) (i : Tid) (call : ApplyCall R) (r : Except MnemesError ApplyOutcome)
    (h : Hist (ReplicaDb R) (ApplyCall R)) : Prop :=
  match r with
  | .error _ => committedBy h i = []
  | .ok (.applied sequence) => sequence = call.sequence ∧ committedBy h i = [call]
  | .ok (.alreadyApplied sequence) => sequence = call.sequence ∧ committedBy h i = [] ∧
    ∃ row ∈ h.state.journal.rows, row.key = call.row.key ∧
      P.sha256 row.payload = P.sha256 call.payload

/-- What is said of a result stays true. -/
theorem applyPost_stable {P : Platform} {i : Tid} {call : ApplyCall R}
    {r : Except MnemesError ApplyOutcome} {h h' : Hist (ReplicaDb R) (ApplyCall R)}
    (hpost : applyPost P i call r h) (hr : (applyTerms P R).rely i h h') :
    applyPost P i call r h' := by
  obtain ⟨hown, hrows⟩ := hr
  match r with
  | .error e => exact hown.trans hpost
  | .ok (.applied sequence) => exact ⟨hpost.1, hown.trans hpost.2⟩
  | .ok (.alreadyApplied sequence) =>
    obtain ⟨hsequence, hnone, row, hrow, hkey⟩ := hpost
    exact ⟨hsequence, hown.trans hnone, row, hrows.subset hrow, hkey⟩

/-- Each call of the replica keeps to its terms. -/
theorem apply_bodies (P : Platform) : (applyTerms P R).Bodies (applyPost P) := by
  intro i call h _ hunseen
  have hnone : committedBy h i = [] := by
    rw [committedBy, List.map_eq_nil_iff, List.filter_eq_nil_iff]
    intro p hp
    simpa using hunseen p hp
  have hidle : ∀ h' : Hist (ReplicaDb R) (ApplyCall R), committedBy (h'.after i (h'.state, [])) i =
      committedBy h' i := fun h' => by simp [committedBy, Hist.after]
  show (applyEntry P call).run.Safe ((applyTerms P R).terms i call) _ h
  unfold applyEntry
  refine Proc.Safe.attempt_atomic fun h1 fault hr _ => ⟨.inl rfl, ?_⟩
  have hnone1 := (hidle h1).trans (hr.1.trans hnone)
  dsimp only
  cases hstored : call.storedPayload fault h1.state with
  | error e => exact fun h2 hr2 _ => applyPost_stable (r := .error e) hnone1 hr2
  | ok storedPayload =>
    dsimp only
    cases storedPayload with
    | some payload =>
      dsimp only
      have hrow :
          ∃ row ∈ h1.state.journal.rows, row.key = call.row.key ∧ row.payload = payload := by
        simp only [ApplyCall.storedPayload, bind_eq_ok] at hstored
        obtain ⟨-, -, -, -, hfound⟩ := hstored
        obtain ⟨row, hfind, hpayload⟩ := Option.map_eq_some_iff.1 (Except.ok.inj hfound)
        exact ⟨row, (Table.find?_eq_some.1 hfind).1, (Table.find?_eq_some.1 hfind).2, hpayload⟩
      by_cases hdigest : P.sha256 payload ≠ P.sha256 call.payload
      · rw [if_pos hdigest]
        exact Proc.Safe.done fun h2 hr2 _ => applyPost_stable (r := .error _) hnone1 hr2
      · rw [if_neg hdigest]
        obtain ⟨row, hmem, hkey, hpayload⟩ := hrow
        exact Proc.Safe.done fun h2 hr2 _ =>
          applyPost_stable (r := .ok (.alreadyApplied call.sequence))
            ⟨rfl, hnone1, row, hmem, hkey, by rw [hpayload]; exact not_not.1 hdigest⟩ hr2
    | none =>
      refine Proc.Safe.atomic fun h2 fault2 hr2 _ => ?_
      have hnone2 := hr2.1.trans hnone1
      cases hbegin : fault2.attempt .begin call.sequence with
      | error e =>
        exact ⟨.inl rfl, fun h3 hr3 _ => applyPost_stable (r := .error e)
          ((hidle h2).trans hnone2) hr3⟩
      | ok u =>
        rcases htransaction : transaction (call.replayAndRecord fault2) h2.state with ⟨r, db⟩
        rcases transaction_replayAndRecord htransaction with ⟨⟨e, rfl⟩, rfl⟩ | ⟨rfl, hcommit⟩
        · exact ⟨.inl rfl, fun h3 hr3 _ => applyPost_stable (r := .error e)
            ((hidle h2).trans hnone2) hr3⟩
        · refine ⟨.inr ⟨db, hcommit, rfl⟩, fun h3 hr3 _ =>
            applyPost_stable (r := .ok (.applied call.sequence)) ⟨rfl, ?_⟩ hr3⟩
          show committedBy (h2.after i (db, [call])) i = [call]
          rw [committedBy] at hnone2 ⊢
          simp [Hist.after, hnone2]

/-- The rows that a run may meet: those stored at the start, and those of the submitted entries. -/
def Known (db₀ : ReplicaDb R) (cmds : List (Command (ApplyCall R) ApplyFault))
    (row : MutationJournalRow) : Prop :=
  row ∈ db₀.journal.rows ∨ ∃ i call, .start i call ∈ cmds ∧ call.row = row

/-- The database after a run is what the committed transactions leave, each of a submitted entry. -/
theorem replica_committed {P : Platform} {db₀ : ReplicaDb R}
    {cmds : List (Command (ApplyCall R) ApplyFault)}
    {c : Config (ApplyCall R) (ReplicaDb R) ApplyFault (ApplyCall R)
      (Except MnemesError ApplyOutcome)}
    (hrun : (replicaService P R).run (Service.init db₀) cmds = some c) :
    Committed db₀ (c.hist.trace.map (·.2)) c.hist.state ∧
      ∀ row ∈ c.hist.state.journal.rows, Known db₀ cmds row := by
  have hinit : (applyTerms P R).Holds (applyPost P) (Service.init db₀) :=
    RelyGuarantee.Holds.init trivial
  refine hinit.invariant_of (apply_bodies P) (A := fun call => ∃ i, .start i call ∈ cmds)
    (I := fun h => Committed db₀ (h.trace.map (·.2)) h.state ∧
      ∀ row ∈ h.state.journal.rows, Known db₀ cmds row)
    (fun _ _ _ hlive => by cases hlive) ⟨.nil, fun row hrow => .inl hrow⟩ ?_
    (fun i call hstart => ⟨i, hstart⟩) hrun
  rintro i call h h' ⟨j, hstart⟩ ⟨hcommitted, hknown⟩ (rfl | ⟨db, hcommit, rfl⟩)
  · refine ⟨?_, hknown⟩
    simpa [Hist.after] using hcommitted
  · refine ⟨?_, fun row hrow => ?_⟩
    · have hsnoc := hcommitted.snoc hcommit
      simpa [Hist.after] using hsnoc
    · change row ∈ db.journal.rows at hrow
      rw [hcommit.rows, List.mem_append, List.mem_singleton] at hrow
      rcases hrow with hrow | rfl
      · exact hknown row hrow
      · exact .inr ⟨j, call, hstart, rfl⟩

/-- Applying is atomic, exactly once and safe against collisions in every interleaving of calls on a
replica, if the entries of a sequence that have one payload have one operation kind.
- The database is what the committed transactions leave, each of which replayed an entry and
  recorded its row; no sequence is committed twice, or while it is stored.
- A call that fails has committed nothing.
- A call answered `Applied` has committed its entry; one answered `AlreadyApplied` has committed
  nothing, and its entry is stored. -/
theorem replica_applies_once {P : Platform} {db₀ : ReplicaDb R}
    {cmds : List (Command (ApplyCall R) ApplyFault)}
    {c : Config (ApplyCall R) (ReplicaDb R) ApplyFault (ApplyCall R)
      (Except MnemesError ApplyOutcome)}
    (hrun : (replicaService P R).run (Service.init db₀) cmds = some c)
    (hsha : Set.InjOn P.sha256 {payload | ∃ row, Known db₀ cmds row ∧ row.payload = payload})
    (hkinds : ∀ row, Known db₀ cmds row → ∀ row', Known db₀ cmds row' → row.key = row'.key →
      row.payload = row'.payload → row.operationKind = row'.operationKind) :
    (Committed db₀ (c.hist.trace.map (·.2)) c.hist.state ∧
      (c.hist.trace.map (·.2.row.key)).Nodup ∧
      ∀ p ∈ c.hist.trace, db₀.journal.find? p.2.row.key = none) ∧
    ∀ i call r, c.slots i = .live call (.done r) →
      match r with
      | .error _ => committedBy c.hist i = []
      | .ok (.applied sequence) => sequence = call.sequence ∧ committedBy c.hist i = [call]
      | .ok (.alreadyApplied sequence) => sequence = call.sequence ∧ committedBy c.hist i = [] ∧
        call.row ∈ c.hist.state.journal.rows := by
  obtain ⟨hcommitted, hknown⟩ := replica_committed hrun
  have honce := hcommitted.once
  rw [List.map_map] at honce
  refine ⟨⟨hcommitted, honce.1, fun p hp => honce.2 _ (List.mem_map_of_mem hp)⟩, ?_⟩
  intro i call r hdone
  have hinit : (applyTerms P R).Holds (applyPost P) (Service.init db₀) :=
    RelyGuarantee.Holds.init trivial
  have hpost := (hinit.run (apply_bodies P) hrun).result hdone
  cases r with
  | error e => exact hpost
  | ok outcome =>
    cases outcome with
    | applied sequence => exact hpost
    | alreadyApplied sequence =>
      obtain ⟨hsequence, hnone, row, hrow, hkey, hdigest⟩ := hpost
      -- the entry answered was submitted by the call, which is live
      have hcall : Known db₀ cmds call.row := by
        rcases (replicaService P R).run_live hrun hdone with hstart | ⟨t, hlive⟩
        · exact .inr ⟨i, call, hstart, rfl⟩
        · cases hlive
      have hpayload : row.payload = call.row.payload :=
        hsha ⟨row, hknown row hrow, rfl⟩ ⟨call.row, hcall, rfl⟩ hdigest
      have hkind := hkinds row (hknown row hrow) call.row hcall hkey hpayload
      have hsame : row = call.row := by
        simp only [MutationJournalRow.key, Prod.mk.injEq] at hkey
        obtain ⟨hdevice, hstore, hsequence⟩ := hkey
        cases row
        simp only at hdevice hstore hsequence hkind hpayload
        rw [hdevice, hstore, hsequence, hkind, hpayload]
      exact ⟨hsequence, hnone, hsame ▸ hrow⟩

end

namespace Sample

/-- Each identity that parses is canonical, as none does. -/
theorem noUuid_canonical {parsed : Uuid} (h : Except.error "invalid character" = Except.ok parsed) :
    (.error "invalid character" : Except String Uuid) = .ok parsed := h

/-- Digests that tell the payloads below apart. -/
def payloadDigests : Platform where
  uuidParseStr _ := .error "invalid character"
  uuid_canonical := noUuid_canonical
  sha256 bytes := Vector.replicate 32 (bytes.headD 0)
  verifyingKey _ := .error "not a key"
  verify _ _ _ := .error "not a signature"
  verifyingKeyOf := id
  sign _ _ := Vector.replicate 64 0

/-- An entry that is replayed by counting it. -/
def counted (sequence : Int64) (operationKind : String) (payload : Bytes) : ApplyCall Nat where
  deviceId := "device"
  storeId := "store"
  sequence
  operationKind
  payload
  replay n := (.ok (), n + 1)

/-- The same entry, whose replay fails after it has counted it. -/
def failing (sequence : Int64) (operationKind : String) (payload : Bytes) : ApplyCall Nat where
  deviceId := "device"
  storeId := "store"
  sequence
  operationKind
  payload
  replay n := (.error (.replication "simulated replay failure"), n + 1)

def emptyReplica : ReplicaDb Nat := ⟨0, .empty⟩

/-- A replay that fails, two calls that both get past the lookup, and one that comes later. -/
def overlappingApplies : List (Command (ApplyCall Nat) ApplyFault) :=
  [.start 0 (failing 1 "add_fact" [7]), .run 0 none, .run 0 none,
    .start 1 (counted 1 "add_fact" [7]), .start 2 (counted 1 "add_fact" [7]),
    .run 1 none, .run 2 none, .run 2 none, .run 1 none,
    .start 3 (counted 1 "add_fact" [7]), .run 3 none]

/-- Two entries of one sequence with one payload. -/
def collidingKinds : List (Command (ApplyCall Nat) ApplyFault) :=
  [.start 0 (counted 1 "add_fact" [7]), .run 0 none, .run 0 none,
    .start 1 (counted 1 "delete_fact" [7]), .run 1 none]

end Sample

open Sample in
/-- Of overlapping applications of one entry, one commits. -/
theorem replica_applies_once_sample : ∃ c,
    (replicaService payloadDigests Nat).run (Service.init emptyReplica) overlappingApplies =
      some c ∧
      c.hist.state.content = 1 ∧ c.hist.trace.length = 1 ∧
      (∃ e, c.result? 1 = some (.error e)) ∧ committedBy c.hist 1 = [] ∧
      c.result? 3 = some (.ok (.alreadyApplied 1)) ∧
      (counted 1 "add_fact" [7]).row ∈ c.hist.state.journal.rows := by
  have hrun : ((replicaService payloadDigests Nat).run (Service.init emptyReplica)
      overlappingApplies).any (fun c => c.hist.state.content = 1 ∧ c.hist.trace.length = 1 ∧
        (c.result? 1).any (fun r => r.toOption.isNone) ∧
        (c.call? 3).map (·.row) = some (counted 1 "add_fact" [7]).row ∧
        c.result? 3 = some (.ok (.alreadyApplied 1))) = true := by
    decide +kernel
  have hknown : ∀ row, Known emptyReplica overlappingApplies row →
      row = (counted 1 "add_fact" [7]).row := by
    rintro row (hrow | ⟨i, call, hstart, rfl⟩)
    · cases hrow
    · simp only [overlappingApplies, List.mem_cons, Command.start.injEq, reduceCtorEq, false_or,
        List.not_mem_nil, or_false] at hstart
      obtain ⟨-, rfl⟩ | ⟨-, rfl⟩ | ⟨-, rfl⟩ | ⟨-, rfl⟩ := hstart <;> rfl
  obtain ⟨c, hc, h⟩ := (Option.any_eq_true _ _).1 hrun
  obtain ⟨hcontent, htrace, h1, hcall, h3⟩ := of_decide_eq_true h
  obtain ⟨e, h1⟩ : ∃ e, c.result? 1 = some (.error e) := by
    obtain ⟨r, hr, hnone⟩ := (Option.any_eq_true _ _).1 h1
    cases r with
    | error e => exact ⟨e, hr⟩
    | ok _ => cases hnone
  obtain ⟨-, hresults⟩ := replica_applies_once hc
    (by
      rintro a ⟨row, hrow, rfl⟩ b ⟨row', hrow', rfl⟩ -
      rw [hknown row hrow, hknown row' hrow'])
    (fun row hrow row' hrow' _ _ => by rw [hknown row hrow, hknown row' hrow'])
  obtain ⟨k, hk⟩ := Config.result?_eq_some.1 h1
  obtain ⟨call, hdone⟩ := Config.result?_eq_some.1 h3
  obtain ⟨-, -, hstored⟩ := hresults 3 call _ hdone
  simp only [Config.call?, hdone, Option.map_some, Option.some.injEq] at hcall
  exact ⟨c, hc, hcontent, htrace, ⟨e, h1⟩, hresults 1 k _ hk, h3, hcall ▸ hstored⟩

open Sample in
/-- An entry is answered as applied already although the stored one has another operation kind. -/
theorem other_kind_already_applied : ∃ c,
    (replicaService payloadDigests Nat).run (Service.init emptyReplica) collidingKinds = some c ∧
      c.result? 1 = some (.ok (.alreadyApplied 1)) ∧
      c.hist.state.journal.rows = [(counted 1 "add_fact" [7]).row] ∧
      (counted 1 "delete_fact" [7]).row ∉ c.hist.state.journal.rows := by
  have hrun : ((replicaService payloadDigests Nat).run (Service.init emptyReplica)
      collidingKinds).any (fun c => c.result? 1 = some (.ok (.alreadyApplied 1)) ∧
        c.hist.state.journal.rows = [(counted 1 "add_fact" [7]).row] ∧
        (counted 1 "delete_fact" [7]).row ∉ c.hist.state.journal.rows) = true := by
    decide +kernel
  obtain ⟨c, hc, h⟩ := (Option.any_eq_true _ _).1 hrun
  exact ⟨c, hc, of_decide_eq_true h⟩

end Mnemes
