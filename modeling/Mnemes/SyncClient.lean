import Mnemes.Server

/-!
# The sync client

`mnemes-sync-client` (`bin/mnemes-sync-client.rs`) pushes the fact-create records of a device's
journal to the server, one record an invocation: it reads its watermark, takes the first journal row
from there on, wraps it in a signed batch under a fresh identifier, posts the batch, and moves the
watermark on when the acknowledgement is the one it asked for.

`World` puts the client next to the server. What lies between them is the list of the requests
posted and the list of the responses given: a request may reach the server any number of times or
never, and an invocation may receive any response that was given, or none. Invocations may overlap,
and any call may stop at any point.
-/

namespace Mnemes

open Concurrency Relational

variable {M : SemanticMemory} {α β : Type}

/-! ## The journal -/

/-- A row of `mutation_journal`, as far as the client reads it. The journal numbers each stream
from one. -/
structure JournalRow where
  homeDeviceId : String
  storeId : String
  streamEpoch : Int64
  sequence : Int64
  payload : Bytes
  payloadDigest : Bytes
  predecessorDigest : Bytes
  envelopeDigest : Bytes
  operationKind : String
  payloadSchema : String
  recordState : String
  positive : 1 ≤ sequence
  deriving DecidableEq

/-- The stream of a row. -/
def JournalRow.stream (row : JournalRow) : Stream :=
  ⟨row.homeDeviceId, row.storeId, row.streamEpoch.toUInt64⟩

/-- What identifies a row: its stream and its sequence there. -/
def JournalRow.key (row : JournalRow) : Stream × Int64 := (row.stream, row.sequence)

/-- `mutation_journal`. -/
abbrev Journal := Table JournalRow JournalRow.key

/-- A digest column: 32 bytes. -/
def digestColumn (index : Nat) (value : Bytes) : Except String Bytes32 :=
  if h : value.length = 32 then .ok ⟨value.toArray, by simpa using h⟩
  else .error s!"digest col {index} length {value.length}"

/-- The transported record of a row, which must be a verified fact-create record. -/
def JournalRow.entry (row : JournalRow) : Except String FactCreateTransportEntryV1 :=
  if row.operationKind ≠ factCreateOperation ∨ row.payloadSchema ≠ factCreatePayloadSchema ∨
      row.recordState ≠ "verified_v1" then
    .error (s!"journal row {row.sequence.toInt} is not a verified fact-create record " ++
      s!"(op={row.operationKind}, schema={row.payloadSchema}, state={row.recordState})")
  else do
    let payloadDigest ← digestColumn 2 row.payloadDigest
    let predecessorDigest ← digestColumn 3 row.predecessorDigest
    let journalEnvelopeDigest ← digestColumn 4 row.envelopeDigest
    return { row with payloadDigest, predecessorDigest, journalEnvelopeDigest }

/-- `read_journal_entry`: the first row of the stream from `afterSequence` on. -/
def readJournalEntry (journal : Journal) (device store : String) (epoch : UInt64)
    (afterSequence : Int64) : Except String (Option FactCreateTransportEntryV1) :=
  let rows := journal.rows.filter fun row => row.homeDeviceId = device ∧ row.storeId = store ∧
    row.streamEpoch = epoch.toInt64 ∧ afterSequence ≤ row.sequence
  match rows.minOn? (·.sequence) with
  | none => .ok none
  | some row => row.entry.map some

/-! ## The watermark -/

/-- What the watermark file says. -/
structure Watermark where
  protocolVersion : UInt16
  homeDeviceId : String
  storeId : String
  streamEpoch : UInt64
  nextSequence : Int64
  lastBatchId : Option String
  lastDisposition : Option String
  updatedAt : String
  deriving DecidableEq

/-- The stream a watermark is about. -/
def Watermark.stream (w : Watermark) : Stream := ⟨w.homeDeviceId, w.storeId, w.streamEpoch⟩

/-- The watermark file and its temporary file: which file each name stands for, and what each file
parses to. Two invocations that create the temporary file share it. -/
structure Files where
  content : Nat → Option Watermark
  allocated : Nat
  watermark : Option Nat
  tmp : Option Nat

namespace Files

/-- `File::create` of the temporary file: the file, which is empty now. -/
def create (files : Files) : Nat × Files :=
  match files.tmp with
  | some n => (n, { files with content := Function.update files.content n none })
  | none =>
    (files.allocated, { files with
      content := Function.update files.content files.allocated none
      allocated := files.allocated + 1
      tmp := some files.allocated })

/-- `write_all` of a serialized watermark. -/
def write (files : Files) (n : Nat) (w : Watermark) : Files :=
  { files with content := Function.update files.content n (some w) }

/-- `rename` of the temporary file onto the watermark. -/
def rename (files : Files) : Except String Files :=
  match files.tmp with
  | some n => .ok { files with watermark := some n, tmp := none }
  | none => .error "wm rename: No such file or directory"

/-- The next sequence of a stream as an invocation takes it from the file; `none` where the
invocation refuses the file. -/
def nextSequence (files : Files) (σ : Stream) : Option Int64 :=
  match files.watermark with
  | none => some 0
  | some n => (files.content n).bind fun w => if w.stream = σ then some w.nextSequence else none

end Files

/-! ## The world of a client -/

/-- The server, the device's journal, the client's files, and what was sent between them. -/
structure World (M : SemanticMemory) where
  server : MnemesStore M
  journal : Journal
  files : Files
  requests : List Request
  responses : List Response

/-- What the environment decides inside one action: besides faults and the clock, the identifier
`Uuid::new_v4` draws, the seconds of `now_unix`, and the response that arrives. -/
structure Chance extends Choice where
  uuid : String
  unix : UInt64
  arrival : Nat
  deriving DecidableEq

/-- A call of the client. Its errors are the texts of `ClientError::Msg`. -/
abbrev ClientOp (M : SemanticMemory) (α : Type) := ExceptT String (Proc (World M) Chance Event) α

/-- One action of the client, with the words in front of a failure's text. -/
def clientAction (context : String) (f : World M → Chance → Except String (α × World M)) :
    ClientOp M α :=
  ExceptT.mk (Proc.atomic fun s x =>
    match x.fault with
    | some error => (.error s!"{context}: {error}", s, [])
    | none =>
      match f s x with
      | .error e => (.error e, s, [])
      | .ok (a, s') => (.ok a, s', []))

/-- `watermark.exists()`, which is `false` where the file cannot be looked at. -/
def watermarkExists : ClientOp M Bool :=
  ExceptT.mk (Proc.atomic fun s x => (.ok (x.fault.isNone && s.files.watermark.isSome), s, []))

/-- The watermark an invocation starts from. -/
def startWatermark (device store : String) (epoch : UInt64) : ClientOp M Watermark := do
  if ← watermarkExists then
    let w ← clientAction "watermark read" fun s _ =>
      match s.files.watermark with
      | none => .error "watermark read: No such file or directory"
      | some n =>
        match s.files.content n with
        | none => .error "watermark parse: EOF while parsing a value"
        | some w => .ok (w, s)
    if w.homeDeviceId ≠ device ∨ w.storeId ≠ store ∨ w.streamEpoch ≠ epoch then
      throw "watermark identity mismatch — refusing to advance a foreign stream"
    return w
  else
    return { protocolVersion := 1, homeDeviceId := device, storeId := store, streamEpoch := epoch
             nextSequence := 0, lastBatchId := none, lastDisposition := none, updatedAt := "" }

/-- `write_watermark`. -/
def writeWatermark (w : Watermark) : ClientOp M Unit := do
  let n ← clientAction "wm write" fun s _ =>
    .ok (s.files.create.1, { s with files := s.files.create.2 })
  clientAction "wm write" fun s _ => .ok ((), { s with files := s.files.write n w })
  clientAction "wm chmod" fun s _ => .ok ((), s)
  clientAction "wm rename" fun s _ => s.files.rename.map fun files => ((), { s with files })

/-- `validate_ack`. -/
def validateAck (P : Platform) (ack : Ack) (body : Bytes) (batchId homeDeviceId storeId : String)
    (streamEpoch : UInt64) (submittedSequence : Int64) : Except String Unit := do
  if ack.protocol ≠ "mnemes.fact-create.v1" then throw "ack protocol mismatch"
  if ack.record.batchId ≠ batchId then throw "ack batch_id mismatch"
  if ack.record.requestDigest ≠ hex (P.sha256 body).toList then throw "ack request digest mismatch"
  if ack.record.homeDeviceId ≠ homeDeviceId ∨ ack.record.storeId ≠ storeId ∨
      ack.record.streamEpoch ≠ streamEpoch then throw "ack stream identity mismatch"
  if ack.record.disposition ≠ "accepted" then
    throw s!"unexpected disposition {ack.record.disposition}"
  if ack.record.acceptedHead ≠ submittedSequence then throw "ack accepted head mismatch"

/-- The acknowledgement of a response. -/
def Response.ack (r : Response) : Except String Ack :=
  if 200 ≤ r.status ∧ r.status < 300 then
    match r.body with
    | .inl ack => .ok ack
    | .inr text => .error s!"ack parse: missing field — {text}"
  else .error s!"HTTP {r.status}"

/-- `serde_json::to_vec` of a batch: what it writes reads back as the batch. -/
structure ClientWire (W : Wire) where
  factCreateToVec : SignedFactCreateBatchV1 → Except String Bytes
  roundTrip {b : SignedFactCreateBatchV1} {bytes : Bytes} :
    factCreateToVec b = .ok bytes → W.factCreateFromSlice bytes = .ok b

/-- The arguments of an invocation, with its key and its credential loaded. -/
structure ClientArgs where
  homeDeviceId : String
  storeId : String
  streamEpoch : UInt64
  seed : Bytes32
  principal : String
  keyVersion : UInt64
  fencing : String
  credential : String
  observedAt : Option UInt64
  deriving DecidableEq

/-- What an invocation reports. -/
inductive Outcome where
  | upToDate (nextSequence : Int64)
  | synced (sequence acceptedHead : Int64) (disposition : String) (nextSequence : Int64)
  deriving DecidableEq

/-- The signed batch of an entry. -/
def ClientArgs.batch (P : Platform) (args : ClientArgs) (batchId : String) (now : UInt64)
    (entry : FactCreateTransportEntryV1) : Except String SignedFactCreateBatchV1 := do
  let batch ← (SignedFactCreateBatchV1.new batchId args.homeDeviceId args.storeId args.streamEpoch
    entry.sequence [entry] args.principal args.keyVersion (args.observedAt.getD now)
    args.fencing).mapError fun e => s!"batch build: {e.display}"
  (batch.sign P args.seed).mapError fun e => s!"sign: {e.display}"

/-- `main`, after its arguments were parsed. -/
def syncClient (P : Platform) {W : Wire} (C : ClientWire W) (args : ClientArgs) :
    ClientOp M Outcome := do
  let wm ← startWatermark args.homeDeviceId args.storeId args.streamEpoch
  let found ← clientAction "journal query" fun s _ =>
    (readJournalEntry s.journal args.homeDeviceId args.storeId args.streamEpoch
      wm.nextSequence).map (·, s)
  match found with
  | none => return .upToDate wm.nextSequence
  | some entry =>
    let (batchId, now) ← clientAction "uuid" fun s x => .ok ((x.uuid, x.unix), s)
    let batch ← liftM (args.batch P batchId now entry)
    let body ← liftM ((C.factCreateToVec batch).mapError fun e => s!"serialize: {e}")
    clientAction "http" fun s _ => .ok ((), { s with
      requests := s.requests ++ [⟨some ("Bearer " ++ args.credential), body⟩] })
    let (response, updatedAt) ← clientAction "http" fun s x =>
      match s.responses[x.arrival]? with
      | none => .error "http: connection closed before message completed"
      | some r => .ok ((r, x.now), s)
    let ack ← liftM response.ack
    liftM (validateAck P ack body batchId args.homeDeviceId args.storeId args.streamEpoch
      entry.sequence)
    let nextSequence := ack.record.acceptedHead + 1
    writeWatermark { wm with
      nextSequence, lastBatchId := some batchId, lastDisposition := some ack.record.disposition
      updatedAt }
    return .synced entry.sequence ack.record.acceptedHead ack.record.disposition nextSequence

/-! ## The service -/

/-- The calls of the world: an invocation of the client, the arrival of a posted request at the
server, any other call of the server, and the device adding a row to its journal. -/
inductive WorldCall where
  | sync (args : ClientArgs)
  | deliver (req : Request)
  | serve (call : Call)
  | append (row : JournalRow)
  deriving DecidableEq

/-- The result of a call. -/
inductive WorldResult where
  | client (r : Except String Outcome)
  | response (r : Response)
  | server (r : Result)
  | appended (r : Bool)
  deriving DecidableEq

/-- A process of the server, in the world. -/
def onServer (t : Proc (MnemesStore M) Choice Event α) : Proc (World M) Chance Event α :=
  t.zoom World.server (fun s server => { s with server }) Chance.toChoice id

/-- The process of a call. -/
def WorldCall.body (P : Platform) {W : Wire} (C : ClientWire W) (i : Tid) :
    WorldCall → Proc (World M) Chance Event WorldResult
  | .sync args => WorldResult.client <$> (syncClient P C args).run
  | .deliver req =>
    (Proc.await (fun s => req ∈ s.requests) fun s _ => ((), s, [])).bind fun _ =>
      (onServer (factCreateHandler P W i req)).bind fun r =>
        Proc.atomic fun s _ => (.response r, { s with responses := s.responses ++ [r] }, [])
  | .serve call => (onServer (call.body P W i)).bind fun r => .done (.server r)
  | .append row => Proc.atomic fun s _ =>
    match s.journal.insert? row with
    | none => (.appended false, s, [])
    | some journal => (.appended true, { s with journal }, [])

/-- The world as a service. -/
def world (P : Platform) (M : SemanticMemory) {W : Wire} (C : ClientWire W) :
    Service WorldCall (World M) Chance Event WorldResult where
  body i call := call.body P C i
  release i s := { s with server := releaseGates i s.server }

end Mnemes
