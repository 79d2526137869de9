import Mnemes.Replication.Acknowledgement
import Mnemes.SyncClient

/-!
# End-to-end delivery

The client's watermark, the server's acknowledgements and the head of the owner's stream are stored
by three separate commits. In every reachable state of the world, whatever is lost, repeated,
interrupted or retried, the stream the server has applied is the journal's rows from the first on,
in order and once each, at least up to the client's watermark, and each of them was posted by an
invocation (`fact_create_delivery`). It may be ahead of the watermark: a record is applied before it
is acknowledged, and acknowledged before the watermark moves (`applied_ahead`).
-/

namespace Mnemes

open Concurrency Relational

variable {M : SemanticMemory} {P : Platform} {W : Wire} {C : ClientWire W} {α β : Type}

/-! ## What a step of the world can do -/

/-- The owner's envelope of a row. -/
def JournalRow.envelope (row : JournalRow) : Except String ReplicaEnvelopeV1 :=
  row.entry.map (·.toSemanticEnvelope row.homeDeviceId row.storeId row.streamEpoch.toUInt64)

/-- The request carries a batch of one row of the journal. -/
def FromJournal (W : Wire) (s : World M) (req : Request) : Prop :=
  ∃ row ∈ s.journal.rows, ∃ entry batch, row.entry = .ok entry ∧
    W.factCreateFromSlice req.body = .ok batch ∧ batch.entries = [entry] ∧
    batch.homeDeviceId = row.homeDeviceId ∧ batch.storeId = row.storeId ∧
    batch.streamEpoch = row.streamEpoch.toUInt64

/-- A response of the server acknowledges the row before the watermark. -/
def Watermark.Acknowledged (w : Watermark) (s : World M) : Prop :=
  ∃ r ∈ s.responses, ∃ ack, r.body = .inl ack ∧ ack.record.homeDeviceId = w.homeDeviceId ∧
    ack.record.storeId = w.storeId ∧ ack.record.streamEpoch = w.streamEpoch ∧
    w.nextSequence = ack.record.acceptedHead + 1

/-- The part of a world's history that the server sees. -/
def serverView (g : Hist (World M) Event) : Hist (MnemesStore M) Event :=
  ⟨g.state.server, g.trace⟩

/-- The call of the server that a call of the world runs. -/
def WorldCall.server : WorldCall → Option Call
  | .deliver req => some (.factCreateHandler req)
  | .serve call => some call
  | .sync _ | .append _ => none

/-- What one action of a call may do to the world. -/
inductive Moves (P : Platform) (W : Wire) (i : Tid) (call : WorldCall) (g : Hist (World M) Event) :
    World M → List Event → Prop where
  /-- Nothing changes. -/
  | idle : Moves P W i call g g.state []
  /-- The server acts, for a request only when it was posted. -/
  | server {k : Call} {s' : MnemesStore M} {es : List Event} : call.server = some k →
    (∀ req, call = .deliver req → req ∈ g.state.requests) →
    Action P i g.trace g.state.server s' es → (∀ e ∈ es, k.May P M W i g.trace e) →
    Moves P W i call g { g.state with server := s' } es
  /-- A dropped call gives its gates back. -/
  | release : Moves P W i call g { g.state with server := releaseGates i g.state.server } []
  /-- The server responds. -/
  | answer {r : Response} :
    (∀ ack, r.body = .inl ack → ∃ row ∈ (g.state.server.db.replication .factCreate).acks.rows,
      row.record = .ok ack.record) →
    Moves P W i call g { g.state with responses := g.state.responses ++ [r] } []
  /-- The device adds a row to its journal. -/
  | append {row : JournalRow} {journal : Journal} : g.state.journal.insert? row = some journal →
    Moves P W i call g { g.state with journal } []
  /-- An invocation posts a row of the journal. -/
  | post {req : Request} : FromJournal W g.state req →
    Moves P W i call g { g.state with requests := g.state.requests ++ [req] } []
  /-- An invocation works on its files; what it writes was acknowledged. -/
  | files {files : Files} :
    (∀ n w, files.content n = some w →
      g.state.files.content n = some w ∨ w.Acknowledged g.state) →
    Moves P W i call g { g.state with files } []

/-- What the other calls leave alone between two actions of a call. -/
structure WorldRely (i : Tid) (g g' : Hist (World M) Event) : Prop where
  server : Rely i (serverView g) (serverView g')
  journal : g.state.journal.rows <+: g'.state.journal.rows
  requests : g.state.requests <+: g'.state.requests
  responses : g.state.responses <+: g'.state.responses

/-- Other calls may do nothing. -/
theorem WorldRely.refl (i : Tid) (g : Hist (World M) Event) : WorldRely i g g :=
  ⟨.refl i _, List.prefix_rfl, List.prefix_rfl, List.prefix_rfl⟩

/-- What other calls do twice they may do. -/
theorem WorldRely.trans {i : Tid} {g₁ g₂ g₃ : Hist (World M) Event} (h12 : WorldRely i g₁ g₂)
    (h23 : WorldRely i g₂ g₃) : WorldRely i g₁ g₃ where
  server := h12.server.trans h23.server
  journal := h12.journal.trans h23.journal
  requests := h12.requests.trans h23.requests
  responses := h12.responses.trans h23.responses

@[simp] theorem serverView_after (g : Hist (World M) Event) (i : Tid) (p : World M × List Event) :
    serverView (g.after i p) = (serverView g).after i (p.1.server, p.2) := rfl

/-- A step that leaves the server alone is within every call's rely on it. -/
theorem serverView_rely {i j : Tid} {g : Hist (World M) Event} {s' : World M}
    (hs : s'.server = g.state.server) :
    Rely j (serverView g) (serverView (g.after i (s', []))) := by
  rw [serverView_after, hs]
  exact .after_quiet rfl rfl rfl

/-- What a call does is what other calls rely on. -/
theorem Moves.rely {i j : Tid} {call : WorldCall} {g : Hist (World M) Event} {s' : World M}
    {es : List Event} (hm : Moves P W i call g s' es) (hij : i ≠ j) :
    WorldRely j g (g.after i (s', es)) := by
  have hpre {γ : Type} {xs : List γ} {x : γ} : xs <+: xs ++ [x] := List.prefix_append _ _
  cases hm with
  | idle | files _ =>
    exact ⟨serverView_rely rfl, List.prefix_rfl, List.prefix_rfl, List.prefix_rfl⟩
  | server _ _ hact _ =>
    exact ⟨Acts.rely (P := P) hij ⟨_, _, hact, rfl⟩, List.prefix_rfl, List.prefix_rfl,
      List.prefix_rfl⟩
  | release =>
    exact ⟨Acts.rely (P := P) hij ⟨_, _, .release, rfl⟩, List.prefix_rfl, List.prefix_rfl,
      List.prefix_rfl⟩
  | answer _ => exact ⟨serverView_rely rfl, List.prefix_rfl, List.prefix_rfl, hpre⟩
  | append h =>
    exact ⟨serverView_rely rfl, ⟨_, (Table.insert?_eq_some h).2.symm⟩, List.prefix_rfl,
      List.prefix_rfl⟩
  | post _ => exact ⟨serverView_rely rfl, List.prefix_rfl, hpre, List.prefix_rfl⟩

/-- The terms of the world. -/
def worldTerms (P : Platform) (M : SemanticMemory) (C : ClientWire W) :
    RelyGuarantee (world P M C) where
  inv := fun _ => True
  rely := WorldRely
  guar := fun i call g g' => ∃ s' es, Moves P W i call g s' es ∧ g' = g.after i (s', es)
  rely_refl := WorldRely.refl
  rely_trans := WorldRely.trans
  guar_rely := by
    rintro i k j h h' hij - ⟨s', es, hm, rfl⟩
    exact hm.rely hij
  guar_inv := fun _ _ => trivial
  release_guar := fun _ => ⟨_, _, .release, rfl⟩

/-! ## Every call keeps to the moves -/

section
variable {i : Tid} {args : ClientArgs} {g : Hist (World M) Event} {k : α → ClientOp M β}

/-- Nothing is claimed of a client's result. -/
theorem safe_outcome {call : WorldCall} {r : Except String β} :
    (Proc.done r : Proc (World M) Chance Event (Except String β)).Safe
      ((worldTerms P M C).terms i call) (fun _ _ => True) g :=
  Proc.Safe.done fun _ _ _ => trivial

/-- One action of the client. -/
theorem safe_clientAction {call : WorldCall} {context : String}
    {f : World M → Chance → Except String (α × World M)}
    (hf : ∀ g' x a s', WorldRely i g g' → f g'.state x = .ok (a, s') →
      Moves P W i call g' s' [] ∧ (k a).run.Safe ((worldTerms P M C).terms i call)
        (fun _ _ => True) (g'.after i (s', []))) :
    (clientAction context f >>= k).run.Safe ((worldTerms P M C).terms i call)
      (fun _ _ => True) g := by
  refine Proc.Safe.attempt_atomic fun g' x hr _ => ?_
  cases hx : x.fault with
  | some error => exact ⟨⟨_, _, .idle, rfl⟩, fun _ _ _ => trivial⟩
  | none =>
    cases hfx : f g'.state x with
    | error e => exact ⟨⟨_, _, .idle, rfl⟩, fun _ _ _ => trivial⟩
    | ok r =>
      obtain ⟨a, s'⟩ := r
      obtain ⟨h1, h2⟩ := hf g' x a s' hr hfx
      exact ⟨⟨_, _, h1, rfl⟩, h2⟩

/-- A pure step of the client. -/
theorem safe_clientLift {call : WorldCall} {r : Except String α}
    (hk : ∀ a, r = .ok a → (k a).run.Safe ((worldTerms P M C).terms i call) (fun _ _ => True) g) :
    ((liftM r : ClientOp M α) >>= k).run.Safe ((worldTerms P M C).terms i call)
      (fun _ _ => True) g := by
  cases r with
  | ok a => exact hk a rfl
  | error e => exact safe_outcome

/-- An invocation goes on with a watermark of its own stream. -/
theorem safe_startWatermark {call : WorldCall} {device store : String} {epoch : UInt64}
    {k : Watermark → ClientOp M β}
    (hk : ∀ g' w, WorldRely i g g' → w.stream = ⟨device, store, epoch⟩ →
      (k w).run.Safe ((worldTerms P M C).terms i call) (fun _ _ => True) g') :
    (startWatermark device store epoch >>= k).run.Safe ((worldTerms P M C).terms i call)
      (fun _ _ => True) g := by
  unfold startWatermark
  simp only [bind_assoc]
  refine Proc.Safe.attempt_atomic fun g1 x hr1 _ => ⟨⟨_, _, .idle, rfl⟩, ?_⟩
  rw [show g1.after ((worldTerms P M C).terms i call).tid (g1.state, []) = g1 from
    Hist.after_nil g1 i]
  simp only
  split
  · simp only [bind_assoc]
    refine safe_clientAction fun g2 _ w s' hr2 hw => ?_
    have hs' : s' = g2.state := by
      split at hw
      · cases hw
      · split at hw
        · cases hw
        · cases hw; rfl
    subst hs'
    refine ⟨.idle, ?_⟩
    rw [Hist.after_nil]
    split
    · exact safe_outcome
    · next hid =>
      obtain ⟨h1, h2, h3⟩ := by simpa only [not_or, not_not] using hid
      exact hk g2 w (hr1.trans hr2) (by rw [Watermark.stream, h1, h2, h3])
  · exact hk g1 _ hr1 rfl

/-- An acknowledged watermark may be written. -/
theorem safe_writeWatermark {call : WorldCall} {w : Watermark} {k : Unit → ClientOp M β}
    (hw : w.Acknowledged g.state)
    (hk : ∀ g', (k ()).run.Safe ((worldTerms P M C).terms i call) (fun _ _ => True) g') :
    (writeWatermark w >>= k).run.Safe ((worldTerms P M C).terms i call) (fun _ _ => True) g := by
  unfold writeWatermark
  simp only [bind_assoc]
  refine safe_clientAction fun g1 _ n s1 hr1 h1 => ?_
  cases h1
  refine ⟨.files fun m v hv => .inl ?_, ?_⟩
  · unfold Files.create at hv
    split at hv
    all_goals
      simp only [Function.update_apply] at hv
      split at hv
      · cases hv
      · exact hv
  refine safe_clientAction fun g2 _ _ s2 hr2 h2 => ?_
  cases h2
  refine ⟨.files fun m v hv => ?_, ?_⟩
  · simp only [Files.write, Function.update_apply] at hv
    split at hv
    · cases hv
      obtain ⟨r, hr, hack⟩ := hw
      exact .inr ⟨r, hr2.responses.subset (hr1.responses.subset hr), hack⟩
    · exact .inl hv
  refine safe_clientAction fun g3 _ _ s3 _ h3 => ?_
  cases h3
  refine ⟨.idle, ?_⟩
  refine safe_clientAction fun g4 _ _ s4 _ h4 => ?_
  cases hfiles : g4.state.files.rename with
  | error e => rw [hfiles] at h4; cases h4
  | ok files =>
    rw [hfiles] at h4
    cases h4
    refine ⟨.files fun m v hv => .inl ?_, hk _⟩
    unfold Files.rename at hfiles
    split at hfiles
    · cases hfiles; exact hv
    · cases hfiles

/-- The entry an invocation reads is that of a row of its stream. -/
theorem readJournalEntry_eq_ok {journal : Journal} {device store : String} {epoch : UInt64}
    {afterSequence : Int64} {entry : FactCreateTransportEntryV1}
    (h : readJournalEntry journal device store epoch afterSequence = .ok (some entry)) :
    ∃ row ∈ journal.rows, row.entry = .ok entry ∧ device = row.homeDeviceId ∧
      store = row.storeId ∧ epoch = row.streamEpoch.toUInt64 := by
  unfold readJournalEntry at h
  simp only at h
  split at h
  · cases h
  · next row hrow =>
    have hmem := List.mem_filter.1 (List.minOn?_mem hrow)
    obtain ⟨h1, h2, h3, -⟩ := of_decide_eq_true hmem.2
    refine ⟨row, hmem.1, ?_, h1.symm,
      h2.symm, by rw [h3]; exact (UInt64.toUInt64_toInt64 epoch).symm⟩
    cases hentry : row.entry with
    | error e => rw [hentry] at h; cases h
    | ok entry' =>
      rw [hentry] at h
      cases h
      rfl

/-- The batch an invocation builds carries its entry, for its stream. -/
theorem ClientArgs.batch_eq_ok {batchId : String} {now : UInt64}
    {entry : FactCreateTransportEntryV1} {batch : SignedFactCreateBatchV1}
    (h : args.batch P batchId now entry = .ok batch) :
    batch.entries = [entry] ∧ batch.homeDeviceId = args.homeDeviceId ∧
      batch.storeId = args.storeId ∧ batch.streamEpoch = args.streamEpoch := by
  obtain ⟨unsigned, hnew, hsign⟩ := bind_eq_ok.1 h
  obtain ⟨_, -, hnew⟩ := bind_eq_ok.1 (mapError_eq_ok.1 hnew)
  obtain ⟨_, -, hsign⟩ := bind_eq_ok.1 (mapError_eq_ok.1 hsign)
  obtain ⟨_, -, hsign⟩ := bind_eq_ok.1 hsign
  cases hnew
  cases hsign
  exact ⟨rfl, rfl, rfl, rfl⟩

/-- A validated acknowledgement is about the stream, and at the sequence that was posted. -/
theorem validateAck_eq_ok {ack : Ack} {body : Bytes} {batchId homeDeviceId storeId : String}
    {streamEpoch : UInt64} {submittedSequence : Int64}
    (h : validateAck P ack body batchId homeDeviceId storeId streamEpoch submittedSequence =
      .ok ()) :
    ack.record.homeDeviceId = homeDeviceId ∧ ack.record.storeId = storeId ∧
      ack.record.streamEpoch = streamEpoch ∧ ack.record.acceptedHead = submittedSequence := by
  unfold validateAck at h
  simp only [guard_eq_ok] at h
  obtain ⟨-, -, -, hid, -, hhead⟩ := h
  obtain ⟨h1, h2, h3⟩ := by simpa only [not_or, not_not] using hid
  refine ⟨h1, h2, h3, ?_⟩
  by_contra hne
  rw [if_pos hne] at hhead
  cases hhead

/-- An invocation keeps to its moves. -/
theorem safe_syncClient {call : WorldCall} :
    (syncClient P C args).run.Safe ((worldTerms P M C).terms i call) (fun _ _ => True) g := by
  unfold syncClient
  refine safe_startWatermark fun g1 wm _ hwm => ?_
  refine safe_clientAction fun g2 _ found s2 _ hfound => ?_
  cases hread : readJournalEntry g2.state.journal args.homeDeviceId args.storeId args.streamEpoch
      wm.nextSequence with
  | error e => rw [hread] at hfound; cases hfound
  | ok _ =>
    rw [hread] at hfound
    cases hfound
    refine ⟨.idle, ?_⟩
    rw [Hist.after_nil]
    cases found with
    | none => exact safe_outcome
    | some entry =>
      obtain ⟨row, hrow, hentry, hhome, hstore, hepoch⟩ := readJournalEntry_eq_ok hread
      refine safe_clientAction fun g3 _ stamp s3 hr3 h3 => ?_
      cases h3
      refine ⟨.idle, ?_⟩
      rw [Hist.after_nil]
      refine safe_clientLift fun batch hbatch => ?_
      obtain ⟨hentries, hb1, hb2, hb3⟩ := ClientArgs.batch_eq_ok hbatch
      refine safe_clientLift fun body hbody => ?_
      refine safe_clientAction fun g4 _ _ s4 hr4 h4 => ?_
      cases h4
      have hposted : FromJournal W g4.state ⟨some ("Bearer " ++ args.credential), body⟩ :=
        ⟨row, hr4.journal.subset (hr3.journal.subset hrow), entry, batch, hentry,
          C.roundTrip (mapError_eq_ok.1 hbody), hentries, hb1.trans hhome, hb2.trans hstore,
          hb3.trans hepoch⟩
      refine ⟨.post hposted, ?_⟩
      refine safe_clientAction fun g5 _ received s5 _ h5 => ?_
      split at h5
      · cases h5
      · next r hr =>
        cases h5
        refine ⟨.idle, ?_⟩
        rw [Hist.after_nil]
        refine safe_clientLift fun ack hack => ?_
        refine safe_clientLift fun _ hvalid => ?_
        obtain ⟨h1, h2, h3, -⟩ := validateAck_eq_ok hvalid
        obtain ⟨hwm1, hwm2, hwm3⟩ := Stream.mk.inj hwm
        have hbody : r.body = .inl ack := by
          unfold Response.ack at hack
          split at hack
          · split at hack
            · next ack' heq => cases hack; exact heq
            · cases hack
          · cases hack
        refine safe_writeWatermark ⟨r, List.mem_of_getElem? hr, ack, hbody, ?_, ?_, ?_, rfl⟩
          fun g6 => safe_outcome
        · exact h1.trans hwm1.symm
        · exact h2.trans hwm2.symm
        · exact h3.trans hwm3.symm

/-- A call of the server keeps to its moves in the world. -/
theorem safe_onServer {call : WorldCall} {k : Call} (hcall : call.server = some k)
    {t : Proc (MnemesStore M) Choice Event α} {Q : α → Hist (MnemesStore M) Event → Prop}
    {Q' : α → Hist (World M) Event → Prop}
    (ht : t.Safe (terms i (Step P M W i k)) Q (serverView g))
    (hreq : ∀ req, call = .deliver req → req ∈ g.state.requests)
    (hQ : ∀ a g', Q a (serverView g') → Q' a g') :
    (onServer t).Safe ((worldTerms P M C).terms i call) Q' g := by
  refine Proc.Safe.zoom (V := serverView)
    (J := fun g => ∀ req, call = .deliver req → req ∈ g.state.requests)
    ?_ ?_ ?_ ?_ ?_ ?_ ?_ ht hreq fun a g' _ => hQ a g'
  · exact fun _ => rfl
  · intro g p
    simp only [List.map_id]
    rfl
  · exact fun hr => hr.server
  · exact fun _ => trivial
  · exact fun hJ hr req hc => hr.requests.subset (hJ req hc)
  · exact fun hJ => hJ
  · rintro g ⟨s', es⟩ hJ - ⟨s'', es'', hact, heq, hmay⟩
    obtain ⟨rfl, rfl⟩ := Prod.mk.inj (Hist.after_inj heq)
    exact ⟨_, _, .server hcall hJ hact hmay, by rw [List.map_id]; rfl⟩

/-- Every call of the world is safe. -/
theorem world_bodies : (worldTerms P M C).Bodies fun _ _ _ _ => True := by
  intro i call g _ hunseen
  show (call.body P C i).Safe ((worldTerms P M C).terms i call) _ g
  cases call with
  | sync args =>
    show (WorldResult.client <$> (syncClient P C args).run).Safe _ _ g
    rw [map_eq_pure_bind]
    exact Proc.Safe.bind
      (safe_syncClient.mono_post fun _ _ _ _ => Proc.Safe.done fun _ _ _ => trivial)
  | deliver req =>
    -- the request was posted, and the response is the handler's
    refine Proc.Safe.bind
      (Proc.Safe.await fun g1 x _ _ hg => ⟨⟨_, _, .idle, rfl⟩, fun g2 hr2 _ => ?_⟩)
    have hg : req ∈ g2.state.requests := hr2.requests.subset (of_decide_eq_true hg)
    refine Proc.Safe.bind (safe_onServer rfl (safe_handler factCreateRoute_sound fun tr _ =>
      keeps_step (.factCreateHandler req) tr) (fun req' hreq => by cases hreq; exact hg) ?_)
    intro r g3 hresponds
    refine Proc.Safe.atomic fun g4 _ hr4 _ => ⟨⟨_, _, .answer fun ack hack => ?_, rfl⟩,
      fun _ _ _ => trivial⟩
    obtain ⟨b, -, -, -, row, hrow, hrecord⟩ := hresponds ack hack
    exact ⟨row, (Table.find?_eq_some.1 (hr4.server.acks _ _ row hrow)).1, hrecord⟩
  | serve call =>
    refine Proc.Safe.bind (safe_onServer rfl
      (discipline_bodies i call (serverView g) trivial hunseen) (fun req hreq => by cases hreq) ?_)
    exact fun a g' _ => Proc.Safe.done fun _ _ _ => trivial
  | append row =>
    refine Proc.Safe.atomic fun g1 x _ _ => ?_
    cases hins : g1.state.journal.insert? row with
    | none => exact ⟨⟨_, _, .idle, rfl⟩, fun _ _ _ => trivial⟩
    | some journal => exact ⟨⟨_, _, .append hins, rfl⟩, fun _ _ _ => trivial⟩

end

/-! ## What every step keeps -/

/-- The batches a call of the server submits. -/
def Call.Carries (P : Platform) (M : SemanticMemory) (W : Wire) : Call → Submission → Prop
  | .applyFactCreateRequest b _, x => x = b.submission P M
  | .applyFactSupersedeRequest b _, x => x = b.submission P M
  | .factCreateHandler req, x => (factCreateRoute P M W).decodeJson req.body = .ok x
  | .factSupersedeHandler req, x => (factSupersedeRoute P M W).decodeJson req.body = .ok x
  | _, _ => False

/-- A call that may have an envelope applied carries its batch. -/
theorem Call.May.carries {i : Tid} {k : Call} {tr : List (Tid × Event)} {F : Family}
    {b : Submission} {device : DeviceId} {e : ReplicaEnvelopeV1}
    {answer : Except MemoryError ReplicaApplyOutcome}
    (h : k.May P M W i tr (.ownerApplied F b device e answer)) : k.Carries P M W b := by
  cases k with
  | factCreateHandler req | factSupersedeHandler req =>
    rcases h with h | ⟨b', _, _, hb, -, -, -, -, rfl, -⟩
    · exact h.elim
    · exact hb
  | applyFactCreateRequest b' _ | applyFactSupersedeRequest b' _ =>
    obtain ⟨_, -, -, rfl, -⟩ := h
    rfl
  | admitFactCreateKey _ | revokeFactCreateKey _ _ _ _ _ | admitFactSupersedeKey _
  | revokeFactSupersedeKey _ _ _ _ _ | setDeviceStatus _ _ => cases h
  | authenticateRequest _ _ => exact h.elim

/-- The call submits nothing for the stream `σ` of the device. -/
def Call.Spares (P : Platform) (M : SemanticMemory) (W : Wire) (device : DeviceId) (σ : Stream)
    (k : Call) : Prop :=
  ∀ b e ns, k.Carries P M W b → b.device P = .ok device → b.project = .ok (e, ns) → e.stream ≠ σ

/-- The calls of the world next to which the client is the only writer of the stream. -/
def WorldCall.Spares (P : Platform) (M : SemanticMemory) (W : Wire) (device : DeviceId)
    (σ : Stream) : WorldCall → Prop
  | .serve k => k.Spares P M W device σ
  | .sync _ | .deliver _ | .append _ => True

/-- The envelope is that of a row of the journal, and a posted request carries it. -/
def Posted (W : Wire) (s : World M) (e : ReplicaEnvelopeV1) : Prop :=
  (∃ row ∈ s.journal.rows, row.envelope = .ok e) ∧ ∃ req ∈ s.requests, ∃ batch,
    W.factCreateFromSlice req.body = .ok batch ∧ batch.entries.map batch.toSemanticEnvelope = [e]

/-- The events at the owner are about envelopes that the batches project. -/
def Projected (P : Platform) (M : SemanticMemory) (tr : List (Tid × Event)) : Prop :=
  ∀ i F b device e answer, (i, Event.ownerApplied F b device e answer) ∈ tr →
    Submitted P M F b ∧ b.device P = .ok device ∧ ∃ ns, b.project = .ok (e, ns)

/-- An action has only envelopes applied that are projected from a batch. -/
theorem Action.projected {i : Tid} {h : Hist (MnemesStore M) Event} {s' : MnemesStore M}
    {es : List Event} (ha : Action P i h.trace h.state s' es) (hinv : Projected P M h.trace) :
    Projected P M (h.after i (s', es)).trace := by
  intro j F b device e answer hmem
  rcases List.mem_append.1 hmem with hmem | hmem
  · exact hinv j F b device e answer hmem
  · obtain ⟨ev, hev, heq⟩ := List.mem_map.1 hmem
    cases heq
    obtain ⟨-, hb, ⟨hd, ns, -, hproj, -⟩, -⟩ := ha.of_applied hev
    exact ⟨hb, hd, ns, hproj⟩

/-- The envelope a fact-create batch projects is its only entry's. -/
theorem SignedFactCreateBatchV1.project_eq_ok {b : SignedFactCreateBatchV1} {e : ReplicaEnvelopeV1}
    {ns : String} (h : (b.submission P M).project = .ok (e, ns)) :
    ∃ entry, b.entries = [entry] ∧ e = b.toSemanticEnvelope entry := by
  dsimp only [SignedFactCreateBatchV1.submission] at h
  split at h
  · next entry hentries =>
    obtain ⟨_, -, h⟩ := bind_eq_ok.1 h
    obtain ⟨_, -, h⟩ := bind_eq_ok.1 h
    cases h
    exact ⟨entry, hentries, rfl⟩
  · cases h

/-- What every reachable state of the world satisfies, for the stream `σ` of the device. -/
structure Replicates (P : Platform) (W : Wire) (device : DeviceId) (σ : Stream)
    (s₀ : MnemesStore M) (g : Hist (World M) Event) : Prop where
  recorded : Recorded (serverView g)
  projected : Projected P M g.trace
  written : AllWritten P s₀ (serverView g)
  chained : Chained M.genesis (M.log (g.state.server.shards device) σ)
  posted : ∀ e ∈ M.log (g.state.server.shards device) σ, e.stream = σ ∧ Posted W g.state e
  requests : ∀ req ∈ g.state.requests, FromJournal W g.state req
  responses : ∀ r ∈ g.state.responses, ∀ ack, r.body = .inl ack →
    ∃ row ∈ (g.state.server.db.replication .factCreate).acks.rows, row.record = .ok ack.record
  watermark : ∀ n w, g.state.files.content n = some w → w.stream = σ →
    w.nextSequence.toInt ≤ (M.log (g.state.server.shards device) σ).length + 1

section
variable {i : Tid} {call : WorldCall} {device : DeviceId} {σ : Stream} {s₀ : MnemesStore M}
  {g : Hist (World M) Event} {s' : World M} {es : List Event}

/-- A request from the journal that projects an envelope carries it. -/
theorem FromJournal.posted {req : Request} (h : FromJournal W g.state req)
    (hreq : req ∈ g.state.requests) {b : Submission} {e : ReplicaEnvelopeV1} {ns : String}
    (hdecode : (factCreateRoute P M W).decodeJson req.body = .ok b)
    (hproj : b.project = .ok (e, ns)) : Posted W g.state e := by
  obtain ⟨row, hrow, entry, batch, hentry, hslice, hentries, hhome, hstore, hepoch⟩ := h
  obtain ⟨batch', hdec, rfl⟩ :
      ∃ batch', SignedFactCreateBatchV1.decodeJson P M W req.body = .ok batch' ∧
      b = batch'.submission P M := by
    cases hd : SignedFactCreateBatchV1.decodeJson P M W req.body with
    | error error => simp [factCreateRoute, hd, Except.map] at hdecode
    | ok batch' =>
      simp only [factCreateRoute, hd, Except.map, Except.ok.injEq] at hdecode
      exact ⟨batch', rfl, hdecode.symm⟩
  obtain rfl : batch' = batch := by
    unfold SignedFactCreateBatchV1.decodeJson at hdec
    obtain ⟨-, hdec⟩ := guard_eq_ok.1 hdec
    obtain ⟨batch'', hb, hdec⟩ := bind_eq_ok.1 hdec
    obtain ⟨_, -, hdec⟩ := bind_eq_ok.1 hdec
    cases hdec
    exact Except.ok.inj ((mapError_eq_ok.1 hb).symm.trans hslice)
  obtain ⟨entry', hentries', rfl⟩ := SignedFactCreateBatchV1.project_eq_ok hproj
  obtain rfl : entry = entry' := by simpa [hentries] using hentries'
  refine ⟨⟨row, hrow, ?_⟩, req, hreq, batch', hslice, by simp [hentries]⟩
  simp [JournalRow.envelope, hentry, SignedFactCreateBatchV1.toSemanticEnvelope, hhome, hstore,
    hepoch, Except.map]

/-- What was posted stays so while requests and journal grow. -/
theorem Posted.mono {s s' : World M} {e : ReplicaEnvelopeV1} (h : Posted W s e)
    (hjournal : s.journal.rows <+: s'.journal.rows) (hrequests : s.requests <+: s'.requests) :
    Posted W s' e := by
  obtain ⟨⟨row, hrow, he⟩, req, hreq, hcarries⟩ := h
  exact ⟨⟨row, hjournal.subset hrow, he⟩, req, hrequests.subset hreq, hcarries⟩

/-- A step of the server keeps the invariant when what it applies to the stream was posted. -/
theorem Replicates.server (hinv : Replicates P W device σ s₀ g) {server : MnemesStore M}
    (hact : Action P i g.trace g.state.server server es)
    (hnew : ∀ F b e answer, .ownerApplied F b device e answer ∈ es → e.stream = σ →
      Posted W g.state e) :
    Replicates P W device σ s₀ (g.after i ({ g.state with server }, es)) where
  recorded := Action.recorded (P := P) hact hinv.recorded
  projected := Action.projected (h := serverView g) hact hinv.projected
  written := Action.allWritten (h := serverView g) hact hinv.written
  chained := hact.chained hinv.chained
  posted := by
    intro e he
    rcases hact.shards with h | ⟨F, b, d, e', answer, hes, hans⟩
    · exact hinv.posted e (by rw [← h]; exact he)
    · rcases hans.cases device with h | ⟨rfl, o, happly⟩
      · exact hinv.posted e (by rw [← h]; exact he)
      · rcases F.code_laws.mem_log_of_mem happly he with hold | ⟨rfl, hσ⟩
        · exact hinv.posted e hold
        · exact ⟨hσ.symm, hnew F b e answer (by simp [hes]) hσ.symm⟩
  requests := hinv.requests
  responses := by
    intro r hr ack hack
    obtain ⟨row, hrow, hrecord⟩ := hinv.responses r hr ack hack
    have hkeep := (Acts.rely (h := serverView g) (Nat.succ_ne_self i).symm
      ⟨server, es, hact, rfl⟩).acks .factCreate row.batchId row
      (Table.find?_eq_some.2 ⟨hrow, rfl⟩)
    exact ⟨row, (Table.find?_eq_some.1 hkeep).1, hrecord⟩
  watermark := by
    intro n w hw hσ
    have hlength := (hact.log_prefix device σ).length_le
    have := hinv.watermark n w hw hσ
    simp only [Hist.after_state]
    omega

/-- An acknowledged watermark is at most one after the head of its stream. -/
theorem Replicates.acknowledged (hinv : Replicates P W device σ s₀ g)
    (hdevice : DeviceId.parse P σ.homeDeviceId = .ok device)
    (hacks : ∀ row ∈ (s₀.db.replication .factCreate).acks.rows,
      (⟨row.homeDeviceId, row.storeId, row.streamEpoch.toUInt64⟩ : Stream) ≠ σ)
    {w : Watermark} (hw : w.Acknowledged g.state) (hσ : w.stream = σ) :
    w.nextSequence.toInt ≤ (M.log (g.state.server.shards device) σ).length + 1 := by
  obtain ⟨r, hr, ack, hack, h1, h2, h3, hnext⟩ := hw
  obtain ⟨row, hrow, hrecord⟩ := hinv.responses r hr ack hack
  obtain ⟨hr1, hr2, hr3, hr4⟩ : row.homeDeviceId = ack.record.homeDeviceId ∧
      row.storeId = ack.record.storeId ∧ row.streamEpoch.toUInt64 = ack.record.streamEpoch ∧
      row.acceptedHead = ack.record.acceptedHead := by
    unfold AckRow.record at hrecord
    split at hrecord
    · next epoch hepoch =>
      unfold u64TryFrom at hepoch
      split at hepoch
      · cases hepoch
        obtain ⟨_, record⟩ := ack
        cases hrecord
        exact ⟨rfl, rfl, rfl, rfl⟩
      · cases hepoch
    · cases hrecord
  have hstream : (⟨row.homeDeviceId, row.storeId, row.streamEpoch.toUInt64⟩ : Stream) = σ := by
    rw [← hσ, hr1, hr2, hr3, h1, h2, h3]
    rfl
  rcases hinv.written .factCreate row hrow with hold | ⟨pre, j, post, htr, b, d, e, answer, hmem,
    haccepted, hd, hid, hhome, hstore, hepoch⟩
  · exact absurd hstream (hacks row hold)
  · -- the owner accepted the record, so its sequence is in the log
    have hmem : (j, Event.ownerApplied .factCreate b d e (.ok answer)) ∈ g.trace := by
      rw [show g.trace = _ from htr]
      exact List.mem_append_left _ hmem
    obtain ⟨⟨batch, rfl⟩, -, ns, hproj⟩ := hinv.projected _ _ _ _ _ _ hmem
    obtain ⟨hhead, hlog, -⟩ := hinv.recorded _ _ _ _ _ _ _ hmem haccepted
    obtain ⟨entry, -, rfl⟩ := SignedFactCreateBatchV1.project_eq_ok hproj
    have hestream : (batch.toSemanticEnvelope entry).stream = σ := by
      rw [← hstream, hhome, hstore, hepoch]
      exact congrArg (Stream.mk _ _) (UInt64.toUInt64_toInt64 batch.streamEpoch).symm
    have hdev : d = device := by
      have : (DeviceId.parse P batch.homeDeviceId).mapError MnemesError.memory = .ok d := hd
      rw [mapError_eq_ok, show batch.homeDeviceId = σ.homeDeviceId by rw [← hestream]; rfl,
        hdevice] at this
      exact (Except.ok.inj this).symm
    subst hdev
    rw [hestream] at hlog
    obtain ⟨-, hle⟩ := hinv.chained.exists_sequence.1 ⟨_, hlog, rfl⟩
    have hnext' : w.nextSequence.toInt ≤ ack.record.acceptedHead.toInt + 1 := by
      rw [hnext]
      exact toInt_add_one_le _
    rw [← hr4, hhead] at hnext'
    show _ ≤ ((M.log (g.state.server.shards d) σ).length : Int) + 1
    have : (batch.toSemanticEnvelope entry).sequence.toInt ≤
      (M.log (g.state.server.shards d) σ).length := hle
    omega

/-- A step that leaves the server alone keeps the invariant when what it adds to the journal, the
network and the files is as the invariant says. -/
theorem Replicates.client (hinv : Replicates P W device σ s₀ g)
    (hserver : s'.server = g.state.server) (hjournal : g.state.journal.rows <+: s'.journal.rows)
    (hrequests : g.state.requests <+: s'.requests)
    (hreq : ∀ req ∈ s'.requests, req ∈ g.state.requests ∨ FromJournal W g.state req)
    (hresp : ∀ r ∈ s'.responses, r ∈ g.state.responses ∨ ∀ ack, r.body = .inl ack →
      ∃ row ∈ (g.state.server.db.replication .factCreate).acks.rows, row.record = .ok ack.record)
    (hfiles : ∀ n w, s'.files.content n = some w →
      g.state.files.content n = some w ∨ (w.stream = σ →
        w.nextSequence.toInt ≤ (M.log (g.state.server.shards device) σ).length + 1)) :
    Replicates P W device σ s₀ (g.after i (s', [])) := by
  have hview : serverView (g.after i (s', [])) = serverView g := by
    rw [serverView_after, hserver]
    exact Hist.after_nil (serverView g) i
  have htrace : (g.after i (s', [])).trace = g.trace := by simp
  exact {
    recorded := by rw [hview]; exact hinv.recorded
    projected := by rw [htrace]; exact hinv.projected
    written := by rw [hview]; exact hinv.written
    chained := by rw [Hist.after_state, hserver]; exact hinv.chained
    posted := fun e he => by
      rw [Hist.after_state, hserver] at he
      exact (hinv.posted e he).imp_right (·.mono hjournal hrequests)
    requests := fun req hmem => by
      obtain ⟨row, hrow, hrest⟩ := (hreq req hmem).elim (hinv.requests req) id
      exact ⟨row, hjournal.subset hrow, hrest⟩
    responses := fun r hr => by
      rw [Hist.after_state, hserver]
      exact (hresp r hr).elim (hinv.responses r) id
    watermark := fun n w hw hσ => by
      rw [Hist.after_state, hserver]
      rcases hfiles n w hw with hold | hnew
      · exact hinv.watermark n w hold hσ
      · exact hnew hσ }

/-- Every step keeps the invariant. -/
theorem Moves.replicates (hm : Moves P W i call g s' es) (hcall : call.Spares P M W device σ)
    (hdevice : DeviceId.parse P σ.homeDeviceId = .ok device)
    (hacks : ∀ row ∈ (s₀.db.replication .factCreate).acks.rows,
      (⟨row.homeDeviceId, row.storeId, row.streamEpoch.toUInt64⟩ : Stream) ≠ σ)
    (hinv : Replicates P W device σ s₀ g) : Replicates P W device σ s₀ (g.after i (s', es)) := by
  have hpre {γ : Type} {xs : List γ} {x : γ} : xs <+: xs ++ [x] := List.prefix_append _ _
  cases hm with
  | idle => rwa [Hist.after_nil]
  | @server k s'' _ hk hreq hact hmay =>
    refine hinv.server hact fun F b e answer he hσ => ?_
    have hcarries := (hmay _ he).carries
    obtain ⟨-, -, ⟨hd, ns, -, hproj, -⟩, -⟩ := hact.of_applied he
    cases call with
    | deliver req =>
      cases hk
      exact (hinv.requests req (hreq req rfl)).posted (hreq req rfl) hcarries hproj
    | serve k' =>
      cases hk
      exact absurd hσ (hcall b e ns hcarries hd hproj)
    | sync _ | append _ => cases hk
  | release => exact hinv.server .release fun F b e answer he _ => by cases he
  | @answer r hr =>
    refine hinv.client rfl List.prefix_rfl List.prefix_rfl (fun _ => .inl) (fun r' hr' => ?_)
      fun _ _ => .inl
    rcases List.mem_append.1 hr' with hr' | hr'
    · exact .inl hr'
    · exact .inr (by rwa [List.mem_singleton.1 hr'])
  | @append row journal hins =>
    exact hinv.client rfl ⟨_, (Table.insert?_eq_some hins).2.symm⟩ List.prefix_rfl (fun _ => .inl)
      (fun _ => .inl) fun _ _ => .inl
  | @post req hpost =>
    refine hinv.client rfl List.prefix_rfl hpre (fun req' hreq' => ?_) (fun _ => .inl)
      fun _ _ => .inl
    rcases List.mem_append.1 hreq' with hreq' | hreq'
    · exact .inl hreq'
    · exact .inr (by rwa [List.mem_singleton.1 hreq'])
  | @files files hfiles =>
    refine hinv.client rfl List.prefix_rfl List.prefix_rfl (fun _ => .inl) (fun _ => .inl)
      fun n w hw => ?_
    exact (hfiles n w hw).imp_right fun hack hσ => hinv.acknowledged hdevice hacks hack hσ

end

/-! ## Delivery -/

/-- Nothing of the stream has happened yet. -/
structure World.Initial (s : World M) (device : DeviceId) (σ : Stream) : Prop where
  log : M.log (s.server.shards device) σ = []
  acks : ∀ row ∈ (s.server.db.replication .factCreate).acks.rows,
    (⟨row.homeDeviceId, row.storeId, row.streamEpoch.toUInt64⟩ : Stream) ≠ σ
  files : ∀ n w, s.files.content n = some w → w.stream ≠ σ
  requests : s.requests = []
  responses : s.responses = []

/-- The envelope of a row is in the stream of the row, at its sequence. -/
theorem JournalRow.envelope_eq_ok {row : JournalRow} {e : ReplicaEnvelopeV1}
    (h : row.envelope = .ok e) : e.stream = row.stream ∧ e.sequence = row.sequence := by
  unfold envelope at h
  cases hentry : row.entry with
  | error error => rw [hentry] at h; cases h
  | ok record =>
    rw [hentry] at h
    cases h
    refine ⟨rfl, ?_⟩
    unfold JournalRow.entry at hentry
    split at hentry
    · cases hentry
    · obtain ⟨_, -, hentry⟩ := bind_eq_ok.1 hentry
      obtain ⟨_, -, hentry⟩ := bind_eq_ok.1 hentry
      obtain ⟨_, -, hentry⟩ := bind_eq_ok.1 hentry
      cases hentry
      rfl

/-- End-to-end delivery. In every state the world reaches, with the client as the only writer of the
stream `σ` of the device:
- the stream applied at the server is the journal's rows `1 … n`, in order and each once, and each
  of them was posted by an invocation;
- every row of the stream before the client's next sequence is among them. -/
theorem fact_create_delivery {s : World M}
    {c : Config WorldCall (World M) Chance Event WorldResult}
    {cmds : List (Command WorldCall Chance)} {device : DeviceId} {σ : Stream}
    (hdevice : DeviceId.parse P σ.homeDeviceId = .ok device) (hinit : s.Initial device σ)
    (hcalls : ∀ i k, .start i (.serve k) ∈ cmds → k.Spares P M W device σ)
    (hrun : (world P M C).run (Service.init s) cmds = some c) :
    let log := M.log (c.hist.state.server.shards device) σ
    (log.Nodup ∧ ∀ (k : Nat) e, log[k]? = some e →
      e.sequence.toInt = k + 1 ∧ Posted W c.hist.state e) ∧
      ∀ next, c.hist.state.files.nextSequence σ = some next →
        ∀ row ∈ c.hist.state.journal.rows, row.stream = σ → row.sequence < next →
          ∃ e, row.envelope = .ok e ∧ log.count e = 1 := by
  intro log
  have hinv : Replicates P W device σ s.server c.hist := by
    refine (RelyGuarantee.Holds.init (R := worldTerms P M C) trivial).invariant_of world_bodies
      (A := WorldCall.Spares P M W device σ) (fun _ _ _ h => by cases h) ?_ ?_
      (fun i k hk => ?_) hrun
    · exact {
        recorded := fun _ _ _ _ _ _ _ h => by cases h
        projected := fun _ _ _ _ _ _ h => by cases h
        written := fun _ _ h => .inl h
        chained := by rw [show (Service.init s).hist.state = s from rfl, hinit.log]; exact .nil
        posted := fun e he => by
          rw [show (Service.init s).hist.state = s from rfl, hinit.log] at he
          cases he
        requests := fun req hreq => by
          rw [show (Service.init s).hist.state = s from rfl, hinit.requests] at hreq
          cases hreq
        responses := fun r hr => by
          rw [show (Service.init s).hist.state = s from rfl, hinit.responses] at hr
          cases hr
        watermark := fun n w hw hσ => absurd hσ (hinit.files n w hw) }
    · rintro i k g g' hk hI ⟨s', es, hm, rfl⟩
      exact hm.replicates hk hdevice hinit.acks hI
    · cases k with
      | serve k => exact hcalls i k hk
      | sync _ | deliver _ | append _ => trivial
  refine ⟨⟨hinv.chained.nodup, fun k e hk => ⟨hinv.chained.sequence hk,
    (hinv.posted e (List.mem_of_getElem? hk)).2⟩⟩, fun next hnext row hrow hσ hlt => ?_⟩
  -- the row's sequence is one of the log
  have hlt : row.sequence.toInt < next.toInt := Int64.lt_iff_toInt_lt.1 hlt
  have hpos : 1 ≤ row.sequence.toInt := Int64.le_iff_toInt_le.1 row.positive
  have hle : next.toInt ≤ log.length + 1 := by
    unfold Files.nextSequence at hnext
    split at hnext
    · cases hnext
      rw [Int64.toInt_zero]
      omega
    · next n hn =>
      obtain ⟨w, hw, hnext⟩ := Option.bind_eq_some_iff.1 hnext
      split at hnext
      · next hstream =>
        cases hnext
        exact hinv.watermark n w hw hstream
      · cases hnext
  obtain ⟨e, he, hseq⟩ := (hinv.chained.exists_sequence (q := row.sequence.toInt)).2
    ⟨hpos, by change _ ≤ (log.length : Int); omega⟩
  obtain ⟨hestream, ⟨row', hrow', henvelope⟩, -⟩ := hinv.posted e he
  obtain ⟨hstream', hsequence'⟩ := JournalRow.envelope_eq_ok henvelope
  obtain rfl : row = row' := by
    refine Table.eq_of_key hrow hrow' ?_
    rw [JournalRow.key, JournalRow.key, ← hstream', ← hsequence', hσ, hestream,
      Int64.toInt_inj.1 hseq]
  exact ⟨e, henvelope, List.count_eq_one_of_mem hinv.chained.nodup he⟩

namespace Sample

/-- The client writes the bodies that the server reads. -/
def clientWire : ClientWire wire where
  factCreateToVec b :=
    if b = batchA then .ok (body batchA)
    else if b = batchB then .ok (body batchB)
    else .error "unknown batch"
  roundTrip {b bytes} h := by
    have hne : body batchB ≠ body batchA := by decide +kernel
    split at h
    · next hb => cases h; simp [wire, hb]
    · split at h
      · next hb => cases h; simp [wire, hb, hne]
      · cases h

/-- The journal row of device A. -/
def journalRow : JournalRow where
  homeDeviceId := deviceA.text
  storeId := "store"
  streamEpoch := 1
  sequence := 1
  payload := entry.payload
  payloadDigest := entry.payloadDigest.toList
  predecessorDigest := entry.predecessorDigest.toList
  envelopeDigest := entry.journalEnvelopeDigest.toList
  operationKind := "fact.create"
  payloadSchema := "semantic_memory.fact.create.v1"
  recordState := "verified_v1"
  positive := by decide

def stream : Stream := ⟨deviceA.text, "store", 1⟩

/-- Device A with its row, before its client ran for the first time. -/
def desk : World memory where
  server := store
  journal := ⟨[journalRow], by decide⟩
  files := ⟨fun _ => none, 0, none, none⟩
  requests := []
  responses := []

def args : ClientArgs where
  homeDeviceId := deviceA.text
  storeId := "store"
  streamEpoch := 1
  seed := Vector.replicate 32 7
  principal := "writer"
  keyVersion := 1
  fencing := "fence"
  credential := credential deviceA
  observedAt := some 5

/-- An action in the world without a fault. -/
def chance : Chance := ⟨plain, batchA.batchId, 5, 0⟩

/-- An invocation posts the row, and the server applies it, but has not acknowledged it yet. -/
def halfway : List (Command WorldCall Chance) :=
  .start 0 (.sync args) :: List.replicate 4 (.run 0 chance) ++
    .start 1 (.deliver (request deviceA batchA)) :: List.replicate 9 (.run 1 chance)

/-- The server responds, and the invocation moves its watermark. -/
def delivered : List (Command WorldCall Chance) :=
  halfway ++ List.replicate 7 (.run 1 chance) ++ List.replicate 5 (.run 0 chance)

end Sample
open Sample in
/-- A fact of the journal is delivered, and the owner has it once. -/
theorem fact_create_delivery_sample : ∃ c,
    (world platform memory clientWire).run (Service.init desk) delivered = some c ∧
    c.hist.state.files.nextSequence stream = some 2 ∧ journalRow ∈ c.hist.state.journal.rows ∧
    ∃ e, journalRow.envelope = .ok e ∧
      (memory.log (c.hist.state.server.shards deviceA) stream).count e = 1 := by
  have hrun : ((world platform memory clientWire).run (Service.init desk) delivered).any (fun c =>
      c.hist.state.files.nextSequence stream = some 2 ∧
        journalRow ∈ c.hist.state.journal.rows) = true := by decide +kernel
  obtain ⟨c, hc, h⟩ := (Option.any_eq_true _ _).1 hrun
  obtain ⟨hnext, hrow⟩ := of_decide_eq_true h
  have hdevice : DeviceId.parse platform stream.homeDeviceId = .ok deviceA := by decide +kernel
  have hinit : desk.Initial deviceA stream :=
    { log := rfl
      acks := fun row h => by cases h
      files := fun n w h => by cases h
      requests := rfl
      responses := rfl }
  have hcalls : ∀ i k, .start i (.serve k) ∈ delivered →
      k.Spares platform memory wire deviceA stream := by
    intro i k h
    simp [delivered, halfway] at h
  exact ⟨c, hc, hnext, hrow,
    (fact_create_delivery hdevice hinit hcalls hc).2 2 hnext journalRow hrow rfl (by decide)⟩

open Sample in
/-- The server can be ahead of the watermark: the row at the client's next sequence is applied. -/
theorem applied_ahead : ∃ c,
    (world platform memory clientWire).run (Service.init desk) halfway = some c ∧
    c.hist.state.files.nextSequence stream = some 0 ∧ ¬ journalRow.sequence < 0 ∧
    journalRow.envelope = .ok (batchA.toSemanticEnvelope entry) ∧
    memory.log (c.hist.state.server.shards deviceA) stream = [batchA.toSemanticEnvelope entry] := by
  have hrun : ((world platform memory clientWire).run (Service.init desk) halfway).any (fun c =>
      c.hist.state.files.nextSequence stream = some 0 ∧
        memory.log (c.hist.state.server.shards deviceA) stream =
          [batchA.toSemanticEnvelope entry]) = true := by decide +kernel
  obtain ⟨c, hc, h⟩ := (Option.any_eq_true _ _).1 hrun
  obtain ⟨hnext, hlog⟩ := of_decide_eq_true h
  exact ⟨c, hc, hnext, by decide, by rfl, hlog⟩

end Mnemes
