import Mnemes.Conformance

/-!
# The revocation cut-off for writes

A handler reads the status of its device in one section and applies in a later one, and it never
looks at the status again. What the status is by then is decided by the changes in between
(`Reached.status_eq`), so the cut-off holds in the runs in which no change takes a device out of
service between a call's check and its use of the device (`revocation_cutoff`), and fails in others
(`revoked_device_served`).
-/

namespace Mnemes

open Concurrency Relational

variable {M : SemanticMemory} {P : Platform} {W : Wire}

/-! ## The status along a trace -/

/-- The status of a device after the events `tr`, if it was `status` before them. -/
def statusAfter (device : DeviceId) (status : DeviceStatus) :
    List (Tid × Event) → DeviceStatus
  | [] => status
  | (_, .statusSet d status') :: tr =>
    statusAfter device (if d = device then status' else status) tr
  | _ :: tr => statusAfter device status tr

/-- The status after two traces is that after the second, from the status after the first. -/
theorem statusAfter_append (device : DeviceId) (status : DeviceStatus)
    (tr tr' : List (Tid × Event)) :
    statusAfter device status (tr ++ tr') =
      statusAfter device (statusAfter device status tr) tr' := by
  fun_induction statusAfter device status tr with
  | case1 => rfl
  | case2 status i d status' tr ih => simpa [statusAfter] using ih
  | case3 status p tr hp ih =>
    obtain ⟨i, e⟩ := p
    cases e <;> first | exact ih | exact absurd rfl (hp _ _ _)

/-- Events that change no status keep it. -/
theorem statusAfter_of_forall {device : DeviceId} {status : DeviceStatus}
    {tr : List (Tid × Event)} (h : ∀ p ∈ tr, ∀ d st, p.2 ≠ .statusSet d st) :
    statusAfter device status tr = status := by
  fun_induction statusAfter device status tr with
  | case1 => rfl
  | case2 status i d status' tr ih =>
    exact absurd rfl (h (i, .statusSet d status') (by simp) d status')
  | case3 status p tr hp ih => exact ih fun q hq => h q (List.mem_cons_of_mem _ hq)

/-- The status stored for a device. -/
def MnemesStore.status (s : MnemesStore M) (device : DeviceId) : Option DeviceStatus :=
  (s.db.devices.find? device).map (·.status)

/-- An action changes the stored status of a device as its events say. -/
theorem Action.status_eq {i : Tid} {tr : List (Tid × Event)} {s s' : MnemesStore M}
    {es : List Event} (ha : Action P i tr s s' es) {device : DeviceId} {status : DeviceStatus}
    (h : s.status device = some status) :
    s'.status device = some (statusAfter device status (es.map (i, ·))) := by
  cases ha with
  | quiet hquiet =>
    rw [statusAfter_of_forall fun p hp d st => ?_]
    · exact h
    · obtain ⟨e, he, rfl⟩ := List.mem_map.1 hp
      rintro rfl
      cases hquiet _ he
  | check _ _ | read _ | take _ | give _ | release | admitKey _ _ _ | revoke _ | refresh
  | acknowledge _ _ _ => exact h
  | apply _ _ _ _ _ hans => simpa [MnemesStore.status, hans.frame.1, statusAfter] using h
  | @status d st now =>
    obtain ⟨row, hrow, rfl⟩ := Option.map_eq_some_iff.1 h
    simp only [MnemesStore.status, Table.find?_update, hrow, Option.map_some, statusAfter,
      List.map_cons, List.map_nil, (Table.find?_eq_some.1 hrow).2]
    by_cases hd : device = d
    · simp [hd]
    · simp [hd, Ne.symm hd]

/-! ## Checks and uses -/

/-- The stored status is the one the changes since any check lead to. -/
def Current (h : Hist (MnemesStore M) Event) : Prop :=
  ∀ pre i device post, h.trace = pre ++ (i, .statusChecked device) :: post →
    h.state.status device = some (statusAfter device .active post)

/-- A device is read with the status the changes since any earlier check lead to. -/
def ReadsCurrent (h : Hist (MnemesStore M) Event) : Prop :=
  ∀ pre i device mid j status post,
    h.trace = pre ++ (i, .statusChecked device) :: mid ++ (j, .deviceRead device status) :: post →
    status = statusAfter device .active mid

/-- An action keeps the status of each device what its trace says. -/
theorem Action.current {i : Tid} {h : Hist (MnemesStore M) Event} {s' : MnemesStore M}
    {es : List Event} (ha : Action P i h.trace h.state s' es) (hinv : Current h) :
    Current (h.after i (s', es)) := by
  intro pre j device post htr
  rcases Hist.append_eq_append_cons htr with ⟨mid, hold, rfl⟩ | ⟨mid, hnew, rfl⟩
  · rw [statusAfter_append]
    exact ha.status_eq (hinv pre j device mid hold)
  · -- the check is this action
    have hmem : Event.statusChecked device ∈ es := by
      have : (j, Event.statusChecked device) ∈ es.map (i, ·) := by rw [hnew]; simp
      obtain ⟨e, he, heq⟩ := List.mem_map.1 this
      cases heq
      exact he
    cases ha with
    | @check d row hrow hact =>
      cases List.mem_singleton.1 hmem
      have hpost : post = [] := by
        have := congrArg List.length hnew
        simp only [List.map_cons, List.map_nil, List.length_cons, List.length_nil,
          List.length_append] at this
        exact List.length_eq_zero_iff.1 (by omega)
      subst hpost
      simp [MnemesStore.status, hrow, hact, statusAfter]
    | quiet hquiet => cases hquiet _ hmem
    | read _ | status | refresh | admitKey _ _ _ | revoke _ | apply _ _ _ _ _ _
    | acknowledge _ _ _ =>
      cases List.mem_singleton.1 hmem
    | take _ | give _ | release => cases hmem

/-- An action that reads a status reads what the trace says. -/
theorem Action.readsCurrent {i : Tid} {h : Hist (MnemesStore M) Event} {s' : MnemesStore M}
    {es : List Event} (ha : Action P i h.trace h.state s' es) (hcur : Current h)
    (hinv : ReadsCurrent h) : ReadsCurrent (h.after i (s', es)) := by
  intro pre k device mid j status post htr
  rcases Hist.append_eq_append_cons htr with ⟨mid', hold, rfl⟩ | ⟨mid', hnew, hpre⟩
  · exact hinv pre k device mid j status mid' hold
  · -- the read is this action
    have hmem : Event.deviceRead device status ∈ es := by
      have : (j, Event.deviceRead device status) ∈ es.map (i, ·) := by rw [hnew]; simp
      obtain ⟨e, he, heq⟩ := List.mem_map.1 this
      cases heq
      exact he
    cases ha with
    | @read d row hrow =>
      cases List.mem_singleton.1 hmem
      have hmid' : mid' = [] := by
        have := congrArg List.length hnew
        simp only [List.map_cons, List.map_nil, List.length_cons, List.length_nil,
          List.length_append] at this
        exact List.length_eq_zero_iff.1 (by omega)
      subst hmid'
      have := hcur pre k _ mid (by simpa using hpre.symm)
      rw [MnemesStore.status, hrow] at this
      exact Option.some.inj this
    | quiet hquiet => cases hquiet _ hmem
    | check _ _ | status | refresh | admitKey _ _ _ | revoke _ | apply _ _ _ _ _ _
    | acknowledge _ _ _ =>
      cases List.mem_singleton.1 hmem
    | take _ | give _ | release => cases hmem

section
variable {s : MnemesStore M} {c c' : Config Call (MnemesStore M) Choice Event Result}

/-- In a reached configuration, statuses are what the trace says. -/
theorem Reached.current (hc : Reached P M W s c) : Current c.hist :=
  hc.invariant (by simp [Current]) fun _ _ _ _ hI ha => ha.current hI

/-- In a reached configuration, so are those that were read. -/
theorem Reached.readsCurrent (hc : Reached P M W s c) : ReadsCurrent c.hist :=
  (hc.invariant (I := fun h => Current h ∧ ReadsCurrent h) (by simp [Current, ReadsCurrent])
    fun _ _ _ _ hI ha => ⟨ha.current hI.1, ha.readsCurrent hI.1 hI.2⟩).2

end

/-! ## The cut-off -/

/-- The event is about a device that its call has authenticated: the second read of its row, or an
apply to its shard. -/
def Event.Uses (device : DeviceId) : Event → Prop
  | .deviceRead d _ => d = device
  | .ownerApplied _ _ d _ _ => d = device
  | _ => False

/-- Between a call's check of a device and each use the call makes of the device, the changes of its
status, if any, leave it active. -/
def Uninterrupted (tr : List (Tid × Event)) : Prop :=
  ∀ pre i device mid e post, tr = pre ++ (i, .statusChecked device) :: mid ++ (i, e) :: post →
    e.Uses device → statusAfter device .active mid = .active

/-- A trace without a change of status is uninterrupted. -/
theorem uninterrupted_of_forall {tr : List (Tid × Event)}
    (h : ∀ p ∈ tr, ∀ d st, p.2 ≠ .statusSet d st) : Uninterrupted tr := by
  rintro pre i device mid e post rfl -
  exact statusAfter_of_forall fun p hp => h p (by simp [hp])

/-- The calls that authenticate before they apply. -/
def Call.authenticates : Call → Bool
  | .factCreateHandler _ | .factSupersedeHandler _ => true
  | _ => false

/-- Such a call has checked the device to whose shard it applies. -/
theorem Call.May.checked {call : Call} (hcall : call.authenticates = true) {i : Tid}
    {tr : List (Tid × Event)} {F : Family} {b : Submission} {device : DeviceId}
    {e : ReplicaEnvelopeV1} {answer : Except MemoryError ReplicaApplyOutcome}
    (h : call.May P M W i tr (.ownerApplied F b device e answer)) :
    (i, .statusChecked device) ∈ tr := by
  have hroute : ∀ (route : Route) req, route.May P i req tr (.ownerApplied F b device e answer) →
      (i, Event.statusChecked device) ∈ tr := by
    rintro route req (h | ⟨b', d, status, -, -, -, hsub, -, -, rfl⟩)
    · exact h.elim
    · exact hsub.subset (List.mem_cons_self ..)
  cases call with
  | factCreateHandler req => exact hroute _ _ h
  | factSupersedeHandler req => exact hroute _ _ h
  | _ => cases hcall

/-- The cut-off, in every run in which the checks are uninterrupted: when a handler asks the owner
to apply, the status stored for the device is active, and so is the status of every device that an
authentication returns. -/
theorem revocation_cutoff {s : MnemesStore M}
    {c : Config Call (MnemesStore M) Choice Event Result} {cmds : List (Command Call Choice)}
    (hrun : (service P M W).run (Service.init s) cmds = some c)
    (hchecks : Uninterrupted c.hist.trace) :
    (∀ pre cmd post c₁ c₂ call, cmds = pre ++ cmd :: post →
      (service P M W).run (Service.init s) pre = some c₁ →
      (service P M W).exec c₁ cmd = some c₂ → c₁.call? cmd.tid = some call →
      call.authenticates = true → ∀ i F b device e answer,
      (i, .ownerApplied F b device e answer) ∈ c₂.hist.trace.drop c₁.hist.trace.length →
      c₁.hist.state.status device = some .active) ∧
    ∀ i token actorId device actor, c.slots i = .live (.authenticateRequest token actorId)
      (.done (.authenticated (.ok (device, actor)))) → device.status = .active := by
  refine ⟨?_, fun i token actorId device actor hresult => ?_⟩
  · rintro pre cmd post c₁ c₂ call rfl hpre hexec hlive hauth i F b device e answer happlied
    have hc₁ : Reached P M W s c₁ := ⟨pre, hpre⟩
    obtain ⟨c₁', hpre', hpost⟩ := ((service P M W).run_append).1 hrun
    obtain rfl : c₁ = c₁' := Option.some.inj (hpre.symm.trans hpre')
    obtain ⟨c₂', hexec', hpost⟩ := ((service P M W).run_cons).1 hpost
    obtain rfl : c₂ = c₂' := Option.some.inj (hexec.symm.trans hexec')
    obtain ⟨rest, hrest⟩ := (service P M W).run_trace hpost
    rcases hc₁.step hexec with ⟨_, _, -, hh⟩ | ⟨call', t', hlive', s', es, hact, hh, hmay⟩
    · simp [hh] at happlied
    · rw [hh, Hist.after_trace, List.drop_left] at happlied
      obtain ⟨ev, hev, heq⟩ := List.mem_map.1 happlied
      cases heq
      obtain rfl : call' = call := by simpa [Config.call?, hlive'] using hlive
      obtain ⟨pre', mid, htr⟩ := List.append_of_mem ((hmay _ hev).checked hauth)
      rw [hc₁.current pre' _ device mid htr]
      refine congrArg some (hchecks pre' cmd.tid device mid
        (.ownerApplied F b device e answer) rest ?_ rfl)
      rw [← hrest, hh, Hist.after_trace, htr, (hact.of_applied hev).1]
      simp
  · have hauth : Authentic P i token c.hist.trace device :=
      (Reached.holds ⟨cmds, hrun⟩).result hresult
    obtain ⟨r₁, r₂, htr, hchk, hread⟩ := List.cons_sublist_iff.1 hauth.order
    obtain ⟨pre, mid₁, rfl⟩ := List.append_of_mem hchk
    obtain ⟨mid₂, post, rfl⟩ := List.append_of_mem (List.singleton_sublist.1 hread)
    have htr' : c.hist.trace = pre ++ (i, .statusChecked device.deviceId) :: (mid₁ ++ mid₂) ++
        (i, .deviceRead device.deviceId device.status) :: post := by rw [htr]; simp
    rw [Reached.readsCurrent ⟨cmds, hrun⟩ _ _ _ _ _ _ _ htr']
    exact hchecks _ _ _ _ _ _ htr' rfl

namespace Sample

/-- A request is handled while its device stays active. -/
def handled : List (Command Call Choice) := call 0 (.factCreateHandler (request deviceA batchA)) 7

/-- A device is revoked after a handler and an authentication have checked it. -/
def revokedBetween : List (Command Call Choice) :=
  call 0 (.factCreateHandler (request deviceA batchA)) 1 ++
    call 1 (.authenticateRequest (credential deviceA) none) 1 ++
    call 2 (.setDeviceStatus deviceA .revoked) 1 ++
    .run 1 plain :: List.replicate 6 (.run 0 plain)

/-- The step asks the owner to apply to the shard of device A. -/
def appliesA (c c' : Config Call (MnemesStore memory) Choice Event Result) : Bool :=
  (0, .ownerApplied .factCreate (batchA.submission platform memory) deviceA
    (batchA.toSemanticEnvelope entry) (.ok (.applied 1))) ∈
      c'.hist.trace.drop c.hist.trace.length

end Sample

open Sample in
/-- An active device's envelope is applied. -/
theorem revocation_cutoff_sample : ∃ c c',
    (service platform memory wire).run (Service.init store) handled = some c ∧
    (service platform memory wire).exec c (.run 0 plain) = some c' ∧ appliesA c c' = true ∧
    c.hist.state.status deviceA = some .active := by
  have hrun : ((service platform memory wire).run (Service.init store) handled).any (fun c =>
      c.call? 0 = some (.factCreateHandler (request deviceA batchA)) &&
      ((service platform memory wire).exec c (.run 0 plain)).any fun c' => appliesA c c' &&
        c'.hist.trace.all fun p => match p.2 with
          | .statusSet _ _ => false
          | _ => true) = true := by decide +kernel
  obtain ⟨c, hc, h⟩ := (Option.any_eq_true _ _).1 hrun
  obtain ⟨hcall, h⟩ := Bool.and_eq_true_iff.1 h
  obtain ⟨c', hexec, h⟩ := (Option.any_eq_true _ _).1 h
  obtain ⟨happlies, hall⟩ := Bool.and_eq_true_iff.1 h
  have hchecks : Uninterrupted c'.hist.trace := by
    refine uninterrupted_of_forall fun p hp d st he => ?_
    have := List.all_eq_true.1 hall p hp
    rw [he] at this
    cases this
  have hrun' : (service platform memory wire).run (Service.init store)
      (handled ++ [.run 0 plain]) = some c' :=
    ((service platform memory wire).run_append).2 ⟨c, hc,
      ((service platform memory wire).run_cons).2 ⟨c', hexec, rfl⟩⟩
  exact ⟨c, c', hc, hexec, happlies, (revocation_cutoff hrun' hchecks).1 handled _ [] c c' _ rfl hc
    hexec (of_decide_eq_true hcall) rfl 0 .factCreate _ _ _ _ (of_decide_eq_true happlies)⟩

open Sample in
/-- The cut-off fails: a device that was revoked after its check is returned with its new status,
and a record is applied to its shard. -/
theorem revoked_device_served : ∃ c c' device,
    (service platform memory wire).run (Service.init store) revokedBetween = some c ∧
    (service platform memory wire).exec c (.run 0 plain) = some c' ∧ appliesA c c' = true ∧
    c.hist.state.status deviceA = some .revoked ∧
    c.result? 1 = some (.authenticated (.ok (device, none))) ∧ device.status = .revoked := by
  have hrun : ((service platform memory wire).run (Service.init store) revokedBetween).any (fun c =>
      ((service platform memory wire).exec c (.run 0 plain)).any fun c' => appliesA c c' ∧
        c.hist.state.status deviceA = some .revoked ∧
        c.result? 1 = some (.authenticated (.ok
          ({ device deviceA digestCredentialA with status := .revoked }, none)))) = true := by
    decide +kernel
  obtain ⟨c, hc, h⟩ := (Option.any_eq_true _ _).1 hrun
  obtain ⟨c', hexec, h⟩ := (Option.any_eq_true _ _).1 h
  obtain ⟨happlies, hstatus, hresult⟩ := of_decide_eq_true h
  exact ⟨c, c', _, hc, hexec, happlies, hstatus, hresult, rfl⟩

end Mnemes
