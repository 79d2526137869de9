import Mnemes.Replication.Discipline

/-!
# Every call of the service keeps to the actions

The authentication and the handlers keep to `Action` as the replication methods do, and a handler
applies to the shard of a device only after it authenticated that device. So do all calls of the
service (`discipline_bodies`), and the rule for services turns that into what every step of every
run does (`Reached.step`).
-/

namespace Mnemes

open Concurrency Relational

variable {M : SemanticMemory} {α β : Type} {P : Platform} {W : Wire} {i : Tid}
  {ok : Event → Prop}
  {G : Hist (MnemesStore M) Event → Hist (MnemesStore M) Event → Prop}
  {h₀ h : Hist (MnemesStore M) Event}

/-! ## Authentication -/

/-- A query whose failure counts as an empty result. -/
theorem safe_poolReadOk {Q : Except MnemesError β → Hist (MnemesStore M) Event → Prop}
    (hG : Keeps P i h₀.trace ok G) (hh : Holding i h₀ h) {f : PooledDb → Option α}
    {note : α → List Event} {k : Option α → Op M β}
    (hact : ∀ (h' : Hist (MnemesStore M) Event) a, f h'.state.db = some a →
      Action P i h'.trace h'.state h'.state (note a) ∧ ∀ e ∈ note a, ok e)
    (hk : ∀ h' r, Rely i h h' → (∀ a, r = some a →
      ∃ h₁ : Hist (MnemesStore M) Event, f h₁.state.db = some a ∧
        h'.trace = h₁.trace ++ (note a).map (i, ·) ∧ Rely i h h₁) →
      (k r).run.Safe (terms i G) Q h') :
    (poolReadOk f note >>= k).run.Safe (terms i G) Q h := by
  refine safe_atomic fun h' x hr => ?_
  have hh' := hh.rely hr
  have hidle : G h' h' := hG.idle hh'.trace
  cases hx : x.fault with
  | some error => simpa using ⟨hidle, hk h' none hr nofun⟩
  | none =>
    cases hf : f h'.state.db with
    | none => simpa using ⟨hidle, hk h' none hr nofun⟩
    | some a =>
      obtain ⟨h1, h2⟩ := hact h' a hf
      refine ⟨hG _ _ _ hh'.trace h1 h2, hk _ _ (hr.trans (.after_quiet rfl rfl rfl)) ?_⟩
      rintro a' ⟨⟩
      exact ⟨h', hf, rfl, hr⟩

/-- What authentication establishes of the device it returns: the token names it, its status was
checked and later its row was read, with the status that is returned. -/
structure Authentic (P : Platform) (i : Tid) (token : String) (tr : List (Tid × Event))
    (device : Device) : Prop where
  named : tokenDevice P token = some device.deviceId
  canonical : DeviceId.parse P device.deviceId.text = .ok device.deviceId
  order : [(i, Event.statusChecked device.deviceId),
    (i, Event.deviceRead device.deviceId device.status)].Sublist tr

/-- An authentication stays one in a longer trace. -/
theorem Authentic.mono {token : String} {tr tr' : List (Tid × Event)} {device : Device}
    (ha : Authentic P i token tr device) (ht : tr <+: tr') : Authentic P i token tr' device :=
  ⟨ha.named, ha.canonical, ha.order.trans ht.sublist⟩

/-- The device a token names is in its canonical spelling. -/
theorem parseAuthorizationToken_device {raw : String} {device : DeviceId} {secret : String}
    (h : parseAuthorizationToken P raw = .ok (device, secret)) :
    DeviceId.parse P device.text = .ok device := by
  unfold parseAuthorizationToken at h
  split at h
  · cases h
  · next v s _ =>
    split at h
    · cases h
    · cases hp : DeviceId.parse P v with
      | error e => simp [hp, Except.mapError, Except.map] at h
      | ok d =>
        simp only [hp, Except.mapError, Except.map, Except.ok.injEq, Prod.mk.injEq] at h
        exact h.1 ▸ DeviceId.parse_text hp

/-- After the device of a token is looked up, the call goes on with an authentic device. -/
theorem safe_tokenDeviceId {Q : Except MnemesError β → Hist (MnemesStore M) Event → Prop}
    (hQ : ∀ e h', Q (.error e) h') (hG : Keeps P i h₀.trace ok G) (hh : Holding i h₀ h)
    (hok : ∀ e : Event, e.Authenticates → ok e)
    {token : String} {k : Device × Option String → Op M β}
    (hk : ∀ h' r, Rely i h h' → Authentic P i token h'.trace r.1 →
      (k r).run.Safe (terms i G) Q h') :
    (tokenDeviceId P token >>= k).run.Safe (terms i G) Q h := by
  have hQ' : ∀ e h', Holding i h₀ h' → Q (.error e) h' := fun e h' _ => hQ e h'
  unfold tokenDeviceId credentialRow getDevice
  simp only [bind_assoc]
  refine safe_lift hQ' hh fun parsed hparse => ?_
  obtain ⟨device, secret⟩ := parsed
  refine safe_poolReadOk hG hh (fun h' a ha => ?_) fun h1 r hr1 hr => ?_
  · obtain ⟨row, hrow, rfl⟩ := Option.map_eq_some_iff.1 ha
    by_cases hact : row.status = .active
    · simp only [hact, if_true]
      exact ⟨.check hrow hact, by simpa using hok (.statusChecked device) trivial⟩
    · simp only [hact, if_false]
      exact ⟨.quiet (by simp), by simp⟩
  · cases r with
    | none => exact Proc.Safe.done fun h' _ _ => hQ _ _
    | some row =>
      obtain ⟨fingerprint, status⟩ := row
      simp only
      split
      · exact Proc.Safe.done fun h' _ _ => hQ _ _
      · next hstatus =>
        have hstatus : status = .active := by simpa using hstatus
        subst hstatus
        split
        · exact Proc.Safe.done fun h' _ _ => hQ _ _
        · obtain ⟨h2, -, htr, -⟩ := hr _ rfl
          have hchk : (i, Event.statusChecked device) ∈ h1.trace := by simp [htr]
          simp only [bind_assoc]
          refine safe_poolReadOk hG (hh.rely hr1) (fun h' row hrow => ?_) fun h3 r hr3 hrow => ?_
          · exact ⟨.read hrow, by simpa using hok (.deviceRead device row.status) trivial⟩
          · cases r with
            | none => exact Proc.Safe.done fun h' _ _ => hQ _ _
            | some row =>
              obtain ⟨h4, hfind, htr4, hr4⟩ := hrow row rfl
              obtain rfl : row.deviceId = device := (Table.find?_eq_some.1 hfind).2
              refine hk _ _ (hr1.trans hr3)
                ⟨by simp [tokenDevice, hparse, Except.toOption],
                  parseAuthorizationToken_device hparse, ?_⟩
              have hmem := hr4.trace.subset hchk
              rw [htr4]
              exact (List.singleton_sublist.2 hmem).append (List.Sublist.refl _)

/-- What `authenticate_request` says of its result. -/
theorem safe_authenticateRequest {Q : Except MnemesError β → Hist (MnemesStore M) Event → Prop}
    (hQ : ∀ e h', Q (.error e) h') (hG : Keeps P i h₀.trace ok G) (hh : Holding i h₀ h)
    (hok : ∀ e : Event, e.Authenticates → ok e)
    {token : String} {actorId : Option ActorId} {k : Device × Option Actor → Op M β}
    (hk : ∀ h' r, Rely i h h' → Authentic P i token h'.trace r.1 →
      (k r).run.Safe (terms i G) Q h') :
    (authenticateRequest P token actorId >>= k).run.Safe (terms i G) Q h := by
  unfold authenticateRequest getActor
  simp only [bind_assoc]
  refine safe_tokenDeviceId hQ hG hh hok fun h1 r hr1 hauth => ?_
  obtain ⟨device, fingerprint⟩ := r
  cases actorId with
  | none => exact hk h1 _ hr1 hauth
  | some actorId =>
    simp only [bind_assoc]
    refine safe_poolReadOk hG (hh.rely hr1)
      (fun h' a _ => ⟨.quiet (by simp), by simp⟩) fun h2 r hr2 _ => ?_
    cases r with
    | none => exact Proc.Safe.done fun h' _ _ => hQ _ _
    | some actor =>
      simp only
      split
      · exact Proc.Safe.done fun h' _ _ => hQ _ _
      · exact hk h2 _ (hr1.trans hr2) (hauth.mono hr2.trace)

/-! ## The handlers -/

/-- The batch a route decodes is one of its family's signed batches. -/
def Route.Sound (P : Platform) (M : SemanticMemory) (route : Route) : Prop :=
  ∀ bytes b, route.decodeJson bytes = .ok b → Submitted P M route.family b

/-- What the fact-create route decodes was signed. -/
theorem factCreateRoute_sound : (factCreateRoute P M W).Sound P M := by
  intro bytes b h
  cases hd : SignedFactCreateBatchV1.decodeJson P M W bytes with
  | error e => simp [factCreateRoute, hd, Except.map] at h
  | ok batch =>
    simp only [factCreateRoute, hd, Except.map, Except.ok.injEq] at h
    exact ⟨batch, h.symm⟩

/-- So is what the fact-supersede route decodes. -/
theorem factSupersedeRoute_sound : (factSupersedeRoute P M W).Sound P M := by
  intro bytes b h
  cases hd : SignedFactSupersedeBatchV1.decodeJson P M W bytes with
  | error e => simp [factSupersedeRoute, hd, Except.map] at h
  | ok batch =>
    simp only [factSupersedeRoute, hd, Except.map, Except.ok.injEq] at h
    exact ⟨batch, h.symm⟩

/-- What a response says: success carries an acknowledgement that is stored. -/
def Responds (P : Platform) (route : Route) (req : Request) (r : Response)
    (h : Hist (MnemesStore M) Event) : Prop :=
  ∀ ack, r.body = .inl ack → ∃ b, route.decodeJson req.body = .ok b ∧
    ack.protocol = route.protocol ∧
    Acknowledges route.family b (hex (P.sha256 req.body).toList) (.ok ack.record) h

/-- The events a handler may record after the events `tr`: those of its authentication, and then
those of an apply call for the batch it decoded, of the device it authenticated. -/
def Route.May (P : Platform) (route : Route) (i : Tid) (req : Request) (tr : List (Tid × Event))
    (e : Event) : Prop :=
  e.Authenticates ∨ ∃ b device status, route.decodeJson req.body = .ok b ∧
    req.device P = some device ∧ b.homeDeviceId = device.text ∧
    [(i, Event.statusChecked device), (i, Event.deviceRead device status)].Sublist tr ∧
    e.Serves route.family b device

/-- A handler records only the events it may. -/
theorem safe_handler {route : Route} (hroute : route.Sound P M) {req : Request}
    (hG : ∀ tr, h.trace <+: tr → Keeps P i tr (route.May P i req tr) G) :
    (route.handler P i req).Safe (terms i G) (Responds P route req) h := by
  have herror : ∀ status text (h' : Hist (MnemesStore M) Event),
      Responds P route req ⟨status, .inr text⟩ h' :=
    fun _ _ _ ack hack => by cases hack
  unfold Route.handler
  split
  · exact Proc.Safe.done fun h' _ _ => herror _ _ h'
  · next b hb =>
    refine Proc.Safe.bind ?_
    unfold authorize
    have hQ : ∀ e h', (Proc.done (errorResponse e) :
        Proc (MnemesStore M) Choice Event Response).Safe (terms i G) (Responds P route req) h' :=
      fun e h' => Proc.Safe.done fun h'' _ _ => herror _ _ h''
    refine safe_lift (fun e h' _ => hQ e h') (.refl i h) fun token htoken => ?_
    refine safe_authenticateRequest hQ (hG _ List.prefix_rfl) (.refl i h) (fun e he => .inl he)
      fun h1 r hr1 hauth => ?_
    refine Proc.Safe.done fun h2 hr2 _ => ?_
    simp only
    split
    · exact Proc.Safe.done fun h'' _ _ => herror _ _ h''
    · next hhome =>
      have hhome : b.homeDeviceId = r.1.deviceId.text := by simpa using hhome
      have hok : ∀ device, b.device P = .ok device → ∀ e, e.Serves route.family b device →
          route.May P i req h2.trace e := by
        intro device hd e he
        rw [Submission.device, hhome, hauth.canonical] at hd
        obtain rfl := Except.ok.inj hd
        refine .inr ⟨b, _, _, hb, ?_, hhome, (hauth.mono hr2.trace).order, he⟩
        simp [Request.device, htoken, Except.toOption, hauth.named]
      refine Proc.Safe.bind ((safe_applyRequest (hroute _ _ hb) hok
        (hG _ (hr1.trace.trans hr2.trace))).mono_post ?_)
      intro r h3 _ hr3
      have hr3 := hr3 h3 (Rely.refl i h3) trivial
      cases r with
      | error e => exact Proc.Safe.done fun h'' _ _ => herror _ _ h''
      | ok ack =>
        refine Proc.Safe.done fun h4 hr4 _ ack' hack => ?_
        cases hack
        exact ⟨b, hb, rfl, hr3.rely hr4⟩

/-! ## The service -/

/-- The events a call may record after the events `tr`. -/
def Call.May (P : Platform) (M : SemanticMemory) (W : Wire) (i : Tid) :
    Call → List (Tid × Event) → Event → Prop
  | .admitFactCreateKey a, _, e => e = .admitted .factCreate a.admission
  | .revokeFactCreateKey device storeId ns principalId keyVersion, _, e =>
    e = .revoked .factCreate ⟨device, storeId, ns, principalId, keyVersion.toInt64⟩
  | .applyFactCreateRequest b _, _, e => ∃ device,
    (b.submission P M).device P = .ok device ∧ e.Serves .factCreate (b.submission P M) device
  | .admitFactSupersedeKey a, _, e => e = .admitted .factSupersede a.admission
  | .revokeFactSupersedeKey device storeId ns principalId keyVersion, _, e =>
    e = .revoked .factSupersede ⟨device, storeId, ns, principalId, keyVersion.toInt64⟩
  | .applyFactSupersedeRequest b _, _, e => ∃ device,
    (b.submission P M).device P = .ok device ∧ e.Serves .factSupersede (b.submission P M) device
  | .setDeviceStatus device status, _, e => e = .statusSet device status
  | .authenticateRequest _ _, _, e => e.Authenticates
  | .factCreateHandler req, tr, e => (factCreateRoute P M W).May P i req tr e
  | .factSupersedeHandler req, tr, e => (factSupersedeRoute P M W).May P i req tr e

/-- What a call may record it may record later as well. -/
theorem Call.May.mono {call : Call} {tr tr' : List (Tid × Event)} {e : Event}
    (h : call.May P M W i tr e) (ht : tr <+: tr') : call.May P M W i tr' e := by
  have hroute : ∀ route : Route, ∀ req, route.May P i req tr e → route.May P i req tr' e := by
    rintro route req (h | ⟨b, device, status, h1, h2, h3, h4, h5⟩)
    · exact .inl h
    · exact .inr ⟨b, device, status, h1, h2, h3, h4.trans ht.sublist, h5⟩
  cases call with
  | factCreateHandler req => exact hroute _ _ h
  | factSupersedeHandler req => exact hroute _ _ h
  | _ => exact h

/-- What a step of a call is: an action, with events that the call may record. -/
def Step (P : Platform) (M : SemanticMemory) (W : Wire) (i : Tid) (call : Call)
    (h h' : Hist (MnemesStore M) Event) : Prop :=
  ∃ s' es, Action P i h.trace h.state s' es ∧ h' = h.after i (s', es) ∧
    ∀ e ∈ es, call.May P M W i h.trace e

/-- What the result of a call says. -/
def Call.Post (P : Platform) (M : SemanticMemory) (W : Wire) (i : Tid) :
    Call → Result → Hist (MnemesStore M) Event → Prop
  | .applyFactCreateRequest b requestDigest, .ack r, h =>
    Acknowledges .factCreate (b.submission P M) requestDigest r h
  | .applyFactSupersedeRequest b requestDigest, .ack r, h =>
    Acknowledges .factSupersede (b.submission P M) requestDigest r h
  | .authenticateRequest token _, .authenticated (.ok (device, _)), h =>
    Authentic P i token h.trace device
  | .factCreateHandler req, .response r, h => Responds P (factCreateRoute P M W) req r h
  | .factSupersedeHandler req, .response r, h => Responds P (factSupersedeRoute P M W) req r h
  | _, _, _ => True

/-- The terms of the service: no invariant beyond what the actions say. -/
def discipline (P : Platform) (M : SemanticMemory) (W : Wire) :
    RelyGuarantee (service P M W) where
  inv := fun _ => True
  rely := Rely
  guar := Step P M W
  rely_refl := Rely.refl
  rely_trans := Rely.trans
  guar_rely := by
    rintro i k j h h' hij - ⟨s', es, hact, rfl, -⟩
    exact Acts.rely hij ⟨s', es, hact, rfl⟩
  guar_inv := fun _ _ => trivial
  release_guar := fun {i k h} _ =>
    ⟨_, _, .release, rfl, by simp⟩

/-- A call keeps its guarantee with the actions whose events it may record. -/
theorem keeps_step (call : Call) (tr : List (Tid × Event)) :
    Keeps P i tr (call.May P M W i tr) (Step P M W i call) :=
  fun _ s' es ht hact hok => ⟨s', es, hact, rfl, fun e he => (hok e he).mono ht⟩

/-- A call whose result is only wrapped is as safe as the process it runs. -/
theorem safe_map {T : Terms (MnemesStore M) Event} {t : Proc (MnemesStore M) Choice Event α}
    {f : α → β} {Q : β → Hist (MnemesStore M) Event → Prop}
    (ht : t.Safe T (fun a => Q (f a)) h) : (f <$> t).Safe T Q h := by
  rw [map_eq_pure_bind]
  exact Proc.Safe.bind (ht.mono_post fun a h' _ hq => Proc.Safe.done fun h'' hr hi => hq h'' hr hi)

/-- Every call of the service is safe. -/
theorem discipline_bodies : (discipline P M W).Bodies (Call.Post P M W) := by
  intro i call h _ _
  show (call.body P W i).Safe (terms i (Step P M W i call)) _ h
  have hkeeps := keeps_step (P := P) (M := M) (W := W) (i := i) call
  cases call with
  | admitFactCreateKey a =>
    exact safe_map ((safe_admitKey (hkeeps h.trace) rfl).mono_post fun r _ _ _ => by
      cases r <;> trivial)
  | revokeFactCreateKey device storeId ns principalId keyVersion =>
    exact safe_map ((safe_revokeKey (hkeeps h.trace) rfl).mono_post fun r _ _ _ => by
      cases r <;> trivial)
  | applyFactCreateRequest b requestDigest =>
    have hb : Submitted P M .factCreate (b.submission P M) := ⟨b, rfl⟩
    exact safe_map (safe_applyRequest hb (fun device hd e he => ⟨device, hd, he⟩) (hkeeps h.trace))
  | admitFactSupersedeKey a =>
    exact safe_map ((safe_admitKey (hkeeps h.trace) rfl).mono_post fun r _ _ _ => by
      cases r <;> trivial)
  | revokeFactSupersedeKey device storeId ns principalId keyVersion =>
    exact safe_map ((safe_revokeKey (hkeeps h.trace) rfl).mono_post fun r _ _ _ => by
      cases r <;> trivial)
  | applyFactSupersedeRequest b requestDigest =>
    have hb : Submitted P M .factSupersede (b.submission P M) := ⟨b, rfl⟩
    exact safe_map (safe_applyRequest hb (fun device hd e he => ⟨device, hd, he⟩) (hkeeps h.trace))
  | setDeviceStatus device status =>
    exact safe_map ((safe_setDeviceStatus (hkeeps h.trace) rfl).mono_post fun r _ _ _ => by
      cases r <;> trivial)
  | authenticateRequest token actorId =>
    refine safe_map ?_
    rw [← bind_pure (authenticateRequest P token actorId)]
    exact safe_authenticateRequest (fun _ _ => trivial) (hkeeps h.trace) (.refl i h)
      (fun _ he => he) fun h1 r hr1 hauth => Proc.Safe.done fun h2 hr2 _ => hauth.mono hr2.trace
  | factCreateHandler req =>
    exact safe_map (safe_handler factCreateRoute_sound fun tr _ => hkeeps tr)
  | factSupersedeHandler req =>
    exact safe_map (safe_handler factSupersedeRoute_sound fun tr _ => hkeeps tr)

/-! ## Runs -/

/-- A configuration the service reaches from the store `s`. -/
def Reached (P : Platform) (M : SemanticMemory) (W : Wire) (s : MnemesStore M)
    (c : Config Call (MnemesStore M) Choice Event Result) : Prop :=
  ∃ cmds, (service P M W).run (Service.init s) cmds = some c

variable {s : MnemesStore M} {c c' : Config Call (MnemesStore M) Choice Event Result}
  {cmd : Command Call Choice}

/-- A configuration that is reached obeys the discipline. -/
theorem Reached.holds (hc : Reached P M W s c) :
    (discipline P M W).Holds (Call.Post P M W) c := by
  obtain ⟨cmds, hrun⟩ := hc
  exact (RelyGuarantee.Holds.init trivial).run discipline_bodies hrun

/-- What a command leads to from a reached configuration is reached. -/
theorem Reached.exec (hc : Reached P M W s c) (h : (service P M W).exec c cmd = some c') :
    Reached P M W s c' := by
  obtain ⟨cmds, hrun⟩ := hc
  exact ⟨cmds ++ [cmd], ((service P M W).run_append).2
    ⟨c, hrun, ((service P M W).run_cons).2 ⟨c', h, rfl⟩⟩⟩

/-- Every step of a reachable configuration admits a call, or is an action of its call. -/
theorem Reached.step (hc : Reached P M W s c) (h : (service P M W).exec c cmd = some c') :
    (∃ i k, cmd = .start i k ∧ c'.hist = c.hist) ∨
      ∃ k t, c.slots cmd.tid = .live k t ∧ Step P M W cmd.tid k c.hist c'.hist :=
  hc.holds.exec_guar h

/-- The rule of invariants for runs: what holds of the initial history and is kept by every action
holds in every reachable configuration. -/
theorem Reached.invariant {I : Hist (MnemesStore M) Event → Prop} (h0 : I ⟨s, []⟩)
    (haction : ∀ i h s' es, I h → Action P i h.trace h.state s' es → I (h.after i (s', es)))
    (hc : Reached P M W s c) : I c.hist := by
  obtain ⟨cmds, hrun⟩ := hc
  refine (RelyGuarantee.Holds.init (R := discipline P M W) trivial).invariant discipline_bodies h0
    (fun i k h h' hI hstep => ?_) hrun
  obtain ⟨s', es, hact, rfl, -⟩ := hstep
  exact haction i h s' es hI hact

end Mnemes
