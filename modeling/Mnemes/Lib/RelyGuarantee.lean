import Mnemes.Lib.Proc

/-!
# Rely–guarantee reasoning about services

A call is verified against the terms it runs under (`Terms`): an invariant of the history, the
interference it tolerates between its actions (`rely`), and what each of its own actions promises
(`guar`). `Proc.Safe` is that judgement, by recursion on the process. When every call of a service
is safe and each call's guarantee is within every other call's rely (`RelyGuarantee`), the
invariant holds in every reachable configuration, every finished call satisfies its postcondition
and every step keeps its guarantee (`Holds.run`, `Holds.exec_guar`).
-/

namespace Concurrency

variable {κ σ ι ε α β : Type}

/-- The terms one call runs under. -/
structure Terms (σ ε : Type) where
  tid : Tid
  inv : Hist σ ε → Prop
  rely : Hist σ ε → Hist σ ε → Prop
  guar : Hist σ ε → Hist σ ε → Prop
  rely_refl : ∀ h, rely h h
  rely_trans : ∀ {h₁ h₂ h₃}, rely h₁ h₂ → rely h₂ h₃ → rely h₁ h₃

namespace Terms

/-- The terms `T` with the guarantee `G`. -/
def withGuar (T : Terms σ ε) (G : Hist σ ε → Hist σ ε → Prop) : Terms σ ε := { T with guar := G }

end Terms

namespace Proc

/-- Started in `h`, the process keeps its guarantee at every action and satisfies `Q` when it is
finished, whatever interference within the rely happens in between. -/
def Safe (T : Terms σ ε) (Q : α → Hist σ ε → Prop) : Proc σ ι ε α → Hist σ ε → Prop
  | .done a, h => ∀ h', T.rely h h' → T.inv h' → Q a h'
  | .act guard step next, h => ∀ h' x, T.rely h h' → T.inv h' → guard h'.state = true →
      T.guar h' (h'.after T.tid (step h'.state x)) ∧
        Safe T Q (next h'.state x) (h'.after T.tid (step h'.state x))

variable {T : Terms σ ε} {Q Q' : α → Hist σ ε → Prop} {h h' : Hist σ ε}

/-- Safety is stable under the interference the call relies on. -/
theorem Safe.of_rely {t : Proc σ ι ε α} (ht : t.Safe T Q h) (hr : T.rely h h') : t.Safe T Q h' := by
  cases t with
  | done a => exact fun h₂ h2 hi => ht h₂ (T.rely_trans hr h2) hi
  | act guard step next => exact fun h₂ x h2 hi hg => ht h₂ x (T.rely_trans hr h2) hi hg

/-- Safety may be shown after the interference, where the invariant holds. -/
theorem Safe.of_forall {t : Proc σ ι ε α}
    (ht : ∀ h', T.rely h h' → T.inv h' → t.Safe T Q h') : t.Safe T Q h := by
  cases t with
  | done a => exact fun h₂ h2 hi => ht h₂ h2 hi h₂ (T.rely_refl _) hi
  | act guard step next => exact fun h₂ x h2 hi hg => ht h₂ h2 hi h₂ x (T.rely_refl _) hi hg

/-- A finished process is safe where its postcondition holds, if that is stable. -/
theorem Safe.done {a : α} (hQ : ∀ h', T.rely h h' → T.inv h' → Q a h') :
    (Proc.done a : Proc σ ι ε α).Safe T Q h := hQ

/-- Consequence: a weaker guarantee, and a postcondition that follows from the old one wherever the
tolerated interference leads. -/
theorem Safe.mono {G : Hist σ ε → Hist σ ε → Prop} {t : Proc σ ι ε α}
    (ht : t.Safe (T.withGuar G) Q h) (hG : ∀ h h', G h h' → T.guar h h')
    (hQ : ∀ a h', T.inv h' → (∀ h'', T.rely h' h'' → T.inv h'' → Q a h'') → Q' a h') :
    t.Safe T Q' h := by
  induction t generalizing h with
  | done a => exact fun h₂ h2 hi => hQ _ _ hi fun h₃ h3 hi3 => ht h₃ (T.rely_trans h2 h3) hi3
  | act guard step next ih =>
    intro h₂ x h2 hi hg
    have ⟨h3, h4⟩ := ht h₂ x h2 hi hg
    exact ⟨hG _ _ h3, ih h₂.state x h4⟩

/-- Consequence for the postcondition alone. -/
theorem Safe.mono_post {t : Proc σ ι ε α} (ht : t.Safe T Q h)
    (hQ : ∀ a h', T.inv h' → (∀ h'', T.rely h' h'' → T.inv h'' → Q a h'') → Q' a h') :
    t.Safe T Q' h :=
  Safe.mono (G := T.guar) ht (fun _ _ h => h) hQ

/-- Sequencing: the postcondition of the first process makes the second one safe. -/
theorem Safe.bind {t : Proc σ ι ε α} {f : α → Proc σ ι ε β} {Q : β → Hist σ ε → Prop}
    (ht : t.Safe T (fun a h' => (f a).Safe T Q h') h) : (t.bind f).Safe T Q h := by
  induction t generalizing h with
  | done a => exact Safe.of_forall ht
  | act guard step next ih =>
    intro h₂ x h2 hi hg
    have ⟨h3, h4⟩ := ht h₂ x h2 hi hg
    exact ⟨h3, ih h₂.state x h4⟩

/-- One action that waits for its guard. -/
theorem Safe.await {guard : σ → Bool} {f : σ → ι → α × σ × List ε}
    (hf : ∀ h' x, T.rely h h' → T.inv h' → guard h'.state = true →
      T.guar h' (h'.after T.tid (f h'.state x).2) ∧
        ∀ h'', T.rely (h'.after T.tid (f h'.state x).2) h'' → T.inv h'' → Q (f h'.state x).1 h'') :
    (Proc.await guard f).Safe T Q h := hf

/-- One action. -/
theorem Safe.atomic {f : σ → ι → α × σ × List ε}
    (hf : ∀ h' x, T.rely h h' → T.inv h' →
      T.guar h' (h'.after T.tid (f h'.state x).2) ∧
        ∀ h'', T.rely (h'.after T.tid (f h'.state x).2) h'' → T.inv h'' → Q (f h'.state x).1 h'') :
    (Proc.atomic f).Safe T Q h :=
  fun h' x hr hi _ => hf h' x hr hi

/-- Sequencing of processes that may fail: an error ends the whole. -/
theorem Safe.attempt_bind {χ : Type} {t : ExceptT χ (Proc σ ι ε) α}
    {f : α → ExceptT χ (Proc σ ι ε) β} {Q : Except χ β → Hist σ ε → Prop}
    (ht : t.run.Safe T (fun r h' => match r with
      | .ok a => (f a).run.Safe T Q h'
      | .error e => ∀ h'', T.rely h' h'' → T.inv h'' → Q (.error e) h'') h) :
    (t >>= f).run.Safe T Q h := by
  refine Safe.bind (ht.mono_post fun r h' hi hr => ?_)
  have hr := hr h' (T.rely_refl _) hi
  cases r with
  | ok a => exact hr
  | error e => exact Safe.done hr

/-- Sequencing after a process whose result is looked at, failures included. -/
theorem Safe.lift_bind {χ : Type} {t : Proc σ ι ε α} {f : α → ExceptT χ (Proc σ ι ε) β}
    {Q : Except χ β → Hist σ ε → Prop} (ht : t.Safe T (fun a h' => (f a).run.Safe T Q h') h) :
    ((ExceptT.lift t : ExceptT χ (Proc σ ι ε) α) >>= f).run.Safe T Q h :=
  Safe.attempt_bind (Safe.bind (ht.mono_post fun _ _ _ hr => Safe.done hr))

/-- One action of a process that may fail, followed by the rest. -/
theorem Safe.attempt_atomic {χ : Type} {f : σ → ι → Except χ α × σ × List ε}
    {k : α → ExceptT χ (Proc σ ι ε) β} {Q : Except χ β → Hist σ ε → Prop}
    (hf : ∀ h' x, T.rely h h' → T.inv h' → T.guar h' (h'.after T.tid (f h'.state x).2) ∧
      match (f h'.state x).1 with
      | .ok a => (k a).run.Safe T Q (h'.after T.tid (f h'.state x).2)
      | .error e => ∀ h'', T.rely (h'.after T.tid (f h'.state x).2) h'' → T.inv h'' →
        Q (.error e) h'') :
    (ExceptT.mk (Proc.atomic f) >>= k).run.Safe T Q h := by
  refine Safe.attempt_bind (Safe.atomic fun h' x hr hi => ?_)
  obtain ⟨h1, h2⟩ := hf h' x hr hi
  refine ⟨h1, fun h₂ hr' _ => ?_⟩
  revert h2
  cases (f h'.state x).1 with
  | ok a => exact fun h2 => h2.of_rely hr'
  | error e => exact fun h2 h₃ hr3 => h2 h₃ (T.rely_trans hr' hr3)

/-- A call under a lock: taking and giving keep the guarantee, and the body is safe where the lock
was taken. -/
theorem Safe.locked {free : σ → Bool} {take give : σ → σ} {t : Proc σ ι ε α}
    (ht : ∀ h', T.rely h h' → T.inv h' → free h'.state = true →
      T.guar h' (h'.after T.tid (take h'.state, [])) ∧
        t.Safe T (fun a h₂ => T.guar h₂ (h₂.after T.tid (give h₂.state, [])) ∧
          ∀ h₃, T.rely (h₂.after T.tid (give h₂.state, [])) h₃ → T.inv h₃ → Q a h₃)
          (h'.after T.tid (take h'.state, []))) :
    (Proc.locked free take give t).Safe T Q h := by
  intro h' x hr hi hg
  have ⟨h1, h2⟩ := ht h' hr hi hg
  exact ⟨h1, Safe.bind (h2.mono_post fun a h₂ _ hp h₃ y h3 hi3 _ => hp h₃ h3 hi3)⟩

/-- A process over one component of a larger state is safe there when the terms of the whole imply
those of the component, read through `V`, as long as a fact `J` about the whole is stable. -/
theorem Safe.zoom {τ ι' δ : Type} {get : τ → σ} {set : τ → σ → τ} {pick : ι' → ι} {emb : ε → δ}
    {T' : Terms τ δ} {V : Hist τ δ → Hist σ ε} {g : Hist τ δ} {Q' : α → Hist τ δ → Prop}
    {J : Hist τ δ → Prop}
    (hstate : ∀ g, (V g).state = get g.state)
    (hafter : ∀ g p, V (g.after T'.tid (set g.state p.1, p.2.map emb)) = (V g).after T.tid p)
    (hrely : ∀ {g g'}, T'.rely g g' → T.rely (V g) (V g'))
    (hinv : ∀ {g}, T'.inv g → T.inv (V g))
    (hJ : ∀ {g g'}, J g → T'.rely g g' → J g')
    (hJ' : ∀ {g} {p : σ × List ε}, J g → J (g.after T'.tid (set g.state p.1, p.2.map emb)))
    (hguar : ∀ {g p}, J g → T'.inv g → T.guar (V g) ((V g).after T.tid p) →
      T'.guar g (g.after T'.tid (set g.state p.1, p.2.map emb)))
    {t : Proc σ ι ε α} (ht : t.Safe T Q (V g)) (h0 : J g)
    (hQ : ∀ a g', T'.inv g' → Q a (V g') → Q' a g') :
    (t.zoom get set pick emb).Safe T' Q' g := by
  induction t generalizing g with
  | done a => exact fun g' hr hi => hQ a g' hi (ht _ (hrely hr) (hinv hi))
  | act guard step next ih =>
    intro g' x hr hi hg
    have ⟨h1, h2⟩ := ht (V g') (pick x) (hrely hr) (hinv hi) (by rw [hstate]; exact hg)
    rw [hstate] at h1 h2
    have hJg := hJ h0 hr
    exact ⟨hguar hJg hi h1, ih _ _ (by rw [hafter]; exact h2) (hJ' hJg)⟩

end Proc

/-! ## Services -/

/-- Terms for every call of a service: a common invariant, and guarantees (one for each kind of
call) that lie within the rely of every other call. Dropping a call gives its locks back within its
guarantee. -/
structure RelyGuarantee (S : Service κ σ ι ε α) where
  inv : Hist σ ε → Prop
  rely : Tid → Hist σ ε → Hist σ ε → Prop
  guar : Tid → κ → Hist σ ε → Hist σ ε → Prop
  rely_refl : ∀ i h, rely i h h
  rely_trans : ∀ {i h₁ h₂ h₃}, rely i h₁ h₂ → rely i h₂ h₃ → rely i h₁ h₃
  guar_rely : ∀ {i k j h h'}, i ≠ j → inv h → guar i k h h' → rely j h h'
  guar_inv : ∀ {i k h h'}, inv h → guar i k h h' → inv h'
  release_guar : ∀ {i k h}, inv h → guar i k h (h.after i (S.release i h.state, []))

namespace RelyGuarantee

variable {S : Service κ σ ι ε α} (R : RelyGuarantee S)

/-- The terms of the call `k` with the identity `i`. -/
def terms (i : Tid) (k : κ) : Terms σ ε where
  tid := i
  inv := R.inv
  rely := R.rely i
  guar := R.guar i k
  rely_refl := R.rely_refl i
  rely_trans := R.rely_trans

/-- Every call of the service is safe from any history in which it has not acted yet. -/
def Bodies (Q : Tid → κ → α → Hist σ ε → Prop) : Prop :=
  ∀ i k h, R.inv h → h.Unseen i → (S.body i k).Safe (R.terms i k) (Q i k) h

/-- What the rule maintains: the invariant, the safety of every unfinished call, and that an unused
identity has recorded nothing. -/
structure Holds (Q : Tid → κ → α → Hist σ ε → Prop) (c : Config κ σ ι ε α) : Prop where
  inv : R.inv c.hist
  safe : ∀ i k t, c.slots i = .live k t → t.Safe (R.terms i k) (Q i k) c.hist
  unseen : ∀ i, c.slots i = .unused → c.hist.Unseen i

variable {R} {Q : Tid → κ → α → Hist σ ε → Prop} {c c' : Config κ σ ι ε α} {cmd : Command κ ι}

/-- The initial configuration of a state whose empty history satisfies the invariant. -/
theorem Holds.init {s : σ} (hs : R.inv ⟨s, []⟩) : R.Holds Q (Service.init s) where
  inv := hs
  safe := nofun
  unseen := fun _ _ _ hp => nomatch hp

/-- Every step keeps the guarantee of its call, or admits one and changes nothing. -/
theorem Holds.exec_guar (hc : R.Holds Q c) (h : S.exec c cmd = some c') :
    (∃ i k, cmd = .start i k ∧ c'.hist = c.hist) ∨
      ∃ k t, c.slots cmd.tid = .live k t ∧ R.guar cmd.tid k c.hist c'.hist := by
  cases cmd with
  | start i k => exact .inl ⟨i, k, rfl, (S.exec_start h).2.1⟩
  | run i x =>
    obtain ⟨k, guard, step, next, hs, hg, hh, -⟩ := S.exec_run h
    have := (hc.safe i k _ hs c.hist x (R.rely_refl i _) hc.inv hg).1
    exact .inr ⟨k, _, hs, hh ▸ this⟩
  | drop i =>
    obtain ⟨k, t, hs, hh, -⟩ := S.exec_drop h
    exact .inr ⟨k, t, hs, hh ▸ R.release_guar hc.inv⟩

/-- One step of the rule. -/
theorem Holds.exec (hb : R.Bodies Q) (hc : R.Holds Q c) (h : S.exec c cmd = some c') :
    R.Holds Q c' := by
  have hinv : R.inv c'.hist := by
    rcases hc.exec_guar h with ⟨_, _, _, hh⟩ | ⟨_, _, _, hg⟩
    · exact hh ▸ hc.inv
    · exact R.guar_inv hc.inv hg
  have hrely : ∀ j, j ≠ cmd.tid → R.rely j c.hist c'.hist := by
    intro j hj
    rcases hc.exec_guar h with ⟨_, _, _, hh⟩ | ⟨_, _, _, hg⟩
    · exact hh ▸ R.rely_refl j _
    · exact R.guar_rely (Ne.symm hj) hc.inv hg
  refine ⟨hinv, fun j k t hj => ?_, fun j hj => ?_⟩
  · by_cases hne : j = cmd.tid
    · subst hne
      cases cmd with
      | start i k' =>
        obtain ⟨hu, hh, hs⟩ := S.exec_start h
        simp only [Command.tid, hs, Function.update_self] at hj
        cases hj
        rw [hh]
        exact hb i k _ hc.inv (hc.unseen i hu)
      | run i x =>
        obtain ⟨k', guard, step, next, hs, hg, hh, hs'⟩ := S.exec_run h
        simp only [Command.tid, hs', Function.update_self] at hj
        cases hj
        rw [hh]
        exact (hc.safe i k _ hs c.hist x (R.rely_refl i _) hc.inv hg).2
      | drop i =>
        obtain ⟨_, _, _, _, hs'⟩ := S.exec_drop h
        simp only [Command.tid, hs', Function.update_self] at hj
        cases hj
    · rw [S.exec_slots_ne h hne] at hj
      exact (hc.safe j k t hj).of_rely (hrely j hne)
  · by_cases hne : j = cmd.tid
    · subst hne
      cases cmd with
      | start i k' =>
        simp only [Command.tid, (S.exec_start h).2.2, Function.update_self] at hj
        cases hj
      | run i x =>
        obtain ⟨_, _, _, _, _, _, _, hs'⟩ := S.exec_run h
        simp only [Command.tid, hs', Function.update_self] at hj
        cases hj
      | drop i =>
        obtain ⟨_, _, _, _, hs'⟩ := S.exec_drop h
        simp only [Command.tid, hs', Function.update_self] at hj
        cases hj
    · rw [S.exec_slots_ne h hne] at hj
      exact S.exec_unseen h hne (hc.unseen j hj)

/-- The rule for runs. -/
theorem Holds.run (hb : R.Bodies Q) (hc : R.Holds Q c) {cmds : List (Command κ ι)}
    (h : S.run c cmds = some c') : R.Holds Q c' := by
  induction cmds generalizing c with
  | nil => cases h; exact hc
  | cons cmd cmds ih =>
    obtain ⟨m, h1, h2⟩ := S.run_cons.1 h
    exact ih (hc.exec hb h1) h2

/-- The rule of invariants for runs whose calls all satisfy `A`: what holds of the history and is
kept by the guarantees of such calls holds after the run. -/
theorem Holds.invariant_of (hb : R.Bodies Q) (hc : R.Holds Q c) {A : κ → Prop}
    {I : Hist σ ε → Prop} (hlive : ∀ i k t, c.slots i = .live k t → A k) (h0 : I c.hist)
    (hstep : ∀ i k h h', A k → I h → R.guar i k h h' → I h') {cmds : List (Command κ ι)}
    (hcalls : ∀ i k, .start i k ∈ cmds → A k) (h : S.run c cmds = some c') : I c'.hist := by
  induction cmds generalizing c with
  | nil => cases h; exact h0
  | cons cmd cmds ih =>
    obtain ⟨m, h1, h2⟩ := S.run_cons.1 h
    refine ih (hc.exec hb h1) (fun i k t ht => ?_) ?_
      (fun i k hk => hcalls i k (List.mem_cons_of_mem _ hk)) h2
    · rcases S.exec_live h1 ht with rfl | ⟨t', ht'⟩
      · exact hcalls i k (List.mem_cons_self ..)
      · exact hlive i k t' ht'
    · rcases hc.exec_guar h1 with ⟨_, _, _, hh⟩ | ⟨k, t, ht, hg⟩
      · exact hh ▸ h0
      · exact hstep _ _ _ _ (hlive _ k t ht) h0 hg

/-- The same for arbitrary calls. -/
theorem Holds.invariant (hb : R.Bodies Q) (hc : R.Holds Q c) {I : Hist σ ε → Prop} (h0 : I c.hist)
    (hstep : ∀ i k h h', I h → R.guar i k h h' → I h') {cmds : List (Command κ ι)}
    (h : S.run c cmds = some c') : I c'.hist :=
  hc.invariant_of hb (A := fun _ => True) (fun _ _ _ _ => trivial) h0
    (fun i k h h' _ => hstep i k h h') (fun _ _ _ => trivial) h

/-- The rule for reachable configurations. -/
theorem Holds.reachable (hb : R.Bodies Q) {Init : σ → Prop} (h0 : ∀ s, Init s → R.inv ⟨s, []⟩)
    (hc : S.Reachable Init c) : R.Holds Q c := by
  obtain ⟨s, cmds, hs, hrun⟩ := hc
  exact (Holds.init (h0 s hs)).run hb hrun

/-- A finished call satisfies its postcondition. -/
theorem Holds.result (hc : R.Holds Q c) {i : Tid} {k : κ} {a : α}
    (hs : c.slots i = .live k (.done a)) : Q i k a c.hist :=
  hc.safe i k _ hs c.hist (R.rely_refl i _) hc.inv

/-! ## One call among the others -/

variable {i : Tid} {k : κ} {G : Hist σ ε → Hist σ ε → Prop} {P : α → Hist σ ε → Prop}

/-- What is known of one call on top of the common terms: its own guarantee `G` and its own
postcondition `P`. -/
def Tracks (R : RelyGuarantee S) (i : Tid) (k : κ) (G : Hist σ ε → Hist σ ε → Prop)
    (P : α → Hist σ ε → Prop) (c : Config κ σ ι ε α) : Prop :=
  c.slots i ≠ .unused ∧
    ∀ k' t, c.slots i = .live k' t → k' = k ∧ t.Safe ((R.terms i k).withGuar G) P c.hist

/-- A step of the tracked call keeps its own guarantee. -/
theorem Tracks.exec_guar (hc : R.Holds Q c) (ht : R.Tracks i k G P c) {x : ι}
    (h : S.exec c (.run i x) = some c') : G c.hist c'.hist := by
  obtain ⟨k', guard, step, next, hs, hg, hh, -⟩ := S.exec_run h
  have := ((ht.2 k' _ hs).2 c.hist x (R.rely_refl i _) hc.inv hg).1
  exact hh ▸ this

/-- One step of the rule for a tracked call. -/
theorem Tracks.exec (hc : R.Holds Q c) (ht : R.Tracks i k G P c) (h : S.exec c cmd = some c') :
    R.Tracks i k G P c' := by
  by_cases hne : i = cmd.tid
  · cases cmd with
    | start j k' => exact absurd (hne ▸ (S.exec_start h).1) ht.1
    | run j x =>
      obtain ⟨k', guard, step, next, hs, hg, hh, hs'⟩ := S.exec_run h
      obtain rfl : j = i := hne.symm
      obtain ⟨rfl, h1⟩ := ht.2 k' _ hs
      refine ⟨by simp [hs'], fun k'' t ht' => ?_⟩
      simp only [hs', Function.update_self] at ht'
      cases ht'
      exact ⟨rfl, hh ▸ (h1 c.hist x (R.rely_refl _ _) hc.inv hg).2⟩
    | drop j =>
      obtain ⟨_, _, _, _, hs'⟩ := S.exec_drop h
      obtain rfl : j = i := hne.symm
      refine ⟨by simp [hs'], fun k'' t ht' => ?_⟩
      simp [hs'] at ht'
  · refine ⟨by rw [S.exec_slots_ne h hne]; exact ht.1, fun k' t ht' => ?_⟩
    rw [S.exec_slots_ne h hne] at ht'
    obtain ⟨h1, h2⟩ := ht.2 k' t ht'
    refine ⟨h1, h2.of_rely (?_ : R.rely i c.hist c'.hist)⟩
    rcases hc.exec_guar h with ⟨_, _, _, hh⟩ | ⟨_, _, _, hg⟩
    · exact hh ▸ R.rely_refl i _
    · exact R.guar_rely (Ne.symm hne) hc.inv hg

/-- The rule for runs of a tracked call. -/
theorem Tracks.run (hb : R.Bodies Q) (hc : R.Holds Q c) (ht : R.Tracks i k G P c)
    {cmds : List (Command κ ι)} (h : S.run c cmds = some c') : R.Tracks i k G P c' := by
  induction cmds generalizing c with
  | nil => cases h; exact ht
  | cons cmd cmds ih =>
    obtain ⟨m, h1, h2⟩ := S.run_cons.1 h
    exact ih (hc.exec hb h1) (ht.exec hc h1) h2

/-- The tracked call satisfies its own postcondition when it is finished. -/
theorem Tracks.result (hc : R.Holds Q c) (ht : R.Tracks i k G P c) {k' : κ} {a : α}
    (hs : c.slots i = .live k' (.done a)) : P a c.hist :=
  (ht.2 k' _ hs).2 c.hist (R.rely_refl i _) hc.inv

end RelyGuarantee

-- A call is verified with the rules above, without looking into the recursion.
attribute [irreducible] Proc.Safe

end Concurrency
