import Mathlib.Data.List.Infix
import Mnemes.Lib.Proc

/-!
# Noninterference by projection

The calls of a service are split into low and high ones, and a relation between states says what the
low calls can see. A process agrees on the relation (`Proc.Agrees`) when it does the same from
related states. If low calls agree and high steps keep the state related to the other one, then
removing every command of the high calls from a run gives a run in which the low calls do exactly
what they did (`Service.project`).
-/

namespace Concurrency

variable {κ σ ι ε α β : Type}

namespace Proc

/-- From related states the process does the same: where it is enabled in the first state it is
enabled in the second, its actions keep the relation and record the same events, it continues the
same way, and its result satisfies `Q`. -/
def Agrees (R : σ → σ → Prop) (Q : α → Prop) : Proc σ ι ε α → Prop
  | .done a => Q a
  | .act guard step next => ∀ s s' x, R s s' → guard s = true →
      guard s' = true ∧ R (step s x).1 (step s' x).1 ∧ (step s' x).2 = (step s x).2 ∧
        next s' x = next s x ∧ (next s x).Agrees R Q

variable {R : σ → σ → Prop} {Q : α → Prop}

/-- A process that is done agrees with every other run of itself. -/
theorem Agrees.done {a : α} (h : Q a) : (Proc.done a : Proc σ ι ε α).Agrees R Q := h

/-- Sequencing. -/
theorem Agrees.bind {t : Proc σ ι ε α} {f : α → Proc σ ι ε β} {Q' : β → Prop} (ht : t.Agrees R Q)
    (hf : ∀ a, Q a → (f a).Agrees R Q') : (t.bind f).Agrees R Q' := by
  induction t with
  | done a => exact hf a ht
  | act guard step next ih =>
    intro s s' x hR hg
    obtain ⟨h1, h2, h3, h4, h5⟩ := ht s s' x hR hg
    exact ⟨h1, h2, h3, congrArg (Proc.bind · f) h4, ih s x h5⟩

/-- One action. -/
theorem Agrees.atomic {f : σ → ι → α × σ × List ε}
    (hf : ∀ s s' x, R s s' → (f s' x).1 = (f s x).1 ∧ R (f s x).2.1 (f s' x).2.1 ∧
      (f s' x).2.2 = (f s x).2.2 ∧ Q (f s x).1) : (Proc.atomic f).Agrees R Q := by
  intro s s' x hR _
  obtain ⟨h1, h2, h3, h4⟩ := hf s s' x hR
  exact ⟨rfl, h2, h3, congrArg Proc.done h1, h4⟩

/-- A call under a lock that is free in the second state where it is free in the first. -/
theorem Agrees.locked {free : σ → Bool} {take give : σ → σ} {t : Proc σ ι ε α}
    (hfree : ∀ s s', R s s' → free s = true → free s' = true ∧ R (take s) (take s'))
    (hgive : ∀ s s', R s s' → R (give s) (give s')) (ht : t.Agrees R Q) :
    (Proc.locked free take give t).Agrees R Q := by
  intro s s' x hR hg
  obtain ⟨h1, h2⟩ := hfree s s' hR hg
  refine ⟨h1, h2, rfl, rfl, ht.bind fun a ha => ?_⟩
  exact fun s s' x hR _ => ⟨rfl, hgive s s' hR, rfl, rfl, ha⟩

end Proc

namespace Service

variable {S : Service κ σ ι ε α} {R : σ → σ → Prop} {low : Tid → Bool}

/-- The configuration `cL` is what is left of `c` without the high calls: their states are related,
the low calls are at the same point, and their events are the same. -/
structure Projects (R : σ → σ → Prop) (low : Tid → Bool) (c cL : Config κ σ ι ε α) : Prop where
  state : R c.hist.state cL.hist.state
  slots : ∀ i, low i = true → cL.slots i = c.slots i
  trace : cL.hist.trace = c.hist.trace.filter (low ·.1)
  agrees : ∀ i k t, low i = true → c.slots i = .live k t → t.Agrees R fun _ => True

/-- The events of one call are seen together or not at all. -/
theorem filter_map_tid {i : Tid} (es : List ε) :
    (es.map (i, ·)).filter (low ·.1) = if low i then es.map (i, ·) else [] := by
  split
  · next h => simp [h]
  · next h => simp [h]

/-- A step of a high call. -/
theorem Projects.highStep {c c' cL : Config κ σ ι ε α} {cmd : Command κ ι}
    (hp : Projects R low c cL) (h : S.exec c cmd = some c') (hhigh : low cmd.tid = false)
    (hR : R c'.hist.state cL.hist.state) : Projects R low c' cL := by
  have hne : ∀ i, low i = true → i ≠ cmd.tid := by
    rintro i hi rfl
    rw [hhigh] at hi
    cases hi
  refine ⟨hR, fun i hi => ?_, ?_, fun i k t hi ht => ?_⟩
  · rw [hp.slots i hi, S.exec_slots_ne h (hne i hi)]
  · rw [hp.trace]
    cases cmd with
    | start i k => rw [(S.exec_start h).2.1]
    | run i x =>
      obtain ⟨_, _, _, _, _, _, hh, -⟩ := S.exec_run h
      rw [hh, Hist.after_trace, List.filter_append, filter_map_tid,
        if_neg (by rw [show low i = false from hhigh]; exact Bool.false_ne_true), List.append_nil]
    | drop i =>
      obtain ⟨_, _, _, hh, -⟩ := S.exec_drop h
      rw [hh]
      simp
  · rw [S.exec_slots_ne h (hne i hi)] at ht
    exact hp.agrees i k t hi ht

/-- A step of a low call is a step of what is left. -/
theorem Projects.lowStep {c c' cL : Config κ σ ι ε α} {cmd : Command κ ι}
    (hp : Projects R low c cL) (h : S.exec c cmd = some c') (hlow : low cmd.tid = true)
    (hbody : ∀ i k, cmd = .start i k → (S.body i k).Agrees R fun _ => True)
    (hrelease : ∀ s s', R s s' → R (S.release cmd.tid s) (S.release cmd.tid s')) :
    ∃ cL', S.exec cL cmd = some cL' ∧ Projects R low c' cL' := by
  -- the slots of the other low calls are left alone on both sides
  have hslots : ∀ {i : Tid} {sl : Slot κ σ ι ε α}, c'.slots = Function.update c.slots i sl →
      ∀ j, low j = true → Function.update cL.slots i sl j = c'.slots j := by
    intro i sl hs j hj
    rw [hs]
    by_cases hji : j = i
    · subst hji; simp
    · rw [Function.update_of_ne hji, Function.update_of_ne hji, hp.slots j hj]
  cases cmd with
  | start i k =>
    obtain ⟨hu, hh, hs⟩ := S.exec_start h
    refine ⟨{ cL with slots := Function.update cL.slots i (.live k (S.body i k)) },
      by simp only [exec, hp.slots i hlow, hu], ?_, hslots hs, ?_, fun j k' t hj ht => ?_⟩
    · rw [hh]; exact hp.state
    · rw [hh]; exact hp.trace
    · rw [hs] at ht
      by_cases hji : j = i
      · subst hji
        simp only [Function.update_self, Slot.live.injEq] at ht
        obtain ⟨rfl, rfl⟩ := ht
        exact hbody _ _ rfl
      · rw [Function.update_of_ne hji] at ht
        exact hp.agrees j k' t hj ht
  | run i x =>
    obtain ⟨k, guard, step, next, hs, hg, hh, hs'⟩ := S.exec_run h
    obtain ⟨h1, h2, h3, h4, h5⟩ := hp.agrees i k _ hlow hs _ _ x hp.state hg
    refine ⟨⟨cL.hist.after i (step cL.hist.state x),
      Function.update cL.slots i (.live k (next cL.hist.state x))⟩,
      by simp only [exec, hp.slots i hlow, hs, h1, if_true], ?_, ?_, ?_, fun j k' t hj ht => ?_⟩
    · rw [hh]; exact h2
    · rw [h4]; exact hslots hs'
    · show cL.hist.trace ++ (step cL.hist.state x).2.map (i, ·) = _
      rw [hh, Hist.after_trace, List.filter_append, filter_map_tid,
        if_pos (show low i = true from hlow), hp.trace, h3]
    · rw [hs'] at ht
      by_cases hji : j = i
      · subst hji
        simp only [Function.update_self, Slot.live.injEq] at ht
        obtain ⟨rfl, rfl⟩ := ht
        exact h5
      · rw [Function.update_of_ne hji] at ht
        exact hp.agrees j k' t hj ht
  | drop i =>
    obtain ⟨k, t, hs, hh, hs'⟩ := S.exec_drop h
    have ht : ∃ guard step next, t = .act guard step next := by
      simp only [exec, hs] at h
      cases t with
      | done a => cases h
      | act guard step next => exact ⟨guard, step, next, rfl⟩
    obtain ⟨guard, step, next, rfl⟩ := ht
    refine ⟨⟨cL.hist.after i (S.release i cL.hist.state, []),
      Function.update cL.slots i (.dropped k)⟩,
      by simp only [exec, hp.slots i hlow, hs], ?_, hslots hs', ?_, fun j k' t hj ht => ?_⟩
    · rw [hh]; exact hrelease _ _ hp.state
    · rw [hh]; simpa using hp.trace
    · rw [hs'] at ht
      by_cases hji : j = i
      · subst hji; simp at ht
      · rw [Function.update_of_ne hji] at ht
        exact hp.agrees j k' t hj ht

/-- Removing the high calls from a run leaves the low ones as they were. -/
theorem project {s s' : σ} {c : Config κ σ ι ε α} {cmds : List (Command κ ι)} (hR : R s s')
    (hrun : S.run (Service.init s) cmds = some c)
    (hbody : ∀ i k, .start i k ∈ cmds → low i = true → (S.body i k).Agrees R fun _ => True)
    (hrelease : ∀ i s s', low i = true → R s s' → R (S.release i s) (S.release i s'))
    (hhigh : ∀ pre cmd post c₁ c₂ t, cmds = pre ++ cmd :: post →
      S.run (Service.init s) pre = some c₁ → S.exec c₁ cmd = some c₂ → low cmd.tid = false →
      R c₁.hist.state t → R c₂.hist.state t) :
    ∃ cL, S.run (Service.init s') (cmds.filter fun cmd => low cmd.tid) = some cL ∧
      Projects R low c cL := by
  -- over the prefixes of the run
  suffices key : ∀ pre post, cmds = pre ++ post → ∀ c, S.run (Service.init s) pre = some c →
      ∃ cL, S.run (Service.init s') (pre.filter fun cmd => low cmd.tid) = some cL ∧
        Projects R low c cL from
    key cmds [] (by simp) c hrun
  intro pre
  induction pre using List.reverseRecOn with
  | nil =>
    rintro post - c h
    cases h
    exact ⟨Service.init s', rfl, hR, fun _ _ => rfl, rfl, nofun⟩
  | append_singleton pre cmd ih =>
    rintro post hcmds c h
    obtain ⟨c₁, h1, h2⟩ := S.run_append.1 h
    obtain ⟨c₂, h2, h3⟩ := S.run_cons.1 h2
    cases h3
    have hcmds' : cmds = pre ++ cmd :: post := by simpa using hcmds
    obtain ⟨cL, hL, hp⟩ := ih (cmd :: post) hcmds' c₁ h1
    rw [List.filter_append]
    cases hlow : low cmd.tid with
    | true =>
      obtain ⟨cL', h3, h4⟩ := hp.lowStep h2 hlow
        (fun i k hcmd => hbody i k (by simp [hcmds', hcmd]) (by rwa [hcmd] at hlow))
        fun s s' => hrelease _ s s' hlow
      refine ⟨cL', ?_, h4⟩
      simp only [List.filter_cons, hlow, if_true, List.filter_nil]
      exact S.run_append.2 ⟨cL, hL, S.run_cons.2 ⟨cL', h3, rfl⟩⟩
    | false =>
      refine ⟨cL, ?_, hp.highStep h2 hlow (hhigh pre cmd post c₁ _ _ hcmds' h1 h2 hlow hp.state)⟩
      simpa [hlow] using hL

end Service

-- Agreement is shown with the rules above, without looking into the recursion.
attribute [irreducible] Proc.Agrees

end Concurrency
