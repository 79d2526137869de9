import Mathlib.Data.List.Forall2
import Mnemes.Lib.Proc

/-!
# What a process may return

`Proc.Yields I t a` says that the process `t` may return `a` when each of its actions finds a state
of `I`. Between two actions other processes may have changed the state in any way that stays in `I`,
so what holds of everything a process yields holds of its result in every run of a service whose
states stay in `I` (`Service.Reachable.yields`).
-/

namespace Concurrency

namespace Proc

variable {σ ι ε α β : Type} {I : σ → Prop}

/-- `t` may return `a`, its actions finding states of `I`. -/
inductive Yields (I : σ → Prop) : Proc σ ι ε α → α → Prop where
  | done (a : α) : Yields I (.done a) a
  | act {guard : σ → Bool} {step : σ → ι → σ × List ε} {next : σ → ι → Proc σ ι ε α} {s : σ} {x : ι}
    {a : α} : I s → guard s = true → Yields I (next s x) a → Yields I (.act guard step next) a

@[simp] theorem yields_done {a b : α} : (Proc.done a : Proc σ ι ε α).Yields I b ↔ b = a := by
  constructor
  · intro h
    cases h
    rfl
  · rintro rfl
    exact .done b

/-- An action yields what one of its continuations does. -/
theorem yields_act {guard : σ → Bool} {step : σ → ι → σ × List ε} {next : σ → ι → Proc σ ι ε α}
    {a : α} : (Proc.act guard step next).Yields I a ↔
      ∃ s x, I s ∧ guard s = true ∧ (next s x).Yields I a := by
  constructor
  · intro h
    cases h with
    | act hs hg h => exact ⟨_, _, hs, hg, h⟩
  · rintro ⟨s, x, hs, hg, h⟩
    exact .act hs hg h

/-- Sequencing yields what the continuation of some intermediate result yields. -/
theorem yields_bind {t : Proc σ ι ε α} {f : α → Proc σ ι ε β} {b : β} :
    (t.bind f).Yields I b ↔ ∃ a, t.Yields I a ∧ (f a).Yields I b := by
  induction t with
  | done a => simp
  | act guard step next ih =>
    simp only [bind, yields_act, ih]
    constructor
    · rintro ⟨s, x, hs, hg, a, ha, hb⟩
      exact ⟨a, ⟨s, x, hs, hg, ha⟩, hb⟩
    · rintro ⟨a, ⟨s, x, hs, hg, ha⟩, hb⟩
      exact ⟨s, x, hs, hg, a, ha, hb⟩

/-- An atomic action yields its results. -/
theorem yields_atomic {f : σ → ι → α × σ × List ε} {a : α} :
    (Proc.atomic f).Yields I a ↔ ∃ s x, I s ∧ a = (f s x).1 := by
  simp only [atomic, await, yields_act, yields_done, true_and]

section
variable {χ : Type} {t : ExceptT χ (Proc σ ι ε) α} {f : α → ExceptT χ (Proc σ ι ε) β}

/-- A sequence of processes that may fail returns what the continuation returns. -/
theorem yields_bind_ok {b : β} :
    (t >>= f).run.Yields I (.ok b) ↔ ∃ a, t.run.Yields I (.ok a) ∧ (f a).run.Yields I (.ok b) := by
  show (t.run.bind (ExceptT.bindCont f)).Yields I _ ↔ _
  rw [yields_bind]
  constructor
  · rintro ⟨a | a, ha, hb⟩
    · cases hb
    · exact ⟨a, ha, hb⟩
  · rintro ⟨a, ha, hb⟩
    exact ⟨.ok a, ha, hb⟩

/-- It fails where the first one fails, and where the continuation does. -/
theorem yields_bind_error {e : χ} :
    (t >>= f).run.Yields I (.error e) ↔
      t.run.Yields I (.error e) ∨ ∃ a, t.run.Yields I (.ok a) ∧ (f a).run.Yields I (.error e) := by
  show (t.run.bind (ExceptT.bindCont f)).Yields I _ ↔ _
  rw [yields_bind]
  constructor
  · rintro ⟨e' | a, ha, hb⟩
    · cases hb
      exact .inl ha
    · exact .inr ⟨a, ha, hb⟩
  · rintro (ha | ⟨a, ha, hb⟩)
    · exact ⟨.error e, ha, .done _⟩
    · exact ⟨.ok a, ha, hb⟩

@[simp] theorem yields_pure {a : α} {r : Except χ α} :
    (pure a : ExceptT χ (Proc σ ι ε) α).run.Yields I r ↔ r = .ok a := yields_done

@[simp] theorem yields_throw {e : χ} {r : Except χ α} :
    (throw e : ExceptT χ (Proc σ ι ε) α).run.Yields I r ↔ r = .error e := yields_done

/-- A result that is computed at once. -/
@[simp] theorem yields_lift {result r : Except χ α} :
    (liftM result : ExceptT χ (Proc σ ι ε) α).run.Yields I r ↔ r = result := by
  cases result <;> exact yields_done

/-- A process that does not fail. -/
theorem yields_liftProc {u : Proc σ ι ε α} {r : Except χ α} :
    (liftM u : ExceptT χ (Proc σ ι ε) α).run.Yields I r ↔ ∃ a, u.Yields I a ∧ r = .ok a := by
  show (u.bind fun a => .done (.ok a)).Yields I r ↔ _
  rw [yields_bind]
  exact exists_congr fun a => and_congr_right fun _ => yields_done

/-- A list of processes returns a result of each. -/
theorem yields_mapM_ok {f : α → ExceptT χ (Proc σ ι ε) β} {l : List α} {bs : List β}
    (h : (l.mapM f).run.Yields I (.ok bs)) :
    List.Forall₂ (fun a b => (f a).run.Yields I (.ok b)) l bs := by
  induction l generalizing bs with
  | nil =>
    rw [List.mapM_nil, yields_pure] at h
    cases h
    exact .nil
  | cons a l ih =>
    rw [List.mapM_cons, yields_bind_ok] at h
    obtain ⟨b, hb, h⟩ := h
    rw [yields_bind_ok] at h
    obtain ⟨bs', hbs, h⟩ := h
    cases yields_pure.1 h
    exact .cons hb (ih hbs)

/-- It fails where one of them does. -/
theorem yields_mapM_error {f : α → ExceptT χ (Proc σ ι ε) β} {l : List α} {e : χ}
    (h : (l.mapM f).run.Yields I (.error e)) : ∃ a ∈ l, (f a).run.Yields I (.error e) := by
  induction l with
  | nil =>
    rw [List.mapM_nil, yields_pure] at h
    cases h
  | cons a l ih =>
    rw [List.mapM_cons, yields_bind_error] at h
    rcases h with h | ⟨b, -, h⟩
    · exact ⟨a, List.mem_cons_self, h⟩
    · rw [yields_bind_error] at h
      rcases h with h | ⟨bs, -, h⟩
      · obtain ⟨a', ha', h⟩ := ih h
        exact ⟨a', List.mem_cons_of_mem _ ha', h⟩
      · cases yields_pure.1 h

end

end Proc

namespace Service

variable {κ σ ι ε α : Type} {S : Service κ σ ι ε α} {I : σ → Prop}

/-- What is left of a call yields nothing that its process does not. -/
def Yields (S : Service κ σ ι ε α) (I : σ → Prop) (c : Config κ σ ι ε α) : Prop :=
  ∀ i k t a, c.slots i = .live k t → t.Yields I a → (S.body i k).Yields I a

/-- After a command, a service yields what it did before. -/
theorem Yields.exec {c c' : Config κ σ ι ε α} {cmd : Command κ ι} (hc : S.Yields I c)
    (hI : I c.hist.state) (h : S.exec c cmd = some c') : S.Yields I c' := by
  intro i k t a hslot ha
  by_cases hi : i = cmd.tid
  · subst hi
    cases cmd with
    | start j k' =>
      simp only [Command.tid, (S.exec_start h).2.2, Function.update_self] at hslot
      cases hslot
      exact ha
    | run j x =>
      obtain ⟨k', guard, step, next, hold, hguard, -, hnew⟩ := S.exec_run h
      simp only [Command.tid, hnew, Function.update_self] at hslot
      cases hslot
      exact hc j k _ a hold (.act hI hguard ha)
    | drop j =>
      obtain ⟨_, _, _, _, hnew⟩ := S.exec_drop h
      simp only [Command.tid, hnew, Function.update_self] at hslot
      cases hslot
  · exact hc i k t a (by rw [← S.exec_slots_ne h hi, hslot]) ha

/-- After a run, a service yields what it did before. -/
theorem Yields.run {c c' : Config κ σ ι ε α} {cmds : List (Command κ ι)} (hc : S.Yields I c)
    (hI : ∀ s : σ, I s) (h : S.run c cmds = some c') : S.Yields I c' := by
  induction cmds generalizing c with
  | nil =>
    cases h
    exact hc
  | cons cmd cmds ih =>
    obtain ⟨m, hstep, hrest⟩ := S.run_cons.1 h
    exact ih (hc.exec (hI _) hstep) hrest

/-- The result of a finished call is one that its process yields. -/
theorem Reachable.yields {Init : σ → Prop} {c : Config κ σ ι ε α} (h : S.Reachable Init c) {i : Tid}
    {k : κ} {a : α} (hcall : c.call? i = some k) (hresult : c.result? i = some a) :
    (S.body i k).Yields (fun _ => True) a := by
  obtain ⟨s, cmds, -, hrun⟩ := h
  have hinit : S.Yields (fun _ => True) (Service.init s) := by
    intro i k t a hslot
    cases hslot
  unfold Config.call? at hcall
  unfold Config.result? at hresult
  split at hcall
  · next hslot =>
    rw [hslot] at hresult
    split at hresult
    · next hdone =>
      cases hcall
      cases hresult
      cases hdone
      exact hinit.run (fun _ => trivial) hrun i k _ _ hslot (.done _)
    · cases hresult
  · cases hcall

end Service

end Concurrency
