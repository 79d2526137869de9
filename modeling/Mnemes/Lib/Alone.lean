import Mnemes.Lib.Proc

/-!
# A process that runs alone

`t.Ends Q s` says that the process `t`, run alone from the state `s`, ends with a result and a state
of `Q` whatever choices its actions draw (`Proc.Ends.exec`).
-/

namespace Concurrency

namespace Proc

variable {σ ι ε α β : Type} {Q : α → σ → Prop} {s : σ}

/-- Wherever `t` ends when it runs alone from the state, `Q` holds. -/
def Ends (Q : α → σ → Prop) : Proc σ ι ε α → σ → Prop
  | .done a, s => Q a s
  | .act guard step next, s => guard s = true → ∀ x, (next s x).Ends Q (step s x).1

/-- An execution that runs to its end ends as promised. -/
theorem Ends.exec {t : Proc σ ι ε α} (ht : t.Ends Q s) {xs ys : List ι} {a : α} {s' : σ}
    (h : t.exec xs s = (some (a, ys), s')) : Q a s' := by
  induction t generalizing s xs with
  | done b =>
    cases h
    exact ht
  | act guard step next ih =>
    cases xs with
    | nil => cases h
    | cons x xs =>
      simp only [Proc.exec] at h
      split at h
      · next hg => exact ih s x (ht hg x) h
      · cases h

/-- A promise is weakened. -/
theorem Ends.mono {Q' : α → σ → Prop} {t : Proc σ ι ε α} (ht : t.Ends Q s)
    (hQ : ∀ a s, Q a s → Q' a s) : t.Ends Q' s := by
  induction t generalizing s with
  | done b => exact hQ b s ht
  | act guard step next ih => exact fun hg x => ih s x (ht hg x)

/-- Sequencing: where the first process ends, the second one ends with `Q`. -/
theorem Ends.bind {t : Proc σ ι ε α} {f : α → Proc σ ι ε β} {Q : β → σ → Prop}
    (ht : t.Ends (fun a s' => (f a).Ends Q s') s) : (t.bind f).Ends Q s := by
  induction t generalizing s with
  | done a => exact ht
  | act guard step next ih => exact fun hg x => ih s x (ht hg x)

section
variable {χ : Type} {Q : Except χ β → σ → Prop} {f : α → ExceptT χ (Proc σ ι ε) β}

/-- Sequencing of processes that may fail: an error ends the whole. -/
theorem Ends.attempt_bind {t : ExceptT χ (Proc σ ι ε) α}
    (ht : t.run.Ends (fun r s' => match r with
      | .ok a => (f a).run.Ends Q s'
      | .error e => Q (.error e) s') s) : (t >>= f).run.Ends Q s := by
  refine Ends.bind (ht.mono fun r s' hr => ?_)
  cases r with
  | ok a => exact hr
  | error e => exact hr

/-- One action of a process that may fail, followed by the rest. -/
theorem Ends.attempt_atomic {g : σ → ι → Except χ α × σ × List ε}
    (hg : ∀ x, match (g s x).1 with
      | .ok a => (f a).run.Ends Q (g s x).2.1
      | .error e => Q (.error e) (g s x).2.1) :
    (ExceptT.mk (Proc.atomic g) >>= f).run.Ends Q s :=
  Ends.attempt_bind fun _ x => hg x

end

end Proc

end Concurrency
