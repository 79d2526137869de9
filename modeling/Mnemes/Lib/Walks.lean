import Mathlib.Logic.Basic

/-!
# Walks and keyed search

A search that marks nodes by their keys covers every walk from its root, if it looks at the steps
from every node it keeps, keeps none beyond a depth, and the keys tell apart the nodes up to that
depth (`Walk.kept`).
-/

namespace Graphs

variable {ν κ : Type} {step : ν → ν → Prop} {root a b : ν} {n depth : Nat}

/-- A walk of a number of steps from the root. -/
inductive Walk (step : ν → ν → Prop) (root : ν) : Nat → ν → Prop
  | start : Walk step root 0 root
  | step {n : Nat} {a b : ν} : Walk step root n a → step a b → Walk step root (n + 1) b

/-- A walk without steps stays at the root. -/
theorem Walk.zero (h : Walk step root 0 a) : a = root := by
  cases h
  rfl

/-- Nothing but the root is on a walk from a root without steps. -/
theorem Walk.stuck (hroot : ∀ b, ¬ step root b) (h : Walk step root n a) : n = 0 := by
  induction h with
  | start => rfl
  | @step n a b ha hab ih =>
    subst ih
    exact absurd (ha.zero ▸ hab) (hroot b)

/-- A set of nodes less than a depth away covers all walks, if it has the root and is closed under
steps up to keys that tell the nodes up to that depth apart. -/
theorem Walk.kept {Kept : ν → Prop} {key : ν → κ} (hroot : Kept root)
    (hdepth : ∀ a, Kept a → ∃ m < depth, Walk step root m a)
    (hclosed : ∀ a b, Kept a → step a b → ∃ b', Kept b' ∧ key b' = key b)
    (hkeys : ∀ m ≤ depth, ∀ n ≤ depth, ∀ a b, Walk step root m a → Walk step root n b →
      key a = key b → a = b)
    (h : Walk step root n a) : Kept a := by
  induction h with
  | start => exact hroot
  | @step n a b _ hab ih =>
    obtain ⟨m, hm, ha⟩ := hdepth a ih
    obtain ⟨b', hkept, hkey⟩ := hclosed a b ih hab
    obtain ⟨m', hm', hb'⟩ := hdepth b' hkept
    exact hkeys m' (Nat.le_of_lt hm') (m + 1) hm b' b hb' (ha.step hab) hkey ▸ hkept

end Graphs
