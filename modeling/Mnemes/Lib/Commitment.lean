import Mathlib.Data.List.Forall2
import Mathlib.Data.List.Infix

/-!
# Words and digests that commit to values

A code relates values to words over an alphabet. It is `Unambiguous` if, in front of any rest, a
word determines its value and where it ends. Codes of one length are unambiguous, and so are texts
behind their lengths and sequences of codes behind their number; concatenations are taken apart one
by one. A chain of items each of which names the digest of the one before commits to all of them
(`Linked.unique`).
-/

namespace Commitment

/-! ## Codes -/

section
variable {α β σ : Type} {R : α → List σ → Prop} {n : Nat}

/-- In front of any rest, a word of the code determines its value and the rest. -/
def Unambiguous (R : α → List σ → Prop) : Prop :=
  ∀ ⦃a b x y r s⦄, R a x → R b y → x ++ r = y ++ s → a = b ∧ r = s

/-- Words of one length that determine their values. -/
theorem unambiguous_of_length (hlen : ∀ a x, R a x → x.length = n)
    (hinj : ∀ a b x, R a x → R b x → a = b) : Unambiguous R := by
  intro a b x y r s ha hb h
  obtain ⟨rfl, hrs⟩ := List.append_inj h ((hlen a x ha).trans (hlen b y hb).symm)
  exact ⟨hinj a b x ha hb, hrs⟩

/-- A word is the code of one value. -/
theorem Unambiguous.injective {a b : α} {x : List σ} (hR : Unambiguous R) (ha : R a x)
    (hb : R b x) : a = b := (@hR a b x x [] [] ha hb rfl).1

/-- Values may be encoded through an injective function. -/
theorem Unambiguous.comap {f : β → α} (hR : Unambiguous R) (hf : ∀ {b c}, f b = f c → b = c) :
    Unambiguous fun b x => R (f b) x := by
  intro b c x y r s hb hc h
  obtain ⟨hbc, hrs⟩ := hR hb hc h
  exact ⟨hf hbc, hrs⟩

/-- A text behind a code of its length. -/
theorem Unambiguous.sized {L : Nat → List σ → Prop} (hL : Unambiguous L) :
    Unambiguous fun (text : List σ) x => ∃ l, L text.length l ∧ x = l ++ text := by
  rintro a b x y r s ⟨l, hl, rfl⟩ ⟨m, hm, rfl⟩ h
  rw [List.append_assoc, List.append_assoc] at h
  obtain ⟨hlen, h⟩ := hL hl hm h
  exact List.append_inj h hlen

/-- As many codes one after another. -/
theorem Unambiguous.forall₂ (hR : Unambiguous R) {as bs : List α} {xs ys : List (List σ)}
    {r s : List σ} (hlen : as.length = bs.length) (ha : List.Forall₂ R as xs)
    (hb : List.Forall₂ R bs ys) (h : xs.flatten ++ r = ys.flatten ++ s) : as = bs ∧ r = s := by
  induction ha generalizing bs ys with
  | nil =>
    obtain rfl := List.length_eq_zero_iff.1 hlen.symm
    cases hb
    exact ⟨rfl, h⟩
  | cons hax hasxs ih =>
    cases hb with
    | nil => cases hlen
    | cons hby hbsys =>
      rw [List.flatten_cons, List.flatten_cons, List.append_assoc, List.append_assoc] at h
      obtain ⟨rfl, h⟩ := hR hax hby h
      obtain ⟨rfl, h⟩ := ih (Nat.succ.inj hlen) hbsys h
      exact ⟨rfl, h⟩

/-- Words whose heads differ are no prefixes of each other. -/
theorem not_prefix_of_take {x y u v : List σ} (hx : n ≤ x.length) (hy : n ≤ y.length)
    (h : x.take n ≠ y.take n) : ¬ x ++ u <+: y ++ v := by
  rintro ⟨w, hw⟩
  refine h ?_
  have := congrArg (List.take n) hw
  rwa [List.append_assoc, List.take_append_of_le_length hx,
    List.take_append_of_le_length hy] at this

end

/-! ## Chains -/

section
variable {α H : Type} {prev : α → H} {digest : α → Option H}

/-- Each item names the digest of the one before it; the first names the start, and the digest of
the last one is the end. -/
inductive Linked (prev : α → H) (digest : α → Option H) : H → List α → H → Prop
  | nil {h : H} : Linked prev digest h [] h
  | cons {h d e : H} {a : α} {as : List α} : prev a = h → digest a = some d →
    Linked prev digest d as e → Linked prev digest h (a :: as) e

/-- Chains of one length with one end are of the same items, where items of one digest are the same
and name the same digest. -/
theorem Linked.unique {S : α → α → Prop} {as bs : List α} {h k e : H}
    (hbind : ∀ a ∈ as, ∀ b ∈ bs, ∀ d, digest a = some d → digest b = some d →
      S a b ∧ prev a = prev b)
    (ha : Linked prev digest h as e) (hb : Linked prev digest k bs e)
    (hlen : as.length = bs.length) : List.Forall₂ S as bs ∧ h = k := by
  induction ha generalizing bs k with
  | nil =>
    obtain rfl := List.length_eq_zero_iff.1 hlen.symm
    cases hb
    exact ⟨.nil, rfl⟩
  | @cons h d e a as hprev hdigest _ ih =>
    cases hb with
    | nil => cases hlen
    | @cons _ d' _ b bs hprev' hdigest' hbs =>
      -- the rest starts at the digest of the head, so the ends reach back to the heads
      obtain ⟨hrest, rfl⟩ := ih (fun a ha b hb => hbind a (List.mem_cons_of_mem _ ha) b
        (List.mem_cons_of_mem _ hb)) hbs (Nat.succ.inj hlen)
      obtain ⟨hsame, heq⟩ := hbind a List.mem_cons_self b List.mem_cons_self d hdigest hdigest'
      exact ⟨.cons hsame hrest, by rw [← hprev, ← hprev', heq]⟩

end

end Commitment
