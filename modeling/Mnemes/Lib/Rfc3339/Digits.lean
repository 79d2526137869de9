import Mathlib.Tactic.Ring
import Mnemes.Lib.Lists

/-!
# Numbers as digits

Numbers of one width are ordered like their digits (`textLe_digits`). Fractions, whose texts have
any number of digits, are ordered by value where a terminator below every digit follows them, and
those of one value by length (`textLe_fraction`); `nanoDigits` are the digits of a number of
nanoseconds in the fewest groups of three.
-/

namespace Rfc3339

open Lists

/-! ## Digits -/

/-- A decimal digit. -/
abbrev Digit := Fin 10

/-- The character of a digit. -/
def Digit.char (d : Digit) : Char := Char.ofNat (48 + d)

/-- The digits are consecutive characters. -/
theorem Digit.toNat_char (d : Digit) : d.char.toNat = 48 + d := by
  revert d
  decide

/-- The last `k` digits of a number, the most significant first. -/
def digits : Nat → Nat → List Digit
  | 0, _ => []
  | k + 1, n => Fin.ofNat 10 (n / 10 ^ k) :: digits k n

/-- The characters of digits. -/
def chars (ds : List Digit) : List Char := ds.map Digit.char

/-- Digits after the decimal point, in units of `10 ^ -k`; what is finer is cut off. -/
def fractionValue : Nat → List Digit → Nat
  | 0, _ => 0
  | _ + 1, [] => 0
  | k + 1, d :: ds => d * 10 ^ k + fractionValue k ds

/-- The lexicographic order of texts. -/
def TextLe (x y : List Char) : Prop := lexLe Char.toNat x y = true

instance (x y : List Char) : Decidable (TextLe x y) := inferInstanceAs (Decidable (_ = true))

section
variable {c d : Char} {x y : List Char} {n m k : Nat}

/-- Texts are ordered by their first characters first. -/
theorem textLe_cons :
    TextLe (c :: x) (d :: y) ↔ c.toNat < d.toNat ∨ (c.toNat = d.toNat ∧ TextLe x y) :=
  lexLe_cons

@[simp] theorem textLe_cons_self : TextLe (c :: x) (c :: y) ↔ TextLe x y := by
  simp [textLe_cons]

@[simp] theorem digits_length : ∀ k n, (digits k n).length = k
  | 0, _ => rfl
  | k + 1, n => by simp [digits, digits_length k n]

/-- The last digits of a number depend on its remainder only. -/
theorem digits_mod : ∀ {k n}, digits k (n % 10 ^ k) = digits k n
  | 0, _ => rfl
  | k + 1, n => by
    have hdiv : n % 10 ^ (k + 1) / 10 ^ k = n / 10 ^ k % 10 := by
      rw [Nat.pow_succ, Nat.mod_mul_right_div_self]
    have hmod : n % 10 ^ (k + 1) % 10 ^ k = n % 10 ^ k :=
      Nat.mod_mod_of_dvd n (Nat.pow_dvd_pow 10 (Nat.le_succ k))
    rw [digits, digits, hdiv, ← digits_mod (k := k) (n := n % 10 ^ (k + 1)), hmod, digits_mod]
    simp [Fin.ofNat]

/-- Numbers of one width are ordered like their digits. -/
theorem textLe_digits (hn : n < 10 ^ k) (hm : m < 10 ^ k) :
    TextLe (chars (digits k n) ++ x) (chars (digits k m) ++ y) ↔ n < m ∨ (n = m ∧ TextLe x y) := by
  induction k generalizing n m with
  | zero =>
    have : n = m := by omega
    simp [digits, chars, this]
  | succ k ih =>
    have hpow : (0 : Nat) < 10 ^ k := Nat.pow_pos (by decide)
    rw [Nat.pow_succ, Nat.mul_comm] at hn hm
    have hqn : n / 10 ^ k < 10 := Nat.div_lt_of_lt_mul (by rwa [Nat.mul_comm] at hn)
    have hqm : m / 10 ^ k < 10 := Nat.div_lt_of_lt_mul (by rwa [Nat.mul_comm] at hm)
    have hrn := Nat.mod_lt n hpow
    have hrm := Nat.mod_lt m hpow
    have hrest := ih hrn hrm
    simp only [digits_mod] at hrest
    simp only [digits, chars, List.map_cons, List.cons_append, textLe_cons, Digit.toNat_char,
      Fin.val_ofNat, Nat.mod_eq_of_lt hqn, Nat.mod_eq_of_lt hqm]
    rw [← chars, ← chars, hrest]
    have en := Nat.div_add_mod n (10 ^ k)
    have em := Nat.div_add_mod m (10 ^ k)
    generalize n / 10 ^ k = q at *
    generalize m / 10 ^ k = q' at *
    rcases Nat.lt_trichotomy q q' with h | h | h
    · have : 10 ^ k * q + 10 ^ k ≤ 10 ^ k * q' := Nat.mul_le_mul_left (10 ^ k) h
      exact ⟨fun _ => .inl (by omega), fun _ => .inl (by omega)⟩
    · subst h
      constructor
      · rintro (h | ⟨-, h | ⟨h, hle⟩⟩)
        · omega
        · exact .inl (by omega)
        · exact .inr ⟨by omega, hle⟩
      · rintro (h | ⟨h, hle⟩)
        · exact .inr ⟨rfl, .inl (by omega)⟩
        · exact .inr ⟨rfl, .inr ⟨by omega, hle⟩⟩
    · have : 10 ^ k * q' + 10 ^ k ≤ 10 ^ k * q := Nat.mul_le_mul_left (10 ^ k) h
      constructor <;> rintro (h' | ⟨h', -⟩) <;> omega

end
/-! ## Fractions of a second -/

/-- The digits of a number of nanoseconds, in the fewest groups of three. -/
def nanoDigits (nano : Nat) : List Digit :=
  if nano = 0 then []
  else if nano % 10 ^ 6 = 0 then digits 3 (nano / 10 ^ 6)
  else if nano % 10 ^ 3 = 0 then digits 6 (nano / 10 ^ 3)
  else digits 9 nano

/-- A fraction with its decimal point; nothing for no digits. -/
def fractionText (ds : List Digit) : List Char := if ds = [] then [] else '.' :: chars ds

section
variable {ds es : List Digit} {x y : List Char} {k n : Nat}

/-- A fraction is less than one. -/
theorem fractionValue_lt : ∀ (k : Nat) (ds : List Digit), fractionValue k ds < 10 ^ k
  | 0, _ => by simp [fractionValue]
  | k + 1, [] => Nat.pow_pos (by decide)
  | k + 1, d :: ds => by
    have := fractionValue_lt k ds
    have hd := Nat.mul_le_mul_right (10 ^ k) (Nat.le_of_lt_succ d.isLt)
    simp only [fractionValue, Nat.pow_succ]
    omega

/-- Two fractions with terminators before every digit, or the second one cut at the last place: they
are ordered by value, and of two with one value the shorter one comes first. -/
theorem textLe_fraction {c : Char} (hc : c.toNat < 48)
    (hy : es.length = k ∨ ∃ d y', y = d :: y' ∧ d.toNat < 48) (hds : ds.length ≤ k)
    (hes : es.length ≤ k) :
    TextLe (chars ds ++ c :: x) (chars es ++ y) ↔ fractionValue k ds < fractionValue k es ∨
      (fractionValue k ds = fractionValue k es ∧
        (ds.length < es.length ∨ (ds.length = es.length ∧ TextLe (c :: x) y))) := by
  induction k generalizing ds es with
  | zero =>
    obtain rfl := List.length_eq_zero_iff.1 (Nat.le_zero.1 hds)
    obtain rfl := List.length_eq_zero_iff.1 (Nat.le_zero.1 hes)
    simp [fractionValue, chars]
  | succ k ih =>
    match ds, es with
    | [], [] => simp [chars]
    | [], e :: es =>
      have he := Digit.toNat_char e
      have : TextLe (chars [] ++ c :: x) (chars (e :: es) ++ y) :=
        textLe_cons.2 (.inl (by omega))
      simp only [this, true_iff, fractionValue, List.length_nil, List.length_cons]
      omega
    | d :: ds, [] =>
      obtain ⟨c', y', rfl, hc'⟩ := hy.resolve_left (by simp)
      have hd := Digit.toNat_char d
      have : ¬ TextLe (chars (d :: ds) ++ c :: x) (chars [] ++ c' :: y') := by
        intro h
        have := textLe_cons.1 h
        omega
      simp only [this, false_iff, fractionValue, List.length_nil, List.length_cons]
      omega
    | d :: ds, e :: es =>
      have hrest := @ih ds es (hy.imp_left fun h => by simpa using h) (by simpa using hds)
        (by simpa using hes)
      have h1 := fractionValue_lt k ds
      have h2 := fractionValue_lt k es
      simp only [chars, List.map_cons, List.cons_append, textLe_cons, Digit.toNat_char]
      rw [← chars, ← chars, hrest]
      simp only [fractionValue, List.length_cons, Nat.add_lt_add_iff_right,
        Nat.add_right_cancel_iff]
      rcases Nat.lt_trichotomy d.val e.val with h | h | h
      · have := Nat.mul_le_mul_right (10 ^ k) h
        rw [Nat.succ_mul] at this
        constructor
        · exact fun _ => .inl (by omega)
        · exact fun _ => .inl (by omega)
      · simp only [h, Nat.add_lt_add_iff_left, Nat.lt_irrefl, true_and, false_or,
          Nat.add_left_cancel_iff]
      · have := Nat.mul_le_mul_right (10 ^ k) h
        rw [Nat.succ_mul] at this
        constructor
        · rintro (h' | ⟨h', -⟩) <;> omega
        · rintro (h' | ⟨h', -⟩) <;> omega

/-- Further digits do not count. -/
theorem fractionValue_take : ∀ (k : Nat) (ds : List Digit),
    fractionValue k (ds.take k) = fractionValue k ds
  | 0, _ => rfl
  | _ + 1, [] => rfl
  | k + 1, d :: ds => by simp [fractionValue, fractionValue_take k ds]

/-- With fewer digits than places, the last place is zero. -/
theorem fractionValue_mod_ten : ∀ {k : Nat} {ds : List Digit}, ds.length < k →
    fractionValue k ds % 10 = 0
  | _ + 1, [], _ => rfl
  | k + 1, d :: ds, h => by
    have hk : ds.length < k := by simpa using h
    have := fractionValue_mod_ten hk
    obtain ⟨j, rfl⟩ : ∃ j, k = j + 1 := ⟨k - 1, by omega⟩
    simp only [fractionValue, Nat.pow_succ]
    rw [← Nat.mul_assoc]
    omega

/-- The digits of a number are read back. -/
theorem fractionValue_digits : ∀ {k n : Nat}, n < 10 ^ k → fractionValue k (digits k n) = n
  | 0, n, h => by
    simp only [Nat.pow_zero, Nat.lt_one_iff] at h
    simp [fractionValue, h]
  | k + 1, n, h => by
    have hpow : (0 : Nat) < 10 ^ k := Nat.pow_pos (by decide)
    have hq : n / 10 ^ k < 10 := Nat.div_lt_of_lt_mul (by rwa [Nat.pow_succ] at h)
    have ih := fractionValue_digits (Nat.mod_lt n hpow)
    rw [digits_mod] at ih
    simp only [digits, fractionValue, ih, Fin.val_ofNat, Nat.mod_eq_of_lt hq]
    rw [Nat.mul_comm]
    exact Nat.div_add_mod n _

/-- Digits of a number after its last place are zeros. -/
theorem fractionValue_append_zero : ∀ (j : Nat) {k : Nat} (ds : List Digit), ds.length = k →
    fractionValue (k + j) ds = fractionValue k ds * 10 ^ j
  | 0, _, _, _ => by simp
  | j + 1, 0, ds, h => by
    obtain rfl := List.length_eq_zero_iff.1 h
    simp [fractionValue]
  | j + 1, k + 1, [], h => nomatch h
  | j + 1, k + 1, d :: ds, h => by
    have ih := fractionValue_append_zero (j + 1) ds (Nat.succ.inj h)
    rw [show k + 1 + (j + 1) = k + (j + 1) + 1 by omega]
    simp only [fractionValue, ih, Nat.pow_add]
    ring

/-- The digits of nanoseconds are read back. -/
theorem fractionValue_nanoDigits (hn : n < 10 ^ 9) : fractionValue 9 (nanoDigits n) = n := by
  unfold nanoDigits
  split
  · next h => simp [fractionValue, h]
  · split
    · next h =>
      rw [fractionValue_append_zero 6 (digits 3 _) (digits_length 3 _),
        fractionValue_digits (by omega)]
      omega
    · split
      · next h =>
        rw [fractionValue_append_zero 3 (digits 6 _) (digits_length 6 _),
          fractionValue_digits (by omega)]
        omega
      · exact fractionValue_digits hn

/-- Nanoseconds have at most nine digits. -/
theorem nanoDigits_length_le : (nanoDigits n).length ≤ 9 := by
  unfold nanoDigits
  split
  · simp
  · split
    · simp
    · split <;> simp

/-- No digits are written exactly of zero nanoseconds. -/
theorem nanoDigits_eq_nil : nanoDigits n = [] ↔ n = 0 := by
  unfold nanoDigits
  refine ⟨fun h => ?_, fun h => if_pos h⟩
  split at h
  · assumption
  · split at h
    · simp [digits] at h
    · split at h <;> simp [digits] at h

/-- The number after the value of a short fraction continues its digits. -/
theorem digits_fractionValue_succ : ∀ {k : Nat} {ds : List Digit}, ds.length < k →
    fractionValue k ds + 1 < 10 ^ k ∧
      ∃ e es, digits k (fractionValue k ds + 1) = ds ++ e :: es
  | k + 1, [], _ => by
    refine ⟨?_, _, _, rfl⟩
    have := Nat.pow_pos (n := k) (show 0 < 10 by decide)
    simp only [fractionValue, Nat.pow_succ]
    omega
  | k + 1, d :: ds, h => by
    obtain ⟨hlt, e, es, ih⟩ := digits_fractionValue_succ (k := k) (by simpa using h)
    have hd := Nat.mul_le_mul_right (10 ^ k) (Nat.le_of_lt_succ d.isLt)
    refine ⟨?_, e, es, ?_⟩
    · simp only [fractionValue, Nat.pow_succ]
      omega
    · have hdiv : (d * 10 ^ k + (fractionValue k ds + 1)) / 10 ^ k = d := by
        rw [Nat.mul_comm, Nat.mul_add_div (by omega), Nat.div_eq_of_lt hlt, Nat.add_zero]
      have hmod : (d * 10 ^ k + (fractionValue k ds + 1)) % 10 ^ k = fractionValue k ds + 1 := by
        rw [Nat.mul_comm, Nat.mul_add_mod, Nat.mod_eq_of_lt hlt]
      rw [fractionValue, Nat.add_assoc, digits, hdiv, ← digits_mod, hmod, ih]
      simp

/-- A longer digit text comes before one that goes on with a letter. -/
theorem textLe_letter {c : Char} {e : Digit} (hc : 57 < c.toNat) :
    TextLe (chars (ds ++ e :: es) ++ x) (chars ds ++ c :: y) := by
  induction ds with
  | nil =>
    refine textLe_cons.2 (.inl ?_)
    rw [Digit.toNat_char]
    omega
  | cons d ds ih => exact textLe_cons_self.2 ih

end

end Rfc3339
