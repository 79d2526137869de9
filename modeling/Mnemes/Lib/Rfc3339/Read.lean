import Mnemes.Lib.Rfc3339

/-!
# Reading canonical texts back

A reader of canonical texts (`DateTime.read`), and that it reads back every date and time of the
four-digit years (`DateTime.read_text`).
-/

namespace Rfc3339

/-- The value of a digit character. -/
def digitValue? (c : Char) : Option Nat :=
  if 48 ≤ c.toNat ∧ c.toNat ≤ 57 then some (c.toNat - 48) else none

/-- A number of `k` digits, and what follows it. -/
def readNumber : Nat → List Char → Option (Nat × List Char)
  | 0, cs => some (0, cs)
  | _ + 1, [] => none
  | k + 1, c :: cs => do
    let d ← digitValue? c
    let (n, rest) ← readNumber k cs
    return (d * 10 ^ k + n, rest)

/-- The digits of a fraction in units of `10 ^ -k`, at most `k` of them, and what follows them. -/
def readPlaces : Nat → List Char → Nat × List Char
  | 0, cs => (0, cs)
  | _ + 1, [] => (0, [])
  | k + 1, c :: cs =>
    match digitValue? c with
    | none => (0, c :: cs)
    | some d => (d * 10 ^ k + (readPlaces k cs).1, (readPlaces k cs).2)

/-- The text after a given character. -/
def readChar (c : Char) : List Char → Option (List Char)
  | [] => none
  | d :: cs => if c = d then some cs else none

/-- `yyyy-mm-dd`, and what follows it. -/
def Date.read (cs : List Char) : Option (Date × List Char) := do
  let (year, cs) ← readNumber 4 cs
  let cs ← readChar '-' cs
  let (month, cs) ← readNumber 2 cs
  let cs ← readChar '-' cs
  let (day, cs) ← readNumber 2 cs
  if h : (1 ≤ month ∧ month ≤ 12) ∧ (1 ≤ day ∧ day ≤ monthLength (isLeap year) month) then
    return (⟨year, month, day, h.1, h.2⟩, cs)
  else none

/-- `hh:mm:ss`, and what follows it. -/
def TimeOfDay.read (cs : List Char) : Option (TimeOfDay × List Char) := do
  let (hour, cs) ← readNumber 2 cs
  let cs ← readChar ':' cs
  let (minute, cs) ← readNumber 2 cs
  let cs ← readChar ':' cs
  let (second, cs) ← readNumber 2 cs
  if h : hour < 24 ∧ minute < 60 ∧ second ≤ 60 then
    return (⟨hour, minute, second, h.1, h.2.1, h.2.2⟩, cs)
  else none

/-- The nanoseconds of an optional fraction, and what follows it. -/
def readFraction : List Char → Nat × List Char
  | '.' :: cs => readPlaces 9 cs
  | cs => (0, cs)

/-- A canonical text. -/
def DateTime.read (cs : List Char) : Option DateTime := do
  let (date, cs) ← Date.read cs
  let cs ← readChar 'T' cs
  let (time, cs) ← TimeOfDay.read cs
  let (nano, cs) := readFraction cs
  if h : nano < 10 ^ 9 then if cs = utcOffset then return ⟨date, time, nano, h⟩ else none else none

section
variable {c : Char} {x : List Char} {k n : Nat}

/-- The character of a digit is read as the digit. -/
theorem digitValue?_char (d : Digit) : digitValue? d.char = some d.val := by
  rw [digitValue?, Digit.toNat_char, if_pos (by omega), Nat.add_sub_cancel_left]

@[simp] theorem readChar_cons : readChar c (c :: x) = some x := if_pos rfl

@[simp] theorem readNumber_digits (hn : n < 10 ^ k) :
    readNumber k (chars (digits k n) ++ x) = some (n, x) := by
  induction k generalizing n with
  | zero =>
    simp only [Nat.pow_zero, Nat.lt_one_iff] at hn
    simp [readNumber, digits, chars, hn]
  | succ k ih =>
    have hpow : (0 : Nat) < 10 ^ k := Nat.pow_pos (by decide)
    have hq : n / 10 ^ k < 10 := Nat.div_lt_of_lt_mul (by rwa [Nat.pow_succ] at hn)
    have hrest := ih (Nat.mod_lt n hpow)
    rw [digits_mod] at hrest
    have hvalue : n / 10 ^ k * 10 ^ k + n % 10 ^ k = n := by
      rw [Nat.mul_comm]
      exact Nat.div_add_mod n _
    have hhead : digitValue? (Digit.char (Fin.ofNat 10 (n / 10 ^ k))) = some (n / 10 ^ k) := by
      rw [digitValue?_char, Fin.val_ofNat, Nat.mod_eq_of_lt hq]
    simp only [digits, chars, List.map_cons, List.cons_append, readNumber, hhead]
    rw [← chars, hrest]
    simp [hvalue]

/-- A fraction is read up to the character that follows its digits. -/
theorem readPlaces_chars : ∀ {k : Nat} {ds : List Digit}, ds.length ≤ k → digitValue? c = none →
    readPlaces k (chars ds ++ c :: x) = (fractionValue k ds, c :: x)
  | 0, ds, h, _ => by
    obtain rfl := List.length_eq_zero_iff.1 (Nat.le_zero.1 h)
    rfl
  | k + 1, [], _, hc => by simp [readPlaces, chars, hc, fractionValue]
  | k + 1, d :: ds, h, hc => by
    have ih := readPlaces_chars (k := k) (by simpa using h) hc
    simp only [chars, List.map_cons, List.cons_append, readPlaces, digitValue?_char]
    rw [← chars, ih, fractionValue]

/-- A date is read back from its text. -/
theorem Date.read_text {d : Date} (hd : d.FourDigit) : Date.read (d.text ++ x) = some (d, x) := by
  have := d.month_mem
  have := d.day_le
  have hyear := hd
  unfold Date.FourDigit at hyear
  have hy : ((d.year.toNat : Nat) : Int) = d.year := by omega
  simp only [Date.text, List.append_assoc, List.cons_append, Date.read]
  rw [readNumber_digits (by omega)]
  simp only [Option.bind_eq_bind, Option.bind_some, readChar_cons, hy]
  rw [readNumber_digits (by omega)]
  simp only [Option.bind_some, readChar_cons]
  rw [readNumber_digits (by omega)]
  simp only [Option.bind_some]
  rw [dif_pos ⟨d.month_mem, d.day_mem⟩]
  rfl

/-- A time of day is read back from its text. -/
theorem TimeOfDay.read_text {t : TimeOfDay} : TimeOfDay.read (t.text ++ x) = some (t, x) := by
  have hour := t.hour_lt
  have minute := t.minute_lt
  have second := t.second_le
  simp only [TimeOfDay.text, List.append_assoc, List.cons_append, TimeOfDay.read]
  rw [readNumber_digits (by omega)]
  simp only [Option.bind_eq_bind, Option.bind_some, readChar_cons]
  rw [readNumber_digits (by omega)]
  simp only [Option.bind_some, readChar_cons]
  rw [readNumber_digits (by omega)]
  simp only [Option.bind_some]
  rw [dif_pos ⟨hour, minute, second⟩]
  rfl

/-- Nanoseconds are read back from their text. -/
theorem readFraction_nanoDigits (hn : n < 10 ^ 9) :
    readFraction (fractionText (nanoDigits n) ++ utcOffset) = (n, utcOffset) := by
  by_cases h0 : n = 0
  · subst h0
    rfl
  · rw [fractionText, if_neg (mt nanoDigits_eq_nil.1 h0), List.cons_append, readFraction, utcOffset,
      readPlaces_chars nanoDigits_length_le (by decide), fractionValue_nanoDigits hn]

/-- The reader reads the canonical texts back. -/
theorem DateTime.read_text {t : DateTime} (ht : t.FourDigit) : DateTime.read t.text = some t := by
  rw [DateTime.read, DateTime.text, Date.read_text ht]
  simp only [Option.bind_eq_bind, Option.bind_some, readChar_cons, TimeOfDay.read_text,
    readFraction_nanoDigits t.nano_lt]
  rw [dif_pos t.nano_lt, if_pos trivial]
  rfl

end

end Rfc3339
