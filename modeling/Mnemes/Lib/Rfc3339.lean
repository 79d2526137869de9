import Mnemes.Lib.Rfc3339.Calendar

/-!
# Timestamps as texts and as instants

RFC 3339 writes an instant in many ways: with `Z` or with an offset, with any number of fraction
digits. A program that compares timestamps as texts therefore compares instants only where the texts
agree with them. Here are a date and time in UTC with its canonical text (`DateTime.text`: a
four-digit year, the fraction in the fewest groups of three digits, the offset `+00:00`) and a
timestamp as it may be written (`Written`).

The canonical texts are ordered like their instants (`DateTime.textLe_iff`). A written timestamp
divides them as its instant does exactly where it is `Faithful` (`Written.faithful_iff`).
-/

namespace Rfc3339

/-! ## Instants and their texts -/

/-- The instant a number of minutes, seconds and nanoseconds after the first of January of year 1,
on a scale on which each minute has 61 seconds. -/
def instant (minutes : Int) (second nano : Nat) : Int := (minutes * 61 + second) * 10 ^ 9 + nano

/-- A date and time in UTC, to the nanosecond. -/
structure DateTime where
  date : Date
  time : TimeOfDay
  nano : Nat
  nano_lt : nano < 10 ^ 9
  deriving DecidableEq

/-- The offset of a canonical text. -/
def utcOffset : List Char := ['+', '0', '0', ':', '0', '0']

namespace DateTime

/-- The year has four digits. -/
def FourDigit (t : DateTime) : Prop := t.date.FourDigit

instance (t : DateTime) : Decidable t.FourDigit := inferInstanceAs (Decidable (Date.FourDigit _))

def instant (t : DateTime) : Int :=
  Rfc3339.instant (t.date.dayNumber * 1440 + t.time.minutes) t.time.second t.nano

/-- The canonical text. -/
def text (t : DateTime) : List Char :=
  t.date.text ++ 'T' :: (t.time.text ++ (fractionText (nanoDigits t.nano) ++ utcOffset))

end DateTime

/-- How a timestamp ends: with the letter `Z` in either case, or with an offset. -/
inductive Zone where
  | utc (lower : Bool)
  | offset (west : Bool) (hour : Fin 24) (minute : Fin 60)
  deriving DecidableEq

namespace Zone

/-- The minutes by which the written time is ahead of UTC. -/
def minutes : Zone → Int
  | utc _ => 0
  | offset west hour minute =>
    if west then -(hour.val * 60 + minute.val : Int) else hour.val * 60 + minute.val

def text : Zone → List Char
  | utc lower => [if lower then 'z' else 'Z']
  | offset west hour minute =>
    (if west then '-' else '+') :: (chars (digits 2 hour) ++ ':' :: chars (digits 2 minute))

/-- The zone is written as a letter. -/
def isUtc : Zone → Bool
  | utc _ => true
  | offset .. => false

end Zone

/-- A timestamp as RFC 3339 writes it; the separator `T` may stand in lower case. -/
structure Written where
  date : Date
  fourDigit : date.FourDigit
  lowerT : Bool
  time : TimeOfDay
  fraction : List Digit
  zone : Zone
  deriving DecidableEq

namespace Written

def text (w : Written) : List Char :=
  w.date.text ++ (if w.lowerT then 't' else 'T') ::
    (w.time.text ++ (fractionText w.fraction ++ w.zone.text))

/-- The nanoseconds of the fraction. -/
def nano (w : Written) : Nat := fractionValue 9 w.fraction

/-- The minutes of the written date and time, whatever the zone. -/
def localMinutes (w : Written) : Int := w.date.dayNumber * 1440 + w.time.minutes

/-- The instant it denotes, cut to nanoseconds. -/
def instant (w : Written) : Int :=
  Rfc3339.instant (w.localMinutes - w.zone.minutes) w.time.second w.nano

/-- In UTC it is at the end of the written date, to the nanosecond, or later where no date of the
four-digit years follows. -/
def AtDayEnd (w : Written) : Prop :=
  Rfc3339.instant (w.date.dayNumber * 1440 + 1439) 60 999999999 ≤ w.instant ∧
    (w.date = Date.last ∨ w.instant < Rfc3339.instant ((w.date.dayNumber + 1) * 1440) 0 0)

/-- As written, it is the last nanosecond of the four-digit years. -/
def Last (w : Written) : Prop :=
  w.date = Date.last ∧ w.time.minutes = 1439 ∧ w.time.second = 60 ∧ w.nano = 999999999

/-- The forms that divide the canonical texts as their instants do. With a `T` in upper case: the
offset zero and at least the fraction digits of the canonical text, or the letter `Z` and at least
nine digits. Of the others only some at the end of a day or of the four-digit years. -/
def Faithful (w : Written) : Prop :=
  if w.lowerT then w.AtDayEnd
  else if w.zone.isUtc then 9 ≤ w.fraction.length
  else if w.zone.minutes = 0 then (nanoDigits w.nano).length ≤ w.fraction.length
  else w.zone.minutes < 0 ∧ w.Last

instance (w : Written) : Decidable w.Last := inferInstanceAs (Decidable (_ ∧ _ ∧ _ ∧ _))

instance (w : Written) : Decidable w.AtDayEnd := inferInstanceAs (Decidable (_ ∧ (_ ∨ _)))

instance (w : Written) : Decidable w.Faithful := inferInstanceAs (Decidable (ite _ _ _))

end Written

/-! ## Where texts and instants agree -/

section
variable {m m' : Int} {s s' n n' : Nat}

/-- Instants are ordered by minute, second and nanosecond. -/
theorem instant_le_iff (hs : s ≤ 60) (hs' : s' ≤ 60) (hn : n < 10 ^ 9) (hn' : n' < 10 ^ 9) :
    instant m s n ≤ instant m' s' n' ↔
      m < m' ∨ (m = m' ∧ (s < s' ∨ (s = s' ∧ n ≤ n'))) := by
  unfold instant
  omega

end

section
variable {ds : List Digit} {z : Zone} {n : Nat}

/-- The offset that times are written with sorts after that of no zone. -/
theorem utcOffset_textLe (z : Zone) : TextLe utcOffset z.text := by
  cases z with
  | utc lower => cases lower <;> decide
  | offset west hour minute =>
    cases west with
    | true => exact textLe_cons.2 (.inl (by decide))
    | false =>
      have h : utcOffset = '+' :: (chars (digits 2 0) ++ ':' :: (chars (digits 2 0) ++ [])) := rfl
      have hz : (Zone.offset false hour minute).text =
          '+' :: (chars (digits 2 hour) ++ ':' :: (chars (digits 2 minute) ++ [])) := by
        simp [Zone.text]
      rw [h, hz, textLe_cons_self, textLe_digits (by omega) (by omega), textLe_cons_self,
        textLe_digits (by omega) (by omega)]
      have : TextLe [] [] := rfl
      simp only [this, and_true]
      omega

/-- An offset starts before the decimal point and before every digit. -/
theorem Zone.text_of_offset (h : z.isUtc = false) : ∃ c y, z.text = c :: y ∧ c.toNat < 46 := by
  cases z with
  | utc lower => cases h
  | offset west hour minute =>
    refine ⟨_, _, rfl, ?_⟩
    cases west <;> decide

/-- The order of a canonical fraction and a written one, in front of what follows them. -/
def FractionLe (n : Nat) (ds : List Digit) (z : Zone) : Prop :=
  TextLe (fractionText (nanoDigits n) ++ utcOffset) (fractionText ds ++ z.text)

/-- A whole second comes before every fraction of it. -/
theorem fractionLe_zero : FractionLe 0 ds z := by
  have hnil : fractionText (nanoDigits 0) = [] := rfl
  rw [FractionLe, hnil]
  by_cases hds : ds = []
  · rw [hds]
    exact utcOffset_textLe z
  · rw [fractionText, if_neg hds]
    exact textLe_cons.2 (.inl (by decide))

/-- The order of a proper fraction and written digits, by value and then by length. -/
theorem fractionLe_iff (hn : n ≠ 0) (hn9 : n < 10 ^ 9) (hds : ds ≠ [])
    (hz : 9 ≤ ds.length ∨ z.isUtc = false) :
    FractionLe n ds z ↔ n < fractionValue 9 ds ∨
      (n = fractionValue 9 ds ∧ (nanoDigits n).length ≤ ds.length) := by
  have hne : nanoDigits n ≠ [] := mt nanoDigits_eq_nil.1 hn
  have htail : (ds.take 9).length = 9 ∨
      ∃ c y, chars (ds.drop 9) ++ z.text = c :: y ∧ c.toNat < 48 := by
    rcases hz with h | h
    · exact .inl (by simp [h])
    · by_cases h9 : 9 ≤ ds.length
      · exact .inl (by simp [h9])
      · obtain ⟨c, y, hcy, hc⟩ := Zone.text_of_offset h
        rw [List.drop_of_length_le (by omega)]
        exact .inr ⟨c, y, hcy, by omega⟩
  have hsplit : fractionText ds ++ z.text =
      '.' :: (chars (ds.take 9) ++ (chars (ds.drop 9) ++ z.text)) := by
    have hchars : chars (ds.take 9) ++ chars (ds.drop 9) = chars ds := by
      rw [chars, chars, ← List.map_append, List.take_append_drop, chars]
    rw [fractionText, if_neg hds, ← List.append_assoc, hchars, List.cons_append]
  have hrest : TextLe utcOffset (chars (ds.drop 9) ++ z.text) := by
    cases hd : ds.drop 9 with
    | nil => exact utcOffset_textLe z
    | cons d rest =>
      refine textLe_cons.2 (.inl ?_)
      rw [Digit.toNat_char]
      have : '+'.toNat = 43 := rfl
      omega
  rw [FractionLe, hsplit, fractionText, if_neg hne, List.cons_append, textLe_cons_self, utcOffset,
    textLe_fraction (by decide) htail nanoDigits_length_le (by simp), fractionValue_take,
    fractionValue_nanoDigits hn9]
  rw [← utcOffset]
  simp only [hrest, and_true, List.length_take]
  have := nanoDigits_length_le (n := n)
  omega

/-- Digits that reach the canonical ones order the fractions by value. -/
theorem fractionLe_iff_le (hn : n < 10 ^ 9) (hz : 9 ≤ ds.length ∨ z.isUtc = false)
    (hlen : (nanoDigits (fractionValue 9 ds)).length ≤ ds.length) :
    FractionLe n ds z ↔ n ≤ fractionValue 9 ds := by
  by_cases h0 : n = 0
  · subst h0
    simp [fractionLe_zero]
  · by_cases hds : ds = []
    · -- a fraction starts with the decimal point, an offset before it
      subst hds
      obtain ⟨c, y, hcy, hc⟩ := Zone.text_of_offset (hz.resolve_left (by simp))
      have hle : ¬ FractionLe n [] z := by
        rw [FractionLe, fractionText, if_neg (mt nanoDigits_eq_nil.1 h0), fractionText, if_pos rfl,
          List.nil_append, hcy, List.cons_append, textLe_cons]
        have : '.'.toNat = 46 := rfl
        omega
      simp only [hle, false_iff, fractionValue]
      omega
    · rw [fractionLe_iff h0 hn hds hz]
      constructor
      · rintro (h | ⟨h, -⟩) <;> omega
      · intro h
        rcases Nat.lt_or_eq_of_le h with h | h
        · exact .inl h
        · exact .inr ⟨h, by rwa [h]⟩

/-- Before an offset, a fraction that comes first is not greater. -/
theorem FractionLe.le (hn : n < 10 ^ 9) (hz : z.isUtc = false) (h : FractionLe n ds z) :
    n ≤ fractionValue 9 ds := by
  by_cases h0 : n = 0
  · omega
  · by_cases hds : ds = []
    · subst hds
      exact (fractionLe_iff_le hn (.inr hz) (Nat.le_refl _)).1 h
    · rcases (fractionLe_iff h0 hn hds (.inr hz)).1 h with h | ⟨h, -⟩ <;> omega

/-- Before an offset, missing digits put a fraction before its own canonical text. -/
theorem not_fractionLe_of_short (hz : z.isUtc = false)
    (hlen : ds.length < (nanoDigits (fractionValue 9 ds)).length) :
    ¬ FractionLe (fractionValue 9 ds) ds z := by
  have h0 : fractionValue 9 ds ≠ 0 := by
    intro h0
    simp [h0, nanoDigits] at hlen
  have hds : ds ≠ [] := by
    rintro rfl
    exact h0 rfl
  rw [fractionLe_iff h0 (fractionValue_lt 9 ds) hds (.inr hz)]
  omega

/-- Before a letter, missing digits put a fraction after the next nanosecond. -/
theorem fractionLe_of_utc (hz : z.isUtc = true) (hlen : ds.length < 9) :
    FractionLe (fractionValue 9 ds + 1) ds z := by
  obtain ⟨c, hc, hzc⟩ : ∃ c : Char, 57 < c.toNat ∧ z.text = [c] := by
    cases z with
    | offset => cases hz
    | utc lower => exact ⟨_, by cases lower <;> decide, rfl⟩
  have hmod := fractionValue_mod_ten hlen
  have hnano : nanoDigits (fractionValue 9 ds + 1) = digits 9 (fractionValue 9 ds + 1) := by
    rw [nanoDigits, if_neg (by omega), if_neg (by omega), if_neg (by omega)]
  obtain ⟨-, e, es, hdigits⟩ := digits_fractionValue_succ hlen
  rw [FractionLe, hnano, hzc, fractionText, hdigits, if_neg (by simp), List.cons_append]
  by_cases hds : ds = []
  · rw [hds, fractionText, if_pos rfl]
    refine textLe_cons.2 (.inl ?_)
    have : '.'.toNat = 46 := rfl
    omega
  · rw [fractionText, if_neg hds, List.cons_append, textLe_cons_self]
    exact textLe_letter hc

end

section
variable {w : Written} {t u : DateTime}

/-- A canonical text against one with a separator in lower case: only the dates count. -/
theorem textLe_lower (ht : t.FourDigit) (hw : w.lowerT = true) :
    TextLe t.text w.text ↔ t.date.dayNumber ≤ w.date.dayNumber := by
  have hsep : ∀ x y, TextLe ('T' :: x) ('t' :: y) := fun x y => textLe_cons.2 (.inl (by decide))
  rw [DateTime.text, Written.text, hw, if_pos rfl, textLe_date ht w.fourDigit]
  simp only [hsep, and_true]
  rw [← Date.dayNumber_inj]
  omega

/-- A canonical text against one with a separator in upper case. -/
theorem textLe_upper (ht : t.FourDigit) (hw : w.lowerT = false) :
    TextLe t.text w.text ↔ t.date.dayNumber < w.date.dayNumber ∨ (t.date = w.date ∧
      (t.time.rank < w.time.rank ∨ (t.time = w.time ∧ FractionLe t.nano w.fraction w.zone))) := by
  rw [DateTime.text, Written.text, hw, if_neg (by decide), textLe_date ht w.fourDigit,
    textLe_cons_self, textLe_time, FractionLe]

/-- A day has 1440 minutes. -/
theorem TimeOfDay.minutes_lt (t : TimeOfDay) : t.minutes < 1440 := by
  have := t.hour_lt
  have := t.minute_lt
  unfold TimeOfDay.minutes
  omega

/-- A time of day is its minute and its second. -/
theorem TimeOfDay.eq_iff {t u : TimeOfDay} :
    t = u ↔ t.minutes = u.minutes ∧ t.second = u.second := by
  have := t.minute_lt
  have := u.minute_lt
  rw [TimeOfDay.ext_iff']
  unfold TimeOfDay.minutes
  omega

/-- Times of day are ordered by their minutes, and then by their seconds. -/
theorem TimeOfDay.rank_lt {t u : TimeOfDay} :
    t.rank < u.rank ↔ t.minutes < u.minutes ∨ (t.minutes = u.minutes ∧ t.second < u.second) := by
  have := t.second_le
  have := u.second_le
  unfold TimeOfDay.rank
  omega

/-- Instants of one scale, in their parts. -/
theorem DateTime.instant_le_iff : t.instant ≤ w.instant ↔
    t.date.dayNumber * 1440 + t.time.minutes < w.localMinutes - w.zone.minutes ∨
      (t.date.dayNumber * 1440 + t.time.minutes = w.localMinutes - w.zone.minutes ∧
        (t.time.second < w.time.second ∨ (t.time.second = w.time.second ∧ t.nano ≤ w.nano))) :=
  Rfc3339.instant_le_iff t.time.second_le w.time.second_le t.nano_lt (fractionValue_lt 9 _)

/-- With the offset zero the parts are compared one by one, as in the texts. -/
theorem DateTime.instant_le_utc (hz : w.zone.minutes = 0) : t.instant ≤ w.instant ↔
    t.date.dayNumber < w.date.dayNumber ∨ (t.date = w.date ∧
      (t.time.rank < w.time.rank ∨ (t.time = w.time ∧ t.nano ≤ w.nano))) := by
  have := t.time.minutes_lt
  have := w.time.minutes_lt
  rw [DateTime.instant_le_iff, hz, ← Date.dayNumber_inj, TimeOfDay.eq_iff, TimeOfDay.rank_lt,
    Written.localMinutes]
  omega

/-- The written date and time of day as a canonical one in UTC, with the given nanoseconds. -/
def Written.reading (w : Written) (n : Nat) (hn : n < 10 ^ 9) : DateTime := ⟨w.date, w.time, n, hn⟩

/-- A text in the written form is read as a time of a four-digit year. -/
theorem Written.reading_fourDigit {n : Nat} {hn : n < 10 ^ 9} : (w.reading n hn).FourDigit :=
  w.fourDigit

/-- In UTC, the texts agree with the instants where the fractions do. -/
theorem agree_utc_iff (hw : w.lowerT = false) (hz : w.zone.minutes = 0) :
    (∀ t : DateTime, t.FourDigit → (TextLe t.text w.text ↔ t.instant ≤ w.instant)) ↔
      ∀ n, n < 10 ^ 9 → (FractionLe n w.fraction w.zone ↔ n ≤ w.nano) := by
  constructor
  · intro h n hn
    have h := h (w.reading n hn) Written.reading_fourDigit
    rw [textLe_upper Written.reading_fourDigit hw, DateTime.instant_le_utc hz] at h
    simpa [Written.reading] using h
  · intro h t ht
    rw [textLe_upper ht hw, DateTime.instant_le_utc hz, h t.nano t.nano_lt]

/-- Beside a text that ends with Z, texts and instants are ordered alike exactly if it has nine
digits. -/
theorem agree_letter_iff (hw : w.lowerT = false) (hz : w.zone.isUtc = true) :
    (∀ t : DateTime, t.FourDigit → (TextLe t.text w.text ↔ t.instant ≤ w.instant)) ↔
      9 ≤ w.fraction.length := by
  have hmin : w.zone.minutes = 0 := by
    cases hzone : w.zone with
    | utc lower => rfl
    | offset west hour minute => simp [hzone, Zone.isUtc] at hz
  rw [agree_utc_iff hw hmin]
  constructor
  · intro h
    by_contra hlen
    have hshort : w.fraction.length < 9 := by omega
    have := (h _ (digits_fractionValue_succ hshort).1).1 (fractionLe_of_utc hz hshort)
    unfold Written.nano at this
    omega
  · intro h n hn
    exact fractionLe_iff_le hn (.inl h) (Nat.le_trans nanoDigits_length_le h)

/-- Beside a text with a zero offset, texts and instants are ordered alike exactly if it has the
digits of its canonical text. -/
theorem agree_zero_iff (hw : w.lowerT = false) (hz : w.zone.isUtc = false)
    (hmin : w.zone.minutes = 0) :
    (∀ t : DateTime, t.FourDigit → (TextLe t.text w.text ↔ t.instant ≤ w.instant)) ↔
      (nanoDigits w.nano).length ≤ w.fraction.length := by
  rw [agree_utc_iff hw hmin]
  constructor
  · intro h
    by_contra hlen
    exact not_fractionLe_of_short hz (Nat.not_le.1 hlen)
      ((h _ (fractionValue_lt 9 _)).2 (Nat.le_refl _))
  · intro h n hn
    exact fractionLe_iff_le hn (.inr hz) h

/-- Ahead of UTC, the reading of the text as UTC is later but not greater as a text. -/
theorem disagree_of_east (hw : w.lowerT = false) (hmin : 0 < w.zone.minutes) :
    ∃ t : DateTime, t.FourDigit ∧ TextLe t.text w.text ∧ ¬ t.instant ≤ w.instant := by
  refine ⟨w.reading 0 (by decide), Written.reading_fourDigit, ?_, ?_⟩
  · rw [textLe_upper Written.reading_fourDigit hw]
    exact .inr ⟨rfl, .inr ⟨rfl, fractionLe_zero⟩⟩
  · rw [DateTime.instant_le_iff, Written.localMinutes]
    simp only [Written.reading]
    omega

/-- The time of day at which a number of minutes and seconds have passed. -/
def TimeOfDay.at (minutes second : Nat) (hm : minutes < 1440) (hs : second ≤ 60) : TimeOfDay where
  hour := minutes / 60
  minute := minutes % 60
  second := second
  hour_lt := by omega
  minute_lt := by omega
  second_le := hs

@[simp] theorem TimeOfDay.minutes_at {minutes second : Nat} {hm : minutes < 1440}
    {hs : second ≤ 60} : (TimeOfDay.at minutes second hm hs).minutes = minutes := by
  simp only [TimeOfDay.minutes, TimeOfDay.at]
  omega

@[simp] theorem TimeOfDay.second_at {minutes second : Nat} {hm : minutes < 1440}
    {hs : second ≤ 60} : (TimeOfDay.at minutes second hm hs).second = second := rfl

/-- Behind UTC, some later text denotes an instant that is not later, except after the last one. -/
theorem disagree_of_west (hw : w.lowerT = false) (hz : w.zone.isUtc = false)
    (hmin : w.zone.minutes < 0) (hlast : ¬ w.Last) :
    ∃ t : DateTime, t.FourDigit ∧ ¬ TextLe t.text w.text ∧ t.instant ≤ w.instant := by
  have hsecond := w.time.second_le
  have hminutes := w.time.minutes_lt
  have hnano := fractionValue_lt 9 w.fraction
  by_cases hend : w.time.second = 60 ∧ w.nano = 999999999
  · by_cases hday : w.time.minutes = 1439
    · -- the text ends a day: the start of the next one
      obtain ⟨d, hd, hnext⟩ := w.fourDigit.next fun h => hlast ⟨h, hday, hend⟩
      have hd : DateTime.FourDigit ⟨d, .at 0 0 (by decide) (by decide), 0, by decide⟩ := hd
      refine ⟨_, hd, ?_, ?_⟩
      · rw [textLe_upper hd hw, ← Date.dayNumber_inj]
        simp only
        omega
      · rw [DateTime.instant_le_iff, Written.localMinutes]
        simp only [TimeOfDay.minutes_at, TimeOfDay.second_at]
        omega
    · -- the text ends a minute: the start of the next one
      have hd : DateTime.FourDigit ⟨w.date, .at (w.time.minutes + 1) 0 (by omega) (by decide), 0,
        by decide⟩ := w.fourDigit
      refine ⟨_, hd, ?_, ?_⟩
      · rw [textLe_upper hd hw, TimeOfDay.rank_lt, TimeOfDay.eq_iff]
        simp only [TimeOfDay.minutes_at]
        omega
      · rw [DateTime.instant_le_iff, Written.localMinutes]
        simp only [TimeOfDay.minutes_at, TimeOfDay.second_at]
        omega
  · -- the last nanosecond of the written minute
    have hd : DateTime.FourDigit ⟨w.date, .at w.time.minutes 60 hminutes (by decide), 999999999,
      by decide⟩ := w.fourDigit
    refine ⟨_, hd, ?_, ?_⟩
    · rw [textLe_upper hd hw, TimeOfDay.rank_lt, TimeOfDay.eq_iff]
      simp only [TimeOfDay.minutes_at, TimeOfDay.second_at]
      rintro (h | ⟨-, h | ⟨h, hle⟩⟩)
      · omega
      · omega
      · have := hle.le (by decide) hz
        unfold Written.nano at hend hnano
        omega
    · rw [DateTime.instant_le_iff, Written.localMinutes]
      simp only [TimeOfDay.minutes_at, TimeOfDay.second_at]
      omega

/-- After the last nanosecond of the four-digit years no canonical text follows. -/
theorem agree_of_last (hw : w.lowerT = false) (hz : w.zone.isUtc = false)
    (hmin : w.zone.minutes < 0) (hlast : w.Last) (ht : t.FourDigit) :
    TextLe t.text w.text ∧ t.instant ≤ w.instant := by
  obtain ⟨hdate, hminutes, hsecond, hnano⟩ := hlast
  have hday := ht.le_last
  have := t.time.minutes_lt
  have := t.time.second_le
  have := t.nano_lt
  have hfraction : FractionLe t.nano w.fraction w.zone := by
    have hlen : 9 ≤ w.fraction.length := by
      by_contra hlen
      have := fractionValue_mod_ten (Nat.not_le.1 hlen)
      unfold Written.nano at hnano
      omega
    rw [fractionLe_iff_le t.nano_lt (.inr hz) (Nat.le_trans nanoDigits_length_le hlen)]
    unfold Written.nano at hnano
    omega
  constructor
  · rw [textLe_upper ht hw, ← Date.dayNumber_inj, TimeOfDay.eq_iff, TimeOfDay.rank_lt, hdate,
      hminutes, hsecond]
    simp only [hfraction, and_true]
    omega
  · rw [DateTime.instant_le_iff, Written.localMinutes, hdate, hminutes]
    omega

/-- With a separator in lower case, the text comes after its whole date. -/
theorem agree_lower_iff (hw : w.lowerT = true) :
    (∀ t : DateTime, t.FourDigit → (TextLe t.text w.text ↔ t.instant ≤ w.instant)) ↔
      w.AtDayEnd := by
  constructor
  · intro h
    constructor
    · have hd : DateTime.FourDigit ⟨w.date, .at 1439 60 (by decide) (by decide), 999999999,
        by decide⟩ := w.fourDigit
      exact (h _ hd).1 ((textLe_lower hd hw).2 (Int.le_refl _))
    · by_cases hlast : w.date = Date.last
      · exact .inl hlast
      · obtain ⟨d, hd, hnext⟩ := w.fourDigit.next hlast
        have hd : DateTime.FourDigit ⟨d, .at 0 0 (by decide) (by decide), 0, by decide⟩ := hd
        have := mt (h _ hd).2 (mt (textLe_lower hd hw).1 (by simp only; omega))
        rw [Int.not_le, DateTime.instant] at this
        simp only [TimeOfDay.minutes_at, TimeOfDay.second_at, hnext] at this
        exact .inr (by simpa using this)
  · rintro ⟨hend, hnext⟩ t ht
    have := t.time.minutes_lt
    have := t.time.second_le
    have := t.nano_lt
    rw [textLe_lower ht hw]
    constructor
    · intro hle
      refine Int.le_trans ?_ hend
      rw [DateTime.instant, Rfc3339.instant_le_iff (by omega) (by omega) (by omega) (by omega)]
      omega
    · intro hle
      rcases hnext with hlast | hnext
      · rw [hlast]
        exact ht.le_last
      · by_contra hn
        refine Int.not_lt.2 (Int.le_trans ?_ hle) hnext
        rw [DateTime.instant, Rfc3339.instant_le_iff (by omega) (by omega) (by omega) (by omega)]
        omega

/-- A written timestamp divides the canonical texts as its instant divides their instants exactly
where it is faithful. -/
theorem Written.faithful_iff : w.Faithful ↔
    ∀ t : DateTime, t.FourDigit → (TextLe t.text w.text ↔ t.instant ≤ w.instant) := by
  unfold Written.Faithful
  split
  · next hw => exact (agree_lower_iff hw).symm
  · next hw =>
    have hw : w.lowerT = false := by simpa using hw
    split
    · next hz => exact (agree_letter_iff hw hz).symm
    · next hz =>
      have hz : w.zone.isUtc = false := by simpa using hz
      split
      · next hmin => exact (agree_zero_iff hw hz hmin).symm
      · next hmin =>
        constructor
        · rintro ⟨hwest, hlast⟩ t ht
          obtain ⟨htext, hinstant⟩ := agree_of_last hw hz hwest hlast ht
          exact iff_of_true htext hinstant
        · intro h
          rcases Int.lt_or_gt_of_ne hmin with hwest | heast
          · refine ⟨hwest, ?_⟩
            by_contra hlast
            obtain ⟨t, ht, htext, hinstant⟩ := disagree_of_west hw hz hwest hlast
            exact htext ((h t ht).2 hinstant)
          · obtain ⟨t, ht, htext, hinstant⟩ := disagree_of_east hw heast
            exact absurd ((h t ht).1 htext) hinstant

/-- The first instant of the four-digit years. -/
def DateTime.first : DateTime where
  date := ⟨0, 1, 1, by decide, by decide⟩
  time := ⟨0, 0, 0, by decide, by decide, by decide⟩
  nano := 0
  nano_lt := by decide

/-- The first time has a four-digit year. -/
theorem DateTime.first_fourDigit : DateTime.first.FourDigit := by decide

/-- No text comes before that of the first instant. -/
theorem Written.first_textLe (w : Written) : TextLe DateTime.first.text w.text := by
  have hday : DateTime.first.date.dayNumber ≤ w.date.dayNumber := by
    by_contra hn
    have := Date.dayNumber_lt_iff.1 (Int.not_le.1 hn)
    have := w.date.month_mem
    have := w.date.day_mem
    have := w.fourDigit.1
    simp only [DateTime.first] at *
    omega
  by_cases hw : w.lowerT = true
  · exact (textLe_lower DateTime.first_fourDigit hw).2 hday
  · rw [textLe_upper DateTime.first_fourDigit (by simpa using hw), ← Date.dayNumber_inj,
      TimeOfDay.rank_lt, TimeOfDay.eq_iff]
    have hzero : DateTime.first.nano = 0 := rfl
    have hminutes : DateTime.first.time.minutes = 0 := rfl
    have hsecond : DateTime.first.time.second = 0 := rfl
    simp only [hzero, hminutes, hsecond, fractionLe_zero, and_true]
    omega

/-- A canonical text as a written timestamp. -/
def DateTime.written (t : DateTime) (ht : t.FourDigit) : Written where
  date := t.date
  fourDigit := ht
  lowerT := false
  time := t.time
  fraction := nanoDigits t.nano
  zone := .offset false 0 0

/-- The written form of a time is its text. -/
theorem DateTime.text_written (ht : t.FourDigit) : (t.written ht).text = t.text := rfl

/-- The written form of a time is read as its instant. -/
theorem DateTime.instant_written (ht : t.FourDigit) : (t.written ht).instant = t.instant := by
  simp [Written.instant, DateTime.instant, Written.localMinutes, Written.nano, DateTime.written,
    Zone.minutes, fractionValue_nanoDigits t.nano_lt]

/-- The canonical text of a time is faithful. -/
theorem DateTime.faithful_written (ht : t.FourDigit) : (t.written ht).Faithful := by
  have : nanoDigits (t.written ht).nano = nanoDigits t.nano := by
    rw [Written.nano, DateTime.written, fractionValue_nanoDigits t.nano_lt]
  rw [Written.Faithful, if_neg (by simp [DateTime.written]),
    if_neg (by simp [DateTime.written, Zone.isUtc]),
    if_pos (by simp [DateTime.written, Zone.minutes]), this]
  exact Nat.le_refl _

/-- The canonical texts are ordered like their instants. -/
theorem DateTime.textLe_iff (ht : t.FourDigit) (hu : u.FourDigit) :
    TextLe t.text u.text ↔ t.instant ≤ u.instant := by
  have h := Written.faithful_iff.1 (faithful_written hu) t ht
  rwa [text_written, instant_written] at h

end

end Rfc3339
