import Mathlib.Data.List.TakeWhile

/-!
# JSON texts

The compact text of a JSON value: no blanks, members in the order they are given, and the escapes a
writer has to make. In front of a separator, a closing bracket or the end, a text determines its
value and where it ends (`text_append_inj`), so distinct values have distinct texts
(`text_injective`).
-/

namespace Json

/-- A JSON value. The numbers are the integers: a natural one, or one below zero by its digits. -/
inductive Value where
  | null
  | bool (b : Bool)
  | number (n : Nat)
  | negative (n : Nat)
  | string (s : String)
  | array (items : List Value)
  | object (fields : List (String × Value))

/-- The value of an integer. -/
def Value.int : Int → Value
  | .ofNat n => .number n
  | .negSucc n => .negative (n + 1)

/-- Integers are told apart by their values. -/
theorem Value.int_inj {a b : Int} (h : Value.int a = Value.int b) : a = b := by
  cases a with
  | ofNat n =>
    cases b with
    | ofNat m => rw [Value.number.inj h]
    | negSucc m => cases h
  | negSucc n =>
    cases b with
    | ofNat m => cases h
    | negSucc m => rw [Nat.succ.inj (Value.negative.inj h)]

/-! ## Strings -/

/-- A character in a string. -/
def escape (c : Char) : List Char :=
  if c = '"' then ['\\', '"']
  else if c = '\\' then ['\\', '\\']
  else if c = '\x08' then ['\\', 'b']
  else if c = '\t' then ['\\', 't']
  else if c = '\n' then ['\\', 'n']
  else if c = '\x0c' then ['\\', 'f']
  else if c = '\r' then ['\\', 'r']
  else if c.toNat < 0x20 then
    ['\\', 'u', '0', '0', Nat.digitChar (c.toNat / 16), Nat.digitChar (c.toNat % 16)]
  else [c]

/-- A string between its quotes. -/
def quote (s : String) : List Char := '"' :: s.toList.flatMap escape ++ ['"']

/-- The characters that are escaped. -/
def specials : List Char := '"' :: '\\' :: (List.range 0x20).map Char.ofNat

/-- A character that is not special is written as it is. -/
theorem escape_plain {c : Char} (h : c ∉ specials) : escape c = [c] := by
  simp only [specials, List.mem_cons, not_or] at h
  obtain ⟨hquote, hslash, hcontrol⟩ := h
  have hlarge : ¬ c.toNat < 0x20 := fun hlt =>
    hcontrol (List.mem_map.2 ⟨c.toNat, List.mem_range.2 hlt, Char.ofNat_toNat c⟩)
  have hne : ∀ d : Char, d.toNat < 0x20 → c ≠ d := fun d hd he => hlarge (he ▸ hd)
  simp only [escape, hquote, hslash, hlarge, hne '\x08' (by decide), hne '\t' (by decide),
    hne '\n' (by decide), hne '\x0c' (by decide), hne '\r' (by decide), if_false]

/-- A special character is written with a backslash first. -/
theorem escape_special (c : Char) (hc : c ∈ specials) : (escape c).head? = some '\\' := by
  have hall : specials.all (fun c => (escape c).head? = some '\\') = true := by decide +kernel
  exact of_decide_eq_true (List.all_eq_true.1 hall c hc)

/-- Of the texts of special characters, none begins another one. -/
theorem special_inj (c : Char) (hc : c ∈ specials) (d : Char) (hd : d ∈ specials)
    (h : escape c <+: escape d) : c = d := by
  have hall :
      specials.all (fun c => specials.all fun d => escape c <+: escape d → c = d) = true := by
    decide +kernel
  exact of_decide_eq_true (List.all_eq_true.1 (List.all_eq_true.1 hall c hc) d hd) h

/-- No escape begins with a quote. -/
theorem escape_head (c : Char) : ∃ d ds, escape c = d :: ds ∧ d ≠ '"' := by
  by_cases h : c ∈ specials
  · have hhead := escape_special c h
    cases hescape : escape c with
    | nil => rw [hescape] at hhead; cases hhead
    | cons d ds =>
      rw [hescape] at hhead
      cases hhead
      exact ⟨_, _, rfl, by decide⟩
  · exact ⟨c, [], escape_plain h, fun he => h (he ▸ by decide)⟩

/-- An escape determines its character and where it ends. -/
theorem escape_append_inj {c d : Char} {r s : List Char} (h : escape c ++ r = escape d ++ s) :
    c = d ∧ r = s := by
  have hcd : c = d := by
    by_cases hc : c ∈ specials
    · by_cases hd : d ∈ specials
      · rcases List.append_eq_append_iff.1 h with ⟨m, hm, -⟩ | ⟨m, hm, -⟩
        · exact special_inj c hc d hd ⟨m, hm.symm⟩
        · exact (special_inj d hd c hc ⟨m, hm.symm⟩).symm
      · have hhead := congrArg List.head? h
        rw [escape_plain hd, List.head?_append, escape_special c hc] at hhead
        cases hhead
        exact absurd (by decide) hd
    · by_cases hd : d ∈ specials
      · have hhead := congrArg List.head? h
        rw [escape_plain hc, List.head?_append (l := escape d), escape_special d hd] at hhead
        cases hhead
        exact absurd (by decide) hc
      · rw [escape_plain hc, escape_plain hd] at h
        exact (List.cons.inj h).1
  subst hcd
  exact ⟨rfl, List.append_cancel_left h⟩

/-- A string determines its characters and where it ends. -/
theorem quote_append_inj {a b : String} {r s : List Char} (h : quote a ++ r = quote b ++ s) :
    a = b ∧ r = s := by
  have hchars : ∀ cs ds : List Char,
      cs.flatMap escape ++ '"' :: r = ds.flatMap escape ++ '"' :: s → cs = ds ∧ r = s := by
    intro cs
    induction cs with
    | nil =>
      intro ds h
      cases ds with
      | nil => exact ⟨rfl, (List.cons.inj h).2⟩
      | cons d ds =>
        obtain ⟨e, es, he, hne⟩ := escape_head d
        rw [List.flatMap_cons, he] at h
        exact absurd (List.cons.inj h).1.symm hne
    | cons c cs ih =>
      intro ds h
      cases ds with
      | nil =>
        obtain ⟨e, es, he, hne⟩ := escape_head c
        rw [List.flatMap_cons, he] at h
        exact absurd (List.cons.inj h).1 hne
      | cons d ds =>
        rw [List.flatMap_cons, List.flatMap_cons, List.append_assoc, List.append_assoc] at h
        obtain ⟨rfl, hrest⟩ := escape_append_inj h
        obtain ⟨rfl, hrs⟩ := ih ds hrest
        exact ⟨rfl, hrs⟩
  simp only [quote, List.cons_append, List.append_assoc, List.nil_append] at h
  obtain ⟨hlist, hrs⟩ := hchars _ _ (List.cons.inj h).2
  exact ⟨String.toList_inj.1 hlist, hrs⟩

/-! ## Texts -/

mutual
/-- The text of a value. -/
def Value.text : Value → List Char
  | .null => ['n', 'u', 'l', 'l']
  | .bool true => ['t', 'r', 'u', 'e']
  | .bool false => ['f', 'a', 'l', 's', 'e']
  | .number n => Nat.toDigits 10 n
  | .negative n => '-' :: Nat.toDigits 10 n
  | .string s => quote s
  | .array items => '[' :: itemsText items
  | .object fields => '{' :: fieldsText fields

/-- The items of an array, and its closing bracket. -/
def itemsText : List Value → List Char
  | [] => [']']
  | v :: vs => v.text ++ moreItemsText vs

/-- The items after the first one. -/
def moreItemsText : List Value → List Char
  | [] => [']']
  | v :: vs => ',' :: v.text ++ moreItemsText vs

/-- The members of an object, and its closing brace. -/
def fieldsText : List (String × Value) → List Char
  | [] => ['}']
  | (name, v) :: fields => quote name ++ ':' :: v.text ++ moreFieldsText fields

/-- The members after the first one. -/
def moreFieldsText : List (String × Value) → List Char
  | [] => ['}']
  | (name, v) :: fields => ',' :: quote name ++ ':' :: v.text ++ moreFieldsText fields
end

/-- What may follow a value. -/
def Follows (r : List Char) : Prop := ∀ c ∈ r.head?, c = ',' ∨ c = ']' ∨ c = '}'

/-- A value may end a text. -/
theorem follows_nil : Follows [] := nofun

/-- A value may stand before the items after it. -/
theorem follows_moreItems (vs : List Value) (r : List Char) : Follows (moreItemsText vs ++ r) := by
  cases vs <;> simp [Follows, moreItemsText]

/-- A value may stand before the fields after it. -/
theorem follows_moreFields (fields : List (String × Value)) (r : List Char) :
    Follows (moreFieldsText fields ++ r) := by
  cases fields <;> simp [Follows, moreFieldsText]

/-- A number determines its digits and where they end. -/
theorem number_append_inj {n m : Nat} {r s : List Char} (hr : Follows r) (hs : Follows s)
    (h : Nat.toDigits 10 n ++ r = Nat.toDigits 10 m ++ s) : n = m ∧ r = s := by
  have hspan : ∀ (k : Nat) (t : List Char), Follows t →
      (Nat.toDigits 10 k ++ t).takeWhile Char.isDigit = Nat.toDigits 10 k := by
    intro k t ht
    have hdigits : ∀ c ∈ Nat.toDigits 10 k, c.isDigit = true := fun c hc =>
      Nat.isDigit_of_mem_toDigits (by decide) (by decide) hc
    rw [List.takeWhile_append_of_pos hdigits]
    cases t with
    | nil => simp
    | cons c cs =>
      have hc : c.isDigit = false := by
        rcases ht c rfl with rfl | rfl | rfl <;> rfl
      rw [List.takeWhile_cons_of_neg (by simp [hc]), List.append_nil]
  have hdigits : Nat.toDigits 10 n = Nat.toDigits 10 m := by
    rw [← hspan n r hr, h, hspan m s hs]
  have hread := congrArg (Nat.ofDigitChars 10 · 0) hdigits
  rw [Nat.ofDigitChars_ten_toDigits, Nat.ofDigitChars_ten_toDigits] at hread
  rw [hdigits] at h
  exact ⟨hread, List.append_cancel_left h⟩

/-- The kind of a value, from the first character of its text. -/
def kindOf (c : Char) : Nat :=
  if c = 'n' then 0 else if c = 't' then 1 else if c = 'f' then 2 else if c.isDigit then 3
  else if c = '"' then 4 else if c = '[' then 5 else if c = '{' then 6 else if c = '-' then 7 else 8

/-- The kind of a value. -/
def Value.kind : Value → Nat
  | .null => 0
  | .bool true => 1
  | .bool false => 2
  | .number _ => 3
  | .string _ => 4
  | .array _ => 5
  | .object _ => 6
  | .negative _ => 7

/-- A text begins with a character of its value's kind. -/
theorem text_head (v : Value) : ∃ c cs, v.text = c :: cs ∧ kindOf c = v.kind := by
  match v with
  | .null | .bool true | .bool false | .negative _ | .array _ | .object _ =>
    exact ⟨_, _, by rw [Value.text], rfl⟩
  | .string s => exact ⟨_, _, by rw [Value.text, quote, List.cons_append], rfl⟩
  | .number n =>
    cases hdigits : Nat.toDigits 10 n with
    | nil => exact absurd hdigits Nat.toDigits_ne_nil
    | cons c cs =>
      have hc : c.isDigit = true :=
        Nat.isDigit_of_mem_toDigits (b := 10) (n := n) (by decide) (by decide)
          (hdigits ▸ List.mem_cons_self)
      refine ⟨c, cs, by rw [Value.text, hdigits], ?_⟩
      have hne : ∀ d : Char, d.isDigit = false → c ≠ d := fun d hd he => by
        rw [he, hd] at hc
        cases hc
      rw [kindOf, if_neg (hne 'n' rfl), if_neg (hne 't' rfl), if_neg (hne 'f' rfl), if_pos hc]
      rfl

/-- Values whose texts begin alike are of one kind. -/
theorem kind_eq {a b : Value} {r s : List Char} (h : a.text ++ r = b.text ++ s) :
    a.kind = b.kind := by
  obtain ⟨c, cs, ha, hc⟩ := text_head a
  obtain ⟨d, ds, hb, hd⟩ := text_head b
  rw [ha, hb] at h
  rw [← hc, ← hd, (List.cons.inj h).1]

/-- No value begins with a separator or a closing bracket. -/
theorem text_ne_follows {v : Value} {r s : List Char} (hs : Follows s) (hne : s ≠ []) :
    v.text ++ r ≠ s := by
  rintro rfl
  obtain ⟨c, cs, hv, hc⟩ := text_head v
  have hkind : kindOf c = 8 := by
    rcases hs c (by rw [hv]; rfl) with rfl | rfl | rfl <;> rfl
  rw [hc] at hkind
  match v with
  | .null | .bool true | .bool false | .number _ | .negative _ | .string _ | .array _
  | .object _ => cases hkind

mutual
/-- In front of what may follow it, a text determines its value and where it ends. -/
theorem text_append_inj : ∀ {a b : Value} {r s : List Char}, Follows r → Follows s →
    a.text ++ r = b.text ++ s → a = b ∧ r = s
  | .null, b, r, s, hr, hs, h => by
    have hkind := kind_eq h
    match b with
    | .null => exact ⟨rfl, List.append_cancel_left h⟩
  | .bool true, b, r, s, hr, hs, h => by
    have hkind := kind_eq h
    match b with
    | .bool true => exact ⟨rfl, List.append_cancel_left h⟩
  | .bool false, b, r, s, hr, hs, h => by
    have hkind := kind_eq h
    match b with
    | .bool false => exact ⟨rfl, List.append_cancel_left h⟩
  | .number n, b, r, s, hr, hs, h => by
    have hkind := kind_eq h
    match b with
    | .number m =>
      obtain ⟨rfl, hrs⟩ := number_append_inj hr hs h
      exact ⟨rfl, hrs⟩
  | .negative n, b, r, s, hr, hs, h => by
    have hkind := kind_eq h
    match b with
    | .negative m =>
      rw [Value.text, Value.text, List.cons_append, List.cons_append] at h
      obtain ⟨rfl, hrs⟩ := number_append_inj hr hs (List.cons.inj h).2
      exact ⟨rfl, hrs⟩
  | .string t, b, r, s, hr, hs, h => by
    have hkind := kind_eq h
    match b with
    | .string u =>
      obtain ⟨rfl, hrs⟩ := quote_append_inj h
      exact ⟨rfl, hrs⟩
  | .array as, b, r, s, hr, hs, h => by
    have hkind := kind_eq h
    match b with
    | .array bs =>
      rw [Value.text, Value.text, List.cons_append, List.cons_append] at h
      have h := (List.cons.inj h).2
      match as, bs with
      | [], [] => exact ⟨rfl, (List.cons.inj h).2⟩
      | [], v :: vs =>
        rw [itemsText, itemsText, List.append_assoc] at h
        exact absurd h.symm (text_ne_follows (by simp [Follows]) (by simp))
      | v :: vs, [] =>
        rw [itemsText, itemsText, List.append_assoc] at h
        exact absurd h (text_ne_follows (by simp [Follows]) (by simp))
      | v :: vs, w :: ws =>
        rw [itemsText, itemsText, List.append_assoc, List.append_assoc] at h
        obtain ⟨rfl, hrest⟩ := text_append_inj (follows_moreItems vs r) (follows_moreItems ws s) h
        obtain ⟨rfl, hrs⟩ := moreItemsText_append_inj hrest
        exact ⟨rfl, hrs⟩
  | .object as, b, r, s, hr, hs, h => by
    have hkind := kind_eq h
    match b with
    | .object bs =>
      rw [Value.text, Value.text, List.cons_append, List.cons_append] at h
      have h := (List.cons.inj h).2
      match as, bs with
      | [], [] => exact ⟨rfl, (List.cons.inj h).2⟩
      | [], (name, v) :: fields =>
        exact absurd (List.cons.inj h).1 (by decide)
      | (name, v) :: fields, [] =>
        exact absurd (List.cons.inj h).1 (by decide)
      | (name, v) :: fields, (name', w) :: fields' =>
        simp only [fieldsText, List.append_assoc, List.cons_append] at h
        obtain ⟨rfl, hvalue⟩ := quote_append_inj h
        obtain ⟨rfl, hrest⟩ := text_append_inj (follows_moreFields fields r)
          (follows_moreFields fields' s) (List.cons.inj hvalue).2
        obtain ⟨rfl, hrs⟩ := moreFieldsText_append_inj hrest
        exact ⟨rfl, hrs⟩

/-- The items after the first one are read back from their text, whatever follows. -/
theorem moreItemsText_append_inj : ∀ {vs ws : List Value} {r s : List Char},
    moreItemsText vs ++ r = moreItemsText ws ++ s → vs = ws ∧ r = s
  | [], [], r, s, h => ⟨rfl, (List.cons.inj h).2⟩
  | [], w :: ws, r, s, h => absurd (List.cons.inj h).1 (by decide)
  | v :: vs, [], r, s, h => absurd (List.cons.inj h).1 (by decide)
  | v :: vs, w :: ws, r, s, h => by
    simp only [moreItemsText, List.append_assoc, List.cons_append] at h
    obtain ⟨rfl, hrest⟩ := text_append_inj (follows_moreItems vs r) (follows_moreItems ws s)
      (List.cons.inj h).2
    obtain ⟨rfl, hrs⟩ := moreItemsText_append_inj hrest
    exact ⟨rfl, hrs⟩

/-- The fields after the first one are read back from their text, whatever follows. -/
theorem moreFieldsText_append_inj : ∀ {fields fields' : List (String × Value)} {r s : List Char},
    moreFieldsText fields ++ r = moreFieldsText fields' ++ s → fields = fields' ∧ r = s
  | [], [], r, s, h => ⟨rfl, (List.cons.inj h).2⟩
  | [], (name, w) :: fields', r, s, h => absurd (List.cons.inj h).1 (by decide)
  | (name, v) :: fields, [], r, s, h => absurd (List.cons.inj h).1 (by decide)
  | (name, v) :: fields, (name', w) :: fields', r, s, h => by
    simp only [moreFieldsText, List.append_assoc, List.cons_append] at h
    obtain ⟨rfl, hvalue⟩ := quote_append_inj (List.cons.inj h).2
    obtain ⟨rfl, hrest⟩ := text_append_inj (follows_moreFields fields r)
      (follows_moreFields fields' s) (List.cons.inj hvalue).2
    obtain ⟨rfl, hrs⟩ := moreFieldsText_append_inj hrest
    exact ⟨rfl, hrs⟩
end

/-- Each item of an array takes two characters at least. -/
theorem length_itemsText (vs : List Value) : 2 * vs.length ≤ (itemsText vs).length := by
  have hmore : ∀ vs : List Value, 2 * vs.length < (moreItemsText vs).length := by
    intro vs
    induction vs with
    | nil => simp [moreItemsText]
    | cons v vs ih =>
      obtain ⟨c, cs, hv, -⟩ := text_head v
      simp only [moreItemsText, hv, List.length_cons, List.length_append]
      omega
  cases vs with
  | nil => simp
  | cons v vs =>
    obtain ⟨c, cs, hv, -⟩ := text_head v
    have := hmore vs
    simp only [itemsText, hv, List.length_cons, List.length_append]
    omega

/-- The text of an array has two characters for each of its items, and a bracket. -/
theorem length_array_text (vs : List Value) : 2 * vs.length < (Value.array vs).text.length := by
  have := length_itemsText vs
  rw [Value.text, List.length_cons]
  omega

/-- Distinct values have distinct texts. -/
theorem text_injective {a b : Value} (h : a.text = b.text) : a = b :=
  (text_append_inj follows_nil follows_nil
    (by rw [List.append_nil, List.append_nil, h])).1

/-- A value has one text, in a string. -/
def Value.toText (v : Value) : String := String.ofList v.text

/-- No two values have one text. -/
theorem toText_injective {a b : Value} (h : a.toText = b.toText) : a = b :=
  text_injective (String.ofList_injective h)

end Json
