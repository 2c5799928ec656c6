import DeferredLog.Json
import DeferredLog.Proofs.Json.Reading

/-!
# Compact texts

The compact text of a JSON value is one of the texts of that value: `Json.toValue` makes the choices
that the writer makes, and `chars_toValue` says that what is written then is the compact text. So all
that is known of texts of any layout holds of compact ones.
-/

namespace DeferredLog.Json

/-! ### Quoted texts -/

/-- The letter that is written for a character names that character. -/
theorem unescape?_of_escapeLetter? {c l : Char} (h : escapeLetter? c = some l) :
    unescape? l = some c := by
  unfold escapeLetter? at h
  repeat' split at h
  all_goals cases h
  all_goals
    subst c
    decide

theorem hexNumber?_of_lt : ∀ n < 32,
    Text.hexNumber? ['0', '0', Nat.digitChar (n / 16), Nat.digitChar (n % 16)] = some n := by
  decide

/-- A character as the writer writes it. -/
def Stroke.ofChar (c : Char) : Stroke :=
  match hletter : escapeLetter? c with
  | some l => .letter l c (unescape?_of_escapeLetter? hletter)
  | none =>
    if hcontrol : c.toNat < 32 then
      .unit
        { a := '0'
          b := '0'
          c := Nat.digitChar (c.toNat / 16)
          d := Nat.digitChar (c.toNat % 16)
          value := c.toNat
          hexNumber?_eq := hexNumber?_of_lt c.toNat hcontrol }
        (by simp [isHighSurrogate]; omega) (by simp [isLowSurrogate]; omega)
    else
      .plain c (by rintro rfl; exact absurd hletter (by decide))
        (by rintro rfl; exact absurd hletter (by decide)) (Nat.le_of_not_lt hcontrol)

theorem Stroke.chars_ofChar (c : Char) : (ofChar c).chars = escapedChar c := by
  unfold ofChar
  split
  · next l hletter =>
    have hescaped : escapedChar c = ['\\', l] := by rw [escapedChar, hletter]
    exact hescaped.symm
  · next hletter =>
    by_cases hcontrol : c.toNat < 32
    · rw [dif_pos hcontrol, escapedChar, hletter]
      exact (if_pos hcontrol).symm
    · have hescaped : escapedChar c = [c] := by
        rw [escapedChar, hletter]
        exact if_neg hcontrol
      rw [dif_neg hcontrol, hescaped]
      rfl

theorem Stroke.value_ofChar (c : Char) : (ofChar c).value = c := by
  unfold ofChar
  split
  · rfl
  · split
    · exact Char.ofNat_toNat c
    · rfl

/-- A text as the writer writes it. -/
def strokesOf (s : String) : List Stroke :=
  s.toList.map Stroke.ofChar

theorem written_strokesOf (s : String) : written (strokesOf s) = s := by
  have hvalue : Stroke.value ∘ Stroke.ofChar = id := funext Stroke.value_ofChar
  rw [written, strokesOf, List.map_map, hvalue, List.map_id, String.ofList_toList]

theorem closedChars_strokesOf (s : String) : '"' :: closedChars (strokesOf s) = quotedChars s := by
  have hchars : (fun c ↦ (Stroke.ofChar c).chars) = escapedChar := funext Stroke.chars_ofChar
  rw [closedChars, strokesOf, List.flatMap_map, hchars]
  rfl

/-! ### Numbers -/

/-- Only zero begins with a zero. -/
theorem eq_nil_of_toDigits_eq {n : ℕ} {rest : List Char} (h : Nat.toDigits 10 n = '0' :: rest) :
    rest = [] := by
  induction n using Nat.strongRecOn generalizing rest with
  | ind n ih =>
    rcases Nat.lt_or_ge n 10 with hsmall | hlarge
    · rw [Nat.toDigits_of_lt_base hsmall] at h
      exact (List.cons.inj h).2.symm
    · rw [Nat.toDigits_of_base_le (by decide) hlarge] at h
      obtain ⟨first, more, hmore⟩ := List.exists_cons_of_ne_nil
        (Nat.toDigits_ne_nil (n := n / 10) (b := 10))
      rw [hmore, List.cons_append] at h
      obtain ⟨rfl, -⟩ := List.cons.inj h
      -- A zero before other digits would make the number without its last digit zero.
      have hnil := ih (n / 10) (by omega) hmore
      have hzero : n / 10 = 0 := by
        rw [← Nat.ofDigitChars_ten_toDigits (n := n / 10), hmore, hnil]
        rfl
      omega

/-- A natural number as the writer writes it. -/
def Figure.ofNat (n : ℕ) : Figure where
  whole :=
    { chars := Nat.toDigits 10 n
      isDigit_of_mem := fun _ ↦ Nat.isDigit_of_mem_toDigits (by decide) (by decide)
      ne_nil := Nat.toDigits_ne_nil }
  eq_nil_of_whole_eq _ := eq_nil_of_toDigits_eq

theorem Figure.chars_ofNat (n : ℕ) : (ofNat n).chars = Nat.toDigits 10 n :=
  (List.append_nil _)

theorem Figure.plain?_ofNat (n : ℕ) : (ofNat n).plain? = some n :=
  congrArg some Nat.ofDigitChars_ten_toDigits

/-! ### Values -/

/-- The name of a member as the writer writes it. -/
def Label.ofName (name : String) : Label where
  strokes := strokesOf name

theorem Label.name_ofName (name : String) : (ofName name).name = name :=
  written_strokesOf name

mutual

/-- A value as the writer writes it. -/
def toValue : Json → Value
  | null => .null
  | bool b => .bool b
  | number n => .number (Figure.ofNat n)
  | string s => .string (strokesOf s)
  | array items => .array .none (toItems items)
  | object members => .object .none (toMembers members)

def toItems : List Json → List (Pad × Value)
  | [] => []
  | item :: rest => ({}, item.toValue) :: toItems rest

def toMembers : List (String × Json) → List (Label × Value)
  | [] => []
  | (name, value) :: rest => (Label.ofName name, value.toValue) :: toMembers rest

end

theorem Pad.around_default (text : List Char) : Pad.around {} text = text := by
  simp [Pad.around]

theorem Label.around_ofName (name : String) (text : List Char) :
    (ofName name).around text = quotedChars name ++ ':' :: text := by
  rw [← closedChars_strokesOf]
  simp [Label.around, Label.ahead, ofName]

theorem behindCommas_nil : behindCommas [] = [] :=
  rfl

theorem itemsChars_cons_cons (item next : Json) (rest : List Json) :
    itemsChars (item :: next :: rest) = item.chars ++ ',' :: itemsChars (next :: rest) := by
  rw [itemsChars]
  exact nofun

theorem membersChars_cons_cons (name : String) (value : Json) (next : String × Json)
    (rest : List (String × Json)) :
    membersChars ((name, value) :: next :: rest) =
      quotedChars name ++ ':' :: value.chars ++ ',' :: membersChars (next :: rest) := by
  rw [membersChars]
  exact nofun

mutual

theorem chars_toValue : (j : Json) → j.toValue.chars = j.chars
  | null => by rw [toValue, Value.chars, chars]
  | bool true => by rw [toValue, Value.chars, chars]
  | bool false => by rw [toValue, Value.chars, chars]
  | number n => by rw [toValue, Value.chars, chars, Figure.chars_ofNat]
  | string s => by rw [toValue, Value.chars, chars, closedChars_strokesOf]
  | array items => by
    rw [toValue, Value.chars, chars, betweenCommas_toItems]
    rfl
  | object members => by
    rw [toValue, Value.chars, chars, betweenCommas_toMembers]
    rfl

theorem betweenCommas_toItems : (items : List Json) →
    betweenCommas (itemTexts (toItems items)) = itemsChars items
  | [] => by rw [toItems, itemTexts, betweenCommas, itemsChars]
  | [item] => by
    rw [toItems, toItems, itemTexts, itemTexts, betweenCommas, behindCommas_nil, List.append_nil,
      Pad.around_default, itemsChars, chars_toValue item]
  | item :: next :: rest => by
    have ih := betweenCommas_toItems (next :: rest)
    rw [toItems, itemTexts, betweenCommas] at ih
    rw [itemsChars_cons_cons, ← ih, toItems, toItems, itemTexts, itemTexts, betweenCommas,
      Pad.around_default, chars_toValue item]
    rfl

theorem betweenCommas_toMembers : (members : List (String × Json)) →
    betweenCommas (memberTexts (toMembers members)) = membersChars members
  | [] => by rw [toMembers, memberTexts, betweenCommas, membersChars]
  | [(name, value)] => by
    rw [toMembers, toMembers, memberTexts, memberTexts, betweenCommas, behindCommas_nil,
      List.append_nil, Label.around_ofName, membersChars, chars_toValue value]
  | (name, value) :: next :: rest => by
    have ih := betweenCommas_toMembers (next :: rest)
    rw [toMembers, memberTexts, betweenCommas] at ih
    rw [membersChars_cons_cons, ← ih, toMembers, toMembers, memberTexts, memberTexts, betweenCommas,
      Label.around_ofName, chars_toValue value]
    rfl

end

theorem valuesOf_toMembers (name : String) (members : List (String × Json)) :
    valuesOf name (toMembers members) = (members.filter (·.1 = name)).map (·.2.toValue) := by
  induction members with
  | nil => rw [toMembers]; rfl
  | cons m members ih =>
    obtain ⟨name', value⟩ := m
    rw [toMembers, valuesOf_cons, ih, Label.name_ofName, List.filter_cons]
    by_cases h : name' = name <;> simp [h]

theorem map_name_toMembers (members : List (String × Json)) :
    (toMembers members).map (·.1.name) = members.map Prod.fst := by
  induction members with
  | nil => rw [toMembers]; rfl
  | cons m members ih =>
    obtain ⟨name, value⟩ := m
    rw [toMembers, List.map_cons, List.map_cons, ih, Label.name_ofName]

/-- The compact text of an object as the text of a document. -/
def compact (members : List (String × Json)) : Document where
  members := toMembers members

theorem text_compact (members : List (String × Json)) :
    (compact members).text = (object members).text := by
  have hvalue : (compact members).value = (object members).toValue := by rw [toValue]; rfl
  rw [Document.text, hvalue, chars_toValue, text]
  exact congrArg String.ofList (List.append_nil _)

/-! ### Shapes of what is written -/

theorem natural?_number {n most : ℕ} (h : n ≤ most) :
    (toValue (number n)).natural? most = some n := by
  rw [toValue, Value.natural?, Figure.plain?_ofNat]
  exact Option.filter_some_pos (decide_eq_true h)

theorem word?_number (n : UInt64) : (toValue (number n.toNat)).word? = some n := by
  have hword : n.toNat ≤ wordMax := Nat.le_sub_one_of_lt n.toNat_lt
  rw [Value.word?, natural?_number hword, Option.map_some, UInt64.ofNat_toNat]

theorem text?_string (s : String) : (toValue (string s)).text? = some s := by
  rw [toValue, Value.text?, written_strokesOf]

/-- An absent value is written as null. -/
theorem orNull?_ofOption {α : Type} {shape : Value → Option α} {form : α → Json}
    (hnull : shape .null = none) (h : ∀ a, shape (form a).toValue = some a) (a : Option α) :
    (ofOption form a).toValue.orNull? shape = some a := by
  rcases a with _ | a
  · rw [ofOption, toValue]
    rfl
  · have hvalue : (form a).toValue ≠ .null := by
      intro heq
      have ha := h a
      rw [heq, hnull] at ha
      cases ha
    rw [ofOption, Value.orNull?_of_ne_null hvalue, h]
    rfl

end DeferredLog.Json
