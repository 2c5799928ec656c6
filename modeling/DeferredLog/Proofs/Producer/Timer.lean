import DeferredLog.Cell
import DeferredLog.Config
import DeferredLog.Producer
import DeferredLog.Proofs.Cell.Writing
import DeferredLog.Text.Pieces

/-!
# What the stock entries tell

A stock entry tells its age in milliseconds and its tick. Both are bounded, since ticks and seconds
are machine words, and so is the entry: it has `longestTimer` bytes at most (`size_timerText_le`),
which is less than what the cell holds by default. A cell with so much room stores every stock entry
whole.

The numbers are written between signs that are no digits, and the three blanks cut the entry into
four pieces of which the first and the third hold them. `told?` reads them there, and reads what was
written (`told?_timerText`); so entries with different numbers differ (`toUTF8_timerText_inj`).
-/

namespace DeferredLog.Producer

/-- The text of a stock entry. -/
def timerText (millis tick : ℕ) : String :=
  "[" ++ toString millis ++ "] Timer " ++ toString tick ++ " hit\n"

/-- The most bytes that a stock entry has. -/
def longestTimer : ℕ := 57

/-- The number that the digits at the front of a text write. -/
def numberOf (text : List Char) : ℕ :=
  Nat.ofDigitChars 10 (text.takeWhile Char.isDigit) 0

/-- The age in milliseconds and the tick that a stock entry tells. -/
def told? (entry : ByteArray) : Option (ℕ × ℕ) :=
  (String.fromUTF8? entry).bind fun text ↦
    match Text.pieces ' ' text.toList with
    | ['[' :: age, _, tick, _] => some (numberOf age, numberOf tick)
    | _ => none

/-! ### The length of an entry -/

/-- Digits are written in one byte each. -/
theorem utf8ByteSize_repr (n : ℕ) : n.repr.utf8ByteSize = n.repr.length := by
  have hdigit : ∀ d < 10, (Nat.digitChar d).utf8Size = 1 := by decide
  induction n using Nat.strongRecOn with
  | ind n ih =>
    rcases Nat.lt_or_ge n 10 with hsmall | hlarge
    · rw [Nat.repr_of_lt hsmall, String.utf8ByteSize_singleton, hdigit n hsmall,
        String.length_singleton]
    · rw [Nat.repr_of_ge hlarge, String.utf8ByteSize_append, String.length_append,
        String.utf8ByteSize_singleton, String.length_singleton, ih (n / 10) (by omega),
        hdigit _ (by omega)]

theorem millis_lt (age : Duration) : age.millis < 10 ^ 23 := by
  have hsecs := age.secs.toNat_lt
  have hnanos := age.nanos_lt
  rw [Duration.millis]
  omega

theorem size_timerText_le (age : Duration) (tick : UInt64) :
    (timerText age.millis tick.toNat).toUTF8.size ≤ longestTimer := by
  have htick : tick.toNat < 10 ^ 20 := Nat.lt_trans tick.toNat_lt (by decide)
  have hm : age.millis.repr.length ≤ 23 := (Nat.length_repr_le_iff (by decide)).2 (millis_lt age)
  have ht : tick.toNat.repr.length ≤ 20 := (Nat.length_repr_le_iff (by decide)).2 htick
  have hsize : (timerText age.millis tick.toNat).utf8ByteSize =
      1 + age.millis.repr.length + 8 + tick.toNat.repr.length + 5 := by
    simp only [timerText, String.utf8ByteSize_append, Nat.toString_eq_repr, utf8ByteSize_repr]
    rfl
  show (timerText age.millis tick.toNat).utf8ByteSize ≤ 57
  omega

/-! ### Reading an entry -/

theorem numberOf_toDigits (n : ℕ) {rest : List Char} (h : ∀ c ∈ rest.head?, c.isDigit = false) :
    numberOf (Nat.toDigits 10 n ++ rest) = n := by
  have hdigits : ∀ c ∈ Nat.toDigits 10 n, c.isDigit = true :=
    fun _ ↦ Nat.isDigit_of_mem_toDigits (by decide) (by decide)
  have hnone : rest.takeWhile Char.isDigit = [] := by
    match rest with
    | [] => rfl
    | c :: _ => exact List.takeWhile_cons_of_neg (Bool.eq_false_iff.1 (h c rfl))
  rw [numberOf, List.takeWhile_append_of_pos hdigits, hnone, List.append_nil,
    Nat.ofDigitChars_ten_toDigits]

theorem toList_timerText (millis tick : ℕ) :
    (timerText millis tick).toList =
      '[' :: (Nat.toDigits 10 millis ++ [']']) ++ ' ' :: ("Timer".toList ++
        ' ' :: (Nat.toDigits 10 tick ++ ' ' :: "hit\n".toList)) := by
  simp [timerText]

/-- The blanks of an entry are those of the text around the numbers. -/
theorem pieces_timerText (millis tick : ℕ) :
    Text.pieces ' ' (timerText millis tick).toList =
      ['[' :: (Nat.toDigits 10 millis ++ [']']), "Timer".toList, Nat.toDigits 10 tick,
        "hit\n".toList] := by
  have hblank (n : ℕ) : ' ' ∉ Nat.toDigits 10 n := fun h ↦
    absurd (Nat.isDigit_of_mem_toDigits (by decide) (by decide) h) (by decide)
  have hage : ' ' ∉ '[' :: (Nat.toDigits 10 millis ++ [']']) := by simp [hblank]
  rw [toList_timerText, Text.pieces_append hage, Text.pieces_append (by decide),
    Text.pieces_append (hblank tick), Text.pieces_of_not_mem (by decide)]

/-- What is written is read. -/
theorem told?_timerText (millis tick : ℕ) :
    told? (timerText millis tick).toUTF8 = some (millis, tick) := by
  have htext : String.fromUTF8? (timerText millis tick).toUTF8 = some (timerText millis tick) :=
    dif_pos (timerText millis tick).isValidUTF8
  have htick : numberOf (Nat.toDigits 10 tick) = tick := by
    rw [← List.append_nil (Nat.toDigits 10 tick)]
    exact numberOf_toDigits tick nofun
  rw [told?, htext, Option.bind_some, pieces_timerText]
  show some (numberOf _, numberOf _) = _
  rw [numberOf_toDigits millis (by simp), htick]

/-- Entries are the same only if they tell the same. -/
theorem toUTF8_timerText_inj {millis tick millis' tick' : ℕ} :
    (timerText millis tick).toUTF8 = (timerText millis' tick').toUTF8 ↔
      millis = millis' ∧ tick = tick' := by
  refine ⟨fun h ↦ ?_, fun ⟨hmillis, htick⟩ ↦ by rw [hmillis, htick]⟩
  have htold := congrArg told? h
  rw [told?_timerText, told?_timerText] at htold
  exact Prod.mk.inj (Option.some.inj htold)

/-! ### The entry in the cell -/

/-- The parts of a stock entry make its text. -/
theorem entry?_timer (tick : ℕ) (age : Duration) :
    Part.entry? (timer tick age) = some (timerText age.millis tick).toUTF8 := by
  have hjoined : Part.joined (timer tick age) = (timerText age.millis tick).toUTF8 := by
    simp [timer, Part.joined, Part.bytes?, timerText, ByteArray.append_assoc]
  exact congrArg some hjoined

/-- The bytes of the entry that was stored last. -/
def storedIn (c : Cell) : ByteArray :=
  c.slots.extract 0 c.length

theorem storedIn_write_timer (c : Cell) (tick : ℕ) (age : Duration) :
    storedIn (c.write (timer tick age)).2 =
      Draft.cut c.capacity (timerText age.millis tick).toUTF8 := by
  rw [storedIn, c.write_eq_of_entry?_eq_some (entry?_timer tick age), Cell.extract_slots_publish]

theorem truncated_write_timer (c : Cell) (tick : ℕ) (age : Duration) :
    (c.write (timer tick age)).2.stats.truncated = c.stats.truncated +
      if c.capacity < (timerText age.millis tick).toUTF8.size then 1 else 0 := by
  rw [c.write_eq_of_entry?_eq_some (entry?_timer tick age), Cell.publish_eq_store]
  simp [Cell.store]

/-- A cell with room for the longest stock entry stores every one whole. -/
theorem storedIn_write_timer_of_roomy {c : Cell} (h : longestTimer ≤ c.capacity) (tick : UInt64)
    (age : Duration) : storedIn (c.write (timer tick.toNat age)).2 =
      (timerText age.millis tick.toNat).toUTF8 := by
  have hsize := Nat.le_trans (size_timerText_le age tick) h
  rw [storedIn_write_timer, ← Draft.extract_min_size, Nat.min_eq_left hsize,
    ByteArray.extract_zero_size]

/-! ### The main result -/

/-- For every tick in a machine word, every age and every cell: the stock producer writes its text,
whose milliseconds stay within a word of 128 bits and which has 57 bytes at most. What the
cell stores of it are its first bytes, as many as there is room for. In a cell with room for 57
bytes, as there is by default, that is the whole text, none is counted as truncated, and both
numbers can be read back, so entries that tell other numbers are other entries. -/
theorem timer_told (c : Cell) (tick : UInt64) (age : Duration) :
    let entry := (timerText age.millis tick.toNat).toUTF8
    let after := (c.write (timer tick.toNat age)).2
    age.millis = age.secs.toNat * 1000 + age.nanos / 1000000 ∧ age.millis < 2 ^ 128 ∧
    Part.entry? (timer tick.toNat age) = some entry ∧ entry.size ≤ 57 ∧
    storedIn after = entry.extract 0 (min c.capacity entry.size) ∧
    after.stats.truncated = c.stats.truncated + (if c.capacity < entry.size then 1 else 0) ∧
    57 ≤ (Cell.empty Config.default.scratchCapacity.toNat).capacity ∧
    (57 ≤ c.capacity →
      storedIn after = entry ∧ after.stats.truncated = c.stats.truncated ∧
      told? (storedIn after) = some (age.millis, tick.toNat) ∧
      ∀ (other : Cell) (later : UInt64) (span : Duration), 57 ≤ other.capacity →
        (storedIn (other.write (timer later.toNat span)).2 = storedIn after ↔
          span.millis = age.millis ∧ later = tick)) := by
  intro entry after
  have hsize : entry.size ≤ 57 := size_timerText_le age tick
  have htruncated := truncated_write_timer c tick.toNat age
  refine ⟨rfl, Nat.lt_trans (millis_lt age) (by decide), entry?_timer tick.toNat age, hsize, ?_,
    htruncated, by decide, fun hroom ↦ ?_⟩
  · rw [Nat.min_comm, Draft.extract_min_size]
    exact storedIn_write_timer c tick.toNat age
  · have hwhole : storedIn after = entry := storedIn_write_timer_of_roomy hroom tick age
    refine ⟨hwhole, ?_, hwhole ▸ told?_timerText _ _, fun other later span hother ↦ ?_⟩
    · rw [htruncated, if_neg (Nat.not_lt.2 (Nat.le_trans hsize hroom)), Nat.add_zero]
    · rw [hwhole, storedIn_write_timer_of_roomy hother later span, toUTF8_timerText_inj,
        UInt64.toNat_inj]

/-- The largest tick at the greatest age in a cell of just 57 bytes, and half a second later in one
of 64: both are stored whole, and differ. In a cell of nine bytes there is room for a part of the
age. -/
theorem timer_told_of_largest_words :
    let tick : UInt64 := 18446744073709551615
    let age : Duration := ⟨18446744073709551615, 499999999, by decide⟩
    let later : Duration := ⟨18446744073709551615, 999999999, by decide⟩
    let stored := storedIn ((Cell.empty 57).write (timer tick.toNat age)).2
    57 ≤ (Cell.empty 57).capacity ∧ 57 ≤ (Cell.empty 64).capacity ∧
      stored = "[18446744073709551615499] Timer 18446744073709551615 hit\n".toUTF8 ∧
      stored.size = 57 ∧ told? stored = some (18446744073709551615499, 18446744073709551615) ∧
      storedIn ((Cell.empty 64).write (timer tick.toNat later)).2 ≠ stored ∧
      storedIn ((Cell.empty 9).write (timer tick.toNat age)).2 = "[18446744".toUTF8 := by
  intro tick age later stored
  have hroom : 57 ≤ (Cell.empty 57).capacity := by decide
  have hother : 57 ≤ (Cell.empty 64).capacity := by decide
  obtain ⟨-, -, -, -, -, -, -, hroomy⟩ := timer_told (Cell.empty 57) tick age
  obtain ⟨hwhole, -, htold, hdiffer⟩ := hroomy hroom
  obtain ⟨-, -, -, -, hprefix, -⟩ := timer_told (Cell.empty 9) tick age
  have htext : stored = "[18446744073709551615499] Timer 18446744073709551615 hit\n".toUTF8 :=
    hwhole.trans (by decide +kernel)
  have hsize : stored.size = 57 := by
    rw [htext]
    decide +kernel
  refine ⟨hroom, hother, htext, hsize, htold.trans (by decide), fun hsame ↦ ?_,
    hprefix.trans (by decide +kernel)⟩
  exact absurd ((hdiffer _ tick later hother).1 hsame).1 (by decide)

end DeferredLog.Producer
