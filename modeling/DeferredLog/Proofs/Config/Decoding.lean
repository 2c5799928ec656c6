import DeferredLog.Proofs.Config.Spans
import DeferredLog.Proofs.Json.Compact
import Mathlib.Algebra.Ring.Nat

/-!
# Which objects are configurations

The settings may stand in any order and among any other members. `Config.Spelled` says without order
when the members of an object are those of a configuration.
-/

namespace DeferredLog.Config

open Json

/-! ### What spells a configuration -/

/-- The name occurs once, and its value has the property. -/
def Once (name : String) (members : List (Label × Value)) (p : Value → Prop) : Prop :=
  ∃ v, valuesOf name members = [v] ∧ p v

/-- The members are those of the configuration; ceiling and banner may be missing. -/
structure Spelled (members : List (Label × Value)) (c : Config) : Prop where
  initialCapacity : Once "initial_capacity" members fun v ↦ v.word? = some c.initialCapacity
  maxEntry : Once "max_entry_size" members fun v ↦ v.word? = some c.maxEntry
  ceiling : valuesOf "max_capacity" members = [] ∧ c.ceiling = none ∨
    Once "max_capacity" members fun v ↦ v.orNull? Value.word? = some c.ceiling
  scratchCapacity : Once "scratch_capacity" members fun v ↦ v.word? = some c.scratchCapacity
  period : Once "trigger_period" members fun v ↦ Duration.Spelled v c.period
  banner : valuesOf "banner" members = [] ∧ c.banner = none ∨
    Once "banner" members fun v ↦ v.orNull? Value.text? = some c.banner

/-! ### What is read -/

/-- The six settings and where they are kept. -/
def settings : layout.Settings where
  all :=
    [{ name := "initial_capacity"
       Content := UInt64
       read := Value.read Value.word?
       get := Parts.initialCapacity
       set n acc := { acc with initialCapacity := some n } },
     { name := "max_entry_size"
       Content := UInt64
       read := Value.read Value.word?
       get := Parts.maxEntry
       set n acc := { acc with maxEntry := some n } },
     { name := "max_capacity"
       Content := Option UInt64
       read := Value.read (Value.orNull? Value.word?)
       get := Parts.ceiling
       set limit acc := { acc with ceiling := some limit } },
     { name := "scratch_capacity"
       Content := UInt64
       read := Value.read Value.word?
       get := Parts.scratchCapacity
       set n acc := { acc with scratchCapacity := some n } },
     { name := "trigger_period"
       Content := Duration
       read := Duration.ofValue
       get := Parts.period
       set d acc := { acc with period := some d } },
     { name := "banner"
       Content := Option String
       read := Value.read (Value.orNull? Value.text?)
       get := Parts.banner
       set text acc := { acc with banner := some text } }]
  names_eq := rfl
  nodup_names := by decide
  isSet_eq := by simp [layout]
  reads := by
    simp only [List.forall_mem_cons]
    exact ⟨fun acc ↦ reads_uint64.map _, fun acc ↦ reads_uint64.map _,
      fun acc ↦ reads_uint64.orNull.map _, fun acc ↦ reads_uint64.map _,
      fun acc ↦ Duration.reads_reader.map _, fun acc ↦ reads_string.orNull.map _, by simp⟩
  get_set := by simp
  get_set_of_ne := by simp
  ext acc acc' h := by
    obtain ⟨_, _, _, _, _, _⟩ := acc
    obtain ⟨_, _, _, _, _, _⟩ := acc'
    simpa using h

/-- What is read from a value. -/
def ofValue : Value → Except Fault Config :=
  settings.interpret {} ofParts

theorem reads_reader : Reads reader ofValue :=
  settings.reads_record {} ofParts (by simp [settings])

theorem ofParts_eq_ok_iff {acc : Parts} {c : Config} :
    ofParts acc = .ok c ↔
      acc.initialCapacity = some c.initialCapacity ∧ acc.maxEntry = some c.maxEntry ∧
        acc.ceiling.getD none = c.ceiling ∧ acc.scratchCapacity = some c.scratchCapacity ∧
          acc.period = some c.period ∧ acc.banner.getD none = c.banner := by
  rcases acc with ⟨_ | initialCapacity, _ | maxEntry, ceiling, _ | scratchCapacity, _ | period, banner⟩
  case some.some.some.some =>
    show Except.ok (Config.mk initialCapacity maxEntry (ceiling.getD none) scratchCapacity period
      (banner.getD none)) = .ok c ↔ _
    rcases c with ⟨_, _, _, _, _, _⟩
    simp
  all_goals exact ⟨nofun, nofun⟩

/-- Parts that are missing are told as a shape that is not there. -/
theorem eq_mismatched_of_ofParts {acc : Parts} {fault : Fault} (h : ofParts acc = .error fault) :
    fault = .mismatched := by
  rcases acc with ⟨_ | initialCapacity, _ | maxEntry, ceiling, _ | scratchCapacity, _ | period, banner⟩
  case some.some.some.some => cases h
  all_goals
    cases h
    rfl

section Told

variable {α : Type} {name : String} {members : List (Label × Value)}

theorem told_required_iff {shape : Value → Option α} {a : α} :
    (valuesOf name members).map (Value.read shape) = [.ok a] ↔
      Once name members fun v ↦ shape v = some a := by
  simp only [List.map_eq_singleton_iff, Value.read_eq_ok_iff, Once]

/-- A setting that may be missing is none then. -/
theorem exists_told_iff {shape : Value → Option (Option α)} {a : Option α} :
    (∃ kept : Option (Option α), (valuesOf name members).map (Value.read shape) =
        (kept.map Except.ok).toList ∧ kept.getD none = a) ↔
      valuesOf name members = [] ∧ a = none ∨ Once name members fun v ↦ shape v = some a := by
  constructor
  · rintro ⟨_ | b, htold, rfl⟩
    · exact Or.inl ⟨List.map_eq_nil_iff.1 htold, rfl⟩
    · exact Or.inr (told_required_iff.1 htold)
  · rintro (⟨hnone, rfl⟩ | honce)
    · exact ⟨none, by rw [hnone]; rfl, rfl⟩
    · exact ⟨some a, told_required_iff.2 honce, rfl⟩

end Told

theorem told_iff {acc : Parts} {members : List (Label × Value)} :
    settings.Told acc members ↔
      (valuesOf "initial_capacity" members).map (Value.read Value.word?) =
          (acc.initialCapacity.map Except.ok).toList ∧
        (valuesOf "max_entry_size" members).map (Value.read Value.word?) =
          (acc.maxEntry.map Except.ok).toList ∧
        (valuesOf "max_capacity" members).map (Value.read (Value.orNull? Value.word?)) =
          (acc.ceiling.map Except.ok).toList ∧
        (valuesOf "scratch_capacity" members).map (Value.read Value.word?) =
          (acc.scratchCapacity.map Except.ok).toList ∧
        (valuesOf "trigger_period" members).map Duration.ofValue =
          (acc.period.map Except.ok).toList ∧
        (valuesOf "banner" members).map (Value.read (Value.orNull? Value.text?)) =
          (acc.banner.map Except.ok).toList := by
  simp [Layout.Settings.Told, settings]

/-- An object is read exactly where its members spell a configuration. -/
theorem ofValue_object_eq_ok_iff {inner : Blanks} {members : List (Label × Value)} {c : Config} :
    ofValue (.object inner members) = .ok c ↔ Spelled members c := by
  have hperiod : (valuesOf "trigger_period" members).map Duration.ofValue = [.ok c.period] ↔
      Once "trigger_period" members fun v ↦ Duration.Spelled v c.period := by
    simp only [List.map_eq_singleton_iff, Duration.ofValue_eq_ok_iff, Once]
  rw [ofValue, settings.interpret_object_eq_ok_iff (by simp [settings])]
  constructor
  · rintro ⟨acc, htold, -, hfinish⟩
    obtain ⟨htoldInitial, htoldEntry, htoldCeiling, htoldScratch, htoldPeriod, htoldBanner⟩ :=
      told_iff.1 htold
    obtain ⟨hinitial, hentry, hceiling, hscratch, hkept, hbanner⟩ := ofParts_eq_ok_iff.1 hfinish
    rw [hinitial] at htoldInitial
    rw [hentry] at htoldEntry
    rw [hscratch] at htoldScratch
    rw [hkept] at htoldPeriod
    exact ⟨told_required_iff.1 htoldInitial, told_required_iff.1 htoldEntry,
      exists_told_iff.1 ⟨acc.ceiling, htoldCeiling, hceiling⟩, told_required_iff.1 htoldScratch,
      hperiod.1 htoldPeriod, exists_told_iff.1 ⟨acc.banner, htoldBanner, hbanner⟩⟩
  · intro h
    obtain ⟨ceiling, htoldCeiling, hceiling⟩ := exists_told_iff.2 h.ceiling
    obtain ⟨banner, htoldBanner, hbanner⟩ := exists_told_iff.2 h.banner
    exact ⟨⟨some c.initialCapacity, some c.maxEntry, ceiling, some c.scratchCapacity, some c.period,
        banner⟩,
      told_iff.2 ⟨told_required_iff.2 h.initialCapacity, told_required_iff.2 h.maxEntry, htoldCeiling,
        told_required_iff.2 h.scratchCapacity, hperiod.2 h.period, htoldBanner⟩,
      fun hclosed ↦ absurd hclosed Bool.false_ne_true,
      ofParts_eq_ok_iff.2 ⟨rfl, rfl, hceiling, rfl, rfl, hbanner⟩⟩

/-! ### What is refused -/

/-- A number beyond the range of double precision is read, as a setting or as part of the period. -/
def ReadsOutOfRange (members : List (Label × Value)) : Prop :=
  (∃ name ∈ layout.names, ∃ v ∈ valuesOf name members, v.isOutOfRange) ∨
    ∃ v ∈ valuesOf "trigger_period" members, v.HasOutOfRange

/-- The period is an array that does not end behind its second item. -/
def PeriodGoesOn (members : List (Label × Value)) : Prop :=
  ∃ v ∈ valuesOf "trigger_period" members, ∃ inner items, v = .array inner items ∧ 2 < items.length

/-- A fault in the value of a setting. -/
theorem fault_of_read_setting {f : Setting Parts} (hf : f ∈ settings.all) {v : Value} {fault : Fault}
    (h : f.read v = .error fault) :
    fault = v.refusal ∨ f.name = "trigger_period" ∧ Duration.ofValue v = .error fault := by
  simp only [settings, List.mem_cons, List.not_mem_nil, or_false] at hf
  rcases hf with rfl | rfl | rfl | rfl | rfl | rfl
  case inr.inr.inr.inr.inl => exact Or.inr ⟨rfl, h⟩
  all_goals exact Or.inl (Value.eq_refusal_of_read h)

theorem eq_mismatched_or_of_ofValue_object {inner : Blanks} {members : List (Label × Value)}
    {fault : Fault} (h : ofValue (.object inner members) = .error fault) :
    fault = .mismatched ∨
      fault = .malformed ∧ (ReadsOutOfRange members ∨ PeriodGoesOn members) := by
  rcases settings.fault_of_interpret_object eq_mismatched_of_ofParts h with rfl | ⟨f, hf, v, hv, hread⟩
  · exact Or.inl rfl
  · rcases fault_of_read_setting hf hread with rfl | ⟨hname, hperiod⟩
    · exact v.refusal_cases.imp_right (And.imp_right fun hrange ↦
        Or.inl (Or.inl ⟨f.name, settings.mem_names hf, v, hv, hrange⟩))
    · rw [hname] at hv
      rcases Duration.eq_mismatched_or_of_ofValue hperiod with rfl | ⟨rfl, hrange | hlong⟩
      · exact Or.inl rfl
      · exact Or.inr ⟨rfl, Or.inl (Or.inr ⟨v, hv, hrange⟩)⟩
      · exact Or.inr ⟨rfl, Or.inr ⟨v, hv, hlong⟩⟩

/-- A period that would be right if it ended behind its second item is refused as no JSON. -/
theorem ofValue_object_of_long {inner : Blanks} {pre post : List (Label × Value)} {label : Label}
    (hname : label.name = "trigger_period") {padding : Blanks} {first second : Pad × Value}
    {more : List (Pad × Value)} (hmore : more ≠ []) {c : Config}
    (h : Spelled (pre ++ (label, .array padding [first, second]) :: post) c) :
    ofValue (.object inner (pre ++ (label, .array padding (first :: second :: more)) :: post)) =
      .error .malformed := by
  obtain ⟨v, hv, hperiod⟩ := h.period
  have hmem : Value.array padding [first, second] ∈ valuesOf "trigger_period"
      (pre ++ (label, .array padding [first, second]) :: post) :=
    mem_valuesOf_iff.2 ⟨_, List.mem_append_right pre List.mem_cons_self, hname, rfl⟩
  -- The period is given once, so it is this array that spells it.
  obtain rfl : Value.array padding [first, second] = v := by
    rw [hv, List.mem_singleton] at hmem
    exact hmem
  have hlong := Duration.ofValue_of_long hperiod hmore
  have hsetting : settings.all[4] ∈ settings.all := List.getElem_mem _
  have hread : ofValue (.object inner (pre ++ (label, .array padding [first, second]) :: post)) =
      .ok c := ofValue_object_eq_ok_iff.2 h
  exact settings.interpret_object_of_fault hsetting hname.symm hlong hread

/-- Reading an object gives a configuration exactly if its members spell it, in whatever order and
among whatever others; a ceiling or banner that is missing is none. Any other object is refused, as
JSON of another shape unless a number that is read is beyond every range, or the period is an array of
more than two items: that one is taken for no JSON if it would else be right. -/
theorem ofText_document (d : Document) :
    (∀ c, ofText d.text = .ok c ↔ Spelled d.members c) ∧
      ((∀ c, ¬ Spelled d.members c) →
        ofText d.text = .error .mismatched ∨ ofText d.text = .error .malformed ∧
          (ReadsOutOfRange d.members ∨ PeriodGoesOn d.members)) ∧
      ∀ pre label padding first second more post c,
        d.members = pre ++ (label, .array padding (first :: second :: more)) :: post →
        label.name = "trigger_period" → more ≠ [] →
        Spelled (pre ++ (label, .array padding [first, second]) :: post) c →
          ofText d.text = .error .malformed := by
  have hread : ofText d.text = ofValue (.object d.inner d.members) := reads_reader.decode_text d
  rw [hread]
  refine ⟨fun c ↦ ofValue_object_eq_ok_iff, fun hnone ↦ ?_, ?_⟩
  · rcases h : ofValue (.object d.inner d.members) with fault | c
    · rcases eq_mismatched_or_of_ofValue_object h with rfl | ⟨rfl, hwhy⟩
      · exact Or.inl rfl
      · exact Or.inr ⟨rfl, hwhy⟩
    · exact absurd (ofValue_object_eq_ok_iff.1 h) (hnone c)
  · intro pre label padding first second more post c hmembers hname hmore hspelled
    rw [hmembers]
    exact ofValue_object_of_long hname hmore hspelled

/-- An object without ceiling and banner, whose period is an array of seconds, nanoseconds and more. -/
def brief (more : List Json) : Document :=
  compact
    [("trigger_period", .array (.number 5 :: .number 2500000000 :: more)),
     ("scratch_capacity", .number 16), ("max_entry_size", .number 4), ("initial_capacity", .number 8)]

theorem ofText_document_of_brief :
    (brief []).text = "\x7b\"trigger_period\":[5,2500000000],\"scratch_capacity\":16," ++
        "\"max_entry_size\":4,\"initial_capacity\":8\x7d" ∧
      ofText (brief []).text = .ok ⟨8, 4, none, 16, ⟨7, 500000000, by decide⟩, none⟩ ∧
      ofText (brief [.number 0]).text = .error .malformed := by
  have hperiod : Duration.Spelled (toValue (.array [.number 5, .number 2500000000]))
      ⟨7, 500000000, by decide⟩ :=
    .array ⟨5, 2500000000, word?_number 5, natural?_number (by decide), by decide, by decide⟩
  have hspelled : Spelled (brief []).members ⟨8, 4, none, 16, ⟨7, 500000000, by decide⟩, none⟩ :=
    { initialCapacity := ⟨_, valuesOf_toMembers "initial_capacity" _, word?_number 8⟩
      maxEntry := ⟨_, valuesOf_toMembers "max_entry_size" _, word?_number 4⟩
      ceiling := .inl ⟨valuesOf_toMembers "max_capacity" _, rfl⟩
      scratchCapacity := ⟨_, valuesOf_toMembers "scratch_capacity" _, word?_number 16⟩
      period := ⟨_, valuesOf_toMembers "trigger_period" _, hperiod⟩
      banner := .inl ⟨valuesOf_toMembers "banner" _, rfl⟩ }
  refine ⟨by decide +kernel, ((ofText_document (brief [])).1 _).2 hspelled, ?_⟩
  exact (ofText_document (brief [.number 0])).2.2 [] _ _ _ _ [_] _ _ rfl (Label.name_ofName _)
    (List.cons_ne_nil _ _) hspelled

/-- The largest number of double precision, down to the last digit that its reader keeps. -/
def edge : Figure where
  whole :=
    { chars := "17976931348623157081".toList
      isDigit_of_mem := List.all_eq_true.1 (by decide +kernel)
      ne_nil := by decide +kernel }
  power := some
    { digits :=
        { chars := "289".toList
          isDigit_of_mem := List.all_eq_true.1 (by decide +kernel)
          ne_nil := by decide +kernel } }
  eq_nil_of_whole_eq rest h := by
    have hfirst : '1' = '0' := (List.cons.inj h).1
    cases hfirst

/-- A number within double precision can be beyond it once its digits and its power of ten were rounded
each for itself; then it is taken for no JSON, wherever a setting is read. -/
theorem refused_within_range :
    17976931348623157081 * 10 ^ 289 ≤ (2 ^ 53 - 1) * 2 ^ 971 ∧
      Document.text { members := [(Label.ofName "initial_capacity", .number edge)] } =
        "\x7b\"initial_capacity\":17976931348623157081e289\x7d" ∧
      ¬ PeriodGoesOn [(Label.ofName "initial_capacity", .number edge)] ∧
      ofText "\x7b\"initial_capacity\":17976931348623157081e289\x7d" = .error .malformed := by
  refine ⟨by decide +kernel, ?_, ?_, ?_⟩
  · decide +kernel
  · rintro ⟨v, hv, -⟩
    cases hv
  · decide +kernel

end DeferredLog.Config
