import DeferredLog.Config.Codec
import DeferredLog.Proofs.Json.Unordered

/-!
# Reading spans of time

A value spells a span if it is an object of seconds and nanoseconds and nothing else, or an array of
the two, and the whole fits into the span (`Duration.Spelled`). Every other value is refused, as
mismatched unless a number in it is beyond every range or an array goes on behind its second item.
-/

namespace DeferredLog.Json

/-- Whether a number beyond the range of double precision is the value or one of its parts. -/
def Value.HasOutOfRange : Value → Prop
  | .array _ items => ∃ item ∈ items, item.2.isOutOfRange
  | .object _ members => ∃ m ∈ members, m.2.isOutOfRange
  | v => v.isOutOfRange

end DeferredLog.Json

namespace DeferredLog.Duration

open Json

/-- Spans of one length are one span. -/
theorem eq_of_totalNanos_eq {d d' : Duration} (h : d.totalNanos = d'.totalNanos) : d = d' := by
  obtain ⟨secs, nanos, hlt⟩ := d
  obtain ⟨secs', nanos', hlt'⟩ := d'
  simp only [totalNanos] at h
  have hsecs : secs = secs' := UInt64.toNat_inj.1 (by omega)
  have hnanos : nanos = nanos' := by
    subst hsecs
    omega
  subst hsecs hnanos
  rfl

theorem carry?_eq_some_iff {secs : UInt64} {nanos : ℕ} {d : Duration} :
    carry? secs nanos = some d ↔
      secs.toNat * 1000000000 + nanos < UInt64.size * 1000000000 ∧
        d.totalNanos = secs.toNat * 1000000000 + nanos := by
  have hfits : secs.toNat + nanos / 1000000000 < UInt64.size ↔
      secs.toNat * 1000000000 + nanos < UInt64.size * 1000000000 := by omega
  constructor
  · intro h
    refine ⟨hfits.1 ?_, totalNanos_of_carry? h⟩
    by_contra hlarge
    rw [carry?, if_neg hlarge] at h
    cases h
  · rintro ⟨hsmall, htotal⟩
    obtain ⟨d', hd'⟩ : ∃ d', carry? secs nanos = some d' := by
      rw [carry?, if_pos (hfits.2 hsmall)]
      exact ⟨_, rfl⟩
    rw [hd', eq_of_totalNanos_eq ((totalNanos_of_carry? hd').trans htotal.symm)]

/-! ### What spells a span -/

/-- The two values are seconds in a word and nanoseconds in half a word, and make up the span. -/
def Counted (secs nanos : Value) (d : Duration) : Prop :=
  ∃ s n, secs.word? = some s ∧ nanos.natural? (UInt32.size - 1) = some n ∧
    s.toNat * 1000000000 + n < UInt64.size * 1000000000 ∧ d.totalNanos = s.toNat * 1000000000 + n

/-- The value is a written form of the span. -/
inductive Spelled : Value → Duration → Prop
  | object {inner : Blanks} {members : List (Label × Value)} {secs nanos : Value} {d : Duration}
      (hknown : ∀ m ∈ members, m.1.name = "secs" ∨ m.1.name = "nanos")
      (hsecs : valuesOf "secs" members = [secs]) (hnanos : valuesOf "nanos" members = [nanos])
      (hcounted : Counted secs nanos d) : Spelled (.object inner members) d
  | array {inner : Blanks} {pad pad' : Pad} {secs nanos : Value} {d : Duration}
      (hcounted : Counted secs nanos d) : Spelled (.array inner [(pad, secs), (pad', nanos)]) d

/-! ### What is read -/

/-- Seconds and nanoseconds and where they are kept. -/
def settings : layout.Settings where
  all :=
    [{ name := "secs"
       Content := UInt64
       read := Value.read Value.word?
       get := Parts.secs
       set s acc := { acc with secs := some s } },
     { name := "nanos"
       Content := ℕ
       read := Value.read (Value.natural? (UInt32.size - 1))
       get := Parts.nanos
       set n acc := { acc with nanos := some n } }]
  names_eq := rfl
  nodup_names := by decide
  isSet_eq := by simp [layout]
  reads := by
    have hsecs := reads_uint64
    have hnanos : Reads (Reader.natural (UInt32.size - 1)) _ := reads_natural (by decide)
    simp only [layout, List.forall_mem_cons]
    exact ⟨fun acc ↦ hsecs.map _, fun acc ↦ hnanos.map _, by simp⟩
  get_set := by simp
  get_set_of_ne := by simp
  ext acc acc' h := by
    obtain ⟨secs, nanos⟩ := acc
    obtain ⟨secs', nanos'⟩ := acc'
    simpa using h

/-- The span of its parts. -/
def ofParts (acc : Parts) : Except Fault Duration := do
  Json.required (carry? (← Json.required acc.secs) (← Json.required acc.nanos))

/-- What is read from a value. -/
def ofValue : Value → Except Fault Duration :=
  settings.interpret {} ofParts

theorem reads_reader : Reads reader ofValue :=
  settings.reads_record {} ofParts (by simp [settings])

theorem ofParts_eq_ok_iff {acc : Parts} {d : Duration} :
    ofParts acc = .ok d ↔ ∃ s n, acc.secs = some s ∧ acc.nanos = some n ∧ carry? s n = some d := by
  rcases acc with ⟨_ | s, _ | n⟩
  · exact ⟨nofun, nofun⟩
  · exact ⟨nofun, nofun⟩
  · exact ⟨nofun, nofun⟩
  · show Json.required (carry? s n) = .ok d ↔ _
    rw [required_eq_ok_iff]
    exact ⟨fun h ↦ ⟨s, n, rfl, rfl, h⟩, fun ⟨_, _, hs, hn, h⟩ ↦ by cases hs; cases hn; exact h⟩

theorem eq_mismatched_of_ofParts {acc : Parts} {fault : Fault} (h : ofParts acc = .error fault) :
    fault = .mismatched := by
  rcases acc with ⟨_ | s, _ | n⟩
  · cases h
    rfl
  · cases h
    rfl
  · cases h
    rfl
  · exact eq_mismatched_of_required h

theorem told_iff {acc : Parts} {members : List (Label × Value)} :
    settings.Told acc members ↔
      (valuesOf "secs" members).map (Value.read Value.word?) =
          (acc.secs.map Except.ok).toList ∧
        (valuesOf "nanos" members).map (Value.read (Value.natural? (UInt32.size - 1))) =
          (acc.nanos.map Except.ok).toList := by
  simp [Layout.Settings.Told, settings]

theorem ofValue_object_eq_ok_iff {inner : Blanks} {members : List (Label × Value)} {d : Duration} :
    ofValue (.object inner members) = .ok d ↔ Spelled (.object inner members) d := by
  rw [ofValue, settings.interpret_object_eq_ok_iff (by simp [settings])]
  constructor
  · rintro ⟨acc, htold, hknown, hfinish⟩
    obtain ⟨s, n, hs, hn, hcarry⟩ := ofParts_eq_ok_iff.1 hfinish
    obtain ⟨hsecs, hnanos⟩ := told_iff.1 htold
    rw [hs] at hsecs
    rw [hn] at hnanos
    obtain ⟨secs, hsecs, hs⟩ := List.map_eq_singleton_iff.1 hsecs
    obtain ⟨nanos, hnanos, hn⟩ := List.map_eq_singleton_iff.1 hnanos
    refine .object (fun m hm ↦ ?_) hsecs hnanos
      ⟨s, n, Value.read_eq_ok_iff.1 hs, Value.read_eq_ok_iff.1 hn, carry?_eq_some_iff.1 hcarry⟩
    simpa [layout] using hknown rfl m hm
  · rintro (⟨hknown, hsecs, hnanos, s, n, hs, hn, hcounted⟩ | _)
    refine ⟨⟨some s, some n⟩, told_iff.2 ?_, fun _ m hm ↦ ?_,
      ofParts_eq_ok_iff.2 ⟨s, n, rfl, rfl, carry?_eq_some_iff.2 hcounted⟩⟩
    · rw [hsecs, hnanos, List.map_singleton, List.map_singleton, Value.read_of_eq_some hs,
        Value.read_of_eq_some hn]
      exact ⟨rfl, rfl⟩
    · simpa [layout] using hknown m hm

/-- The first two items of an array are read, and the others are left. -/
theorem fill_eq_ok_iff {items left : List (Pad × Value)} {acc : Parts} :
    Layout.Settings.fill settings.all {} items = .ok (acc, left) ↔
      ∃ p secs q nanos s n, items = (p, secs) :: (q, nanos) :: left ∧ secs.word? = some s ∧
        nanos.natural? (UInt32.size - 1) = some n ∧ acc = ⟨some s, some n⟩ := by
  constructor
  · intro h
    rcases items with _ | ⟨⟨p, secs⟩, _ | ⟨⟨q, nanos⟩, items⟩⟩
    · cases h
    · simp only [settings, Layout.Settings.fill] at h
      rcases hs : secs.read Value.word? with fault | s <;> rw [hs] at h <;> cases h
    · simp only [settings, Layout.Settings.fill] at h
      rcases hs : secs.read Value.word? with fault | s
      · rw [hs] at h
        cases h
      · simp only [hs] at h
        rcases hn : nanos.read (Value.natural? (UInt32.size - 1)) with fault | n
        · rw [hn] at h
          cases h
        · rw [hn] at h
          cases h
          exact ⟨p, secs, q, nanos, s, n, rfl, Value.read_eq_ok_iff.1 hs, Value.read_eq_ok_iff.1 hn,
            rfl⟩
  · rintro ⟨p, secs, q, nanos, s, n, rfl, hs, hn, rfl⟩
    simp only [settings, Layout.Settings.fill, Value.read_of_eq_some hs, Value.read_of_eq_some hn]

theorem ofValue_array_eq_ok_iff {inner : Blanks} {items : List (Pad × Value)} {d : Duration} :
    ofValue (.array inner items) = .ok d ↔ Spelled (.array inner items) d := by
  rw [ofValue, settings.interpret_array_eq_ok_iff]
  constructor
  · rintro ⟨acc, hfill, hparts⟩
    obtain ⟨p, secs, q, nanos, s, n, rfl, hsecs, hnanos, rfl⟩ := fill_eq_ok_iff.1 hfill
    obtain ⟨_, _, hs, hn, hcarry⟩ := ofParts_eq_ok_iff.1 hparts
    cases hs
    cases hn
    exact .array ⟨s, n, hsecs, hnanos, carry?_eq_some_iff.1 hcarry⟩
  · rintro (_ | ⟨s, n, hsecs, hnanos, hcounted⟩)
    exact ⟨⟨some s, some n⟩, fill_eq_ok_iff.2 ⟨_, _, _, _, s, n, rfl, hsecs, hnanos, rfl⟩,
      ofParts_eq_ok_iff.2 ⟨s, n, rfl, rfl, carry?_eq_some_iff.2 hcounted⟩⟩

/-- An array whose first two items are a span is no JSON to the reader if it goes on. -/
theorem ofValue_of_long {inner : Blanks} {first second : Pad × Value} {d : Duration}
    (h : Spelled (.array inner [first, second]) d) {more : List (Pad × Value)} (hmore : more ≠ []) :
    ofValue (.array inner (first :: second :: more)) = .error .malformed := by
  rcases h with _ | ⟨s, n, hsecs, hnanos, hcounted⟩
  exact settings.interpret_array_of_left hmore
    (fill_eq_ok_iff.2 ⟨_, _, _, _, s, n, rfl, hsecs, hnanos, rfl⟩)
    (ofParts_eq_ok_iff.2 ⟨s, n, rfl, rfl, carry?_eq_some_iff.2 hcounted⟩)

/-- A span is read exactly where one is spelled. -/
theorem ofValue_eq_ok_iff {v : Value} {d : Duration} : ofValue v = .ok d ↔ Spelled v d := by
  cases v with
  | object inner members => exact ofValue_object_eq_ok_iff
  | array inner items => exact ofValue_array_eq_ok_iff
  | _ => exact ⟨nofun, nofun⟩

theorem eq_refusal_of_read_setting {f : Setting Parts} (hf : f ∈ settings.all) {v : Value}
    {fault : Fault} (h : f.read v = .error fault) : fault = v.refusal := by
  simp only [settings, List.mem_cons, List.not_mem_nil, or_false] at hf
  rcases hf with rfl | rfl
  · exact Value.eq_refusal_of_read h
  · exact Value.eq_refusal_of_read h

/-- What is refused as no JSON has a number beyond every range, or is an array that goes on. -/
theorem eq_mismatched_or_of_ofValue {v : Value} {fault : Fault} (h : ofValue v = .error fault) :
    fault = .mismatched ∨ fault = .malformed ∧
      (v.HasOutOfRange ∨ ∃ inner items, v = .array inner items ∧ 2 < items.length) := by
  rw [ofValue] at h
  cases v with
  | object inner members =>
    rcases settings.fault_of_interpret_object eq_mismatched_of_ofParts h with
      rfl | ⟨f, hf, v, hv, hread⟩
    · exact Or.inl rfl
    · obtain ⟨m, hm, -, rfl⟩ := mem_valuesOf_iff.1 hv
      obtain rfl := eq_refusal_of_read_setting hf hread
      exact m.2.refusal_cases.imp_right (And.imp_right fun hrange ↦ Or.inl ⟨m, hm, hrange⟩)
  | array inner items =>
    rcases settings.fault_of_interpret_array eq_mismatched_of_ofParts h with
      rfl | ⟨f, hf, item, hitem, hread⟩ | ⟨rfl, hlength⟩
    · exact Or.inl rfl
    · obtain rfl := eq_refusal_of_read_setting hf hread
      exact item.2.refusal_cases.imp_right (And.imp_right fun hrange ↦ Or.inl ⟨item, hitem, hrange⟩)
    · exact Or.inr ⟨rfl, Or.inr ⟨inner, items, rfl, hlength⟩⟩
  | number f =>
    cases h
    exact (Value.number f).refusal_cases.imp_right (And.imp_right Or.inl)
  | _ =>
    cases h
    exact Or.inl rfl

end DeferredLog.Duration
