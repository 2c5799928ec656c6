import DeferredLog.Proofs.Config.Decoding
import DeferredLog.Proofs.Json.Compact

/-!
# Configurations that are written and read again

Reading the compact text of a configuration gives that configuration, so no two configurations have
one text.
-/

namespace DeferredLog

open Json

theorem Duration.spelled_toJson (d : Duration) : Spelled d.toJson.toValue d := by
  have hnanos : d.nanos ≤ UInt32.size - 1 := by
    have := d.nanos_lt
    simp only [UInt32.size]
    omega
  have hsmall : d.secs.toNat * 1000000000 + d.nanos < UInt64.size * 1000000000 := by
    have := d.nanos_lt
    have := d.secs.toNat_lt
    simp only [UInt64.size]
    omega
  rw [toJson, toValue]
  refine .object (fun m hm ↦ ?_) ?_ ?_
    ⟨d.secs, d.nanos, word?_number d.secs, natural?_number hnanos, hsmall,
      congrArg (· + d.nanos) (Nat.mul_comm _ _)⟩
  · have hname := List.mem_map_of_mem (f := fun m : Label × Value ↦ m.1.name) hm
    rw [map_name_toMembers] at hname
    simpa using hname
  · rw [valuesOf_toMembers]
    rfl
  · rw [valuesOf_toMembers]
    rfl

namespace Config

/-- The members that are written spell the configuration. -/
theorem spelled_of_toJson_eq {c : Config} {members : List (String × Json)}
    (h : c.toJson = .object members) : Spelled (toMembers members) c := by
  obtain rfl := Json.object.inj h
  exact
    { initialCapacity := ⟨_, valuesOf_toMembers "initial_capacity" _, word?_number c.initialCapacity⟩
      maxEntry := ⟨_, valuesOf_toMembers "max_entry_size" _, word?_number c.maxEntry⟩
      ceiling := .inr ⟨_, valuesOf_toMembers "max_capacity" _, orNull?_ofOption rfl word?_number c.ceiling⟩
      scratchCapacity := ⟨_, valuesOf_toMembers "scratch_capacity" _, word?_number c.scratchCapacity⟩
      period := ⟨_, valuesOf_toMembers "trigger_period" _, c.period.spelled_toJson⟩
      banner := .inr ⟨_, valuesOf_toMembers "banner" _, orNull?_ofOption rfl text?_string c.banner⟩ }

/-- A configuration that was written is read as it was; so no two are written alike. -/
theorem ofText_text : (∀ c : Config, ofText c.text = .ok c) ∧ Function.Injective text := by
  have hround (c : Config) : ofText c.text = .ok c := by
    obtain ⟨members, hjson⟩ : ∃ members, c.toJson = .object members := ⟨_, rfl⟩
    rw [text, hjson, ← text_compact, ofText, reads_reader.decode_text]
    exact ofValue_object_eq_ok_iff.2 (spelled_of_toJson_eq hjson)
  refine ⟨hround, fun c c' h ↦ ?_⟩
  have hread : (Except.ok c : Except Fault Config) = .ok c' := by rw [← hround c, h, hround c']
  exact Except.ok.inj hread

end Config

end DeferredLog
