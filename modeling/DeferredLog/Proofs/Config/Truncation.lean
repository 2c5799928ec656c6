import DeferredLog.Proofs.Config.RoundTrip
import DeferredLog.Proofs.Json.Truncation

/-!
# Configurations that are cut short

The text of a configuration is cut short wherever it is cut, also where what is left of a number or
of the period would do, and before any setting is missed. So no part of the text of a configuration
is taken for another one.
-/

namespace DeferredLog

open Json

theorem Duration.recovers (d : Duration) : Recovers reader d.toJson d :=
  reads_reader.recovers (ofValue_eq_ok_iff.2 d.spelled_toJson)

theorem Duration.exhausts (d : Duration) : Exhausts reader d.toJson := by
  have hnanos : d.nanos ≤ UInt32.size - 1 := by
    have := d.nanos_lt
    simp only [UInt32.size]
    omega
  have hhalf : UInt32.size - 1 ≤ wordMax := by decide
  have hgathers : Gathers layout.accept {} [("secs", .number d.secs.toNat), ("nanos", .number d.nanos)]
      ⟨some d.secs, some d.nanos⟩ :=
    .cons rfl ((recovers_uint64 _).map _) <|
    .cons rfl ((recovers_natural hhalf hnanos).map _) <| .nil _
  refine fun front hfront ↦ .inl (hgathers.record_cut ?_ _ hfront)
  simp only [List.forall_mem_cons]
  exact ⟨⟨by decide, fun acc ↦ (exhausts_uint64 _).map _⟩,
    ⟨by decide, fun acc ↦ (exhausts_natural hhalf hnanos).map _⟩, List.forall_mem_nil _⟩

namespace Config

/-- The members that are written are gathered one by one, and none of them leaves anything when it
is cut. -/
theorem exists_members (c : Config) :
    ∃ members acc, c.toJson = .object members ∧ Gathers layout.accept {} members acc ∧
      ∀ m ∈ members, m.1 ∈ layout.names ∧ ∀ acc, Exhausts (layout.setting m.1 acc) m.2 := by
  have hnumber (n : UInt64) : Json.number n.toNat ≠ .null := nofun
  have hstring (s : String) : Json.string s ≠ .null := nofun
  have hceiling := Recovers.orNull hnumber recovers_uint64 c.ceiling
  have hbanner := Recovers.orNull hstring recovers_string c.banner
  refine ⟨_, ⟨some c.initialCapacity, some c.maxEntry, some c.ceiling, some c.scratchCapacity,
    some c.period, some c.banner⟩, rfl, ?_, ?_⟩
  · exact .cons rfl ((recovers_uint64 _).map _) <|
      .cons rfl ((recovers_uint64 _).map _) <|
      .cons rfl (hceiling.map _) <|
      .cons rfl ((recovers_uint64 _).map _) <|
      .cons rfl (c.period.recovers.map _) <|
      .cons rfl (hbanner.map _) <| .nil _
  · simp only [List.forall_mem_cons]
    exact ⟨⟨by decide, fun acc ↦ (exhausts_uint64 _).map _⟩,
      ⟨by decide, fun acc ↦ (exhausts_uint64 _).map _⟩,
      ⟨by decide, fun acc ↦ (Exhausts.orNull rfl hnumber exhausts_uint64 c.ceiling).map _⟩,
      ⟨by decide, fun acc ↦ (exhausts_uint64 _).map _⟩,
      ⟨by decide, fun acc ↦ c.period.exhausts.map _⟩,
      ⟨by decide, fun acc ↦ (Exhausts.orNull rfl hstring exhausts_string c.banner).map _⟩,
      List.forall_mem_nil _⟩

/-- The text of a configuration that is not whole is found cut short, wherever it is cut. -/
theorem ofText_of_cut (c : Config) {front : String} (h : front.toList <+: c.text.toList)
    (hne : front ≠ c.text) : ofText front = .error .truncated := by
  obtain ⟨members, acc, hmembers, hgathers, hexhausts⟩ := c.exists_members
  have htext : c.text.toList = (Json.object members).chars := by
    rw [text, hmembers, Json.text, String.toList_ofList]
  have hcut : Cut front.toList (Json.object members).chars :=
    htext ▸ cut_of_prefix h fun heq ↦ hne (String.toList_inj.1 heq)
  have hread : reader front.toList = .error .truncated :=
    hgathers.record_cut hexhausts ofParts hcut
  rw [ofText, decode, hread]

/-- The text is cut in the number of the largest entry, and what is left of it is a number. -/
theorem ofText_of_cut_in_number :
    let front := "\x7b\"initial_capacity\":4096,\"max_entry_size\":2"
    let c : Config :=
      { initialCapacity := 4096, maxEntry := 256, ceiling := none, scratchCapacity := 256,
        period := .ofMillis 1000, banner := some "a \"b\"" }
    front.toList <+: c.text.toList ∧ front ≠ c.text ∧ ofText front = .error .truncated := by
  intro front c
  have hfront : front.toList <+: c.text.toList := by decide +kernel
  have hne : front ≠ c.text := by decide +kernel
  exact ⟨hfront, hne, c.ofText_of_cut hfront hne⟩

end Config

end DeferredLog
