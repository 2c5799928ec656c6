import DeferredLog.Proofs.Json.Recovery
import DeferredLog.Report.Codec

/-!
# Settings of a reporter that are written and read again

Reading the compact text of the settings of a reporter gives those settings. Kind by kind: a level by
target is a member of an object, in ascending order of the targets, so each is inserted behind those
before it; a choice is a name or an object of one member; and the settings themselves are a record.
-/

namespace DeferredLog.Report

open Json

/-! ### Levels by target -/

/-- An entry beyond all others is put behind them. -/
theorem insertEntry_of_forall_lt {target level : String} {entries : List (String × String)}
    (h : ∀ e ∈ entries, e.1 < target) :
    insertEntry target level entries = entries ++ [(target, level)] := by
  induction entries with
  | nil => rfl
  | cons e rest ih =>
    have hlt := h e List.mem_cons_self
    rw [insertEntry, if_neg (String.lt_asymm hlt), if_neg (String.ne_of_lt hlt).symm,
      ih fun e he ↦ h e (List.mem_cons_of_mem _ he)]
    rfl

namespace Targets

theorem eq_of_entries_eq {t t' : Targets} (h : t.entries = t'.entries) : t = t' := by
  cases t
  cases t'
  simpa using h

/-- The entries that are left are inserted one behind the other. -/
theorem gathers {rest : List (String × String)} {kept t : Targets}
    (h : t.entries = kept.entries ++ rest) :
    Gathers (fun target acc ↦ .ok do return insert acc target (← Reader.string)) kept
      (rest.map fun e ↦ (e.1, .string e.2)) t := by
  induction rest generalizing kept with
  | nil =>
    obtain rfl := eq_of_entries_eq (h.trans (List.append_nil _))
    exact .nil t
  | cons e rest ih =>
    have hbelow : ∀ e' ∈ kept.entries, e'.1 < e.1 := by
      have hascending := t.ascending
      rw [h, List.pairwise_append] at hascending
      exact fun e' he' ↦ hascending.2.2 e' he' e List.mem_cons_self
    refine .cons rfl ((recovers_string e.2).map (kept.insert e.1)) (ih ?_)
    show t.entries = insertEntry e.1 e.2 kept.entries ++ rest
    rw [h, insertEntry_of_forall_lt hbelow, List.append_assoc]
    rfl

theorem recovers (t : Targets) : Recovers reader t.toJson t :=
  have hwhole : t.entries = Targets.empty.entries ++ t.entries := (List.nil_append _).symm
  (gathers hwhole).recovers_object

end Targets

/-! ### Choices and records -/

theorem Console.recovers (c : Console) : Recovers reader c.toJson c := by
  cases c with
  | off => exact recovers_bare rfl
  | json => exact recovers_bare rfl
  | pretty ansi =>
    have hansi : Gathers prettyLayout.accept none [("ansi", .bool ansi)] (some ansi) :=
      .cons rfl ((recovers_bool ansi).map some) (.nil _)
    have hpretty : Recovers (prettyLayout.record none fun acc ↦ do
        return Console.pretty (← Json.required acc)) (.object [("ansi", .bool ansi)])
          (.pretty ansi) :=
      hansi.recovers_record rfl
    exact hpretty.carrying rfl

theorem Rotation.recovers (r : Rotation) : Recovers reader r.toJson r := by
  cases r <;> exact recovers_bare rfl

theorem FileSpec.recovers (f : FileSpec) : Recovers reader f.toJson f := by
  let parts : Parts := ⟨some f.directory, some f.stem, some f.rotation⟩
  refine Gathers.recovers_record (?_ : Gathers layout.accept {} _ parts) rfl
  exact .cons rfl ((recovers_string _).map _) <|
    .cons rfl ((recovers_string _).map _) <|
    .cons rfl (f.rotation.recovers.map _) <| .nil _

namespace Config

/-- The settings of a reporter that were written are read as they were. -/
theorem read_of_written (c : Config) : ofText c.text = .ok c := by
  have hrecord (f : FileSpec) : f.toJson ≠ .null := nofun
  have hfile := Recovers.orNull hrecord FileSpec.recovers c.file
  let parts : Parts :=
    ⟨some c.level, some c.targets, some c.console, some c.file, some c.flattenFields,
      some c.spanList, some c.sourceLocation, some c.threadNames⟩
  refine Recovers.decode_text
    (Gathers.recovers_record (?_ : Gathers layout.accept {} _ parts) rfl)
  exact .cons rfl ((recovers_string _).map _) <|
    .cons rfl (c.targets.recovers.map _) <|
    .cons rfl (c.console.recovers.map _) <|
    .cons rfl (hfile.map _) <|
    .cons rfl ((recovers_bool _).map _) <|
    .cons rfl ((recovers_bool _).map _) <|
    .cons rfl ((recovers_bool _).map _) <|
    .cons rfl ((recovers_bool _).map _) <| .nil _

end Config

end DeferredLog.Report
