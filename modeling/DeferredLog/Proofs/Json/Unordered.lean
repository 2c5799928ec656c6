import DeferredLog.Proofs.Json.Records
import Mathlib.Data.List.Nodup

/-!
# Records without their order

A record is read member by member, but which records are read and what they give has a description
without order: `Settings.Told` says of settings kept so far that each is what its members say, which for
a setting given twice nothing is.

* `told_receive`, `told_of_foldlM`: what is kept is told by the members that were received.
* `foldlM_eq_ok_iff`: members that tell of any settings are all received.
* `exists_of_foldlM_eq_error`: what is refused is refused at the first member that is at fault.
-/

namespace DeferredLog.Json

variable {α σ : Type}

/-! ### Values of one name -/

theorem valuesOf_append (name : String) (pre post : List (Label × Value)) :
    valuesOf name (pre ++ post) = valuesOf name pre ++ valuesOf name post := by
  rw [valuesOf, List.filter_append, List.map_append]
  rfl

theorem valuesOf_singleton_of_eq {name : String} {m : Label × Value} (h : m.1.name = name) :
    valuesOf name [m] = [m.2] := by
  rw [valuesOf, List.filter_cons_of_pos (by simpa using h)]
  rfl

theorem valuesOf_singleton_of_ne {name : String} {m : Label × Value} (h : m.1.name ≠ name) :
    valuesOf name [m] = [] := by
  rw [valuesOf, List.filter_cons_of_neg (by simpa using h)]
  rfl

theorem mem_valuesOf_iff {name : String} {members : List (Label × Value)} {v : Value} :
    v ∈ valuesOf name members ↔ ∃ m ∈ members, m.1.name = name ∧ m.2 = v := by
  simp [valuesOf, and_assoc]

/-! ### Settings that must be there -/

theorem required_eq_ok_iff {setting : Option α} {a : α} :
    required setting = .ok a ↔ setting = some a := by
  rcases setting with _ | b
  · exact ⟨nofun, nofun⟩
  · exact ⟨fun h ↦ congrArg some (Except.ok.inj h), fun h ↦ congrArg Except.ok (Option.some.inj h)⟩

theorem eq_mismatched_of_required {setting : Option α} {fault : Fault}
    (h : required setting = .error fault) : fault = .mismatched := by
  rcases setting with _ | a
  · cases h
    rfl
  · cases h

/-! ### The first fault -/

/-- A run that is stopped is stopped at one item, and not before. -/
theorem exists_of_foldlM_eq_error {β : Type} {step : σ → β → Except Fault σ} {items : List β}
    {start : σ} {fault : Fault} (h : items.foldlM step start = .error fault) :
    ∃ pre item post acc, items = pre ++ item :: post ∧ pre.foldlM step start = .ok acc ∧
      step acc item = .error fault := by
  induction items generalizing start with
  | nil => cases h
  | cons item items ih =>
    rw [List.foldlM_cons] at h
    rcases hstep : step start item with fault' | acc
    · rw [hstep] at h
      cases h
      exact ⟨[], item, items, start, rfl, rfl, hstep⟩
    · rw [hstep] at h
      obtain ⟨pre, item', post, acc', rfl, hpre, hitem'⟩ := ih h
      refine ⟨item :: pre, item', post, acc', rfl, ?_, hitem'⟩
      rw [List.foldlM_cons, hstep]
      exact hpre

theorem exists_of_foldlM_append_cons_eq_ok {β : Type} {step : σ → β → Except Fault σ}
    {pre post : List β} {item : β} {start acc : σ}
    (h : (pre ++ item :: post).foldlM step start = .ok acc) :
    ∃ acc₀ acc₁, pre.foldlM step start = .ok acc₀ ∧ step acc₀ item = .ok acc₁ := by
  rw [List.foldlM_append] at h
  rcases hpre : pre.foldlM step start with fault | acc₀
  · rw [hpre] at h
    cases h
  · rw [hpre] at h
    rcases hstep : step acc₀ item with fault | acc₁
    · have hrest : (item :: post).foldlM step acc₀ = .ok acc := h
      rw [List.foldlM_cons, hstep] at hrest
      cases hrest
    · exact ⟨acc₀, acc₁, rfl, hstep⟩

theorem foldlM_append_cons_of_error {β : Type} {step : σ → β → Except Fault σ} {pre post : List β}
    {item : β} {start acc : σ} {fault : Fault} (hpre : pre.foldlM step start = .ok acc)
    (hstep : step acc item = .error fault) :
    (pre ++ item :: post).foldlM step start = .error fault := by
  rw [List.foldlM_append, hpre]
  show (item :: post).foldlM step acc = _
  rw [List.foldlM_cons, hstep]
  rfl

namespace Layout.Settings

variable {l : Layout σ} (F : l.Settings)

/-- Each setting kept is what its only member says; one that is not kept has none. -/
def Told (acc : σ) (members : List (Label × Value)) : Prop :=
  ∀ f ∈ F.all, (valuesOf f.name members).map f.read = ((f.get acc).map Except.ok).toList

theorem eq_of_name_eq {f g : Setting σ} (hf : f ∈ F.all) (hg : g ∈ F.all) (h : f.name = g.name) :
    f = g := by
  have hnodup := F.nodup_names
  rw [← F.names_eq] at hnodup
  exact List.inj_on_of_nodup_map hnodup hf hg h

/-- A member that is received is kept, and no other setting changes. -/
theorem told_receive {acc acc' : σ} {members : List (Label × Value)} {m : Label × Value}
    (h : F.Told acc members) (hreceive : F.receive acc m = .ok acc') : F.Told acc' (members ++ [m]) := by
  intro g hg
  have htold := h g hg
  rw [valuesOf_append, List.map_append, htold]
  by_cases hknown : m.1.name ∈ l.names
  · obtain ⟨f, hf, hname, heq⟩ := F.exists_receive_eq hknown
    rw [heq] at hreceive
    split at hreceive
    · cases hreceive
    · next hunset =>
      -- The setting was not kept before, so this member is all that its name has.
      have hnone : f.get acc = none := Option.not_isSome_iff_eq_none.1 hunset
      rcases hread : f.read m.2 with fault | a
      · rw [hread] at hreceive
        cases hreceive
      · rw [hread] at hreceive
        cases hreceive
        by_cases hfg : f.name = g.name
        · obtain rfl := F.eq_of_name_eq hf hg hfg
          rw [valuesOf_singleton_of_eq hname.symm, hnone, F.get_set f hf, List.map_cons, hread]
          rfl
        · have hother : m.1.name ≠ g.name := fun h ↦ hfg (hname.trans h)
          rw [valuesOf_singleton_of_ne hother, F.get_set_of_ne f hf g hg hfg]
          exact List.append_nil _
  · have hother : m.1.name ≠ g.name := fun h ↦ hknown (h ▸ F.mem_names hg)
    rw [F.receive_of_unknown hknown] at hreceive
    split at hreceive
    · cases hreceive
    · cases hreceive
      rw [valuesOf_singleton_of_ne hother]
      exact List.append_nil _

/-- What is kept after further members is told by all of them. -/
theorem told_append_of_foldlM {acc acc' : σ} {pre members : List (Label × Value)}
    (h : F.Told acc pre) (hfold : members.foldlM F.receive acc = .ok acc') :
    F.Told acc' (pre ++ members) := by
  induction members generalizing acc pre with
  | nil =>
    cases hfold
    rw [List.append_nil]
    exact h
  | cons m members ih =>
    rw [List.foldlM_cons] at hfold
    rcases hreceive : F.receive acc m with fault | acc₁
    · rw [hreceive] at hfold
      cases hfold
    · rw [hreceive] at hfold
      rw [List.append_cons]
      exact ih (F.told_receive h hreceive) hfold

theorem told_of_foldlM {start acc : σ} (hstart : ∀ f ∈ F.all, f.get start = none)
    {members : List (Label × Value)} (h : members.foldlM F.receive start = .ok acc) :
    F.Told acc members := by
  have hnone : F.Told start [] := by
    intro f hf
    rw [hstart f hf]
    rfl
  exact F.told_append_of_foldlM hnone h

/-- Members tell of no more than one content for each setting. -/
theorem eq_of_told {acc acc' : σ} {members : List (Label × Value)} (h : F.Told acc members)
    (h' : F.Told acc' members) : acc = acc' := by
  refine F.ext acc acc' fun f hf ↦ ?_
  have heq := (h f hf).symm.trans (h' f hf)
  rcases hget : f.get acc with _ | a <;> rcases hget' : f.get acc' with _ | a' <;>
    rw [hget, hget'] at heq
  · cases heq
  · cases heq
  · cases heq
    rfl

/-- Where some settings are told by the members, none of these is refused. -/
theorem receive_ne_error_of_told {told acc : σ} {pre post : List (Label × Value)} {m : Label × Value}
    (htold : F.Told told (pre ++ m :: post))
    (hclosed : l.closed → m.1.name ∈ l.names) (hacc : F.Told acc pre) (fault : Fault) :
    F.receive acc m ≠ .error fault := by
  intro hreceive
  by_cases hknown : m.1.name ∈ l.names
  · obtain ⟨f, hf, hname, heq⟩ := F.exists_receive_eq hknown
    have hvalues : valuesOf f.name (pre ++ m :: post) =
        valuesOf f.name pre ++ m.2 :: valuesOf f.name post := by
      rw [List.append_cons, valuesOf_append, valuesOf_append, valuesOf_singleton_of_eq hname.symm,
        List.append_assoc]
      rfl
    -- One value at most has this name, and it can be read: a setting kept before would make two,
    -- and a value at fault is what no setting says.
    have hboth := htold f hf
    have hpre := hacc f hf
    rw [hvalues, List.map_append, hpre, List.map_cons] at hboth
    generalize f.get told = content at hboth
    rw [heq] at hreceive
    rcases hget : f.get acc with _ | a
    · rw [hget] at hreceive hboth
      rcases hread : f.read m.2 with fault' | a
      · rw [hread] at hboth
        cases content <;> cases hboth
      · rw [hread] at hreceive
        cases hreceive
    · rw [hget] at hboth
      cases content <;> cases hboth
  · rw [F.receive_of_unknown hknown] at hreceive
    split at hreceive
    · next h => exact hknown (hclosed h)
    · cases hreceive

/-- A closed record receives none but its own settings. -/
theorem mem_names_of_foldlM (hclosed : l.closed) {start acc : σ} {members : List (Label × Value)}
    (h : members.foldlM F.receive start = .ok acc) : ∀ m ∈ members, m.1.name ∈ l.names := by
  induction members generalizing start with
  | nil => exact fun m hm ↦ absurd hm List.not_mem_nil
  | cons m members ih =>
    rw [List.foldlM_cons] at h
    rcases hreceive : F.receive start m with fault | acc₁
    · rw [hreceive] at h
      cases h
    · rw [hreceive] at h
      refine List.forall_mem_cons.2 ⟨?_, ih h⟩
      by_contra hunknown
      rw [F.receive_of_unknown hunknown, if_pos hclosed] at hreceive
      cases hreceive

/-- All members are received exactly if they tell what is kept, and a closed record has no others. -/
theorem foldlM_eq_ok_iff {start acc : σ} (hstart : ∀ f ∈ F.all, f.get start = none)
    {members : List (Label × Value)} :
    members.foldlM F.receive start = .ok acc ↔
      F.Told acc members ∧ (l.closed → ∀ m ∈ members, m.1.name ∈ l.names) := by
  constructor
  · exact fun h ↦ ⟨F.told_of_foldlM hstart h, fun hclosed ↦ F.mem_names_of_foldlM hclosed h⟩
  · rintro ⟨htold, hclosed⟩
    rcases h : members.foldlM F.receive start with fault | acc'
    · obtain ⟨pre, m, post, acc', rfl, hpre, hreceive⟩ := exists_of_foldlM_eq_error h
      have hm : m ∈ pre ++ m :: post := List.mem_append_right pre List.mem_cons_self
      exact absurd hreceive (F.receive_ne_error_of_told htold (fun h ↦ hclosed h m hm)
        (F.told_of_foldlM hstart hpre) fault)
    · rw [F.eq_of_told (F.told_of_foldlM hstart h) htold]

/-- Members are refused as mismatched, or for a fault in the value of a setting. -/
theorem eq_mismatched_or_exists_of_foldlM {start : σ} {members : List (Label × Value)} {fault : Fault}
    (h : members.foldlM F.receive start = .error fault) :
    fault = .mismatched ∨ ∃ f ∈ F.all, ∃ v ∈ valuesOf f.name members, f.read v = .error fault := by
  obtain ⟨pre, m, post, acc, rfl, -, hreceive⟩ := exists_of_foldlM_eq_error h
  by_cases hknown : m.1.name ∈ l.names
  · obtain ⟨f, hf, hname, heq⟩ := F.exists_receive_eq hknown
    rw [heq] at hreceive
    split at hreceive
    · cases hreceive
      exact Or.inl rfl
    · rcases hread : f.read m.2 with fault' | a
      · rw [hread] at hreceive
        cases hreceive
        have hm : m ∈ pre ++ m :: post := List.mem_append_right pre List.mem_cons_self
        exact Or.inr ⟨f, hf, m.2, mem_valuesOf_iff.2 ⟨m, hm, hname.symm, rfl⟩, hread⟩
      · rw [hread] at hreceive
        cases hreceive
  · rw [F.receive_of_unknown hknown] at hreceive
    split at hreceive
    · cases hreceive
      exact Or.inl rfl
    · cases hreceive

theorem interpret_object_eq_ok_iff {start : σ} (hstart : ∀ f ∈ F.all, f.get start = none)
    {finish : σ → Except Fault α} {inner : Blanks} {members : List (Label × Value)} {a : α} :
    F.interpret start finish (.object inner members) = .ok a ↔
      ∃ acc, F.Told acc members ∧ (l.closed → ∀ m ∈ members, m.1.name ∈ l.names) ∧
        finish acc = .ok a := by
  rw [interpret]
  constructor
  · intro h
    rcases hfold : members.foldlM F.receive start with fault | acc
    · rw [hfold] at h
      cases h
    · rw [hfold] at h
      obtain ⟨htold, hclosed⟩ := (F.foldlM_eq_ok_iff hstart).1 hfold
      exact ⟨acc, htold, hclosed, h⟩
  · rintro ⟨acc, htold, hclosed, hfinish⟩
    rw [(F.foldlM_eq_ok_iff hstart).2 ⟨htold, hclosed⟩]
    exact hfinish

theorem fault_of_interpret_object {start : σ} {finish : σ → Except Fault α}
    (hfinish : ∀ {acc fault}, finish acc = .error fault → fault = .mismatched) {inner : Blanks}
    {members : List (Label × Value)} {fault : Fault}
    (h : F.interpret start finish (.object inner members) = .error fault) :
    fault = .mismatched ∨ ∃ f ∈ F.all, ∃ v ∈ valuesOf f.name members, f.read v = .error fault := by
  rw [interpret] at h
  rcases hfold : members.foldlM F.receive start with fault' | acc
  · rw [hfold] at h
    cases h
    exact F.eq_mismatched_or_exists_of_foldlM hfold
  · rw [hfold] at h
    exact Or.inl (hfinish h)

/-- If the value of one member is at fault in a record that would else be read, that fault is told. -/
theorem interpret_object_of_fault {start : σ} {finish : σ → Except Fault α} {inner inner' : Blanks}
    {pre post : List (Label × Value)} {label : Label} {v v' : Value} {a : α} {f : Setting σ}
    (hf : f ∈ F.all) (hname : f.name = label.name) {fault : Fault} (hfault : f.read v' = .error fault)
    (h : F.interpret start finish (.object inner (pre ++ (label, v) :: post)) = .ok a) :
    F.interpret start finish (.object inner' (pre ++ (label, v') :: post)) = .error fault := by
  rw [interpret] at h ⊢
  rcases hfold : (pre ++ (label, v) :: post).foldlM F.receive start with fault' | acc
  · rw [hfold] at h
    cases h
  · obtain ⟨acc₀, acc₁, hpre, hreceive⟩ := exists_of_foldlM_append_cons_eq_ok hfold
    -- Up to this member the two records are one, and its setting is not kept yet.
    have hknown : label.name ∈ l.names := hname ▸ F.mem_names hf
    obtain ⟨g, hg, hlabel, heq⟩ := F.exists_receive_eq (m := (label, v)) hknown
    obtain ⟨g', hg', hlabel', heq'⟩ := F.exists_receive_eq (m := (label, v')) hknown
    obtain rfl := F.eq_of_name_eq hf hg (hname.trans hlabel.symm)
    obtain rfl := F.eq_of_name_eq hf hg' (hname.trans hlabel'.symm)
    rw [heq] at hreceive
    split at hreceive
    · cases hreceive
    · next hunset =>
      have hrefused : F.receive acc₀ (label, v') = .error fault := by
        rw [heq', if_neg hunset, hfault]
        rfl
      rw [foldlM_append_cons_of_error hpre hrefused]

end Layout.Settings

end DeferredLog.Json
