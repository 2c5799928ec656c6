import DeferredLog.Proofs.Json.Reading

/-!
# Reading records

A `Layout.Settings` names for every setting of a layout how its value is read and where it is kept. With
it the reader of a record is a function on values, whatever the layout (`reads_record`): the members
of an object are received one by one, the items of an array are the settings in order.
-/

namespace DeferredLog.Json

variable {α σ : Type}

/-! ### Settings and where they are kept -/

/-- A setting: its name, how its value is read and where it is kept. -/
structure Setting (σ : Type) where
  name : String
  Content : Type
  read : Value → Except Fault Content
  get : σ → Option Content
  set : Content → σ → σ

/-- The settings of a layout. Each is read as the layout does, and kept apart from the others. -/
structure Layout.Settings (l : Layout σ) where
  all : List (Setting σ)
  names_eq : all.map Setting.name = l.names
  nodup_names : l.names.Nodup
  isSet_eq : ∀ f ∈ all, ∀ acc, l.isSet f.name acc = (f.get acc).isSome
  reads : ∀ f ∈ all, ∀ acc, Reads (l.setting f.name acc) fun v ↦ (f.read v).map (f.set · acc)
  get_set : ∀ f ∈ all, ∀ a acc, f.get (f.set a acc) = some a
  get_set_of_ne : ∀ f ∈ all, ∀ g ∈ all, f.name ≠ g.name → ∀ a acc, g.get (f.set a acc) = g.get acc
  ext : ∀ acc acc', (∀ f ∈ all, f.get acc = f.get acc') → acc = acc'

namespace Layout.Settings

variable {l : Layout σ} (F : l.Settings)

/-- What a member does to the settings kept so far. -/
def receive (acc : σ) (m : Label × Value) : Except Fault σ :=
  match F.all.find? (·.name = m.1.name) with
  | some f =>
    if (f.get acc).isSome then .error .mismatched else (f.read m.2).map (f.set · acc)
  | none => if l.closed then .error .mismatched else .ok acc

/-- Reads the first of some items as these settings; the others are left. -/
def fill : List (Setting σ) → σ → List (Pad × Value) → Except Fault (σ × List (Pad × Value))
  | [], acc, items => .ok (acc, items)
  | _ :: _, _, [] => .error .mismatched
  | f :: settings, acc, (_, v) :: items =>
    match f.read v with
    | .error fault => .error fault
    | .ok a => fill settings (f.set a acc) items

/-- What a record makes of a value. -/
def interpret (start : σ) (finish : σ → Except Fault α) : Value → Except Fault α
  | .object _ members =>
    match members.foldlM F.receive start with
    | .error fault => .error fault
    | .ok acc => finish acc
  | .array _ items =>
    match fill F.all start items with
    | .error fault => .error fault
    | .ok (acc, left) =>
      match finish acc with
      | .error fault => .error fault
      | .ok a => if left.isEmpty then .ok a else .error .malformed
  | v => .error v.refusal

theorem mem_names {f : Setting σ} (h : f ∈ F.all) : f.name ∈ l.names := by
  rw [← F.names_eq]
  exact List.mem_map_of_mem h

theorem find?_eq_none_iff {name : String} :
    F.all.find? (·.name = name) = none ↔ name ∉ l.names := by
  rw [List.find?_eq_none, ← F.names_eq, List.mem_map]
  exact ⟨fun h ⟨f, hf, hname⟩ ↦ h f hf (decide_eq_true hname),
    fun h f hf hname ↦ h ⟨f, hf, of_decide_eq_true hname⟩⟩

theorem receive_of_unknown {m : Label × Value} (h : m.1.name ∉ l.names) (acc : σ) :
    F.receive acc m = if l.closed then .error .mismatched else .ok acc := by
  rw [receive, F.find?_eq_none_iff.2 h]

/-- A member of a known name is that of one of the settings. -/
theorem exists_receive_eq {m : Label × Value} (h : m.1.name ∈ l.names) :
    ∃ f ∈ F.all, f.name = m.1.name ∧ ∀ acc, F.receive acc m =
      if (f.get acc).isSome then .error .mismatched else (f.read m.2).map (f.set · acc) := by
  rcases hfind : F.all.find? (·.name = m.1.name) with _ | f
  · exact absurd h (F.find?_eq_none_iff.1 hfind)
  · have hname := List.find?_some hfind
    refine ⟨f, List.mem_of_find?_eq_some hfind, of_decide_eq_true hname, fun acc ↦ ?_⟩
    rw [receive, hfind]

/-! ### From characters to members -/

theorem colon_seqRight {r : Reader σ} {f : Value → Except Fault σ} (hr : Reads r f) (lab : Label)
    (v : Value) {rest : List Char} (h : Ends (lab.after.chars ++ rest)) :
    (Reader.colon *> r) (lab.beforeColon.chars ++
      ':' :: (lab.beforeValue.chars ++ (v.chars ++ (lab.after.chars ++ rest)))) =
        (f v).map fun a ↦ (a, lab.after.chars ++ rest) := by
  have hblanks (cs : List Char) : dropBlanks (lab.beforeColon.chars ++ ':' :: cs) = ':' :: cs :=
    dropBlanks_append_cons lab.beforeColon (by decide) cs
  have hcolon (cs : List Char) : Reader.colon (lab.beforeColon.chars ++ ':' :: cs) = .ok ((), cs) := by
    simp only [Reader.colon, hblanks]
  show (Reader.colon _).bind _ = _
  rw [hcolon]
  exact hr v lab.beforeValue _ h

/-- A member is received or refused, and what comes behind it is left. -/
theorem member_ahead (lab : Label) (v : Value) (acc : σ) {rest : List Char}
    (h : Ends (lab.after.chars ++ rest)) :
    Reader.member l.accept acc (lab.ahead v.chars ++ rest) =
      (F.receive acc (lab, v)).map fun a ↦ (a, lab.after.chars ++ rest) := by
  have hname : String.ofList (lab.strokes.map Stroke.value) = lab.name := rfl
  unfold Reader.member Layout.accept
  rw [Label.ahead_append, quotedRest_closedChars]
  dsimp only
  rw [hname]
  by_cases hknown : lab.name ∈ l.names
  · obtain ⟨f, hf, hlabel, hreceive⟩ := F.exists_receive_eq (m := (lab, v)) hknown
    dsimp only at hlabel
    rw [hreceive, if_pos hknown, ← hlabel, F.isSet_eq f hf]
    rcases (f.get acc).isSome
    · exact colon_seqRight (F.reads f hf acc) lab v h
    · rfl
  · rw [F.receive_of_unknown hknown, if_neg hknown]
    rcases l.closed
    · exact colon_seqRight (reads_skip acc) lab v h
    · rfl

theorem members_behindCommas {members : List (Label × Value)} {rounds : ℕ}
    (hrounds : members.length < rounds) (acc : σ) (b : Blanks) (rest : List Char) :
    Reader.members l.accept rounds false acc
        (b.chars ++ (behindCommas (memberTexts members) ++ '\x7d' :: rest)) =
      (members.foldlM F.receive acc).map fun a ↦ (a, rest) := by
  induction members generalizing rounds acc b with
  | nil =>
    obtain ⟨rounds, rfl⟩ := Nat.exists_eq_succ_of_ne_zero (Nat.ne_of_gt hrounds)
    have hclose : dropBlanks (b.chars ++ '\x7d' :: rest) = '\x7d' :: rest :=
      dropBlanks_append_cons b (by decide) rest
    show Reader.members l.accept (rounds + 1) false acc (b.chars ++ '\x7d' :: rest) = _
    simp only [Reader.members, hclose]
    rfl
  | cons m members ih =>
    obtain ⟨lab, v⟩ := m
    obtain ⟨rounds, rfl⟩ := Nat.exists_eq_succ_of_ne_zero (Nat.ne_of_gt (Nat.zero_lt_of_lt hrounds))
    have hends := ends_behindCommas lab.after (memberTexts members) (c := '\x7d') (by decide) rest
    have hcomma (cs : List Char) : dropBlanks (b.chars ++ ',' :: cs) = ',' :: cs :=
      dropBlanks_append_cons b (by decide) cs
    have hquote (cs : List Char) : dropBlanks (lab.before.chars ++ '"' :: cs) = '"' :: cs :=
      dropBlanks_append_cons lab.before (by decide) cs
    rw [memberTexts, behindCommas_cons, Label.around_append, List.foldlM_cons]
    simp only [Reader.members, hcomma, hquote, F.member_ahead lab v acc hends]
    rcases F.receive acc (lab, v) with fault | acc
    · rfl
    · exact ih (Nat.lt_of_succ_lt_succ hrounds) acc lab.after

theorem members_betweenCommas {members : List (Label × Value)} {rounds : ℕ}
    (hrounds : members.length < rounds) (acc : σ) (b : Blanks) (rest : List Char) :
    Reader.members l.accept rounds true acc
        (b.chars ++ (betweenCommas (memberTexts members) ++ '\x7d' :: rest)) =
      (members.foldlM F.receive acc).map fun a ↦ (a, rest) := by
  obtain ⟨rounds, rfl⟩ := Nat.exists_eq_succ_of_ne_zero (Nat.ne_of_gt (Nat.zero_lt_of_lt hrounds))
  cases members with
  | nil =>
    have hclose : dropBlanks (b.chars ++ '\x7d' :: rest) = '\x7d' :: rest :=
      dropBlanks_append_cons b (by decide) rest
    show Reader.members l.accept (rounds + 1) true acc (b.chars ++ '\x7d' :: rest) = _
    simp only [Reader.members, hclose]
    rfl
  | cons m members =>
    obtain ⟨lab, v⟩ := m
    have hends := ends_behindCommas lab.after (memberTexts members) (c := '\x7d') (by decide) rest
    have hquote (cs : List Char) :
        dropBlanks (b.chars ++ (lab.before.chars ++ '"' :: cs)) = '"' :: cs := by
      rw [dropBlanks_append, dropBlanks_append_cons _ (by decide)]
    rw [memberTexts, betweenCommas, List.append_assoc, Label.around_append, List.foldlM_cons]
    simp only [Reader.members, hquote, F.member_ahead lab v acc hends]
    rcases F.receive acc (lab, v) with fault | acc
    · rfl
    · exact F.members_behindCommas (Nat.lt_of_succ_lt_succ hrounds) acc lab.after rest

/-! ### From characters to items -/

section Elements

variable {f : Setting σ} (hf : f ∈ F.all) (names : List String) (acc : σ) (b before : Blanks) (v : Value)
  {rest : List Char} (h : Ends rest)

include hf h

theorem elements_first :
    l.elements (f.name :: names) true acc (b.chars ++ (before.chars ++ (v.chars ++ rest))) =
      match f.read v with
      | .error fault => .error fault
      | .ok a => l.elements names false (f.set a acc) rest := by
  have hvalue : l.setting f.name acc (v.chars ++ rest) =
      ((f.read v).map (f.set · acc)).map fun a ↦ (a, rest) := F.reads f hf acc v .none rest h
  have hdrop : dropBlanks (b.chars ++ (before.chars ++ (v.chars ++ rest))) = v.chars ++ rest := by
    rw [dropBlanks_append, dropBlanks_value]
  obtain ⟨c, cs, hchars, -, hbracket, -⟩ := v.exists_cons
  rw [hchars, List.cons_append] at hvalue hdrop ⊢
  simp only [Layout.elements, hdrop]
  split
  · contradiction
  · next heq => exact absurd (List.cons.inj heq).1 hbracket
  · contradiction
  · rw [hvalue]
    rcases f.read v with fault | a <;> rfl
  · contradiction

theorem elements_comma :
    l.elements (f.name :: names) false acc (b.chars ++ ',' :: (before.chars ++ (v.chars ++ rest))) =
      match f.read v with
      | .error fault => .error fault
      | .ok a => l.elements names false (f.set a acc) rest := by
  have hvalue : l.setting f.name acc (v.chars ++ rest) =
      ((f.read v).map (f.set · acc)).map fun a ↦ (a, rest) := F.reads f hf acc v .none rest h
  have hcomma (cs : List Char) : dropBlanks (b.chars ++ ',' :: cs) = ',' :: cs :=
    dropBlanks_append_cons b (by decide) cs
  have hdrop := dropBlanks_value before v rest
  obtain ⟨c, cs, hchars, -, hbracket, -⟩ := v.exists_cons
  rw [hchars, List.cons_append] at hvalue hdrop ⊢
  simp only [Layout.elements, hcomma, hdrop]
  split
  · next heq => cases heq
  · next heq => exact absurd (List.cons.inj heq).1 hbracket
  · rw [hvalue]
    rcases f.read v with fault | a <;> rfl

end Elements

/-- Behind what was read as settings, the items that are left are there with commas before them. -/
theorem elements_behindCommas {settings : List (Setting σ)} (hsettings : ∀ f ∈ settings, f ∈ F.all) (acc : σ)
    (items : List (Pad × Value)) (b : Blanks) (rest : List Char) :
    ∃ b' : Blanks, l.elements (settings.map Setting.name) false acc
        (b.chars ++ (behindCommas (itemTexts items) ++ ']' :: rest)) =
      (fill settings acc items).map fun r ↦
        (r.1, b'.chars ++ (behindCommas (itemTexts r.2) ++ ']' :: rest)) := by
  induction settings generalizing acc items b with
  | nil => exact ⟨b, rfl⟩
  | cons f settings ih =>
    cases items with
    | nil =>
      have hclose : dropBlanks (b.chars ++ ']' :: rest) = ']' :: rest :=
        dropBlanks_append_cons b (by decide) rest
      refine ⟨b, ?_⟩
      show l.elements (f.name :: settings.map Setting.name) false acc (b.chars ++ ']' :: rest) = _
      simp only [Layout.elements, hclose]
      rfl
    | cons item items =>
      obtain ⟨pad, v⟩ := item
      have hends := ends_behindCommas pad.after (itemTexts items) (c := ']') (by decide) rest
      rw [itemTexts, behindCommas_cons, Pad.around_append, List.map_cons,
        F.elements_comma (hsettings f List.mem_cons_self) _ acc b pad.before v hends, fill]
      rcases f.read v with fault | a
      · exact ⟨b, rfl⟩
      · exact ih (fun g hg ↦ hsettings g (List.mem_cons_of_mem f hg)) (f.set a acc) items pad.after

theorem elements_betweenCommas {f : Setting σ} {settings : List (Setting σ)}
    (hsettings : ∀ g ∈ f :: settings, g ∈ F.all) (acc : σ) (items : List (Pad × Value)) (b : Blanks)
    (rest : List Char) :
    ∃ b' : Blanks, l.elements ((f :: settings).map Setting.name) true acc
        (b.chars ++ (betweenCommas (itemTexts items) ++ ']' :: rest)) =
      (fill (f :: settings) acc items).map fun r ↦
        (r.1, b'.chars ++ (behindCommas (itemTexts r.2) ++ ']' :: rest)) := by
  cases items with
  | nil =>
    have hclose : dropBlanks (b.chars ++ ']' :: rest) = ']' :: rest :=
      dropBlanks_append_cons b (by decide) rest
    refine ⟨b, ?_⟩
    show l.elements (f.name :: settings.map Setting.name) true acc (b.chars ++ ']' :: rest) = _
    simp only [Layout.elements, hclose]
    rfl
  | cons item items =>
    obtain ⟨pad, v⟩ := item
    have hends := ends_behindCommas pad.after (itemTexts items) (c := ']') (by decide) rest
    rw [itemTexts, betweenCommas, List.append_assoc, Pad.around_append, List.map_cons,
      F.elements_first (hsettings f List.mem_cons_self) _ acc b pad.before v hends, fill]
    rcases f.read v with fault | a
    · exact ⟨b, rfl⟩
    · exact F.elements_behindCommas (fun g hg ↦ hsettings g (List.mem_cons_of_mem f hg)) (f.set a acc)
        items pad.after rest

/-- Each setting takes one item. -/
theorem length_of_fill {settings : List (Setting σ)} {acc acc' : σ} {items left : List (Pad × Value)}
    (h : fill settings acc items = .ok (acc', left)) : items.length = settings.length + left.length := by
  induction settings generalizing acc items with
  | nil =>
    cases h
    exact (Nat.zero_add _).symm
  | cons f settings ih =>
    cases items with
    | nil => cases h
    | cons item items =>
      rw [fill] at h
      rcases hread : f.read item.2 with fault | a
      · rw [hread] at h
        cases h
      · rw [hread] at h
        rw [List.length_cons, List.length_cons, ih h, Nat.add_right_comm]

/-- Items are refused as too few, or for a fault in one of them. -/
theorem eq_mismatched_or_exists_of_fill {settings : List (Setting σ)} {acc : σ}
    {items : List (Pad × Value)} {fault : Fault} (h : fill settings acc items = .error fault) :
    fault = .mismatched ∨ ∃ f ∈ settings, ∃ item ∈ items, f.read item.2 = .error fault := by
  induction settings generalizing acc items with
  | nil => cases h
  | cons f settings ih =>
    cases items with
    | nil =>
      cases h
      exact Or.inl rfl
    | cons item items =>
      rw [fill] at h
      rcases hread : f.read item.2 with fault' | a
      · rw [hread] at h
        cases h
        exact Or.inr ⟨f, List.mem_cons_self, item, List.mem_cons_self, hread⟩
      · rw [hread] at h
        refine (ih h).imp_right ?_
        rintro ⟨g, hg, item', hitem', hread'⟩
        exact ⟨g, List.mem_cons_of_mem f hg, item', List.mem_cons_of_mem item hitem', hread'⟩

section Arrays

variable {start : σ} {finish : σ → Except Fault α} {inner : Blanks} {items : List (Pad × Value)}

/-- An array is read if it has as many items as there are settings. -/
theorem interpret_array_eq_ok_iff {a : α} :
    F.interpret start finish (.array inner items) = .ok a ↔
      ∃ acc, fill F.all start items = .ok (acc, []) ∧ finish acc = .ok a := by
  rw [interpret]
  constructor
  · intro h
    rcases hfill : fill F.all start items with fault | ⟨acc, left⟩
    · rw [hfill] at h
      cases h
    · rw [hfill] at h
      rcases hfinish : finish acc with fault | b
      · simp only [hfinish] at h
        cases h
      · simp only [hfinish] at h
        split at h
        · next hleft =>
          cases h
          rw [List.isEmpty_iff.1 hleft]
          exact ⟨acc, rfl, hfinish⟩
        · cases h
  · rintro ⟨acc, hfill, hfinish⟩
    rw [hfill]
    simp only [hfinish]
    rfl

/-- An array that has more items than there are settings is refused at the first of these. -/
theorem interpret_array_of_left {acc : σ} {left : List (Pad × Value)} {a : α} (hleft : left ≠ [])
    (hfill : fill F.all start items = .ok (acc, left)) (hfinish : finish acc = .ok a) :
    F.interpret start finish (.array inner items) = .error .malformed := by
  rw [interpret, hfill]
  simp only [hfinish]
  exact if_neg fun hempty ↦ hleft (List.isEmpty_iff.1 hempty)

theorem fault_of_interpret_array {fault : Fault}
    (hfinish : ∀ {acc fault}, finish acc = .error fault → fault = .mismatched)
    (h : F.interpret start finish (.array inner items) = .error fault) :
    fault = .mismatched ∨ (∃ f ∈ F.all, ∃ item ∈ items, f.read item.2 = .error fault) ∨
      fault = .malformed ∧ F.all.length < items.length := by
  rw [interpret] at h
  rcases hfill : fill F.all start items with fault' | ⟨acc, left⟩
  · rw [hfill] at h
    cases h
    exact (eq_mismatched_or_exists_of_fill hfill).imp_right Or.inl
  · rw [hfill] at h
    rcases hread : finish acc with fault' | a
    · simp only [hread] at h
      cases h
      exact Or.inl (hfinish hread)
    · simp only [hread] at h
      split at h
      · cases h
      · next hleft =>
        cases h
        have hlength : 0 < left.length :=
          List.length_pos_iff.2 fun hnil ↦ hleft (List.isEmpty_iff.2 hnil)
        refine Or.inr (Or.inr ⟨rfl, ?_⟩)
        rw [length_of_fill hfill]
        exact Nat.lt_add_of_pos_right hlength

end Arrays

/-! ### Whole records -/

theorem length_le_length_behindCommas (texts : List (List Char)) :
    texts.length ≤ (behindCommas texts).length := by
  induction texts with
  | nil => exact Nat.le_refl 0
  | cons text texts ih =>
    rw [behindCommas, List.flatMap_cons, List.length_append, List.length_cons, List.length_cons]
    rw [behindCommas] at ih
    omega

theorem length_memberTexts (members : List (Label × Value)) :
    (memberTexts members).length = members.length := by
  induction members with
  | nil => rfl
  | cons m members ih => rw [memberTexts, List.length_cons, List.length_cons, ih]

/-- The rounds that a text is given are enough, since each member but the first has a comma. -/
theorem length_lt_length_betweenCommas (members : List (Label × Value)) (inner : Blanks)
    (rest : List Char) :
    members.length <
      (inner.chars ++ (betweenCommas (memberTexts members) ++ '\x7d' :: rest)).length + 1 := by
  rw [List.length_append, List.length_append, List.length_cons]
  cases members with
  | nil => exact Nat.succ_pos _
  | cons m members =>
    have hcommas := length_le_length_behindCommas (memberTexts members)
    rw [length_memberTexts] at hcommas
    rw [memberTexts, betweenCommas, List.length_append, List.length_cons]
    omega

variable (start : σ) (finish : σ → Except Fault α)

theorem record_object (inner : Blanks) (members : List (Label × Value)) (b : Blanks)
    (rest : List Char) :
    l.record start finish (b.chars ++ ((Value.object inner members).chars ++ rest)) =
      (F.interpret start finish (.object inner members)).map fun a ↦ (a, rest) := by
  unfold Layout.record
  rw [dropBlanks_value, Value.object_append, interpret]
  simp only [F.members_betweenCommas (length_lt_length_betweenCommas members inner rest)]
  rcases members.foldlM F.receive start with fault | acc <;> rfl

theorem record_array (hne : F.all ≠ []) (inner : Blanks) (items : List (Pad × Value)) (b : Blanks)
    (rest : List Char) :
    l.record start finish (b.chars ++ ((Value.array inner items).chars ++ rest)) =
      (F.interpret start finish (.array inner items)).map fun a ↦ (a, rest) := by
  obtain ⟨f, settings, hall⟩ := List.exists_cons_of_ne_nil hne
  have hsettings : ∀ g ∈ f :: settings, g ∈ F.all := fun g hg ↦ hall ▸ hg
  obtain ⟨b', helements⟩ := F.elements_betweenCommas hsettings start items inner rest
  rw [← hall, F.names_eq] at helements
  unfold Layout.record
  rw [dropBlanks_value, Value.array_append, interpret]
  simp only [helements]
  -- Behind the last setting stands the bracket, or a comma before the items that are left.
  rcases fill F.all start items with fault | ⟨acc, left⟩
  · rfl
  · simp only [Except.map]
    rcases finish acc with fault | a
    · rfl
    · cases left with
      | nil =>
        have hclose : dropBlanks (b'.chars ++ (behindCommas (itemTexts []) ++ ']' :: rest)) =
            ']' :: rest := dropBlanks_append_cons b' (by decide) rest
        simp only [hclose]
        rfl
      | cons item left =>
        obtain ⟨pad, v⟩ := item
        have hcomma (text : List Char) : dropBlanks (b'.chars ++ ',' :: text) = ',' :: text :=
          dropBlanks_append_cons b' (by decide) text
        rw [itemTexts, behindCommas_cons]
        simp only [hcomma]
        rfl

/-- A record is read as the members or items of the value tell. -/
theorem reads_record (hne : F.all ≠ []) : Reads (l.record start finish) (F.interpret start finish) := by
  intro v b rest h
  by_cases hv : (∃ inner members, v = .object inner members) ∨ ∃ inner items, v = .array inner items
  · rcases hv with ⟨inner, members, rfl⟩ | ⟨inner, items, rfl⟩
    · exact F.record_object start finish inner members b rest
    · exact F.record_array start finish hne inner items b rest
  · have hmismatch := mismatch_value v h
    have hinterpret : F.interpret start finish v = .error v.refusal := by
      cases v with
      | object inner members => exact absurd (Or.inl ⟨inner, members, rfl⟩) hv
      | array inner items => exact absurd (Or.inr ⟨inner, items, rfl⟩) hv
      | _ => rfl
    obtain ⟨c, cs, hchars, -, -, -, harray, hobject⟩ := v.exists_cons_kind
    unfold Layout.record
    rw [dropBlanks_value, hinterpret]
    rw [hchars, List.cons_append] at hmismatch ⊢
    split
    · next heq => cases heq
    · next heq => exact absurd (Or.inl (hobject (List.cons.inj heq).1)) hv
    · next heq => exact absurd (Or.inr (harray (List.cons.inj heq).1)) hv
    · rw [hmismatch]
      rfl

end Layout.Settings

end DeferredLog.Json
