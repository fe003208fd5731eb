import DocTree.Proofs.Document.WriteLaws
import DocTree.Proofs.Value.Interchangeable

/- What a comparison sees of a write. Equality takes a hole and the absent marker for one and
   does not look at the order of fields, so it might miss a write that adds an absent field
   or nothing but padding. It does not. A step of a write that makes room leaves more fields,
   more items or a container in the place of another value, and each of these makes two
   values unequal whatever is put there (`equal_fill_of_no_child`). A step into a child
   leaves all other children alone, so that the two documents are equal exactly when the
   child and what becomes of it are (`equal_fill_of_child?`). Along the path, a document
   equals itself after a write exactly when the write was given up, or when it put an equal
   value into a slot that was there (`equal_write_iff`). -/
namespace DocTree.Value

/-! Writes that make room. -/

/-- A step that has to make room: for a field under a new key, for an item past the end, or by
    putting a container in the place of a value that is none. -/
inductive MakesRoom : Value → String → Prop
  | newKey {fields : Fields Value} {s : String} :
      s ∉ fields.keys → MakesRoom (object fields) s
  | longer {items : List Value} {s : String} {i : Nat} :
      Path.index? s = some i → items.length ≤ i → MakesRoom (array items) s
  | obstruction {v : Value} {s : String} : v.isContainer = false → MakesRoom v s

/-- Some beginning of the path leads, through fields and items that exist, to a value in which
    the next segment has to make room. -/
def Grows (doc : Value) (path : Path) : Prop :=
  ∃ front s back there, path = front ++ s :: back ∧ doc.slot? front = some there ∧
    MakesRoom there s

theorem makesRoom_iff (doc : Value) (s : String) :
    MakesRoom doc s ↔ doc.child? s = none ∧ doc.slotFor? s ≠ none := by
  constructor
  · intro h
    cases h with
    | @newKey fields _ hs =>
      exact ⟨(Fields.get?_eq_none_iff fields s).2 hs, by simp [slotFor?]⟩
    | @longer items _ i hi hlen =>
      refine ⟨?_, by simp [slotFor?, hi]⟩
      rw [child?, hi]
      exact List.getElem?_eq_none hlen
    | obstruction hdoc =>
      refine ⟨child?_of_leaf hdoc s, fun hrefused => ?_⟩
      obtain ⟨⟨items, rfl⟩, -⟩ := (slotFor?_eq_none_iff doc s).1 hrefused
      cases hdoc
  · intro h
    obtain ⟨hchild, hslot⟩ := h
    cases doc with
    | object fields => exact .newKey ((Fields.get?_eq_none_iff fields s).1 hchild)
    | array items =>
      cases hi : Path.index? s with
      | none => exact absurd (by simp [slotFor?, hi]) hslot
      | some i =>
        rw [child?, hi] at hchild
        exact .longer hi (List.getElem?_eq_none_iff.1 hchild)
    | _ => exact .obstruction rfl

theorem not_grows_nil (doc : Value) : ¬ Grows doc [] := not_meets_nil doc

theorem grows_cons (doc : Value) (s : String) (rest : Path) :
    Grows doc (s :: rest) ↔
      MakesRoom doc s ∨ ∃ child, doc.child? s = some child ∧ Grows child rest :=
  meets_cons doc s rest

theorem grows_iff (doc : Value) (path : Path) :
    Grows doc path ↔ ¬ Blocked doc path ∧ doc.slot? path = none := by
  induction path generalizing doc with
  | nil => simp [not_grows_nil, slot?]
  | cons s rest ih =>
    rw [grows_cons, makesRoom_iff, blocked_cons, slot?]
    cases hchild : doc.child? s with
    | none => simp
    | some child =>
      obtain ⟨slot, hslot, -⟩ := exists_slot_of_child? hchild
      simp [hslot, ih child]

/-! A container before and after one of its slots was filled. -/

section
variable {s : String} {i : Nat} {c : Value}

theorem equal_insert {fields : Fields Value} (hd : fields.Distinct)
    (hself : ∀ e ∈ fields, e.2.equal e.2 = true) (hc : fields.get? s = some c) (w : Value) :
    (object fields).equal (object (fields.insert s w)) = c.equal w := by
  have hkey : s ∈ fields.keys := by
    rw [← Fields.isSome_get?_iff, hc]
    rfl
  rw [Bool.eq_iff_iff, equal, Bool.and_eq_true, beq_iff_eq, Fields.length_insert, if_pos hkey,
    equalFields_iff]
  constructor
  · intro h
    obtain ⟨b, hb, hcb⟩ := h.2 (s, c) (Fields.mem_of_get? hc)
    obtain rfl : w = b := by simpa [Fields.get?_insert_self] using hb
    exact hcb
  · intro h
    refine ⟨rfl, fun e he => ?_⟩
    have hget := hd.get?_of_mem he
    by_cases hs : e.1 = s
    · rw [hs, hc] at hget
      obtain rfl : c = e.2 := Option.some.inj hget
      exact ⟨w, by rw [hs, Fields.get?_insert_self], h⟩
    · exact ⟨e.2, by rw [Fields.get?_insert_of_ne fields w hs, hget], hself e he⟩

theorem equal_placed {items : List Value} (hself : ∀ v ∈ items, v.equal v = true)
    (hc : items[i]? = some c) (w : Value) :
    (array items).equal (array (placed items i w)) = c.equal w := by
  have hlt : i < items.length := (List.getElem?_eq_some_iff.1 hc).1
  rw [Bool.eq_iff_iff, equal, equalItems_iff, forall₂_iff_getElem?]
  constructor
  · intro h
    have hi := h i
    rw [getElem?_placed, if_pos rfl, hc] at hi
    obtain ⟨b, hb, hcb⟩ := exists_of_some_rel hi
    obtain rfl : w = b := Option.some.inj hb
    exact hcb
  · intro h j
    rw [getElem?_placed]
    by_cases hj : j = i
    · rw [if_pos hj, hj, hc]
      exact .some h
    · rw [if_neg hj]
      by_cases hjl : j < items.length
      · rw [if_pos hjl, List.getElem?_eq_getElem hjl]
        exact .some (hself _ (List.getElem_mem hjl))
      · rw [if_neg hjl, if_neg (by omega), List.getElem?_eq_none (by omega)]
        exact .none

end

section
variable {doc : Value} {s : String} {slot : Slot}

theorem equal_fill_of_leaf (hdoc : doc.isContainer = false) (w : Value) :
    doc.equal (slot.fill w) = false := by
  rw [Bool.eq_false_iff]
  intro h
  have hkind := kind_eq_of_equal h
  have hfill := slot.isContainer_fill w
  rw [isContainer_eq_kind, ← hkind, ← isContainer_eq_kind, hdoc] at hfill
  cases hfill

theorem equal_fill_of_child? {c : Value} (hkeys : DistinctKeys doc) (hnan : NaNFree doc)
    (hslot : doc.slotFor? s = some slot) (hc : doc.child? s = some c) (w : Value) :
    doc.equal (slot.fill w) = c.equal w := by
  have hself : ∀ v ∈ doc.children, v.equal v = true := fun v hv =>
    (equal_self_iff (((throughout_iff _ doc).1 hkeys).2 v hv)).2
      (((throughout_iff _ doc).1 hnan).2 v hv)
  obtain ⟨fields, rfl, rfl, hget⟩ | ⟨items, i, rfl, rfl, -, hget⟩ := slotFor?_of_child? hslot hc
  · have hfields : ∀ e ∈ fields, e.2.equal e.2 = true := fun e he =>
      hself e.2 (List.mem_map.2 ⟨e, he, rfl⟩)
    exact equal_insert (hkeys _ (.self _)) hfields hget w
  · rw [fill_item]
    exact equal_placed hself hget w

/-- Making room is always seen, whatever the room is for. -/
theorem equal_fill_of_no_child (hslot : doc.slotFor? s = some slot) (hc : doc.child? s = none)
    (w : Value) : doc.equal (slot.fill w) = false := by
  obtain ⟨fields, rfl, rfl | ⟨hd, -⟩⟩ | ⟨items, i, rfl, hi, rfl | ⟨hd, -⟩⟩ :=
    slotFor?_cases hslot
  · have hkey : s ∉ fields.keys := (Fields.get?_eq_none_iff fields s).1 hc
    simp [Slot.fill, equal, Fields.length_insert, hkey]
  · exact equal_fill_of_leaf hd w
  · rw [child?, hi, Option.bind_some, List.getElem?_eq_none_iff] at hc
    rw [fill_item, Bool.eq_false_iff]
    intro h
    rw [equal, equalItems_iff] at h
    have hlen := h.length_eq
    rw [length_placed] at hlen
    omega
  · exact equal_fill_of_leaf hd w

end

/-! Along a whole path. -/

theorem equal_write_iff {doc : Value} (hkeys : DistinctKeys doc) (hnan : NaNFree doc)
    (path : Path) (v : Value) :
    doc.equal (doc.write path v).doc = true ↔
      Blocked doc path ∨ ∃ x, doc.slot? path = some x ∧ x.equal v = true := by
  induction path generalizing doc with
  | nil => simp [write, slot?, not_blocked_nil]
  | cons s rest ih =>
    cases hslot : doc.slotFor? s with
    | none =>
      have hb : Blocked doc (s :: rest) := (blocked_cons doc s rest).2 (.inl hslot)
      rw [write_of_blocked v hb]
      exact iff_of_true ((equal_self_iff hkeys).2 hnan) (.inl hb)
    | some slot =>
      rw [blocked_cons_of_slot hslot, slot?]
      simp only [write, hslot]
      cases hc : doc.child? s with
      | some child =>
        rw [equal_fill_of_child? hkeys hnan hslot hc, content_of_child? hslot hc,
          Option.bind_some]
        exact ih (hkeys.child? hc) (hnan.child? hc)
      | none =>
        -- nothing is blocked in what the write makes room with
        have hleaf := isContainer_of_isAbsent (content_isAbsent hslot hc)
        rw [equal_fill_of_no_child hslot hc]
        simp [not_blocked_of_leaf hleaf rest]

/-- **A comparison detects every assignment that has an effect.** A document without NaNs
    equals itself after an assignment exactly when the assignment was given up, or when the
    path had a slot already and the assigned value is equal to what the slot had. So an
    assignment that makes room is not given up and always detected, be it for a new key,
    also if its value is absent, for more items, also if they are holes, or for a container
    in the place of another value. -/
theorem equal_assign_iff {doc : Value} (hkeys : DistinctKeys doc) (hnan : NaNFree doc)
    (path : String) (v : Value) :
    (doc.equal (doc.assign path v).value = true ↔
      (doc.write (Path.parse path) v).refused.isSome = true ∨
        ∃ x, doc.slotAt? path = some x ∧ x.equal v = true) ∧
    (Grows doc (Path.parse path) →
      (doc.write (Path.parse path) v).refused = none ∧
        doc.equal (doc.assign path v).value = false) := by
  have hiff : doc.equal (doc.assign path v).value = true ↔
      Blocked doc (Path.parse path) ∨ ∃ x, doc.slotAt? path = some x ∧ x.equal v = true := by
    rw [assign_value]
    exact equal_write_iff hkeys hnan (Path.parse path) v
  refine ⟨?_, fun hgrows => ?_⟩
  · rw [hiff, refused_isSome_iff]
  · obtain ⟨hfree, hnone⟩ := (grows_iff doc _).1 hgrows
    constructor
    · rwa [← Option.not_isSome_iff_eq_none, refused_isSome_iff]
    · rw [Bool.eq_false_iff, Ne, hiff]
      rintro (hb | ⟨x, hx, -⟩)
      · exact hfree hb
      · rw [slotAt?, hnone] at hx
        cases hx

/-- An absent value for a hole, and a name that a list refuses: nothing to see. More holes, and
    an object in the place of `null`: both are seen, although only absent values came in. -/
theorem equal_assign_iff_absent :
    let doc := object [("list", array [hole]), ("size", null)]
    DistinctKeys doc ∧ NaNFree doc ∧
      doc.equal (doc.assign "list.0" undefined).value = true ∧
      doc.equal (doc.assign "list.name" undefined).value = true ∧
      (Grows doc (Path.parse "list.2") ∧
        doc.equal (doc.assign "list.2" hole).value = false) ∧
      (Grows doc (Path.parse "size.unit") ∧
        doc.equal (doc.assign "size.unit" undefined).value = false) := by
  intro doc
  have hkeys : DistinctKeys doc := by decide +kernel
  have hnan : NaNFree doc := by decide +kernel
  have hpitem : Path.parse "list.0" = ["list", "0"] := by decide +kernel
  have hplonger : Path.parse "list.2" = ["list", "2"] := by decide +kernel
  have hpunit : Path.parse "size.unit" = ["size", "unit"] := by decide +kernel
  have h0 : Path.index? "0" = some 0 := by decide +kernel
  have h2 : Path.index? "2" = some 2 := by decide +kernel
  have hitem : doc.slotAt? "list.0" = some hole := by
    simp [doc, slotAt?, hpitem, slot?, child?, Fields.get?, h0]
  have hrefused : (doc.write (Path.parse "list.name") undefined).refused.isSome = true := by
    decide +kernel
  have hlonger : Grows doc (Path.parse "list.2") :=
    ⟨["list"], "2", [], array [hole], hplonger, rfl, .longer h2 (by decide)⟩
  have hunit : Grows doc (Path.parse "size.unit") :=
    ⟨["size"], "unit", [], null, hpunit, rfl, .obstruction rfl⟩
  exact ⟨hkeys, hnan,
    (equal_assign_iff hkeys hnan "list.0" undefined).1.2 (.inr ⟨hole, hitem, rfl⟩),
    (equal_assign_iff hkeys hnan "list.name" undefined).1.2 (.inl hrefused),
    ⟨hlonger, ((equal_assign_iff hkeys hnan "list.2" hole).2 hlonger).2⟩,
    ⟨hunit, ((equal_assign_iff hkeys hnan "size.unit" undefined).2 hunit).2⟩⟩

end DocTree.Value
