import DocTree.Proofs.Document.NormalForm
import DocTree.Proofs.Document.Slot
import DocTree.Proofs.Value.Equality

/- Reads of a document in its stored form. A step into the normal form finds the normal form
   of what the step finds in the value as it came, except where that is absent: an absent
   item is found as `null`, and an absent field is not found (`child?_normal`). So a path
   that has no slot in the value reads as absent in the stored form, also where it goes on
   past an item that has become `null` (`read_normal_of_no_slot`); a slot whose content is
   not absent keeps its place and is in normal form itself (`slot?_normal`); and what
   becomes of a slot with absent content depends on what holds it
   (`slot?_normal_of_holder`). -/
namespace DocTree.Value

/-- What a container in normal form has in the place of a child. -/
def kept? : Value → Value → Option Value
  | array _, child => some (if child.isAbsent then null else child.normal)
  | _, child => if child.isAbsent then none else some child.normal

theorem kept?_of_present {child : Value} (h : child.isAbsent = false) (holder : Value) :
    holder.kept? child = some child.normal := by
  cases holder <;> simp [kept?, h]

theorem child?_normal {doc : Value} (hkeys : DistinctKeys doc) (s : String) :
    doc.normal.child? s = (doc.child? s).bind doc.kept? := by
  cases doc with
  | object fields =>
    have hd : Fields.Distinct fields := hkeys _ (.self _)
    rw [normal, child?, normalFields_eq, Fields.get?_mapSnd, child?,
      hd.get?_filter fun v => !v.isAbsent]
    cases Fields.get? fields s with
    | none => rfl
    | some child => cases ha : child.isAbsent <;> simp [kept?, ha, Option.filter_some]
  | array items =>
    rw [normal, child?, child?, normalItems_eq]
    cases Path.index? s with
    | none => rfl
    | some i => cases hi : items[i]? <;> simp [kept?, hi]
  | _ => rfl

section
variable {doc x : Value} {path : Path}

theorem slot?_normal (hkeys : DistinctKeys doc) (h : doc.slot? path = some x)
    (hx : x.isAbsent = false) : doc.normal.slot? path = some x.normal := by
  induction path generalizing doc with
  | nil =>
    obtain rfl : doc = x := Option.some.inj h
    rfl
  | cons s rest ih =>
    obtain ⟨child, hchild, hslot⟩ := Option.bind_eq_some_iff.1 h
    have hpresent : child.isAbsent = false := by
      -- nothing is found in an absent child, so the path ends there, at `x`
      cases rest with
      | nil =>
        obtain rfl : child = x := Option.some.inj hslot
        exact hx
      | cons t rest =>
        obtain ⟨inner, hinner, -⟩ := Option.bind_eq_some_iff.1 hslot
        exact isAbsent_of_child? hinner
    rw [slot?, child?_normal hkeys, hchild, Option.bind_some, kept?_of_present hpresent]
    exact ih (hkeys.child? hchild) hslot

theorem read_normal_of_no_slot (hkeys : DistinctKeys doc) (h : doc.slot? path = none) :
    doc.normal.read path = undefined := by
  induction path generalizing doc with
  | nil => cases h
  | cons s rest ih =>
    rw [read, child?_normal hkeys]
    cases hchild : doc.child? s with
    | none => rfl
    | some child =>
      rw [slot?, hchild, Option.bind_some] at h
      cases ha : child.isAbsent with
      | false =>
        rw [Option.bind_some, kept?_of_present ha]
        exact ih (hkeys.child? hchild) h
      | true =>
        -- what an absent child leaves behind has nothing in it either
        have hnull : null.read rest = undefined := by
          cases rest with
          | nil => cases h
          | cons t rest => rfl
        cases doc <;> simp [kept?, ha, hnull]

theorem slot?_normal_of_holder {holder : Value} (hkeys : DistinctKeys doc) (hne : path ≠ [])
    (hx : doc.slot? path = some x) (hholder : doc.slot? path.dropLast = some holder) :
    doc.normal.slot? path = holder.kept? x := by
  obtain ⟨holder', hholder', hchild⟩ := exists_holder hne hx
  obtain rfl : holder = holder' := Option.some.inj (hholder.symm.trans hholder')
  have hfront := slot?_normal hkeys hholder (isAbsent_of_child? hchild)
  have hlast := child?_normal (hkeys.slot? hholder) (path.getLast hne)
  rw [hchild, Option.bind_some] at hlast
  rw [← List.dropLast_concat_getLast hne, slot?_append, hfront, Option.bind_some, slot?, hlast]
  cases holder.kept? x <;> rfl

end

theorem Storable.slot? {v x : Value} {path : Path} (h : Storable v) (hx : v.slot? path = some x)
    (ha : x.isAbsent = false) : Storable x := by
  obtain ⟨-, hforeign, hdots⟩ := h
  exact ⟨ha, hforeign.slot? hx, hdots.slot? hx⟩

/-- **Sanitizing commutes with reads.** Where a path has no slot in a value that can be stored,
    it reads as absent afterwards. Where its slot is absent, it reads `null` if an array holds
    the slot, and absent if an object does. Any other slot can be stored by itself, and reads
    afterwards as its own stored form. -/
theorem readAt_sanitize {v : Value} (hkeys : DistinctKeys v) (hv : v.sanitize.fault? = none)
    (path : String) :
    (v.slotAt? path = none → v.sanitize.value.readAt path = undefined) ∧
    (∀ x items, v.slotAt? path = some x → x.isAbsent = true →
      v.slot? (Path.parse path).dropLast = some (array items) →
      v.sanitize.value.readAt path = null) ∧
    (∀ x fields, v.slotAt? path = some x → x.isAbsent = true →
      v.slot? (Path.parse path).dropLast = some (object fields) →
      v.sanitize.value.readAt path = undefined) ∧
    (∀ x, v.slotAt? path = some x → x.isAbsent = false →
      x.sanitize.fault? = none ∧ v.sanitize.value.readAt path = x.sanitize.value) := by
  rw [sanitize_value hv]
  refine ⟨read_normal_of_no_slot hkeys, ?_, ?_, ?_⟩
  · intro x items hx ha hholder
    have hslot := slot?_normal_of_holder hkeys (Path.parse_ne_nil path) hx hholder
    have hnull : (array items).kept? x = some null := congrArg some (if_pos ha)
    exact read_of_slot? (hslot.trans hnull)
  · intro x fields hx ha hholder
    have hslot := slot?_normal_of_holder hkeys (Path.parse_ne_nil path) hx hholder
    have hgone : (object fields).kept? x = none := if_pos ha
    exact read_of_no_slot (hslot.trans hgone)
  · intro x hx ha
    have hstorable := ((sanitize_fault?_iff v).1 hv).slot? hx ha
    have hfault := (sanitize_fault?_iff x).2 hstorable
    rw [sanitize_value hfault]
    exact ⟨hfault, read_of_present_slot (slot?_normal hkeys hx ha) ((isAbsent_normal x).trans ha)⟩

/-- An item and a field that are absent, a path past the item, and an object that is left
    without its only field. -/
theorem readAt_sanitize_sparse :
    let v := object [("tags", array [hole, object [("name", undefined)]]), ("size", hole)]
    DistinctKeys v ∧ v.sanitize.fault? = none ∧
      (v.slotAt? "tags.00" = some hole ∧ v.sanitize.value.readAt "tags.00" = null) ∧
      (v.slotAt? "size" = some hole ∧ v.sanitize.value.readAt "size" = undefined) ∧
      (v.slotAt? "tags.0.name" = none ∧ v.sanitize.value.readAt "tags.0.name" = undefined) ∧
      v.sanitize.value.readAt "tags.1" = object [] := by
  intro v
  have hkeys : DistinctKeys v := by decide +kernel
  have hv : v.sanitize.fault? = none := by decide +kernel
  have h00 : Path.index? "00" = some 0 := by decide +kernel
  have h0 : Path.index? "0" = some 0 := by decide +kernel
  have h1 : Path.index? "1" = some 1 := by decide +kernel
  have hptags : Path.parse "tags.00" = ["tags", "00"] := by decide +kernel
  have hpsize : Path.parse "size" = ["size"] := by decide +kernel
  have hppast : Path.parse "tags.0.name" = ["tags", "0", "name"] := by decide +kernel
  have hpinner : Path.parse "tags.1" = ["tags", "1"] := by decide +kernel
  have hitem : v.slotAt? "tags.00" = some hole := by
    simp [v, slotAt?, hptags, slot?, child?, Fields.get?, h00]
  have hfield : v.slotAt? "size" = some hole := by
    simp [v, slotAt?, hpsize, slot?, child?, Fields.get?]
  have hpast : v.slotAt? "tags.0.name" = none := by
    simp [v, slotAt?, hppast, slot?, child?, Fields.get?, h0]
  have hinner : v.slotAt? "tags.1" = some (object [("name", undefined)]) := by
    simp [v, slotAt?, hpinner, slot?, child?, Fields.get?, h1]
  exact ⟨hkeys, hv,
    ⟨hitem, (readAt_sanitize hkeys hv "tags.00").2.1 _ _ hitem rfl (by rw [hptags]; rfl)⟩,
    ⟨hfield, (readAt_sanitize hkeys hv "size").2.2.1 _ _ hfield rfl (by rw [hpsize]; rfl)⟩,
    ⟨hpast, (readAt_sanitize hkeys hv "tags.0.name").1 hpast⟩,
    ((readAt_sanitize hkeys hv "tags.1").2.2.2 _ hinner rfl).2⟩

end DocTree.Value
