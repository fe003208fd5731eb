import DocTree.Proofs.Document.Slot

/- Writing at a path and reading the same path back. A write is `Blocked` when the document,
   as it stands before the write, has an array on the path and the path goes on with a
   segment that is no index. What is proved:

   1. a write is given up exactly when it is blocked (`refused_isSome_iff`), and at the
      first segment that is refused (`refused_eq_some_iff`). Everything that a write creates
      on its way is entered by the segment it was created for, so the refusal never comes
      after a change: nothing absent is blocked (`not_blocked_of_leaf`);
   2. a blocked write changes nothing, and its path reads as absent
      (`write_of_blocked`, `read_of_blocked`);
   3. a write that is not blocked leaves its value in the slot of its path
      (`slot?_write_self`), so that it reads back (`read_write`). -/
namespace DocTree.Value

/-- Some beginning of the path leads, through fields and items that exist, to an array,
    and the next segment is no index. -/
def Blocked (doc : Value) (path : Path) : Prop :=
  ∃ front segment back items, path = front ++ segment :: back ∧
    doc.slot? front = some (array items) ∧ Path.index? segment = none

/-- The segment is the first on the path that is no index and comes to an array. -/
def FirstRefused (doc : Value) (path : Path) (segment : String) : Prop :=
  ∃ front back items, path = front ++ segment :: back ∧ ¬ Blocked doc front ∧
    doc.slot? front = some (array items) ∧ Path.index? segment = none

/-! A blocked write meets a step that is refused: at the root, or below the first child. -/

theorem blocked_iff_meets (doc : Value) (path : Path) :
    Blocked doc path ↔ Meets (fun there s => there.slotFor? s = none) doc path := by
  simp only [Blocked, Meets, slotFor?_eq_none_iff]
  constructor
  · intro hb
    obtain ⟨front, segment, back, items, hp, hslot, hidx⟩ := hb
    exact ⟨front, segment, back, array items, hp, hslot, ⟨items, rfl⟩, hidx⟩
  · intro hmeets
    obtain ⟨front, segment, back, there, hp, hslot, ⟨items, rfl⟩, hidx⟩ := hmeets
    exact ⟨front, segment, back, items, hp, hslot, hidx⟩

theorem not_blocked_nil (doc : Value) : ¬ Blocked doc [] := by
  rw [blocked_iff_meets]
  exact not_meets_nil doc

theorem blocked_cons (doc : Value) (s : String) (rest : Path) :
    Blocked doc (s :: rest) ↔
      doc.slotFor? s = none ∨ ∃ child, doc.child? s = some child ∧ Blocked child rest := by
  simp only [blocked_iff_meets]
  exact meets_cons doc s rest

/-- No step is refused in a value that is no container: there is no array in it. -/
theorem not_meets_of_leaf {P : Value → String → Prop}
    (hP : ∀ there s, P there s → there.slotFor? s = none) {doc : Value}
    (h : doc.isContainer = false) (path : Path) : ¬ Meets P doc path := by
  cases path with
  | nil => exact not_meets_nil doc
  | cons s rest =>
    rw [meets_cons]
    intro hmeets
    rcases hmeets with hs | ⟨child, hc, -⟩
    · obtain ⟨⟨items, rfl⟩, -⟩ := (slotFor?_eq_none_iff doc s).1 (hP doc s hs)
      cases h
    · rw [child?_of_leaf h] at hc
      cases hc

theorem not_blocked_of_leaf {doc : Value} (h : doc.isContainer = false) (path : Path) :
    ¬ Blocked doc path := by
  rw [blocked_iff_meets]
  exact not_meets_of_leaf (fun _ _ => id) h path

theorem not_blocked_of_slot? {doc x : Value} {path : Path} (h : doc.slot? path = some x) :
    ¬ Blocked doc path := by
  induction path generalizing doc with
  | nil => exact not_blocked_nil doc
  | cons s rest ih =>
    obtain ⟨child, hchild, hx⟩ := Option.bind_eq_some_iff.1 h
    obtain ⟨slot, hslot, -⟩ := exists_slot_of_child? hchild
    rw [blocked_cons, hslot, hchild]
    simpa using ih hx

theorem firstRefused_iff_meets (doc : Value) (path : Path) (segment : String) :
    FirstRefused doc path segment ↔
      Meets (fun there s => there.slotFor? s = none ∧ s = segment) doc path := by
  simp only [FirstRefused, Meets, slotFor?_eq_none_iff]
  constructor
  · intro hfirst
    obtain ⟨front, back, items, hp, -, hslot, hidx⟩ := hfirst
    exact ⟨front, segment, back, array items, hp, hslot, ⟨⟨items, rfl⟩, hidx⟩, rfl⟩
  · intro hmeets
    obtain ⟨front, s, back, there, hp, hslot, ⟨⟨items, rfl⟩, hidx⟩, rfl⟩ := hmeets
    exact ⟨front, back, items, hp, not_blocked_of_slot? hslot, hslot, hidx⟩

theorem blocked_iff_exists_firstRefused (doc : Value) (path : Path) :
    Blocked doc path ↔ ∃ segment, FirstRefused doc path segment := by
  constructor
  · intro hb
    obtain ⟨front, segment, back, items, hp, hslot, hidx⟩ := hb
    exact ⟨segment, front, back, items, hp, not_blocked_of_slot? hslot, hslot, hidx⟩
  · intro hfirst
    obtain ⟨segment, front, back, items, hp, -, hslot, hidx⟩ := hfirst
    exact ⟨front, segment, back, items, hp, hslot, hidx⟩

theorem isContainer_of_isAbsent {v : Value} (h : v.isAbsent = true) : v.isContainer = false := by
  cases v <;> simp [isAbsent, isContainer] at h ⊢

theorem read_of_isAbsent {v : Value} (h : v.isAbsent = true) (path : Path) :
    v.read path = undefined := by
  cases path with
  | nil => cases v <;> simp [isAbsent, read, isHole] at h ⊢
  | cons s rest => simp [read, child?_of_leaf (isContainer_of_isAbsent h)]

section
variable {doc : Value} {s : String} {slot : Slot}

/-- Past a step that is not refused, steps are refused as they are in the slot. -/
theorem meets_cons_of_slot {P : Value → String → Prop}
    (hP : ∀ there s, P there s → there.slotFor? s = none) (h : doc.slotFor? s = some slot)
    (rest : Path) : Meets P doc (s :: rest) ↔ Meets P slot.content rest := by
  have hfree : ¬ P doc s := fun hs => by simp [hP doc s hs] at h
  rw [meets_cons]
  cases hc : doc.child? s with
  | some child => simp [hfree, content_of_child? h hc]
  | none =>
    have hleaf := isContainer_of_isAbsent (content_isAbsent h hc)
    simp [hfree, not_meets_of_leaf hP hleaf rest]

theorem blocked_cons_of_slot (h : doc.slotFor? s = some slot) (rest : Path) :
    Blocked doc (s :: rest) ↔ Blocked slot.content rest := by
  simp only [blocked_iff_meets]
  exact meets_cons_of_slot (fun _ _ => id) h rest

theorem exists_slot_of_not_blocked {rest : Path} (hb : ¬ Blocked doc (s :: rest)) :
    ∃ slot, doc.slotFor? s = some slot ∧ ¬ Blocked slot.content rest := by
  cases h : doc.slotFor? s with
  | none => exact absurd ((blocked_cons doc s rest).2 (.inl h)) hb
  | some slot => exact ⟨slot, rfl, fun hrest => hb ((blocked_cons_of_slot h rest).2 hrest)⟩

theorem read_cons_of_slot (h : doc.slotFor? s = some slot) (rest : Path) :
    doc.read (s :: rest) = slot.content.read rest := by
  cases hc : doc.child? s with
  | some child => simp [read, hc, content_of_child? h hc]
  | none => simp [read, hc, read_of_isAbsent (content_isAbsent h hc)]

end

/-! Along a whole path. -/

/-- The segment at which a write is given up is the first that is refused. -/
theorem refused_eq_some_iff (doc : Value) (path : Path) (v : Value) (segment : String) :
    (doc.write path v).refused = some segment ↔ FirstRefused doc path segment := by
  rw [firstRefused_iff_meets]
  induction path generalizing doc with
  | nil => simp [write, not_meets_nil]
  | cons s rest ih =>
    cases h : doc.slotFor? s with
    | none => simp [write, h, meets_cons, child?_of_refused h]
    | some slot =>
      rw [meets_cons_of_slot (fun _ _ => And.left) h, ← ih slot.content]
      simp [write, h]

/-- **A write is given up exactly when it is blocked** by an array that was in the document
    before the write. -/
theorem refused_isSome_iff (doc : Value) (path : Path) (v : Value) :
    (doc.write path v).refused.isSome = true ↔ Blocked doc path := by
  simp only [Option.isSome_iff_exists, refused_eq_some_iff, blocked_iff_exists_firstRefused]

theorem refused_eq_none_iff (doc : Value) (path : Path) (v : Value) :
    (doc.write path v).refused = none ↔ ¬ Blocked doc path := by
  rw [← Option.not_isSome_iff_eq_none, refused_isSome_iff]

theorem write_of_blocked {doc : Value} {path : Path} (v : Value) (hb : Blocked doc path) :
    (doc.write path v).doc = doc := by
  induction path generalizing doc with
  | nil => exact absurd hb (not_blocked_nil doc)
  | cons s rest ih =>
    obtain h | ⟨child, hc, hb⟩ := (blocked_cons doc s rest).1 hb
    · simp [write, h]
    · cases h : doc.slotFor? s with
      | none => simp [write, h]
      | some slot =>
        -- the child comes back as it was, and is put back where it was
        simp only [write, h, content_of_child? h hc, ih hb]
        exact fill_of_child? h hc

theorem read_of_blocked {doc : Value} {path : Path} (hb : Blocked doc path) :
    doc.read path = undefined := by
  induction path generalizing doc with
  | nil => exact absurd hb (not_blocked_nil doc)
  | cons s rest ih =>
    obtain h | ⟨child, hc, hb⟩ := (blocked_cons doc s rest).1 hb
    · simp [read, child?_of_refused h]
    · simp [read, hc, ih hb]

/-- After a write that is not blocked the slot of its path has the written value as it is. -/
theorem slot?_write_self {doc : Value} {path : Path} (v : Value) (hb : ¬ Blocked doc path) :
    (doc.write path v).doc.slot? path = some v := by
  induction path generalizing doc with
  | nil => rfl
  | cons s rest ih =>
    obtain ⟨slot, hslot, hrest⟩ := exists_slot_of_not_blocked hb
    simp only [write, hslot, slot?, child?_fill hslot, Option.bind_some]
    exact ih hrest

theorem read_write {doc : Value} {path : Path} (v : Value) (hb : ¬ Blocked doc path) :
    (doc.write path v).doc.read path = if v.isHole then undefined else v :=
  read_of_slot? (slot?_write_self v hb)

/-! The document after an assignment is the written one, whatever is reported. -/

theorem assign_value (doc : Value) (path : String) (v : Value) :
    (doc.assign path v).value = (doc.write (Path.parse path) v).doc := by
  simp only [assign]
  split <;> rfl

/-- **An assignment is lost only to an array that was there.** It is given up exactly when
    it is blocked in the document as it stands; then the document stays as it was and the
    path reads as absent. Otherwise the path reads the assigned value, a hole as absent. -/
theorem assign_lost_iff_blocked (doc v : Value) (path : String) :
    ((doc.write (Path.parse path) v).refused.isSome = true ↔ Blocked doc (Path.parse path)) ∧
    (Blocked doc (Path.parse path) →
      (doc.assign path v).value = doc ∧ (doc.assign path v).value.readAt path = undefined) ∧
    (¬ Blocked doc (Path.parse path) →
      (doc.assign path v).value.readAt path = if v.isHole then undefined else v) := by
  refine ⟨refused_isSome_iff doc _ v, fun hb => ?_, fun hb => ?_⟩
  · rw [assign_value, write_of_blocked v hb]
    exact ⟨rfl, read_of_blocked hb⟩
  · rw [assign_value]
    exact read_write v hb

/-- A name below the list of tags is refused; a write through a scalar, which pads the
    array it makes, reads back. -/
theorem assign_lost_iff_blocked_tags :
    let doc := object [("tags", array [null]), ("size", bool true)]
    (Blocked doc (Path.parse "tags.first.0") ∧
      (doc.assign "tags.first.0" null).value = doc ∧
      (doc.assign "tags.first.0" null).value.readAt "tags.first.0" = undefined) ∧
    (¬ Blocked doc (Path.parse "size.02.unit") ∧
      (doc.assign "size.02.unit" null).value.readAt "size.02.unit" = null) := by
  intro doc
  have hb : Blocked doc (Path.parse "tags.first.0") :=
    ⟨["tags"], "first", ["0"], [null], by decide +kernel, rfl, by decide +kernel⟩
  have hf : ¬ Blocked doc (Path.parse "size.02.unit") := by
    rw [← (assign_lost_iff_blocked doc null "size.02.unit").1]
    decide +kernel
  exact ⟨⟨hb, (assign_lost_iff_blocked doc null "tags.first.0").2.1 hb⟩,
    hf, (assign_lost_iff_blocked doc null "size.02.unit").2.2 hf⟩

end DocTree.Value
