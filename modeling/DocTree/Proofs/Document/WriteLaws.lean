import DocTree.Proofs.Document.RoundTrip
import DocTree.Proofs.Document.Runs
import DocTree.Proofs.Document.Slot

/- The laws of one write: what it leaves of the reads at other paths, what a second write at its
   path leaves of it, that it agrees with reads and replacements on what a path leads to, and
   what it makes of the containers on its way.

   A write leaves other paths alone. Two paths `Diverge` when they share a beginning and
   then go on with different segments that are not two spellings of one index. Nothing is
   asked of the document: where the paths part there may be an object, an array, nothing
   yet, or a scalar that the write turns into a container. An item that the write pads
   over becomes a hole, which reads as absent, as a missing item does. -/
namespace DocTree.Value

/-- The paths part at some place, and not into one item of an array. -/
def Diverge (p q : Path) : Prop :=
  ∃ common s t p' q', p = common ++ s :: p' ∧ q = common ++ t :: q' ∧ s ≠ t ∧ ¬ SameIndex s t

theorem not_diverge_nil_left (q : Path) : ¬ Diverge [] q := by
  intro h
  obtain ⟨common, s, t, p', q', hp, -⟩ := h
  exact List.append_ne_nil_of_right_ne_nil common (List.cons_ne_nil s p') hp.symm

theorem not_diverge_nil_right (p : Path) : ¬ Diverge p [] := by
  intro h
  obtain ⟨common, s, t, p', q', -, hq, -⟩ := h
  exact List.append_ne_nil_of_right_ne_nil common (List.cons_ne_nil t q') hq.symm

theorem diverge_cons (s t : String) (p q : Path) :
    Diverge (s :: p) (t :: q) ↔ s = t ∧ Diverge p q ∨ s ≠ t ∧ ¬ SameIndex s t := by
  constructor
  · intro h
    obtain ⟨common, s', t', p', q', hp, hq, hne, hidx⟩ := h
    cases common with
    | nil =>
      obtain ⟨rfl, -⟩ := List.cons.inj hp
      obtain ⟨rfl, -⟩ := List.cons.inj hq
      exact .inr ⟨hne, hidx⟩
    | cons a common =>
      obtain ⟨rfl, rfl⟩ := List.cons.inj hp
      obtain ⟨rfl, rfl⟩ := List.cons.inj hq
      exact .inl ⟨rfl, common, s', t', p', q', rfl, rfl, hne, hidx⟩
  · intro h
    rcases h with ⟨rfl, common, s', t', p', q', rfl, rfl, hne, hidx⟩ | ⟨hne, hidx⟩
    · exact ⟨s :: common, s', t', p', q', rfl, rfl, hne, hidx⟩
    · exact ⟨[], s, t, p, q, rfl, rfl, hne, hidx⟩

instance decidableDiverge : (p q : Path) → Decidable (Diverge p q)
  | [], q => isFalse (not_diverge_nil_left q)
  | p, [] => isFalse (not_diverge_nil_right p)
  | s :: p, t :: q =>
    have := decidableDiverge p q
    decidable_of_iff _ (diverge_cons s t p q).symm

theorem Diverge.symm {p q : Path} (h : Diverge p q) : Diverge q p := by
  obtain ⟨common, s, t, p', q', hp, hq, hne, hidx⟩ := h
  refine ⟨common, t, s, q', p', hq, hp, hne.symm, ?_⟩
  intro hsame
  obtain ⟨i, ht, hs⟩ := hsame
  exact hidx ⟨i, hs, ht⟩

theorem read_fill_of_other {doc : Value} {s t : String} {slot : Slot}
    (h : doc.slotFor? s = some slot) (v : Value) (rest : Path) (hne : s ≠ t)
    (hidx : ¬ SameIndex s t) : (slot.fill v).read (t :: rest) = doc.read (t :: rest) := by
  obtain hsame | ⟨hnone, hhole⟩ := child?_fill_of_other h v hne hidx
  · simp only [read, hsame]
  · simp only [read, hnone, hhole]
    exact read_of_isAbsent rfl rest

/-- Down the common beginning the slots hold what the reads go on with. -/
theorem read_write_of_diverge (doc v : Value) {p q : Path} (h : Diverge p q) :
    (doc.write p v).doc.read q = doc.read q := by
  obtain ⟨common, s, t, p', q', rfl, rfl, hne, hidx⟩ := h
  induction common generalizing doc with
  | nil =>
    simp only [List.nil_append, write]
    cases h : doc.slotFor? s with
    | none => rfl
    | some slot => exact read_fill_of_other h _ q' hne hidx
  | cons a common ih =>
    -- the read goes through the slot that the write filled
    simp only [List.cons_append, write]
    cases h : doc.slotFor? a with
    | none => rfl
    | some slot =>
      rw [read_cons_of_slot h, ← ih slot.content]
      simp only [read, child?_fill h]

/-- **An assignment does not disturb unrelated reads**, whatever the document holds where
    the paths part, and whether or not the assignment is given up. -/
theorem readAt_assign_of_diverge (doc v : Value) (p q : String)
    (h : Diverge (Path.parse p) (Path.parse q)) :
    (doc.assign p v).value.readAt q = doc.readAt q := by
  rw [readAt, assign_value]
  exact read_write_of_diverge doc v h

/-- The paths part in an array that the first one pads: the second one keeps reading absent. -/
theorem readAt_assign_padded :
    let doc := object [("tags", array [null])]
    Diverge (Path.parse "tags.05.name") (Path.parse "tags.3") ∧
      (doc.assign "tags.05.name" null).value.readAt "tags.3" = doc.readAt "tags.3" := by
  intro doc
  have h : Diverge (Path.parse "tags.05.name") (Path.parse "tags.3") := by
    refine ⟨["tags"], "05", "3", ["name"], [], by decide +kernel, by decide +kernel,
      by decide +kernel, ?_⟩
    intro hsame
    obtain ⟨i, h5, h3⟩ := hsame
    have e5 : Path.index? "05" = some 5 := by decide +kernel
    have e3 : Path.index? "3" = some 3 := by decide +kernel
    rw [e5] at h5
    rw [e3, ← h5] at h3
    cases h3
  exact ⟨h, readAt_assign_of_diverge doc null "tags.05.name" "tags.3" h⟩

/-! ## Writing twice at one path, and writing back what was read

    The first of two writes makes the room that the second one would have made: a slot that was
    filled is the slot of the same step again, with the fill as its content, and filling it anew
    forgets that fill (`slotFor?_fill`, `Slot.fill_refilled`). So nothing of the first write is
    left, and whether a write is given up does not depend on the value (`write_write`,
    `refused_write_eq`). To write back what a slot has changes nothing (`write_of_slot?`). A
    read takes a hole for absent and finds absent where no slot is, and these two it does not
    write back as they were. -/

/-! One step. -/

/-- The slot once it was filled. -/
def Slot.refilled : Slot → Value → Slot
  | field fields key, v => field (fields.insert key v) key
  | item items i, v => item (placed items i v) i

theorem Slot.content_refilled (slot : Slot) (v : Value) : (slot.refilled v).content = v := by
  cases slot with
  | field fields key =>
    show (Fields.get? (fields.insert key v) key).getD undefined = v
    rw [Fields.get?_insert_self, Option.getD_some]
  | item items i =>
    show ((placed items i v)[i]?).getD hole = v
    rw [getD_placed, if_pos rfl]

theorem Slot.fill_refilled (slot : Slot) (v w : Value) : (slot.refilled v).fill w = slot.fill w := by
  cases slot with
  | field fields key =>
    show object ((fields.insert key v).insert key w) = object (fields.insert key w)
    rw [Fields.insert_insert]
  | item items i =>
    calc (Slot.item (placed items i v) i).fill w
        = array (placed (placed items i v) i w) := fill_item _ i w
      _ = array (placed items i w) := by rw [placed_placed]
      _ = (Slot.item items i).fill w := (fill_item items i w).symm

theorem slotFor?_fill {doc : Value} {s : String} {slot : Slot} (h : doc.slotFor? s = some slot)
    (v : Value) : (slot.fill v).slotFor? s = some (slot.refilled v) := by
  obtain ⟨fields, rfl, -⟩ | ⟨items, i, rfl, hi, -⟩ := slotFor?_cases h
  · rfl
  · rw [fill_item, slotFor?, hi]
    rfl

/-! Along a whole path. -/

theorem write_write (doc v w : Value) (path : Path) :
    (doc.write path v).doc.write path w = doc.write path w := by
  induction path generalizing doc with
  | nil => rfl
  | cons s rest ih =>
    cases h : doc.slotFor? s with
    | none =>
      have hkept : (doc.write (s :: rest) v).doc = doc := by simp only [write, h]
      rw [hkept]
    | some slot =>
      have hfilled : (doc.write (s :: rest) v).doc = slot.fill (slot.content.write rest v).doc := by
        simp only [write, h]
      rw [hfilled, write, write, h, slotFor?_fill h]
      simp only [Slot.content_refilled, Slot.fill_refilled, ih slot.content]

theorem refused_write_eq (doc v w : Value) (path : Path) :
    (doc.write path v).refused = (doc.write path w).refused := by
  ext segment
  simp only [refused_eq_some_iff]

theorem write_of_slot? {doc x : Value} {path : Path} (h : doc.slot? path = some x) :
    (doc.write path x).doc = doc := by
  induction path generalizing doc with
  | nil => exact (Option.some.inj h).symm
  | cons s rest ih =>
    obtain ⟨child, hchild, hx⟩ := Option.bind_eq_some_iff.1 h
    obtain ⟨slot, hslot, hcontent⟩ := exists_slot_of_child? hchild
    calc (doc.write (s :: rest) x).doc
        = slot.fill (child.write rest x).doc := by simp only [write, hslot, hcontent]
      _ = slot.fill child := by rw [ih hx]
      _ = doc := fill_of_child? hslot hchild

theorem isHole_read (doc : Value) (path : Path) : (doc.read path).isHole = false := by
  cases h : doc.slot? path with
  | none =>
    rw [read_of_no_slot h]
    rfl
  | some x =>
    rw [read_of_slot? h]
    by_cases hx : x.isHole = true
    · rw [if_pos hx]
      rfl
    · rw [if_neg hx]
      exact Bool.eq_false_iff.2 hx

theorem write_read_eq_self_iff (doc : Value) (path : Path) :
    (doc.write path (doc.read path)).doc = doc ↔
      Blocked doc path ∨ ∃ x, doc.slot? path = some x ∧ x.isHole = false := by
  constructor
  · intro hsame
    by_cases hb : Blocked doc path
    · exact .inl hb
    -- the write leaves what it wrote in the slot, so the slot was there before it
    · have hslot := slot?_write_self (doc.read path) hb
      rw [hsame] at hslot
      exact .inr ⟨doc.read path, hslot, isHole_read doc path⟩
  · rintro (hb | ⟨x, hslot, hx⟩)
    · exact write_of_blocked _ hb
    · have hread : doc.read path = x := by
        rw [read_of_slot? hslot, hx]
        rfl
      rw [hread]
      exact write_of_slot? hslot

/-- **The last of the assignments at one path counts, and nothing else shows.** After another
    assignment at the same path an assignment leaves exactly the document that it leaves
    alone, and it is given up in both cases, at the same segment, or in neither; the other
    one is given up there too. Assigning what the path reads leaves the document exactly as
    it is where the path has a slot that is no hole, or where the assignment is given up, and
    nowhere else. -/
theorem assign_overwrites (doc v w : Value) (path : String) :
    ((doc.assign path v).value.assign path w).value = (doc.assign path w).value ∧
    ((doc.assign path v).value.write (Path.parse path) w).refused =
      (doc.write (Path.parse path) w).refused ∧
    (doc.write (Path.parse path) v).refused = (doc.write (Path.parse path) w).refused ∧
    ((doc.assign path (doc.readAt path)).value = doc ↔
      (doc.write (Path.parse path) w).refused.isSome = true ∨
        ∃ x, doc.slotAt? path = some x ∧ x.isHole = false) := by
  have htwice : (doc.assign path v).value.write (Path.parse path) w =
      doc.write (Path.parse path) w := by
    rw [assign_value]
    exact write_write doc v w (Path.parse path)
  refine ⟨?_, ?_, refused_write_eq doc v w (Path.parse path), ?_⟩
  · rw [assign_value, assign_value doc path w, htwice]
  · rw [htwice]
  · rw [assign_value, refused_isSome_iff]
    exact write_read_eq_self_iff doc (Path.parse path)

/-! ## What a path leads to, found in three ways

    A read, a replacement in an existing slot and a write go down a path each on their own: the
    first two by `child?`, the last by `slotFor?`. They agree. A replacement goes where the slot
    of its path is, and fails where there is none (`replace?_of_slot?`, `replace?_of_no_slot`);
    where there is one, the write makes no room and leaves the same document; and a write that
    is not given up has a slot with exactly the written value, a hole included
    (`slot?_write_self`). -/

/-! One step. -/

section
variable {doc c : Value} {s : String} {slot : Slot}

theorem replace?_cons_of_child? (h : doc.slotFor? s = some slot) (hc : doc.child? s = some c)
    (rest : Path) (v : Value) :
    doc.replace? (s :: rest) v = (c.replace? rest v).map slot.fill := by
  obtain ⟨fields, rfl, rfl, hget⟩ | ⟨items, i, rfl, rfl, hi, hget⟩ := slotFor?_of_child? h hc
  · simp only [replace?, hget, Option.bind_eq_bind, Option.bind_some, Option.pure_def,
      Option.map_eq_bind]
    rfl
  · -- the item is there, so that nothing is padded
    have hfill : (Slot.item items i).fill = fun changed => array (items.set i changed) := by
      funext changed
      rw [fill_item, placed, if_pos (List.getElem?_eq_some_iff.1 hget).1]
    simp only [replace?, hi, Option.bind_eq_bind, Option.bind_some, Option.pure_def, hget, hfill,
      Option.map_eq_bind]
    rfl

theorem replace?_cons_of_no_child (hc : doc.child? s = none) (rest : Path) (v : Value) :
    doc.replace? (s :: rest) v = none := by
  cases doc with
  | object fields =>
    simp only [child?] at hc
    simp only [replace?, hc]
    rfl
  | array items =>
    simp only [child?] at hc
    simp only [replace?]
    cases hi : Path.index? s with
    | none => rfl
    | some i =>
      rw [hi, Option.bind_some] at hc
      simp only [Option.bind_eq_bind, Option.bind_some, hc]
      rfl
  | _ => rfl

end

/-! Along a whole path. -/

section
variable {doc x : Value} {path : Path}

theorem replace?_of_slot? (h : doc.slot? path = some x) (v : Value) :
    doc.replace? path v = some (doc.write path v).doc := by
  induction path generalizing doc with
  | nil => cases doc <;> rfl
  | cons s rest ih =>
    obtain ⟨child, hchild, hx⟩ := Option.bind_eq_some_iff.1 h
    obtain ⟨slot, hslot, hcontent⟩ := exists_slot_of_child? hchild
    rw [replace?_cons_of_child? hslot hchild, ih hx]
    simp only [write, hslot, hcontent, Option.map_some]

theorem replace?_of_no_slot (h : doc.slot? path = none) (v : Value) :
    doc.replace? path v = none := by
  induction path generalizing doc with
  | nil => cases h
  | cons s rest ih =>
    cases hchild : doc.child? s with
    | none => exact replace?_cons_of_no_child hchild rest v
    | some child =>
      obtain ⟨slot, hslot, -⟩ := exists_slot_of_child? hchild
      rw [slot?, hchild, Option.bind_some] at h
      rw [replace?_cons_of_child? hslot hchild, ih h, Option.map_none]

end

/-- **Reads, replacements and writes agree on what a path leads to.** Without a slot the path
    reads as absent and nothing can be replaced there. With one it reads what the slot has, a
    hole as absent, and a replacement leaves the document that a write leaves. A write that
    is not given up leaves a slot with exactly the written value, also if that is a hole. -/
theorem resolvers_agree (doc v : Value) (path : String) :
    (doc.slotAt? path = none → doc.readAt path = undefined ∧ doc.replaceAt? path v = none) ∧
    (∀ x, doc.slotAt? path = some x →
      doc.readAt path = (if x.isHole then undefined else x) ∧
      doc.replaceAt? path v = some (doc.assign path v).value) ∧
    ((doc.write (Path.parse path) v).refused = none →
      (doc.assign path v).value.slotAt? path = some v) := by
  rw [assign_value]
  refine ⟨fun h => ?_, fun x h => ?_, fun h => ?_⟩
  · exact ⟨read_of_no_slot h, replace?_of_no_slot h v⟩
  · exact ⟨read_of_slot? h, replace?_of_slot? h v⟩
  · apply slot?_write_self
    rw [← refused_isSome_iff doc (Path.parse path) v, h]
    exact Bool.false_ne_true

/-- A hole below a key of digits, an index past the limit, and a hole put where a write makes
    room. -/
theorem resolvers_agree_digits :
    let doc := object [("7", array [hole, null])]
    (doc.slotAt? "7.00" = some hole ∧ doc.readAt "7.00" = undefined ∧
      doc.replaceAt? "7.00" null = some (doc.assign "7.00" null).value) ∧
    (doc.slotAt? "7.1048577" = none ∧ doc.readAt "7.1048577" = undefined ∧
      doc.replaceAt? "7.1048577" null = none) ∧
    ((doc.write (Path.parse "7.0.07") hole).refused = none ∧
      (doc.assign "7.0.07" hole).value.slotAt? "7.0.07" = some hole) := by
  intro doc
  have hphole : Path.parse "7.00" = ["7", "00"] := by decide +kernel
  have hppast : Path.parse "7.1048577" = ["7", "1048577"] := by decide +kernel
  have h00 : Path.index? "00" = some 0 := by decide +kernel
  have hpast : Path.index? "1048577" = none := by decide +kernel
  have hhole : doc.slotAt? "7.00" = some hole := by
    simp [doc, slotAt?, hphole, slot?, child?, Fields.get?, h00]
  have hnone : doc.slotAt? "7.1048577" = none := by
    simp [doc, slotAt?, hppast, slot?, child?, Fields.get?, hpast]
  have hfree : (doc.write (Path.parse "7.0.07") hole).refused = none := by decide +kernel
  exact ⟨⟨hhole, (resolvers_agree doc null "7.00").2.1 hole hhole⟩,
    ⟨hnone, (resolvers_agree doc null "7.1048577").1 hnone⟩,
    hfree, (resolvers_agree doc hole "7.0.07").2.2 hfree⟩

/-! ## What a write makes of the containers on its way

    At every place that its path goes through it fills one slot, that of the next segment, and
    that slot is the one of the value that was there before, or of an absent value where there
    was nothing (`slot?_write`). So a container keeps its kind and all that it held, next to the
    one child that the path goes into (`keepsFields_insert`, `keepsItems_placed`), and a value
    that is no container gives way to a new one with that child alone. -/

/-- The fields after a write under a key: the keys in their order, the written one last if it
    is new, and every other field as it was. -/
structure KeepsFields (key : String) (before after : Fields Value) : Prop where
  keys : Fields.keys after =
    if key ∈ Fields.keys before then Fields.keys before else Fields.keys before ++ [key]
  others : ∀ other, other ≠ key → Fields.get? after other = Fields.get? before other

/-- The items after a write at a place: as many as there were, or as the place needs, with
    holes up to it, and every other item as it was. -/
structure KeepsItems (i : Nat) (before after : List Value) : Prop where
  length : after.length = max before.length (i + 1)
  padding : ∀ j, before.length ≤ j → j < i → after[j]? = some hole
  others : ∀ j, j < before.length → j ≠ i → after[j]? = before[j]?

theorem keepsFields_insert (fields : Fields Value) (key : String) (x : Value) :
    KeepsFields key fields (fields.insert key x) where
  keys := Fields.keys_insert fields key x
  others _ hother := Fields.get?_insert_of_ne fields x hother

theorem keepsItems_placed (items : List Value) (i : Nat) (x : Value) :
    KeepsItems i items (placed items i x) where
  length := length_placed items i x
  padding j hj hji := by
    rw [getElem?_placed, if_neg (Nat.ne_of_lt hji), if_neg (Nat.not_lt.2 hj), if_pos hji]
  others j hj hji := by
    rw [getElem?_placed, if_neg hji, if_pos hj]

theorem placed_nil (i : Nat) (x : Value) : placed [] i x = List.replicate i hole ++ [x] := rfl

/-! The slot that a write fills, at each place on its way. -/

theorem slotFor?_of_leaf {a b : Value} (ha : a.isContainer = false) (hb : b.isContainer = false)
    (s : String) : a.slotFor? s = b.slotFor? s := by
  rw [← slotFor?_emptyFor ha, slotFor?_emptyFor hb]

theorem isContainer_getD_slot? {a : Value} (ha : a.isContainer = false) (path : Path) :
    ((a.slot? path).getD undefined).isContainer = false := by
  cases path with
  | nil => exact ha
  | cons s rest =>
    rw [slot?, child?_of_leaf ha]
    rfl

/-- Wherever the path of a write goes through, the write fills the slot of the next segment
    in what was there. -/
theorem slot?_write {doc v : Value} {front back : Path} {s : String}
    (h : ¬ Blocked doc (front ++ s :: back)) :
    ∃ slot x, ((doc.slot? front).getD undefined).slotFor? s = some slot ∧
      (doc.write (front ++ s :: back) v).doc.slot? front = some (slot.fill x) := by
  induction front generalizing doc with
  | nil =>
    obtain ⟨slot, hs, -⟩ := exists_slot_of_not_blocked h
    refine ⟨slot, (slot.content.write back v).doc, hs, ?_⟩
    simp [write, hs, slot?]
  | cons a front ih =>
    rw [List.cons_append] at h ⊢
    obtain ⟨slot, ha, hrest⟩ := exists_slot_of_not_blocked h
    obtain ⟨inner, x, hinner, hfilled⟩ := ih hrest
    refine ⟨inner, x, ?_, ?_⟩
    · rw [← hinner, slot?]
      cases hc : doc.child? a with
      | some child => rw [content_of_child? ha hc, Option.bind_some]
      | none =>
        -- what the write made room with is absent, and so is all that is found in it
        have hleaf := isContainer_of_isAbsent (content_isAbsent ha hc)
        exact slotFor?_of_leaf rfl (isContainer_getD_slot? hleaf front) s
    · simp only [write, ha, slot?, child?_fill ha, Option.bind_some]
      exact hfilled

/-- **A write never reshapes a container**, unless it is given up, in which case it changes
    nothing at all. An object on the way keeps its fields in their order, and the next
    segment becomes its last key if it is new; an array keeps its items, and is padded with
    holes up to the index that the next segment is; and where there was nothing, or a value
    that is no container, there is a new array or object with that child alone. -/
theorem assign_keeps_shape {doc v : Value} {path : String} {front back : Path} {s : String}
    (hpath : Path.parse path = front ++ s :: back)
    (hwritten : (doc.write (Path.parse path) v).refused = none) :
    (∀ fields, doc.slot? front = some (object fields) →
      ∃ fields', (doc.assign path v).value.slot? front = some (object fields') ∧
        KeepsFields s fields fields') ∧
    (∀ items, doc.slot? front = some (array items) →
      ∃ i items', Path.index? s = some i ∧
        (doc.assign path v).value.slot? front = some (array items') ∧
        KeepsItems i items items') ∧
    ((∀ there, doc.slot? front = some there → there.isContainer = false) →
      (∀ i, Path.index? s = some i →
        ∃ x, (doc.assign path v).value.slot? front =
          some (array (List.replicate i hole ++ [x]))) ∧
      (Path.index? s = none →
        ∃ x, (doc.assign path v).value.slot? front = some (object [(s, x)]))) := by
  have hfree : ¬ Blocked doc (front ++ s :: back) := by
    rw [← hpath, ← refused_isSome_iff doc (Path.parse path) v, hwritten]
    exact Bool.false_ne_true
  obtain ⟨slot, x, hslot, hfilled⟩ := slot?_write (v := v) hfree
  rw [assign_value, hpath, hfilled]
  refine ⟨fun fields hfields => ?_, fun items hitems => ?_, fun hleaf => ?_⟩
  · rw [hfields] at hslot
    obtain rfl := Option.some.inj hslot
    exact ⟨_, rfl, keepsFields_insert fields s x⟩
  · rw [hitems] at hslot
    obtain ⟨i, hi, rfl⟩ := Option.map_eq_some_iff.1 hslot
    exact ⟨i, _, hi, congrArg some (fill_item items i x), keepsItems_placed items i x⟩
  · have hempty : undefined.slotFor? s = some slot := by
      rw [← hslot]
      refine slotFor?_of_leaf rfl ?_ s
      cases hthere : doc.slot? front with
      | none => rfl
      | some there => exact hleaf there hthere
    refine ⟨fun i hi => ?_, fun hi => ?_⟩
    · simp only [slotFor?, hi, Option.some.injEq] at hempty
      exact ⟨x, by rw [← hempty, fill_item, placed_nil]⟩
    · simp only [slotFor?, hi, Option.some.injEq] at hempty
      exact ⟨x, by rw [← hempty]; rfl⟩

/-- A list under an old key grows past a hole, and where it had nothing an object comes in. -/
theorem assign_keeps_shape_list :
    let doc := object [("size", number ⟨0⟩), ("list", array [null])]
    let after := (doc.assign "list.02.name" null).value
    (∃ fields', after.slot? [] = some (object fields') ∧
      KeepsFields "list" [("size", number ⟨0⟩), ("list", array [null])] fields') ∧
    (∃ items', after.slot? ["list"] = some (array items') ∧ KeepsItems 2 [null] items') ∧
    ∃ x, after.slot? ["list", "02"] = some (object [("name", x)]) := by
  intro doc after
  have hroot : Path.parse "list.02.name" = [] ++ "list" :: ["02", "name"] := by decide +kernel
  have hinlist : Path.parse "list.02.name" = ["list"] ++ "02" :: ["name"] := hroot
  have hinitem : Path.parse "list.02.name" = ["list", "02"] ++ "name" :: [] := hroot
  have hindex : Path.index? "02" = some 2 := by decide +kernel
  have hname : Path.index? "name" = none := by decide +kernel
  have hwritten : (doc.write (Path.parse "list.02.name") null).refused = none := by
    decide +kernel
  have hlist : doc.slot? ["list"] = some (array [null]) := by
    simp [doc, slot?, child?, Fields.get?]
  have hnothing : doc.slot? ["list", "02"] = none := by
    simp [doc, slot?, child?, Fields.get?, hindex]
  refine ⟨(assign_keeps_shape hroot hwritten).1 _ rfl, ?_, ?_⟩
  · obtain ⟨i, items', hi, hitems', hkeeps⟩ :=
      (assign_keeps_shape hinlist hwritten).2.1 _ hlist
    obtain rfl : 2 = i := Option.some.inj (hindex.symm.trans hi)
    exact ⟨items', hitems', hkeeps⟩
  · refine ((assign_keeps_shape hinitem hwritten).2.2 ?_).2 hname
    rw [hnothing]
    intro there hthere
    cases hthere

end DocTree.Value
