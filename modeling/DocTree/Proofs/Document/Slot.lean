import DocTree.Document.Read
import DocTree.Document.Update
import DocTree.Proofs.Value.Within

/- One step of a path, seen by readers and by writers, and look-ups along whole paths. A reader
   takes a step with `child?`, a writer with `slotFor?`, and the two were written apart. The
   laws here tie them together and are all that the proofs about whole paths need:

   1. a writer's step is refused by an array and by nothing else (`slotFor?_eq_none_iff`);
   2. the slot of a step holds what a reader finds there, or an absent value where a
      reader finds nothing (`content_of_child?`, `content_isAbsent`);
   3. a filled slot reads back (`child?_fill`), and filling a slot with what it holds
      changes nothing (`fill_of_child?`);
   4. filling a slot leaves every other step as it was, except that padding turns a
      missing item into a hole (`child?_fill_of_other`). -/
namespace DocTree.Value

/-- Two segments that are two spellings of one index. -/
def SameIndex (s t : String) : Prop := ∃ i, Path.index? s = some i ∧ Path.index? t = some i

theorem sameIndex_iff (s t : String) :
    SameIndex s t ↔ Path.isIndex s = true ∧ Path.index? s = Path.index? t := by
  rw [SameIndex, Path.isIndex, Option.isSome_iff_exists]
  constructor
  · intro h
    obtain ⟨i, hs, ht⟩ := h
    exact ⟨⟨i, hs⟩, hs.trans ht.symm⟩
  · intro h
    obtain ⟨⟨i, hs⟩, hst⟩ := h
    exact ⟨i, hs, hst ▸ hs⟩

instance (s t : String) : Decidable (SameIndex s t) := decidable_of_iff _ (sameIndex_iff s t).symm

/-! Items after a write. -/

/-- The items with `v` at place `i`, padded with holes up to there. -/
def placed (items : List Value) (i : Nat) (v : Value) : List Value :=
  if i < items.length then items.set i v
  else items ++ List.replicate (i - items.length) hole ++ [v]

theorem fill_item (items : List Value) (i : Nat) (v : Value) :
    (Slot.item items i).fill v = array (placed items i v) := by
  simp only [Slot.fill, placed]
  split <;> rfl

theorem Slot.isContainer_fill (slot : Slot) (v : Value) : (slot.fill v).isContainer = true := by
  cases slot with
  | field fields key => rfl
  | item items i =>
    rw [fill_item]
    rfl

theorem getElem?_placed (items : List Value) (i j : Nat) (v : Value) :
    (placed items i v)[j]? =
      if j = i then some v else if j < items.length then items[j]?
      else if j < i then some hole else none := by
  unfold placed
  split
  · next hi =>
    rw [List.getElem?_set]
    by_cases hj : j = i
    · simp [hj, hi]
    · have hlen : ¬ j < items.length → ¬ j < i := by omega
      by_cases hjl : j < items.length
      · simp [hj, Ne.symm hj, hjl]
      · simp [hj, Ne.symm hj, hjl, hlen hjl]
  · next hi =>
    rw [List.append_assoc]
    by_cases hjl : j < items.length
    · have hj : j ≠ i := by omega
      simp [List.getElem?_append_left hjl, hj, hjl]
    -- past the old items come the holes, and then `v`
    · rw [List.getElem?_append_right (by omega)]
      by_cases hj : j < i
      · rw [List.getElem?_append_left (by rw [List.length_replicate]; omega)]
        rw [List.getElem?_replicate, if_pos (by omega)]
        simp [hjl, hj, Nat.ne_of_lt hj]
      · rw [List.getElem?_append_right (by rw [List.length_replicate]; omega)]
        rw [List.length_replicate]
        by_cases hji : j = i
        · simp [hji]
        · have hpast : j - items.length - (i - items.length) ≠ 0 := by omega
          simp [hji, hjl, hj, hpast]

theorem length_placed (items : List Value) (i : Nat) (v : Value) :
    (placed items i v).length = max items.length (i + 1) := by
  unfold placed
  split
  · rw [List.length_set]
    omega
  · rw [List.length_append, List.length_append, List.length_replicate, List.length_singleton]
    omega

theorem getD_placed (items : List Value) (i j : Nat) (v : Value) :
    (placed items i v)[j]?.getD hole = if j = i then v else items[j]?.getD hole := by
  rw [getElem?_placed]
  by_cases hj : j = i
  · simp [hj]
  · by_cases hlt : j < items.length
    · simp [hj, hlt]
    · by_cases hji : j < i <;> simp [hj, hlt, hji]

theorem mem_placed {items : List Value} {i : Nat} {x v : Value} (h : x ∈ placed items i v) :
    x ∈ items ∨ x = hole ∨ x = v := by
  obtain ⟨j, hj⟩ := List.mem_iff_getElem?.1 h
  rw [getElem?_placed] at hj
  split at hj
  · exact .inr (.inr (Option.some.inj hj).symm)
  · split at hj
    · exact .inl (List.mem_of_getElem? hj)
    · split at hj
      · exact .inr (.inl (Option.some.inj hj).symm)
      · cases hj

/-- Of two values placed at one index the second one counts, and only the first one pads. -/
theorem placed_placed (items : List Value) (i : Nat) (v w : Value) :
    placed (placed items i v) i w = placed items i w := by
  apply List.ext_getElem?
  intro j
  simp only [getElem?_placed, length_placed]
  by_cases hj : j = i
  · rw [if_pos hj, if_pos hj]
  · have hlen : j < max items.length (i + 1) ↔ j < items.length ∨ j < i := by omega
    simp only [hj, hlen, if_false]
    by_cases hjl : j < items.length
    · simp [hjl]
    · by_cases hji : j < i <;> simp [hjl, hji]

/-! What a writer's step does. -/

theorem slotFor?_eq_none_iff (doc : Value) (s : String) :
    doc.slotFor? s = none ↔ (∃ items, doc = array items) ∧ Path.index? s = none := by
  cases doc with
  | array items => simp [slotFor?]
  | object fields => simp [slotFor?]
  -- the fresh container is chosen by the segment, so it takes it
  | _ => simp only [slotFor?]; split <;> simp

/-- Every slot a step can lead to: a field, of the object itself or of a fresh one, or an
    item, of the array itself or of a fresh one. -/
theorem slotFor?_cases {doc : Value} {s : String} {slot : Slot} (h : doc.slotFor? s = some slot) :
    (∃ fields, slot = .field fields s ∧
      (doc = object fields ∨ doc.isContainer = false ∧ fields = [])) ∨
    (∃ items i, slot = .item items i ∧ Path.index? s = some i ∧
      (doc = array items ∨ doc.isContainer = false ∧ items = [])) := by
  cases doc with
  | object fields =>
    simp only [slotFor?, Option.some.injEq] at h
    exact .inl ⟨fields, h.symm, .inl rfl⟩
  | array items =>
    simp only [slotFor?, Option.map_eq_some_iff] at h
    obtain ⟨i, hi, rfl⟩ := h
    exact .inr ⟨items, i, rfl, hi, .inl rfl⟩
  | _ =>
    simp only [slotFor?] at h
    split at h
    · next i hi =>
      cases h
      exact .inr ⟨[], i, rfl, hi, .inr ⟨rfl, rfl⟩⟩
    · cases h
      exact .inl ⟨[], rfl, .inr ⟨rfl, rfl⟩⟩

theorem child?_of_leaf {doc : Value} (h : doc.isContainer = false) (s : String) :
    doc.child? s = none := by
  cases doc with
  | array items => cases h
  | object fields => cases h
  | _ => rfl

/-! A reader and a writer at the same step. -/

section
variable {doc : Value} {s : String} {slot : Slot}

theorem child?_of_refused (h : doc.slotFor? s = none) : doc.child? s = none := by
  obtain ⟨⟨items, rfl⟩, hs⟩ := (slotFor?_eq_none_iff doc s).1 h
  simp [child?, hs]

/-- Where a reader finds a child, the writer's slot is of the value itself, never of a fresh
    container, and the child is in it. -/
theorem slotFor?_of_child? {c : Value} (h : doc.slotFor? s = some slot)
    (hc : doc.child? s = some c) :
    (∃ fields, doc = object fields ∧ slot = .field fields s ∧ Fields.get? fields s = some c) ∨
    (∃ items i, doc = array items ∧ slot = .item items i ∧ Path.index? s = some i ∧
      items[i]? = some c) := by
  cases doc with
  | object fields =>
    obtain rfl := Option.some.inj h
    exact .inl ⟨fields, rfl, rfl, hc⟩
  | array items =>
    obtain ⟨i, hi, hic⟩ := Option.bind_eq_some_iff.1 hc
    obtain rfl : Slot.item items i = slot := by simpa [slotFor?, hi] using h
    exact .inr ⟨items, i, rfl, rfl, hi, hic⟩
  | _ => cases hc

theorem content_of_child? {c : Value} (h : doc.slotFor? s = some slot)
    (hc : doc.child? s = some c) : slot.content = c := by
  obtain ⟨fields, -, rfl, hget⟩ | ⟨items, i, -, rfl, -, hget⟩ := slotFor?_of_child? h hc
  · simp [Slot.content, hget]
  · simp [Slot.content, hget]

theorem exists_slot_of_child? {c : Value} (hc : doc.child? s = some c) :
    ∃ slot, doc.slotFor? s = some slot ∧ slot.content = c := by
  cases h : doc.slotFor? s with
  | none =>
    rw [child?_of_refused h] at hc
    cases hc
  | some slot => exact ⟨slot, rfl, content_of_child? h hc⟩

theorem content_isAbsent (h : doc.slotFor? s = some slot) (hc : doc.child? s = none) :
    slot.content.isAbsent = true := by
  obtain ⟨fields, rfl, rfl | ⟨-, rfl⟩⟩ | ⟨items, i, rfl, hi, rfl | ⟨-, rfl⟩⟩ := slotFor?_cases h
  · simp only [child?] at hc
    simp [Slot.content, hc, isAbsent]
  · rfl
  · simp only [child?, hi, Option.bind_some] at hc
    simp [Slot.content, hc, isAbsent]
  · rfl

theorem fill_of_child? {c : Value} (h : doc.slotFor? s = some slot)
    (hc : doc.child? s = some c) : slot.fill c = doc := by
  obtain ⟨fields, rfl, rfl, hget⟩ | ⟨items, i, rfl, rfl, -, hget⟩ := slotFor?_of_child? h hc
  · exact congrArg object (Fields.insert_eq_self hget)
  · obtain ⟨hlt, rfl⟩ := List.getElem?_eq_some_iff.1 hget
    rw [fill_item, placed, if_pos hlt, List.set_getElem_self]

theorem child?_fill (h : doc.slotFor? s = some slot) (v : Value) :
    (slot.fill v).child? s = some v := by
  obtain ⟨fields, rfl, -⟩ | ⟨items, i, rfl, hi, -⟩ := slotFor?_cases h
  · exact Fields.get?_insert_self fields s v
  · simp [fill_item, child?, hi, getElem?_placed]

/-- Filling a slot leaves every other step alone: it finds what it found before, or finds
    a hole where it found nothing. -/
theorem child?_fill_of_other (h : doc.slotFor? s = some slot) (v : Value) {t : String}
    (hne : s ≠ t) (hidx : ¬ SameIndex s t) :
    (slot.fill v).child? t = doc.child? t ∨
      doc.child? t = none ∧ (slot.fill v).child? t = some hole := by
  obtain ⟨fields, rfl, hd⟩ | ⟨items, i, rfl, hi, hd⟩ := slotFor?_cases h
  · have hread : (object (fields.insert s v)).child? t = Fields.get? fields t :=
      Fields.get?_insert_of_ne fields v (Ne.symm hne)
    obtain rfl | ⟨hd, rfl⟩ := hd
    · exact .inl hread
    · exact .inl (hread.trans (child?_of_leaf hd t).symm)
  · rw [fill_item]
    cases ht : Path.index? t with
    | none =>
      obtain rfl | ⟨hd, rfl⟩ := hd
      · exact .inl (by simp [child?, ht])
      · rw [child?_of_leaf hd]
        exact .inl (by simp [child?, ht])
    | some j =>
      have hj : j ≠ i := fun e => hidx ⟨i, hi, e ▸ ht⟩
      have hread : (array (placed items i v)).child? t =
          if j < items.length then items[j]? else if j < i then some hole else none := by
        simp [child?, ht, getElem?_placed, hj]
      have hold : doc.child? t = items[j]? := by
        obtain rfl | ⟨hd, rfl⟩ := hd
        · simp [child?, ht]
        · simp [child?_of_leaf hd]
      rw [hread, hold]
      by_cases hjl : j < items.length
      · exact .inl (if_pos hjl)
      · by_cases hji : j < i <;> simp [hjl, hji]

end

/-! ## What a path leads to, without a write

    A look-up goes on from where the first part of its path led (`slot?_append`), and a read is
    a look-up that finds absent whatever is missing or a hole (`read_of_slot?`,
    `read_of_no_slot`). Whatever is found inside a value occurs in it, so it has all that holds
    throughout the value (`Throughout.slot?`). A path `Meets` a step of some kind when a look-up
    along it comes to a value where its next step is of that kind: at the root, or below the
    first child (`meets_cons`). -/

theorem mem_children_of_child? {doc c : Value} {s : String} (h : doc.child? s = some c) :
    c ∈ doc.children := by
  cases doc with
  | object fields => exact List.mem_map.2 ⟨_, Fields.mem_of_get? h, rfl⟩
  | array items =>
    obtain ⟨i, -, hi⟩ := Option.bind_eq_some_iff.1 h
    exact List.mem_of_getElem? hi
  | _ => cases h

theorem isAbsent_of_child? {doc c : Value} {s : String} (h : doc.child? s = some c) :
    doc.isAbsent = false := by
  cases doc with
  | undefined | hole => cases h
  | _ => rfl

theorem slot?_append (doc : Value) (front back : Path) :
    doc.slot? (front ++ back) = (doc.slot? front).bind (·.slot? back) := by
  induction front generalizing doc with
  | nil => rfl
  | cons s front ih =>
    rw [List.cons_append, slot?, slot?, Option.bind_assoc]
    exact Option.bind_congr fun child _ => ih child

theorem exists_holder {doc x : Value} {path : Path} (hne : path ≠ [])
    (h : doc.slot? path = some x) :
    ∃ holder, doc.slot? path.dropLast = some holder ∧
      holder.child? (path.getLast hne) = some x := by
  rw [← List.dropLast_concat_getLast hne, slot?_append] at h
  obtain ⟨holder, hholder, hx⟩ := Option.bind_eq_some_iff.1 h
  refine ⟨holder, hholder, ?_⟩
  simpa [slot?] using hx

theorem read_of_slot? {doc x : Value} {path : Path} (h : doc.slot? path = some x) :
    doc.read path = if x.isHole then undefined else x := by
  induction path generalizing doc with
  | nil =>
    obtain rfl : doc = x := Option.some.inj h
    rfl
  | cons s rest ih =>
    obtain ⟨child, hchild, hx⟩ := Option.bind_eq_some_iff.1 h
    rw [read, hchild]
    exact ih hx

theorem read_of_present_slot {doc x : Value} {path : Path} (h : doc.slot? path = some x)
    (hx : x.isAbsent = false) : doc.read path = x := by
  rw [read_of_slot? h]
  cases x with
  | hole => cases hx
  | _ => rfl

theorem read_of_no_slot {doc : Value} {path : Path} (h : doc.slot? path = none) :
    doc.read path = undefined := by
  induction path generalizing doc with
  | nil => cases h
  | cons s rest ih =>
    rw [read]
    cases hchild : doc.child? s with
    | none => rfl
    | some child =>
      rw [slot?, hchild] at h
      exact ih h

/-! Steps on the way. -/

/-- Some beginning of the path leads, through fields and items that exist, to a value of which
    `P` holds with the next segment. -/
def Meets (P : Value → String → Prop) (doc : Value) (path : Path) : Prop :=
  ∃ front s back there, path = front ++ s :: back ∧ doc.slot? front = some there ∧ P there s

section
variable {P : Value → String → Prop}

theorem not_meets_nil (doc : Value) : ¬ Meets P doc [] := by
  intro h
  obtain ⟨front, s, back, there, hp, -, -⟩ := h
  exact List.append_ne_nil_of_right_ne_nil front (List.cons_ne_nil s back) hp.symm

theorem meets_cons (doc : Value) (s : String) (rest : Path) :
    Meets P doc (s :: rest) ↔ P doc s ∨ ∃ child, doc.child? s = some child ∧ Meets P child rest := by
  constructor
  · intro h
    obtain ⟨front, s', back, there, hp, hthere, hP⟩ := h
    -- the root is met when no segment comes before the step
    cases front with
    | nil =>
      obtain ⟨rfl, rfl⟩ := List.cons.inj hp
      obtain rfl : doc = there := Option.some.inj hthere
      exact .inl hP
    | cons t front =>
      obtain ⟨rfl, rfl⟩ := List.cons.inj hp
      obtain ⟨child, hchild, hthere⟩ := Option.bind_eq_some_iff.1 hthere
      exact .inr ⟨child, hchild, front, s', back, there, rfl, hthere, hP⟩
  · intro h
    rcases h with hP | ⟨child, hchild, front, s', back, there, rfl, hthere, hP⟩
    · exact ⟨[], s, rest, doc, rfl, rfl, hP⟩
    · exact ⟨s :: front, s', back, there, rfl, by simp [slot?, hchild, hthere], hP⟩

end

/-! What holds throughout a value holds throughout everything found in it. -/

section
variable {P : Value → Prop} {doc : Value}

theorem Throughout.child? {c : Value} {s : String} (h : Throughout P doc)
    (hc : doc.child? s = some c) : Throughout P c :=
  ((throughout_iff P doc).1 h).2 c (mem_children_of_child? hc)

theorem Throughout.slot? {x : Value} {path : Path} (h : Throughout P doc)
    (hx : doc.slot? path = some x) : Throughout P x := by
  induction path generalizing doc with
  | nil =>
    obtain rfl : doc = x := Option.some.inj hx
    exact h
  | cons s rest ih =>
    obtain ⟨child, hchild, hx⟩ := Option.bind_eq_some_iff.1 hx
    exact ih (h.child? hchild) hx

end

end DocTree.Value
