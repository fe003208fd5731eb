import DocTree.Proofs.Value.Equality

/- Equal values from the inside. Two values are `Interchangeable` when they are equal and no
   object in either repeats a key. Such values are of one kind, and what is found in one of
   them by a key or by an index is interchangeable with what is found there in the other;
   for objects and arrays that is all there is to it (`interchangeable_object`,
   `interchangeable_array`). A proof about two equal documents goes down both of them by
   these look-ups, whatever the order of their fields. -/
namespace DocTree

namespace Value

/-! Equal values. -/

theorem kind_eq_of_equal {a b : Value} (h : a.equal b = true) : a.kind = b.kind := by
  cases a <;> cases b <;> simp [equal, isAbsent, isNull, kind] at h ⊢

theorem isAbsent_eq_kind (v : Value) : v.isAbsent = (v.kind == .undefined) := by
  cases v <;> rfl

theorem isContainer_eq_kind (v : Value) :
    v.isContainer = (v.kind == .array || v.kind == .object) := by
  cases v <;> rfl

/-- Equal values, and no object in either repeats a key. -/
structure Interchangeable (a b : Value) : Prop where
  left : DistinctKeys a
  right : DistinctKeys b
  equal : a.equal b = true

theorem interchangeable_iff (a b : Value) :
    Interchangeable a b ↔ DistinctKeys a ∧ DistinctKeys b ∧ a.equal b = true :=
  ⟨fun h => ⟨h.left, h.right, h.equal⟩, fun h => ⟨h.1, h.2.1, h.2.2⟩⟩

namespace Interchangeable
variable {a b c : Value}

theorem refl (ha : DistinctKeys a) (hn : NaNFree a) : Interchangeable a a :=
  ⟨ha, ha, (equal_iff ha ha).2 ⟨hn, hn, Alike.refl (fun _ => SameLeaf.refl) a⟩⟩

theorem symm (h : Interchangeable a b) : Interchangeable b a := by
  obtain ⟨ha, hb, hab⟩ := h
  obtain ⟨hna, hnb, hs⟩ := (equal_iff ha hb).1 hab
  exact ⟨hb, ha, (equal_iff hb ha).2 ⟨hnb, hna, hs.symm fun _ _ => SameLeaf.symm⟩⟩

theorem trans (h : Interchangeable a b) (h' : Interchangeable b c) : Interchangeable a c := by
  obtain ⟨ha, hb, hab⟩ := h
  obtain ⟨-, hc, hbc⟩ := h'
  obtain ⟨hna, -, hs⟩ := (equal_iff ha hb).1 hab
  obtain ⟨-, hnc, hs'⟩ := (equal_iff hb hc).1 hbc
  exact ⟨ha, hc, (equal_iff ha hc).2 ⟨hna, hnc, hs.trans (fun _ _ _ h => h.trans) hs'⟩⟩

theorem kind_eq (h : Interchangeable a b) : a.kind = b.kind := kind_eq_of_equal h.equal

theorem isAbsent_eq (h : Interchangeable a b) : a.isAbsent = b.isAbsent := by
  rw [isAbsent_eq_kind, isAbsent_eq_kind, h.kind_eq]

theorem isContainer_eq (h : Interchangeable a b) : a.isContainer = b.isContainer := by
  rw [isContainer_eq_kind, isContainer_eq_kind, h.kind_eq]

theorem of_isAbsent (ha : a.isAbsent = true) (hb : b.isAbsent = true) : Interchangeable a b := by
  refine ⟨distinctKeys_of_isLeaf (isLeaf_of_isAbsent ha),
    distinctKeys_of_isLeaf (isLeaf_of_isAbsent hb), ?_⟩
  cases a <;> simp [isAbsent] at ha <;> exact hb

end Interchangeable

theorem interchangeable_array (as bs : List Value) :
    Interchangeable (array as) (array bs) ↔ List.Forall₂ Interchangeable as bs := by
  have hsplit : List.Forall₂ Interchangeable as bs ↔ (∀ a ∈ as, DistinctKeys a) ∧
      (∀ b ∈ bs, DistinctKeys b) ∧ List.Forall₂ (fun a b => a.equal b = true) as bs :=
    forall₂_split_iff fun a _ b _ => interchangeable_iff a b
  rw [hsplit, ← distinctKeys_array, ← distinctKeys_array, ← equalItems_iff, interchangeable_iff,
    Value.equal]

theorem Interchangeable.exists_get? {as bs : Fields Value} {key : String} {a : Value}
    (h : Interchangeable (object as) (object bs)) (hget : as.get? key = some a) :
    ∃ b, bs.get? key = some b ∧ Interchangeable a b := by
  obtain ⟨ha, hb, hab⟩ := h
  have hmem := Fields.mem_of_get? hget
  rw [Value.equal, Bool.and_eq_true, equalFields_iff] at hab
  obtain ⟨b, hgetb, heq⟩ := hab.2 _ hmem
  have hda := ((distinctKeys_object as).1 ha).2 _ hmem
  have hdb := ((distinctKeys_object bs).1 hb).2 _ (Fields.mem_of_get? hgetb)
  exact ⟨b, hgetb, hda, hdb, heq⟩

theorem interchangeable_object (as bs : Fields Value) :
    Interchangeable (object as) (object bs) ↔ as.Distinct ∧ bs.Distinct ∧
      ∀ key, Option.Rel Interchangeable (as.get? key) (bs.get? key) := by
  constructor
  · intro h
    refine ⟨((distinctKeys_object as).1 h.left).1, ((distinctKeys_object bs).1 h.right).1, ?_⟩
    intro key
    cases hget : as.get? key with
    | some a =>
      obtain ⟨b, hgetb, hab⟩ := h.exists_get? hget
      rw [hgetb]
      exact .some hab
    | none =>
      -- a field of the second object would have its match in the first
      cases hgetb : bs.get? key with
      | none => exact .none
      | some b =>
        obtain ⟨a, hgeta, -⟩ := h.symm.exists_get? hgetb
        rw [hget] at hgeta
        cases hgeta
  · intro h
    obtain ⟨ha, hb, hrel⟩ := h
    have hfound : ∀ d ∈ as, ∃ b, bs.get? d.1 = some b ∧ Interchangeable d.2 b := by
      intro d hd
      have hkey := hrel d.1
      rw [ha.get?_of_mem hd] at hkey
      exact exists_of_some_rel hkey
    have hlen := Fields.length_eq_of_isSome_get? ha hb fun key => isSome_eq_of_rel (hrel key)
    refine ⟨(distinctKeys_object as).2 ⟨ha, fun d hd => ?_⟩,
      (distinctKeys_object bs).2 ⟨hb, fun e he => ?_⟩, ?_⟩
    · obtain ⟨b, -, hab⟩ := hfound d hd
      exact hab.left
    · have hkey := hrel e.1
      rw [hb.get?_of_mem he] at hkey
      obtain ⟨a, -, hab⟩ := exists_of_rel_some hkey
      exact hab.right
    · rw [Value.equal, Bool.and_eq_true, equalFields_iff, beq_iff_eq]
      refine ⟨hlen, fun d hd => ?_⟩
      obtain ⟨b, hget, hab⟩ := hfound d hd
      exact ⟨b, hget, hab.equal⟩

end Value
end DocTree
