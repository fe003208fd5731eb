import DocTree.Matcher
import DocTree.Proofs.Document.Runs
import DocTree.Proofs.Value.Interchangeable
import DocTree.Proofs.Value.JsonRoundTrip

/- Equal documents stay equal. Two equal documents may keep their fields in different orders
   and have a hole where the other has the absent marker. A step of a path still finds the
   same in both (`Interchangeable.child?`), and a writer's step is refused by both or leads to
   slots that hold the same and that, filled with the same, are the same again
   (`Interchangeable.slotFor?`). From that reads, writes and runs of writes follow by
   induction on the path and on the run; and to sanitizing, JSON and queries, too, equal
   documents are one document. -/
namespace DocTree

namespace Value
open Writes

theorem read_nil_of_not_absent {v : Value} (h : v.isAbsent = false) : v.read [] = v := by
  cases v with
  | undefined | hole => cases h
  | _ => rfl

/-- Slots that hold interchangeable values, and that are interchangeable containers once
    interchangeable values are put into them. -/
structure Slot.Interchangeable (x y : Slot) : Prop where
  content : Value.Interchangeable x.content y.content
  fill : ∀ {v w : Value}, Value.Interchangeable v w → Value.Interchangeable (x.fill v) (y.fill w)

namespace Interchangeable
variable {a b v w : Value}

/-! One step. -/

theorem child? (h : Interchangeable a b) (s : String) :
    Option.Rel Interchangeable (a.child? s) (b.child? s) := by
  have hkind := h.kind_eq
  cases a with
  | object as =>
    cases b with
    | object bs =>
      obtain ⟨-, -, hrel⟩ := (interchangeable_object as bs).1 h
      exact hrel s
    | _ => cases hkind
  | array as =>
    cases b with
    | array bs =>
      rw [interchangeable_array, forall₂_iff_getElem?] at h
      simp only [Value.child?]
      cases Path.index? s with
      | none => exact .none
      | some i => exact h i
    | _ => cases hkind
  | _ =>
    rw [child?_of_leaf rfl, child?_of_leaf h.isContainer_eq.symm]
    exact .none

theorem getD (hvw : Interchangeable v w) {o o' : Option Value}
    (h : Option.Rel Interchangeable o o') : Interchangeable (o.getD v) (o'.getD w) := by
  cases h with
  | none => exact hvw
  | some hab => exact hab

theorem slot_field {as bs : Fields Value} (h : Interchangeable (object as) (object bs))
    (key : String) : (Slot.field as key).Interchangeable (.field bs key) := by
  obtain ⟨ha, hb, hrel⟩ := (interchangeable_object as bs).1 h
  constructor
  · exact getD (of_isAbsent rfl rfl) (hrel key)
  · intro v w hvw
    refine (interchangeable_object _ _).2 ⟨ha.insert key v, hb.insert key w, ?_⟩
    intro other
    by_cases hkey : other = key
    · rw [hkey, Fields.get?_insert_self, Fields.get?_insert_self]
      exact .some hvw
    · rw [Fields.get?_insert_of_ne _ _ hkey, Fields.get?_insert_of_ne _ _ hkey]
      exact hrel other

/-- The items at one place. Both arrays are padded alike, as they are equally long. -/
theorem slot_item {as bs : List Value} (h : Interchangeable (array as) (array bs)) (i : Nat) :
    (Slot.item as i).Interchangeable (.item bs i) := by
  rw [interchangeable_array] at h
  have hlen := h.length_eq
  have hrel := (forall₂_iff_getElem? as bs).1 h
  constructor
  · exact getD (of_isAbsent rfl rfl) (hrel i)
  · intro v w hvw
    rw [fill_item, fill_item, interchangeable_array, forall₂_iff_getElem?]
    intro j
    rw [getElem?_placed, getElem?_placed, hlen]
    split
    · exact .some hvw
    · split
      · exact hrel j
      · split
        · exact .some (of_isAbsent rfl rfl)
        · exact .none

theorem emptyFor (s : String) : Interchangeable (Value.emptyFor s) (Value.emptyFor s) := by
  unfold Value.emptyFor
  split
  · exact (interchangeable_array [] []).2 .nil
  · exact (interchangeable_object [] []).2 ⟨.nil, .nil, fun _ => .none⟩

theorem slotFor?_of_container (h : Interchangeable a b) (ha : a.isContainer = true) (s : String) :
    Option.Rel Slot.Interchangeable (a.slotFor? s) (b.slotFor? s) := by
  have hkind := h.kind_eq
  cases a with
  | object as =>
    cases b with
    | object bs => exact .some (h.slot_field s)
    | _ => cases hkind
  | array as =>
    cases b with
    | array bs =>
      simp only [Value.slotFor?]
      cases Path.index? s with
      | none => exact .none
      | some i => exact .some (h.slot_item i)
    | _ => cases hkind
  | _ => cases ha

theorem slotFor? (h : Interchangeable a b) (s : String) :
    Option.Rel Slot.Interchangeable (a.slotFor? s) (b.slotFor? s) := by
  cases ha : a.isContainer with
  | true => exact h.slotFor?_of_container ha s
  | false =>
    -- both give way to the empty container that the segment calls for
    have hb : b.isContainer = false := h.isContainer_eq ▸ ha
    rw [← slotFor?_emptyFor ha, ← slotFor?_emptyFor hb]
    exact (emptyFor s).slotFor?_of_container (isContainer_emptyFor s) s

/-! Along a path. -/

theorem read (h : Interchangeable a b) (path : Path) :
    Interchangeable (a.read path) (b.read path) := by
  induction path generalizing a b with
  | nil =>
    cases ha : a.isAbsent with
    | true =>
      have hb : b.isAbsent = true := h.isAbsent_eq ▸ ha
      rw [read_of_isAbsent ha, read_of_isAbsent hb]
      exact of_isAbsent rfl rfl
    | false =>
      have hb : b.isAbsent = false := h.isAbsent_eq ▸ ha
      rwa [read_nil_of_not_absent ha, read_nil_of_not_absent hb]
  | cons s rest ih =>
    have hchild := h.child? s
    simp only [Value.read]
    generalize a.child? s = o at hchild ⊢
    generalize b.child? s = o' at hchild ⊢
    cases hchild with
    | none => exact of_isAbsent rfl rfl
    | some hab => exact ih hab

theorem write (h : Interchangeable a b) (hvw : Interchangeable v w) (path : Path) :
    Interchangeable (a.write path v).doc (b.write path w).doc ∧
      (a.write path v).refused = (b.write path w).refused := by
  induction path generalizing a b with
  | nil => exact ⟨hvw, rfl⟩
  | cons s rest ih =>
    have hslot := h.slotFor? s
    simp only [Value.write]
    generalize a.slotFor? s = o at hslot ⊢
    generalize b.slotFor? s = o' at hslot ⊢
    cases hslot with
    | none => exact ⟨h, rfl⟩
    | some hslot =>
      obtain ⟨hdoc, hrefused⟩ := ih hslot.content
      exact ⟨hslot.fill hdoc, hrefused⟩

theorem run {ws ws' : Writes} (h : Interchangeable a b)
    (hws : List.Forall₂ (fun w w' => w.1 = w'.1 ∧ Interchangeable w.2 w'.2) ws ws') :
    Interchangeable (a.run ws) (b.run ws') := by
  induction hws generalizing a b with
  | nil => exact h
  | @cons w w' _ _ hw _ ih =>
    obtain ⟨path, v⟩ := w
    obtain ⟨path', v'⟩ := w'
    obtain ⟨rfl, hv⟩ := hw
    exact ih (h.write hv path).1

end Interchangeable

/-- **Deep equality is a congruence for paths**: equal documents read equal values at every
    path, refuse the same writes, and are left equal by writes and updates that put equal
    values at the same paths. -/
theorem equal_congr_paths {a b v w : Value} {fields fields' : Fields Value}
    (ha : DistinctKeys a) (hb : DistinctKeys b) (hv : DistinctKeys v) (hw : DistinctKeys w)
    (hf : ∀ e ∈ fields, DistinctKeys e.2) (hf' : ∀ e ∈ fields', DistinctKeys e.2)
    (hab : a.equal b = true) (hvw : v.equal w = true)
    (hfields : List.Forall₂ (fun d e => d.1 = e.1 ∧ d.2.equal e.2 = true) fields fields')
    (p : String) :
    (a.readAt p).equal (b.readAt p) = true ∧
      (Blocked a (Path.parse p) ↔ Blocked b (Path.parse p)) ∧
      (a.assign p v).events = (b.assign p w).events ∧
      (a.assign p v).value.equal (b.assign p w).value = true ∧
      (a.update (.assign fields)).value.equal (b.update (.assign fields')).value = true := by
  have hdoc : Interchangeable a b := ⟨ha, hb, hab⟩
  have hvalue : Interchangeable v w := ⟨hv, hw, hvw⟩
  obtain ⟨hleft, hrefused⟩ := hdoc.write hvalue (Path.parse p)
  refine ⟨(hdoc.read (Path.parse p)).equal, ?_, ?_, ?_, ?_⟩
  · rw [← refused_isSome_iff a _ v, ← refused_isSome_iff b _ w, hrefused]
  · simp only [assign, hrefused]
    split <;> rfl
  · rw [assign_value, assign_value]
    exact hleft.equal
  · show ((a.assignAll fields).value.equal (b.assignAll fields').value) = true
    rw [assignAll_value, assignAll_value]
    have hpairs : List.Forall₂ (fun d e => d.1 = e.1 ∧ Interchangeable d.2 e.2) fields fields' :=
      (forall₂_split_iff fun d _ e _ => by
        rw [interchangeable_iff]
        tauto).2 ⟨hf, hf', hfields⟩
    have hws : List.Forall₂ (fun w w' => w.1 = w'.1 ∧ Interchangeable w.2 w'.2)
        (ofFields fields) (ofFields fields') := by
      rw [ofFields, ofFields, List.forall₂_map_left_iff, List.forall₂_map_right_iff]
      exact hpairs.imp fun d e h => ⟨congrArg Path.parse h.1, h.2⟩
    exact (hdoc.run hws).equal

/-- Fields in another order, holes for absent markers and the other zero, at a path that goes
    through the zero; the update pads a list and loses a write to it. -/
theorem equal_congr_paths_reordered :
    let a := object [("tags", array [hole, null]), ("size", number ⟨0⟩)]
    let b := object [("size", number ⟨0x8000000000000000⟩), ("tags", array [undefined, null])]
    let v := object [("x", hole), ("y", null)]
    let w := object [("y", null), ("x", undefined)]
    let fields : Fields Value := [("tags.03", v), ("tags.name.0", v)]
    let fields' : Fields Value := [("tags.03", w), ("tags.name.0", w)]
    (DistinctKeys a ∧ DistinctKeys b ∧ DistinctKeys v ∧ DistinctKeys w) ∧
      a.equal b = true ∧ v.equal w = true ∧
      (a.readAt "size.unit").equal (b.readAt "size.unit") = true ∧
      (a.assign "size.unit" v).value.equal (b.assign "size.unit" w).value = true ∧
      (a.update (.assign fields)).value.equal (b.update (.assign fields')).value = true := by
  intro a b v w fields fields'
  have hkeys : DistinctKeys a ∧ DistinctKeys b ∧ DistinctKeys v ∧ DistinctKeys w := by
    decide +kernel
  obtain ⟨ha, hb, hv, hw⟩ := hkeys
  have hab : a.equal b = true := by decide +kernel
  have hvw : v.equal w = true := by decide +kernel
  have hf : ∀ e ∈ fields, DistinctKeys e.2 := by simp [fields, hv]
  have hf' : ∀ e ∈ fields', DistinctKeys e.2 := by simp [fields', hw]
  have hfields : List.Forall₂ (fun d e => d.1 = e.1 ∧ d.2.equal e.2 = true) fields fields' :=
    .cons ⟨rfl, hvw⟩ (.cons ⟨rfl, hvw⟩ .nil)
  obtain ⟨hread, -, -, hassign, hupdate⟩ :=
    equal_congr_paths ha hb hv hw hf hf' hab hvw hfields "size.unit"
  exact ⟨⟨ha, hb, hv, hw⟩, hab, hvw, hread, hassign, hupdate⟩

end Value

/-! ## Equal documents are one document to a store

    They can be stored or not, alike, and their stored forms are equal
    (`Interchangeable.normal`); their JSON is the same up to the order of members
    (`Alike.reordered_toJson`); and no query tells them apart that is made of patterns and
    expected values, nor does it matter which of two equal values is the expected one
    (`Interchangeable.query_accepts`). A test of the caller's own could tell them apart, by the
    order of fields for one, and is left out. -/

/-! JSON. -/

/-- The same JSON but for the order of members, at every depth. -/
inductive Json.Reordered : Json → Json → Prop
  | refl (j : Json) : Reordered j j
  | array {as bs : List Json} : List.Forall₂ Reordered as bs → Reordered (.array as) (.array bs)
  | object {as bs cs : List (String × Json)} : Fields.keys as = Fields.keys bs →
      List.Forall₂ Reordered (as.map Prod.snd) (bs.map Prod.snd) → bs.Perm cs →
      Reordered (.object as) (.object cs)

namespace Value

theorem SameLeaf.toJson_eq {a b : Value} (h : SameLeaf a b) : a.toJson = b.toJson := by
  cases h with
  | absent ha hb => rw [toJson_of_isAbsent ha, toJson_of_isAbsent hb]
  | number hxy => exact numberToJson_eq_of_sameUpToZero hxy
  | _ => rfl

theorem Alike.reordered_toJson {a b : Value} (h : Alike SameLeaf a b) :
    Json.Reordered a.toJson b.toJson := by
  induction a generalizing b with
  | array as ih =>
    obtain ⟨bs, rfl, hs⟩ := (alike_array as b).1 h
    rw [toJson, toJson, itemsToJson_eq, itemsToJson_eq]
    refine .array ?_
    rw [List.forall₂_map_left_iff, List.forall₂_map_right_iff]
    exact forall₂_imp_mem hs fun v hv _ hvw => ih v hv hvw
  | object as ih =>
    obtain ⟨cs, rfl, bs, hs, hp⟩ := (alike_object as b).1 h
    obtain ⟨hkeys, hmembers⟩ := forall₂_pairs_iff.2 (forall₂_present hs ih)
    rw [List.forall₂_eq_eq_eq] at hkeys
    rw [toJson, toJson, fieldsToJson_eq, fieldsToJson_eq]
    exact .object hkeys hmembers ((hp.filter _).map _)
  | map as _ =>
    obtain ⟨bs, rfl, -⟩ := (alike_map as b).1 h
    exact .refl .null
  | set as _ =>
    obtain ⟨bs, rfl, -⟩ := (alike_set as b).1 h
    exact .refl .null
  | _ =>
    obtain ⟨-, hs⟩ := (alike_leaf rfl b).1 h
    rw [hs.toJson_eq]
    exact .refl _

theorem Interchangeable.toJson?_eq_some {a b : Value} (h : Interchangeable a b) {j : Json}
    (ha : a.toJson? = some j) : b.toJson? = some b.toJson := by
  obtain ⟨habsent, hforeign, -⟩ := (toJson?_eq_some_iff a j).1 ha
  exact toJson?_of_foreignFree (h.isAbsent_eq ▸ habsent) (h.alike.foreignFree hforeign)

theorem Interchangeable.toJson? {a b : Value} (h : Interchangeable a b) :
    Option.Rel Json.Reordered a.toJson? b.toJson? := by
  cases ha : a.toJson? with
  | none =>
    cases hb : b.toJson? with
    | none => exact .none
    | some j =>
      rw [h.symm.toJson?_eq_some hb] at ha
      cases ha
  | some j =>
    obtain ⟨-, -, rfl⟩ := (toJson?_eq_some_iff a j).1 ha
    rw [h.toJson?_eq_some ha]
    exact .some h.alike.reordered_toJson

end Value

/-! Queries. -/

/-- Matchers that ask the same of equal values: one pattern, one expected value, which may
    hold a NaN, or two equal ones. -/
inductive Matcher.Interchangeable : Matcher → Matcher → Prop
  | pattern (p : Pattern) : Interchangeable (.pattern p) (.pattern p)
  | same {v : Value} : Value.DistinctKeys v → Interchangeable (.ofValue v) (.ofValue v)
  | equal {v w : Value} : Value.Interchangeable v w → Interchangeable (.ofValue v) (.ofValue w)

namespace Value.Interchangeable
variable {a b v w : Value}

theorem string?_eq (h : Interchangeable a b) : a.string? = b.string? := by
  have hkind := h.kind_eq
  cases a with
  | string s =>
    cases b with
    | string t => simpa [Value.equal, Value.string?] using h.equal
    | _ => cases hkind
  | _ =>
    cases b with
    | string t => cases hkind
    | _ => rfl

theorem equal_right (h : Interchangeable a b) (hv : DistinctKeys v) : v.equal a = v.equal b := by
  rw [Bool.eq_iff_iff]
  constructor
  · intro hva
    exact (trans ⟨hv, h.left, hva⟩ h).equal
  · intro hvb
    exact (trans ⟨hv, h.right, hvb⟩ h.symm).equal

theorem equal_left (h : Interchangeable v w) (ha : DistinctKeys a) : v.equal a = w.equal a := by
  rw [Bool.eq_iff_iff]
  constructor
  · intro hva
    exact (h.symm.trans ⟨h.left, ha, hva⟩).equal
  · intro hwa
    exact (h.trans ⟨h.right, ha, hwa⟩).equal

end Value.Interchangeable

namespace Matcher

theorem accepts_ofValue (expected candidate : Value) :
    (ofValue expected).accepts candidate =
      ((expected.kind.isStorable || expected.kind == .undefined) && expected.equal candidate) := by
  cases expected <;> rfl

theorem Interchangeable.accepts {m m' : Matcher} {a b : Value} (hm : m.Interchangeable m')
    (h : Value.Interchangeable a b) : m.accepts a = m'.accepts b := by
  cases hm with
  | pattern p => rw [Matcher.accepts, Matcher.accepts, h.string?_eq]
  | same hv => rw [accepts_ofValue, accepts_ofValue, h.equal_right hv]
  | equal hvw =>
    rw [accepts_ofValue, accepts_ofValue, hvw.kind_eq, h.equal_right hvw.left,
      hvw.equal_left h.right]

end Matcher

namespace Value

theorem Interchangeable.query_accepts {a b : Value} (h : Interchangeable a b) {query query' : Query}
    (hquery : List.Forall₂ (fun c d => c.1 = d.1 ∧ c.2.Interchangeable d.2) query query') :
    query.accepts a = query'.accepts b := by
  induction hquery with
  | nil => rfl
  | @cons c d query query' hcd _ ih =>
    obtain ⟨path, m⟩ := c
    obtain ⟨path', m'⟩ := d
    obtain ⟨rfl, hm⟩ := hcd
    have hread : Interchangeable (a.readAt path) (b.readAt path) := h.read (Path.parse path)
    show (m.accepts (a.readAt path) && Query.accepts query a) =
      (m'.accepts (b.readAt path) && Query.accepts query' b)
    rw [hm.accepts hread, ih]

/-- **Equal documents are interchangeable for storing and querying.** Both can be stored or
    neither can, and then what is stored is equal; both have a JSON form or neither has, and
    then the two differ in the order of members alone; and a query of patterns and expected
    values is passed by both or by neither, also with equal values expected in their place. -/
theorem equal_interchange {a b : Value} {query query' : Query} (ha : DistinctKeys a)
    (hb : DistinctKeys b) (hab : a.equal b = true)
    (hquery : List.Forall₂ (fun c d => c.1 = d.1 ∧ c.2.Interchangeable d.2) query query') :
    (a.sanitize.fault? = none ↔ b.sanitize.fault? = none) ∧
      (a.sanitize.fault? = none → a.sanitize.value.equal b.sanitize.value = true) ∧
      Option.Rel Json.Reordered a.toJson? b.toJson? ∧
      query.accepts a = query'.accepts b := by
  have h : Interchangeable a b := ⟨ha, hb, hab⟩
  have hstorable : a.sanitize.fault? = none ↔ b.sanitize.fault? = none := by
    rw [sanitize_fault?_iff, sanitize_fault?_iff, h.storable_iff]
  refine ⟨hstorable, fun hfault => ?_, h.toJson?, h.query_accepts hquery⟩
  rw [sanitize_value hfault, sanitize_value (hstorable.1 hfault)]
  exact h.normal.equal

/-- Fields in another order, the other absent value and the other zero, in the documents and
    in a value that is expected; the other condition is a pattern. -/
theorem equal_interchange_reordered :
    let a := object [("tags", array [hole, number ⟨0⟩]), ("name", string "light blue")]
    let b := object [("name", string "light blue"),
      ("tags", array [undefined, number ⟨0x8000000000000000⟩])]
    let blue : Pattern := ⟨"blue", .literal ['b', 'l', 'u', 'e']⟩
    let tags := array [undefined, number ⟨0⟩]
    let tags' := array [hole, number ⟨0x8000000000000000⟩]
    let query : Query := [("name", .pattern blue), ("tags", .ofValue tags)]
    let query' : Query := [("name", .pattern blue), ("tags", .ofValue tags')]
    DistinctKeys a ∧ DistinctKeys b ∧ a.equal b = true ∧
      List.Forall₂ (fun c d => c.1 = d.1 ∧ c.2.Interchangeable d.2) query query' ∧
      a.sanitize.fault? = none ∧ a.sanitize.value.equal b.sanitize.value = true ∧
      Option.Rel Json.Reordered a.toJson? b.toJson? ∧ query.accepts a = query'.accepts b := by
  intro a b blue tags tags' query query'
  have ha : DistinctKeys a := by decide +kernel
  have hb : DistinctKeys b := by decide +kernel
  have hab : a.equal b = true := by decide +kernel
  have htags : Interchangeable tags tags' :=
    ⟨by decide +kernel, by decide +kernel, by decide +kernel⟩
  have hquery : List.Forall₂ (fun c d => c.1 = d.1 ∧ c.2.Interchangeable d.2) query query' :=
    .cons ⟨rfl, .pattern blue⟩ (.cons ⟨rfl, .equal htags⟩ .nil)
  have hfault : a.sanitize.fault? = none := by decide +kernel
  obtain ⟨-, hvalue, hjson, haccepts⟩ := equal_interchange ha hb hab hquery
  exact ⟨ha, hb, hab, hquery, hfault, hvalue hfault, hjson, haccepts⟩

end Value

end DocTree
