import DocTree.Proofs.Document.FirstFault
import DocTree.Proofs.Document.NormalForm
import DocTree.Value.Json

/- The JSON of a value, said of the value as it comes. `toJson` is a tree for every value: it
   gives `null` for absent items, leaves absent fields out, and gives `null` for a foreign
   value, which has no JSON. The two converters keep what they have done in reverse and stop
   at the first value that they refuse.

   1. `toJson?` gives this tree exactly for the values that are not absent and in which no
      foreign kind occurs (`toJson?_eq_some_iff`).
   2. `serialize` gives it for these and for absent ones (`serialize_of_foreignFree`).
   3. A value and its normal form have the same tree (`toJson_normal`), so that sanitizing
      does not show in JSON.
   4. Where `serialize` stops, it names the first foreign kind (`serialize_eq_error_iff`). -/
namespace DocTree

namespace Value

mutual

/-- The JSON form: absent items are `null` and absent fields are left out, at every depth. -/
def toJson : Value → Json
  | bool b => .bool b
  | number x => numberToJson x
  | string s => .string s
  | array items => .array (itemsToJson items)
  | object fields => .object (fieldsToJson fields)
  | _ => .null

def itemsToJson : List Value → List Json
  | [] => []
  | v :: rest => v.toJson :: itemsToJson rest

def fieldsToJson : List (String × Value) → List (String × Json)
  | [] => []
  | (key, v) :: rest =>
    if v.isAbsent then fieldsToJson rest else (key, v.toJson) :: fieldsToJson rest

end

theorem itemsToJson_eq (items : List Value) : itemsToJson items = items.map toJson := by
  induction items with
  | nil => rfl
  | cons v rest ih => rw [itemsToJson, ih, List.map_cons]

theorem fieldsToJson_eq (fields : List (String × Value)) :
    fieldsToJson fields =
      (fields.filter fun e => !e.2.isAbsent).map fun e => (e.1, e.2.toJson) := by
  induction fields with
  | nil => rfl
  | cons e rest ih =>
    obtain ⟨key, v⟩ := e
    rw [fieldsToJson, ih]
    by_cases ha : v.isAbsent = true <;> simp [ha]

theorem toJson_of_isAbsent {v : Value} (h : v.isAbsent = true) : v.toJson = .null := by
  cases v with
  | undefined | hole => rfl
  | _ => cases h

/-! The converter that refuses. -/

theorem itemsToJson?_isSome (items : List Value) (done : List Json) :
    (itemsToJson? done items).isSome = true ↔
      ∀ v ∈ items, v.isAbsent = true ∨ v.toJson?.isSome = true := by
  induction items generalizing done with
  | nil => simp [itemsToJson?]
  | cons v rest ih =>
    rw [itemsToJson?, List.forall_mem_cons]
    by_cases ha : v.isAbsent = true
    · simp [ha, ih]
    · cases hj : v.toJson? with
      | none => simp [ha]
      | some j => simp [ha, ih]

theorem fieldsToJson?_isSome (fields : List (String × Value)) (done : List (String × Json)) :
    (fieldsToJson? done fields).isSome = true ↔
      ∀ e ∈ fields, e.2.isAbsent = true ∨ e.2.toJson?.isSome = true := by
  induction fields generalizing done with
  | nil => simp [fieldsToJson?]
  | cons e rest ih =>
    obtain ⟨key, v⟩ := e
    rw [fieldsToJson?, List.forall_mem_cons]
    by_cases ha : v.isAbsent = true
    · simp [ha, ih]
    · cases hj : v.toJson? with
      | none => simp [ha]
      | some j => simp [ha, ih]

theorem itemsToJson?_eq_some {items : List Value} (done : List Json)
    (h : ∀ v ∈ items, v.isAbsent = true ∨ v.toJson? = some v.toJson) :
    itemsToJson? done items = some (done.reverse ++ itemsToJson items) := by
  induction items generalizing done with
  | nil => simp [itemsToJson?, itemsToJson]
  | cons v rest ih =>
    obtain ⟨hv, hrest⟩ := List.forall_mem_cons.1 h
    rw [itemsToJson?, itemsToJson]
    by_cases ha : v.isAbsent = true
    · simp [ha, ih _ hrest, toJson_of_isAbsent]
    · simp [ha, hv.resolve_left ha, ih _ hrest]

theorem fieldsToJson?_eq_some {fields : List (String × Value)} (done : List (String × Json))
    (h : ∀ e ∈ fields, e.2.isAbsent = true ∨ e.2.toJson? = some e.2.toJson) :
    fieldsToJson? done fields = some (done.reverse ++ fieldsToJson fields) := by
  induction fields generalizing done with
  | nil => simp [fieldsToJson?, fieldsToJson]
  | cons e rest ih =>
    obtain ⟨key, v⟩ := e
    obtain ⟨hv, hrest⟩ := List.forall_mem_cons.1 h
    rw [fieldsToJson?, fieldsToJson]
    by_cases ha : v.isAbsent = true
    · simp [ha, ih _ hrest]
    · simp [ha, hv.resolve_left ha, ih _ hrest]

theorem foreignFree_array (items : List Value) :
    ForeignFree (array items) ↔ ∀ v ∈ items, ForeignFree v := by
  rw [ForeignFree, throughout_array]
  exact and_iff_right rfl

theorem foreignFree_object (fields : List (String × Value)) :
    ForeignFree (object fields) ↔ ∀ e ∈ fields, ForeignFree e.2 := by
  rw [ForeignFree, throughout_object]
  exact and_iff_right rfl

theorem foreignFree_of_isAbsent {v : Value} (h : v.isAbsent = true) : ForeignFree v := by
  rw [ForeignFree, throughout_leaf (isLeaf_of_isAbsent h)]
  cases v with
  | undefined | hole => rfl
  | _ => cases h

theorem toJson?_of_foreignFree {v : Value} (ha : v.isAbsent = false) (hf : ForeignFree v) :
    v.toJson? = some v.toJson := by
  induction v with
  | array items ih =>
    rw [foreignFree_array] at hf
    have hitems : ∀ v ∈ items, v.isAbsent = true ∨ v.toJson? = some v.toJson := by
      intro v hv
      cases ha : v.isAbsent with
      | true => exact .inl rfl
      | false => exact .inr (ih v hv ha (hf v hv))
    rw [toJson?, itemsToJson?_eq_some [] hitems, toJson]
    rfl
  | object fields ih =>
    rw [foreignFree_object] at hf
    have hfields : ∀ e ∈ fields, e.2.isAbsent = true ∨ e.2.toJson? = some e.2.toJson := by
      intro e he
      cases ha : e.2.isAbsent with
      | true => exact .inl rfl
      | false => exact .inr (ih e he ha (hf e he))
    rw [toJson?, fieldsToJson?_eq_some [] hfields, toJson]
    rfl
  | undefined | hole => cases ha
  | date | bytes | map | set => exact absurd (hf _ (.self _)) Bool.noConfusion
  | _ => rfl

theorem foreignFree_of_toJson? {v : Value} (h : v.toJson?.isSome = true) : ForeignFree v := by
  induction v with
  | array items ih =>
    rw [toJson?, Option.isSome_map, itemsToJson?_isSome] at h
    rw [foreignFree_array]
    intro v hv
    rcases h v hv with ha | hj
    · exact foreignFree_of_isAbsent ha
    · exact ih v hv hj
  | object fields ih =>
    rw [toJson?, Option.isSome_map, fieldsToJson?_isSome] at h
    rw [foreignFree_object]
    intro e he
    rcases h e he with ha | hj
    · exact foreignFree_of_isAbsent ha
    · exact ih e he hj
  | undefined | hole | date | bytes | map | set => cases h
  | _ => exact (throughout_leaf rfl).2 rfl

theorem toJson?_eq_some_iff (v : Value) (j : Json) :
    v.toJson? = some j ↔ v.isAbsent = false ∧ ForeignFree v ∧ v.toJson = j := by
  constructor
  · intro h
    have hsome : v.toJson?.isSome = true := by rw [h]; rfl
    have hf := foreignFree_of_toJson? hsome
    have ha : v.isAbsent = false := by
      cases v with
      | undefined | hole => cases h
      | _ => rfl
    rw [toJson?_of_foreignFree ha hf] at h
    exact ⟨ha, hf, Option.some.inj h⟩
  · intro h
    obtain ⟨ha, hf, rfl⟩ := h
    exact toJson?_of_foreignFree ha hf

/-! The converter that names what it refuses. -/

theorem serializeItems_eq_ok {items : List Value} (done : List Json)
    (h : ∀ v ∈ items, v.serialize = .ok v.toJson) :
    serializeItems done items = .ok (done.reverse ++ itemsToJson items) := by
  induction items generalizing done with
  | nil => simp [serializeItems, itemsToJson]
  | cons v rest ih =>
    obtain ⟨hv, hrest⟩ := List.forall_mem_cons.1 h
    simp [serializeItems, itemsToJson, hv, ih _ hrest]

theorem serializeFields_eq_ok {fields : List (String × Value)} (done : List (String × Json))
    (h : ∀ e ∈ fields, e.2.serialize = .ok e.2.toJson) :
    serializeFields done fields = .ok (done.reverse ++ fieldsToJson fields) := by
  induction fields generalizing done with
  | nil => simp [serializeFields, fieldsToJson]
  | cons e rest ih =>
    obtain ⟨key, v⟩ := e
    obtain ⟨hv, hrest⟩ := List.forall_mem_cons.1 h
    by_cases ha : v.isAbsent = true
    · simp [serializeFields, fieldsToJson, ha, ih _ hrest]
    · simp [serializeFields, fieldsToJson, ha, hv, ih _ hrest]

theorem serialize_of_foreignFree {v : Value} (hf : ForeignFree v) : v.serialize = .ok v.toJson := by
  induction v with
  | array items ih =>
    rw [foreignFree_array] at hf
    rw [serialize, serializeItems_eq_ok [] fun v hv => ih v hv (hf v hv), toJson]
    rfl
  | object fields ih =>
    rw [foreignFree_object] at hf
    rw [serialize, serializeFields_eq_ok [] fun e he => ih e he (hf e he), toJson]
    rfl
  | date | bytes | map | set => exact absurd (hf _ (.self _)) Bool.noConfusion
  | _ => rfl

/-! Sanitizing. -/

theorem fieldsToJson_normalFields {fields : List (String × Value)}
    (h : ∀ e ∈ fields, e.2.normal.toJson = e.2.toJson) :
    fieldsToJson (normalFields fields) = fieldsToJson fields := by
  induction fields with
  | nil => rfl
  | cons e rest ih =>
    obtain ⟨key, v⟩ := e
    obtain ⟨hv, hrest⟩ := List.forall_mem_cons.1 h
    rw [normalFields, fieldsToJson]
    by_cases ha : v.isAbsent = true
    · rw [if_pos ha, if_pos ha]
      exact ih hrest
    · rw [if_neg ha, if_neg ha, fieldsToJson, isAbsent_normal, if_neg ha, hv, ih hrest]

theorem toJson_normal (v : Value) : v.normal.toJson = v.toJson := by
  induction v with
  | array items ih =>
    rw [normal, toJson, toJson, itemsToJson_eq, itemsToJson_eq, normalItems_eq, List.map_map]
    refine congrArg Json.array (List.map_congr_left fun v hv => ?_)
    by_cases ha : v.isAbsent = true
    · simp [ha, toJson_of_isAbsent, toJson]
    · simp [ha, ih v hv]
  | object fields ih => rw [normal, toJson, toJson, fieldsToJson_normalFields ih]
  | _ => rfl

/-- **Sanitizing does not show in JSON**: a value that is sanitized without a fault and what is
    left of it are converted to the same tree, by either converter. -/
theorem sanitize_keeps_json {v : Value} (h : v.sanitize.fault? = none) :
    ∃ j, v.toJson? = some j ∧ v.sanitize.value.toJson? = some j ∧
      v.serialize = .ok j ∧ v.sanitize.value.serialize = .ok j := by
  obtain ⟨ha, hf, hd⟩ := (sanitize_fault?_iff v).1 h
  have hplain := plain_normal ⟨ha, hf, hd⟩
  have hf' : ForeignFree v.normal := hplain.mono fun _ hx => hx.2.1
  have ha' : v.normal.isAbsent = false := (hplain _ (.self _)).1
  rw [sanitize_value h]
  refine ⟨v.toJson, toJson?_of_foreignFree ha hf, ?_, serialize_of_foreignFree hf, ?_⟩
  · rw [toJson?_of_foreignFree ha' hf', toJson_normal]
  · rw [serialize_of_foreignFree hf', toJson_normal]

/-- Holes and absent fields at two depths, an infinity, and an object that loses its only field. -/
theorem sanitize_keeps_json_sparse :
    let v := object [("a", undefined), ("b", array [hole, number ⟨0x7ff0000000000000⟩,
      object [("c", hole)]]), ("d", number ⟨0x8000000000000000⟩)]
    v.sanitize.fault? = none ∧ ∃ j, v.toJson? = some j ∧ v.sanitize.value.toJson? = some j ∧
      v.serialize = .ok j ∧ v.sanitize.value.serialize = .ok j := by
  intro v
  have h : v.sanitize.fault? = none := by decide +kernel
  exact ⟨h, sanitize_keeps_json h⟩

end Value

/-! ## The two JSON encoders beside each other

    `toJson?` answers for an absent value before it goes into it, `serialize` writes `null` for
    it wherever it stands and looks ahead for absent fields. Where no foreign kind occurs both
    come to the one JSON form of the value. Where one occurs, `serialize` stops at the first of
    `foreignKinds`, which are listed in depth-first order without a walk that stops
    (`serialize_of_head?`). -/

/-- The kind of a fault that is a value and not a key. -/
def Unstorable.kind? : Unstorable → Option Kind
  | invalidKey _ => none
  | unsupported kind => some kind

namespace Value

/-! Foreign values in depth-first order. -/

/-- The kinds of the foreign values in a value: those among its faults, which are listed depth
    first, fields and items in their order. -/
def foreignKinds (v : Value) : List Kind := v.faults.filterMap Unstorable.kind?

theorem foreignKinds_array (items : List Value) :
    (array items).foreignKinds = items.flatMap foreignKinds := by
  rw [foreignKinds, faults, itemFaults_eq, List.filterMap_flatMap]
  rfl

theorem foreignKinds_object (fields : List (String × Value)) :
    (object fields).foreignKinds = fields.flatMap fun e => e.2.foreignKinds := by
  rw [foreignKinds, faults, fieldFaults_eq, List.filterMap_flatMap]
  refine congrArg (List.flatMap · fields) (funext fun e => ?_)
  -- a key adds no kind, whether it is a fault or not
  have hkey : (if hasSeparator e.1 then [Unstorable.invalidKey e.1] else []).filterMap
      Unstorable.kind? = [] := by
    split <;> rfl
  rw [List.filterMap_append, hkey, List.nil_append]
  rfl

theorem foreignKinds_eq_nil_iff (v : Value) : v.foreignKinds = [] ↔ ForeignFree v := by
  induction v with
  | array items ih =>
    rw [foreignKinds_array, foreignFree_array, List.flatMap_eq_nil_iff]
    exact forall₂_congr ih
  | object fields ih =>
    rw [foreignKinds_object, foreignFree_object, List.flatMap_eq_nil_iff]
    exact forall₂_congr ih
  | date | bytes | map | set =>
    exact iff_of_false (List.cons_ne_nil _ _) fun h => Bool.noConfusion (h _ (.self _))
  | _ => exact iff_of_true rfl ((throughout_leaf rfl).2 rfl)

/-! Where the encoder that names what it refuses stops. -/

section
variable {kind : Kind}

theorem serializeItems_eq_error {items : List Value} (done : List Json)
    (hitems : ∀ v ∈ items, v.foreignKinds.head? = some kind → v.serialize = .error kind)
    (h : (items.flatMap foreignKinds).head? = some kind) :
    serializeItems done items = .error kind := by
  induction items generalizing done with
  | nil => cases h
  | cons v rest ih =>
    obtain ⟨hv, hrest⟩ := List.forall_mem_cons.1 hitems
    rw [List.flatMap_cons, List.head?_append] at h
    rw [serializeItems]
    cases hkinds : v.foreignKinds with
    | nil =>
      rw [serialize_of_foreignFree ((foreignKinds_eq_nil_iff v).1 hkinds)]
      rw [hkinds] at h
      exact ih _ hrest h
    | cons first more =>
      rw [hkinds] at h
      rw [hv (by rw [hkinds]; exact h)]

theorem serializeFields_eq_error {fields : List (String × Value)} (done : List (String × Json))
    (hfields : ∀ e ∈ fields, e.2.foreignKinds.head? = some kind → e.2.serialize = .error kind)
    (h : (fields.flatMap fun e => e.2.foreignKinds).head? = some kind) :
    serializeFields done fields = .error kind := by
  induction fields generalizing done with
  | nil => cases h
  | cons e rest ih =>
    obtain ⟨key, v⟩ := e
    obtain ⟨hv, hrest⟩ := List.forall_mem_cons.1 hfields
    rw [List.flatMap_cons, List.head?_append] at h
    rw [serializeFields]
    by_cases ha : v.isAbsent = true
    · have hkinds : v.foreignKinds = [] :=
        (foreignKinds_eq_nil_iff v).2 (foreignFree_of_isAbsent ha)
      rw [hkinds] at h
      rw [if_pos ha]
      exact ih _ hrest h
    · rw [if_neg ha]
      cases hkinds : v.foreignKinds with
      | nil =>
        rw [serialize_of_foreignFree ((foreignKinds_eq_nil_iff v).1 hkinds)]
        rw [hkinds] at h
        exact ih _ hrest h
      | cons first more =>
        rw [hkinds] at h
        rw [hv (by rw [hkinds]; exact h)]

theorem serialize_of_head? {v : Value} (h : v.foreignKinds.head? = some kind) :
    v.serialize = .error kind := by
  induction v with
  | array items ih =>
    rw [foreignKinds_array] at h
    rw [serialize, serializeItems_eq_error [] ih h]
    rfl
  | object fields ih =>
    rw [foreignKinds_object] at h
    rw [serialize, serializeFields_eq_error [] ih h]
    rfl
  | date | bytes | map | set =>
    obtain rfl := Option.some.inj h
    rfl
  | _ => cases h

end

/-- `serialize` comes to the JSON form, or stops at the first foreign value. -/
theorem serialize_cases (v : Value) :
    ForeignFree v ∧ v.serialize = .ok v.toJson ∨
      ∃ kind, v.foreignKinds.head? = some kind ∧ v.serialize = .error kind := by
  cases hkinds : v.foreignKinds with
  | nil =>
    have hf : ForeignFree v := (foreignKinds_eq_nil_iff v).1 hkinds
    exact .inl ⟨hf, serialize_of_foreignFree hf⟩
  | cons kind more => exact .inr ⟨kind, rfl, serialize_of_head? (by rw [hkinds]; rfl)⟩

theorem serialize_eq_error_iff (v : Value) (kind : Kind) :
    v.serialize = .error kind ↔ v.foreignKinds.head? = some kind := by
  refine ⟨fun h => ?_, serialize_of_head?⟩
  rcases serialize_cases v with ⟨-, hok⟩ | ⟨first, hfirst, herror⟩
  · rw [hok] at h
    cases h
  · rw [herror] at h
    obtain rfl := Except.error.inj h
    exact hfirst

theorem serialize_eq_ok_iff (v : Value) (j : Json) :
    v.serialize = .ok j ↔ ForeignFree v ∧ v.toJson = j := by
  constructor
  · intro h
    rcases serialize_cases v with ⟨hf, hok⟩ | ⟨first, -, herror⟩
    · rw [hok] at h
      exact ⟨hf, Except.ok.inj h⟩
    · rw [herror] at h
      cases h
  · rintro ⟨hf, rfl⟩
    exact serialize_of_foreignFree hf

/-- **The two JSON encoders agree.** For a value that is not absent one of them gives a tree
    exactly when the other one gives the same tree, members in the same order, and that is
    when no foreign kind occurs in the value. The one that can name a fault fails with the
    kind of the first foreign value in depth-first order, and with nothing else. An absent
    value has no JSON for the one and is `null` for the other. -/
theorem encoders_agree (v : Value) :
    (v.isAbsent = false →
      (∀ j, v.serialize = .ok j ↔ v.toJson? = some j) ∧
      ((∃ j, v.toJson? = some j) ↔ ForeignFree v)) ∧
    (∀ kind, v.serialize = .error kind ↔ v.foreignKinds.head? = some kind) ∧
    (v.isAbsent = true → v.toJson? = none ∧ v.serialize = .ok .null) := by
  refine ⟨fun ha => ⟨fun j => ?_, ?_⟩, serialize_eq_error_iff v, fun ha => ?_⟩
  · rw [serialize_eq_ok_iff, toJson?_eq_some_iff, and_iff_right ha]
  · simp only [toJson?_eq_some_iff, and_iff_right ha, exists_and_left, exists_eq', and_true]
  · cases v with
    | undefined | hole => exact ⟨rfl, rfl⟩
    | _ => cases ha

/-- Absent values in all places; a set before a date, below a key that no path addresses; and a
    hole alone. -/
theorem encoders_agree_sparse :
    let sparse := object [("size", undefined), ("list", array [hole, null])]
    let foreign := object [("x.y", undefined), ("x.z", array [hole, set [date ⟨0⟩], date ⟨0⟩])]
    (∃ j, sparse.toJson? = some j ∧ sparse.serialize = .ok j) ∧
      (foreign.serialize = .error .set ∧ ¬ ∃ j, foreign.toJson? = some j) ∧
      hole.toJson? = none ∧ hole.serialize = .ok .null := by
  intro sparse foreign
  obtain ⟨hsame, hsome⟩ := (encoders_agree sparse).1 rfl
  obtain ⟨j, hj⟩ := hsome.2 (by decide +kernel)
  have hset : foreign.foreignKinds.head? = some .set := by decide +kernel
  refine ⟨⟨j, hj, (hsame j).2 hj⟩, ⟨((encoders_agree foreign).2.1 _).2 hset, ?_⟩, ?_⟩
  · rw [((encoders_agree foreign).1 rfl).2]
    decide +kernel
  · exact (encoders_agree hole).2.2 rfl

end Value

end DocTree
