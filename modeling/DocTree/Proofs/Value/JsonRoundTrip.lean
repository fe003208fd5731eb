import DocTree.Proofs.Document.NormalForm
import DocTree.Proofs.Number.SafeInteger
import DocTree.Proofs.Value.Equality
import DocTree.Proofs.Value.JsonForm

/- Values through JSON and back. The tree that comes back from JSON is the normal form of the
   value, where its numbers are finite, and the sign of zero is the only thing it has lost
   (`ofJson_toJson`); as far as equality goes, nothing is lost (`interchangeable_unsignZeros`).
   A number that is not finite comes back as `null`, which has the same JSON, so the tree of
   JSON itself survives the way through values whatever the numbers are (`toJson?_ofJson`). -/
namespace DocTree

/-! Numbers. -/

namespace Number

theorem isNaN_eq_false_of_isFinite {x : Number} (h : x.isFinite = true) : x.isNaN = false := by
  simp only [isFinite, isNaN, decide_eq_true_eq, decide_eq_false_iff_not] at h ⊢
  omega

theorem sameUpToZero_unsignZero (x : Number) : x.unsignZero.SameUpToZero x := by
  rw [unsignZero]
  split
  · next h => exact .inr ⟨rfl, h⟩
  · exact .inl rfl

theorem eq_unsignZero {x : Number} (h : x.isNaN = false) : x.unsignZero.eq x = true := by
  refine (eq_iff _ _).2 ⟨?_, h, sameUpToZero_unsignZero x⟩
  rw [unsignZero]
  split
  · rfl
  · exact h

end Number

namespace Value

theorem numberToJson_eq_of_sameUpToZero {x y : Number} (h : x.SameUpToZero y) :
    numberToJson x = numberToJson y := by
  obtain rfl | ⟨hx, hy⟩ := h
  · rfl
  · rw [numberToJson, numberToJson, Number.toSafeInt?_of_magnitude_eq_zero hx,
      Number.toSafeInt?_of_magnitude_eq_zero hy]

theorem ofJson_numberToJson {x : Number} (h : x.isFinite = true) :
    ofJson (numberToJson x) = number x.unsignZero := by
  rw [numberToJson]
  cases hn : x.toSafeInt? with
  | some n =>
    simp only [ofJson]
    rw [Number.ofInt_of_toSafeInt? hn]
  | none =>
    -- zeros are safe integers, so this is none
    have hx : x.magnitude ≠ 0 := by
      intro hx
      rw [Number.toSafeInt?_of_magnitude_eq_zero hx] at hn
      cases hn
    simp only [h, if_true, ofJson]
    rw [Number.unsignZero, if_neg hx]

theorem numberToJson_of_not_isFinite {x : Number} (h : x.isFinite = false) :
    numberToJson x = .null := by
  simp [numberToJson, Number.toSafeInt?, Number.toInt?, h]

theorem toJson?_ofJson_numberToJson (x : Number) :
    (ofJson (numberToJson x)).toJson? = some (numberToJson x) := by
  cases h : x.isFinite with
  | true =>
    rw [ofJson_numberToJson h, toJson?,
      numberToJson_eq_of_sameUpToZero (Number.sameUpToZero_unsignZero x)]
  | false =>
    rw [numberToJson_of_not_isFinite h]
    rfl

/-! From JSON. -/

theorem itemsOfJson_eq (items : List Json) (done : List Value) :
    itemsOfJson done items = done.reverse ++ items.map ofJson := by
  induction items generalizing done with
  | nil => simp [itemsOfJson]
  | cons j rest ih => simp [itemsOfJson, ih]

theorem fieldsOfJson_eq (members : List (String × Json)) (done : Fields Value) :
    fieldsOfJson done members =
      members.foldl (fun fields m => fields.insert m.1 (ofJson m.2)) done := by
  induction members generalizing done with
  | nil => rfl
  | cons m rest ih =>
    obtain ⟨key, j⟩ := m
    rw [fieldsOfJson, ih, List.foldl_cons]

theorem fieldsOfJson_eq_ofList (members : List (String × Json)) :
    fieldsOfJson [] members = Fields.ofList (members.map fun m => (m.1, ofJson m.2)) := by
  rw [fieldsOfJson_eq, Fields.ofList, List.foldl_map]

theorem ofJson_array (items : List Json) : ofJson (.array items) = array (items.map ofJson) := by
  rw [ofJson, itemsOfJson_eq]
  rfl

theorem ofJson_object {members : List (String × Json)} (h : Fields.Distinct members) :
    ofJson (.object members) = object (members.map fun m => (m.1, ofJson m.2)) := by
  have hkeys : Fields.Distinct (members.map fun m => (m.1, ofJson m.2)) := by
    rwa [Fields.Distinct, Fields.keys_mapSnd]
  rw [ofJson, fieldsOfJson_eq_ofList, Fields.ofList_of_distinct hkeys]

/-- A value that was read from JSON repeats no key, also where the JSON does. -/
theorem distinctKeys_ofJson : ∀ j : Json, DistinctKeys (ofJson j)
  | .null | .bool _ | .integer _ | .float _ | .string _ => distinctKeys_of_isLeaf rfl
  | .array items => by
    rw [ofJson_array, distinctKeys_array, List.forall_mem_map]
    intro j hj
    exact distinctKeys_ofJson j
  | .object members => by
    rw [ofJson, fieldsOfJson_eq_ofList, distinctKeys_object]
    refine ⟨Fields.distinct_ofList _, fun e he => ?_⟩
    obtain ⟨m, hm, rfl⟩ := List.mem_map.1 (Fields.ofList_subset _ he)
    exact distinctKeys_ofJson m.2
termination_by j => sizeOf j
decreasing_by
  · have hlt := List.sizeOf_lt_of_mem hj
    simp only [Json.array.sizeOf_spec]
    omega
  · obtain ⟨key, j⟩ := m
    have hlt := List.sizeOf_lt_of_mem hm
    simp only [Json.object.sizeOf_spec, Prod.mk.sizeOf_spec] at hlt ⊢
    omega

theorem distinct_fieldsToJson {fields : Fields Value} (h : fields.Distinct) :
    Fields.Distinct (fieldsToJson fields) := by
  rw [fieldsToJson_eq, Fields.Distinct, Fields.keys_mapSnd]
  exact List.Nodup.sublist (List.filter_sublist.map _) h

theorem fieldsToJson_of_present {fields : Fields Value} (h : ∀ e ∈ fields, e.2.isAbsent = false) :
    fieldsToJson fields = fields.map fun e => (e.1, e.2.toJson) := by
  have hkept : fields.filter (fun e => !e.2.isAbsent) = fields := by
    rw [List.filter_eq_self]
    intro e he
    rw [h e he]
    rfl
  rw [fieldsToJson_eq, hkept]

/-- The JSON of a value comes back from it as it went in, whatever the numbers are. -/
theorem toJson?_ofJson {v : Value} (hk : DistinctKeys v) :
    (ofJson v.toJson).toJson? = some v.toJson := by
  induction v with
  | array items ih =>
    rw [distinctKeys_array] at hk
    have hback : ∀ v ∈ items, ForeignFree (ofJson v.toJson) ∧ (ofJson v.toJson).toJson = v.toJson :=
      fun v hv => ((toJson?_eq_some_iff _ _).1 (ih v hv (hk v hv))).2
    rw [toJson, itemsToJson_eq, ofJson_array, List.map_map, toJson?_eq_some_iff, foreignFree_array,
      List.forall_mem_map, toJson, itemsToJson_eq, List.map_map]
    refine ⟨rfl, fun v hv => (hback v hv).1, congrArg Json.array ?_⟩
    exact List.map_congr_left fun v hv => (hback v hv).2
  | object fields ih =>
    obtain ⟨hkeys, hk⟩ := (distinctKeys_object fields).1 hk
    have hback : ∀ e ∈ fields, (ofJson e.2.toJson).isAbsent = false ∧
        ForeignFree (ofJson e.2.toJson) ∧ (ofJson e.2.toJson).toJson = e.2.toJson :=
      fun e he => (toJson?_eq_some_iff _ _).1 (ih e he (hk e he))
    rw [toJson, ofJson_object (distinct_fieldsToJson hkeys), fieldsToJson_eq, List.map_map,
      toJson?_eq_some_iff, foreignFree_object, List.forall_mem_map]
    refine ⟨rfl, fun e he => (hback e (List.mem_filter.1 he).1).2.1, ?_⟩
    rw [toJson, fieldsToJson_of_present, List.map_map]
    · refine congrArg Json.object (List.map_congr_left fun e he => ?_)
      exact congrArg (Prod.mk e.1) (hback e (List.mem_filter.1 he).1).2.2
    · rw [List.forall_mem_map]
      exact fun e he => (hback e (List.mem_filter.1 he).1).1
  | number x => exact toJson?_ofJson_numberToJson x
  | _ => rfl

/-! The value that comes back. -/

mutual

/-- The value without the signs of its zeros, in arrays and objects of any depth. -/
def unsignZeros : Value → Value
  | number x => number x.unsignZero
  | array items => array (unsignItems items)
  | object fields => object (unsignFields fields)
  | v => v

def unsignItems : List Value → List Value
  | [] => []
  | v :: rest => v.unsignZeros :: unsignItems rest

def unsignFields : List (String × Value) → List (String × Value)
  | [] => []
  | (key, v) :: rest => (key, v.unsignZeros) :: unsignFields rest

end

theorem unsignItems_eq (items : List Value) : unsignItems items = items.map unsignZeros := by
  induction items with
  | nil => rfl
  | cons v rest ih => rw [unsignItems, ih, List.map_cons]

theorem unsignFields_eq (fields : List (String × Value)) :
    unsignFields fields = fields.map fun e => (e.1, e.2.unsignZeros) := by
  induction fields with
  | nil => rfl
  | cons e rest ih =>
    obtain ⟨key, v⟩ := e
    rw [unsignFields, ih, List.map_cons]

theorem interchangeable_unsignZeros {v : Value} (hk : DistinctKeys v) (hn : NaNFree v) :
    Interchangeable v.unsignZeros v := by
  induction v with
  | number x =>
    have hx : x.isNaN = false := hn _ (.self _)
    refine ⟨distinctKeys_of_isLeaf rfl, hk, ?_⟩
    simpa [unsignZeros, equal] using Number.eq_unsignZero hx
  | array items ih =>
    rw [distinctKeys_array] at hk
    rw [nanFree_array] at hn
    rw [unsignZeros, unsignItems_eq, interchangeable_array, List.forall₂_map_left_iff,
      List.forall₂_same]
    exact fun v hv => ih v hv (hk v hv) (hn v hv)
  | object fields ih =>
    obtain ⟨hkeys, hk⟩ := (distinctKeys_object fields).1 hk
    rw [nanFree_object] at hn
    rw [unsignZeros, unsignFields_eq, interchangeable_object, Fields.Distinct, Fields.keys_mapSnd]
    refine ⟨hkeys, hkeys, fun key => ?_⟩
    rw [Fields.get?_mapSnd]
    cases hget : Fields.get? fields key with
    | none => exact .none
    | some v =>
      have he := Fields.mem_of_get? hget
      exact .some (ih _ he (hk _ he) (hn _ he))
  | _ => exact .refl hk hn

def isFinite : Value → Bool
  | number n => n.isFinite
  | _ => true

/-- Every number in the value is finite. -/
def FiniteNumbers (v : Value) : Prop := Throughout (fun x => x.isFinite = true) v

instance (v : Value) : Decidable (FiniteNumbers v) :=
  inferInstanceAs (Decidable (Throughout (fun x => x.isFinite = true) v))

theorem finiteNumbers_array (items : List Value) :
    FiniteNumbers (array items) ↔ ∀ v ∈ items, FiniteNumbers v := by
  rw [FiniteNumbers, throughout_array]
  exact and_iff_right rfl

theorem finiteNumbers_object (fields : List (String × Value)) :
    FiniteNumbers (object fields) ↔ ∀ e ∈ fields, FiniteNumbers e.2 := by
  rw [FiniteNumbers, throughout_object]
  exact and_iff_right rfl

/-- A value that can be stored holds no dates, so only its numbers could be a NaN. -/
theorem nanFree_of_finiteNumbers {v : Value} (hf : ForeignFree v) (hfin : FiniteNumbers v) :
    NaNFree v := by
  intro x hx
  have hforeign : x.isForeign = false := hf x hx
  have hfinite : x.isFinite = true := hfin x hx
  cases x with
  | number n => exact Number.isNaN_eq_false_of_isFinite hfinite
  | date => cases hforeign
  | _ => rfl

/-- A value of finite numbers comes back from JSON in normal form, without the signs of zeros. -/
theorem ofJson_toJson {v : Value} (hk : DistinctKeys v) (hf : ForeignFree v)
    (hfin : FiniteNumbers v) :
    ofJson v.toJson = if v.isAbsent then null else v.normal.unsignZeros := by
  induction v with
  | array items ih =>
    rw [distinctKeys_array] at hk
    rw [foreignFree_array] at hf
    rw [finiteNumbers_array] at hfin
    refine Eq.trans ?_ (if_neg Bool.false_ne_true).symm
    rw [toJson, itemsToJson_eq, ofJson_array, List.map_map, normal, normalItems_eq, unsignZeros,
      unsignItems_eq, List.map_map]
    refine congrArg array (List.map_congr_left fun v hv => ?_)
    refine (ih v hv (hk v hv) (hf v hv) (hfin v hv)).trans ?_
    rw [Function.comp_apply]
    split <;> rfl
  | object fields ih =>
    obtain ⟨hkeys, hk⟩ := (distinctKeys_object fields).1 hk
    rw [foreignFree_object] at hf
    rw [finiteNumbers_object] at hfin
    refine Eq.trans ?_ (if_neg Bool.false_ne_true).symm
    rw [toJson, ofJson_object (distinct_fieldsToJson hkeys), fieldsToJson_eq, List.map_map, normal,
      normalFields_eq, unsignZeros, unsignFields_eq, List.map_map]
    refine congrArg object (List.map_congr_left fun e he => ?_)
    obtain ⟨hmem, ha⟩ := List.mem_filter.1 he
    have hback := ih e hmem (hk e hmem) (hf e hmem) (hfin e hmem)
    rw [if_neg (by simpa using ha)] at hback
    exact congrArg (Prod.mk e.1) hback
  | number x => exact ofJson_numberToJson (hfin _ (.self _))
  | date | bytes | map | set => exact absurd (hf _ (.self _)) Bool.noConfusion
  | _ => rfl

theorem sanitized_eq_ok_iff {v : Value} (hk : DistinctKeys v) (c : Value) :
    v.sanitized.value = .ok c ↔ Storable v ∧ v.normal = c := by
  rw [← sanitize_fault?_iff, sanitized, copy_eq_self hk]
  cases hfault : v.sanitize.fault? with
  | none => simp [hfault, sanitize_value]
  | some fault => simp

/-- **The way through JSON and back.** A value of finite numbers that can be stored comes back
    in its stored form, field by field and item by item, except that zeros have lost their
    sign. The JSON of any value comes back from that value as it went in. -/
theorem json_round_trip {v : Value} (hk : DistinctKeys v) :
    (∀ c, v.sanitized.value = .ok c → FiniteNumbers v →
      ∃ j, v.toJson? = some j ∧ (ofJson j).equal c = true ∧ ofJson j = c.unsignZeros) ∧
    ∀ j, v.toJson? = some j → (ofJson j).toJson? = some j := by
  constructor
  · intro c hc hfin
    obtain ⟨⟨ha, hf, -⟩, rfl⟩ := (sanitized_eq_ok_iff hk c).1 hc
    have hback : ofJson v.toJson = v.normal.unsignZeros := by
      rw [ofJson_toJson hk hf hfin, if_neg (by simp [ha])]
    have hnan : NaNFree v.normal := nanFree_normal (nanFree_of_finiteNumbers hf hfin)
    refine ⟨v.toJson, toJson?_of_foreignFree ha hf, ?_, hback⟩
    rw [hback]
    exact (interchangeable_unsignZeros (distinctKeys_normal hk) hnan).equal
  · intro j hj
    obtain ⟨-, -, rfl⟩ := (toJson?_eq_some_iff v j).1 hj
    exact toJson?_ofJson hk

/-- A negative zero beside an absent field, a hole, a fraction and the first unsafe integer;
    and a NaN and an infinity, which come back as `null`. -/
theorem json_round_trip_odd_numbers :
    let v := object [("zero", number ⟨0x8000000000000000⟩), ("gone", undefined),
      ("items", array [hole, number ⟨0x3fe0000000000000⟩, number ⟨0x4340000000000000⟩])]
    let c := object [("zero", number ⟨0x8000000000000000⟩),
      ("items", array [null, number ⟨0x3fe0000000000000⟩, number ⟨0x4340000000000000⟩])]
    let w := array [number .nan, object [("inf", number ⟨0x7ff0000000000000⟩), ("gone", hole)]]
    let j := Json.array [.null, .object [("inf", .null)]]
    v.sanitized.value = .ok c ∧ FiniteNumbers v ∧ DistinctKeys v ∧ DistinctKeys w ∧
      w.toJson? = some j ∧
      (∃ j, v.toJson? = some j ∧ (ofJson j).equal c = true ∧ ofJson j = c.unsignZeros) ∧
      (ofJson j).toJson? = some j := by
  intro v c w j
  have hv : DistinctKeys v := by decide +kernel
  have hw : DistinctKeys w := by decide +kernel
  have hfin : FiniteNumbers v := by decide +kernel
  have hfault : v.sanitize.fault? = none := by decide +kernel
  have hc : v.sanitized.value = .ok c :=
    (sanitized_eq_ok_iff hv c).2 ⟨(sanitize_fault?_iff v).1 hfault, rfl⟩
  have hj : w.toJson? = some j := by
    simp (disch := decide) [w, j, toJson?, itemsToJson?, fieldsToJson?, isAbsent,
      numberToJson_of_not_isFinite]
  exact ⟨hc, hfin, hv, hw, hj, (json_round_trip hv).1 c hc hfin, (json_round_trip hw).2 j hj⟩

end Value
end DocTree
