import DocTree.Document.Sanitize
import DocTree.Proofs.Value.Interchangeable
import DocTree.Proofs.Value.Within

/- The stored form of a value. `Storable` is said of the value as it comes: it is not absent,
   no foreign kind occurs in it, and no key in it holds the separator. `normal` is the form
   that a storable value is stored in, item by item and field by field. The walk of
   `sanitize` keeps what it has done in reverse and stops at the first fault.

   1. On an object it is the walk in place that removes fields by index (`sanitize_object`).
   2. It gets through exactly on storable values (`sanitize_fault?_iff`).
   3. What it leaves is the normal form (`sanitize_value`).
   4. Nothing in that is absent, foreign or under a key that no path addresses
      (`plain_normal`).
   5. The normal forms of equal values are equal (`Interchangeable.normal`). -/
namespace DocTree.Value

/-- The kinds that a host hands in and that are never stored. -/
def isForeign : Value → Bool
  | date _ | bytes _ | map _ | set _ => true
  | _ => false

/-- Every key is free of the separator, also a key whose value is absent. -/
def KeysAddressable (v : Value) : Prop := ∀ key ∈ v.ownKeys, hasSeparator key = false

def AbsentFree (v : Value) : Prop := Throughout (fun x => x.isAbsent = false) v
def ForeignFree (v : Value) : Prop := Throughout (fun x => x.isForeign = false) v
def DotFree (v : Value) : Prop := Throughout KeysAddressable v

instance (v : Value) : Decidable (ForeignFree v) :=
  inferInstanceAs (Decidable (Throughout (fun x => x.isForeign = false) v))

def Storable (v : Value) : Prop := v.isAbsent = false ∧ ForeignFree v ∧ DotFree v

/-- What every part of a stored value is. -/
def Plain (v : Value) : Prop :=
  v.isAbsent = false ∧ v.isForeign = false ∧ KeysAddressable v

mutual

/-- The stored form: absent items are `null` and absent fields are gone, at every depth. -/
def normal : Value → Value
  | array items => array (normalItems items)
  | object fields => object (normalFields fields)
  | v => v

def normalItems : List Value → List Value
  | [] => []
  | v :: rest => (if v.isAbsent then null else v.normal) :: normalItems rest

def normalFields : List (String × Value) → List (String × Value)
  | [] => []
  | (key, v) :: rest =>
    if v.isAbsent then normalFields rest else (key, v.normal) :: normalFields rest

end

theorem normalItems_eq (items : List Value) :
    normalItems items = items.map fun v => if v.isAbsent then null else v.normal := by
  induction items with
  | nil => rfl
  | cons v rest ih => rw [normalItems, ih, List.map_cons]

theorem normalFields_eq (fields : List (String × Value)) :
    normalFields fields =
      (fields.filter fun e => !e.2.isAbsent).map fun e => (e.1, e.2.normal) := by
  induction fields with
  | nil => rfl
  | cons e rest ih =>
    obtain ⟨key, v⟩ := e
    rw [normalFields, ih]
    by_cases ha : v.isAbsent = true <;> simp [ha]

theorem normal_of_isLeaf {v : Value} (h : v.isLeaf = true) : v.normal = v := by
  cases v with
  | array | object | map | set => cases h
  | _ => rfl

theorem isAbsent_normal (v : Value) : v.normal.isAbsent = v.isAbsent := by
  cases v <;> rfl

/-! Storable values, by what they hold. -/

/-- An absent value inside another one is no obstacle to storing that one. -/
theorem isAbsent_or_storable_iff (v : Value) :
    v.isAbsent = true ∨ Storable v ↔ ForeignFree v ∧ DotFree v := by
  constructor
  · intro h
    rcases h with ha | ⟨-, h⟩
    · rw [ForeignFree, DotFree, throughout_leaf (isLeaf_of_isAbsent ha),
        throughout_leaf (isLeaf_of_isAbsent ha)]
      cases v <;> simp [isAbsent, isForeign, KeysAddressable, ownKeys] at ha ⊢
    · exact h
  · intro h
    by_cases ha : v.isAbsent = true
    · exact .inl ha
    · exact .inr ⟨by simpa using ha, h⟩

/-- May stand inside a storable value. -/
def Placeable (v : Value) : Prop := v.isAbsent = true ∨ Storable v

theorem storable_leaf {v : Value} (h : v.isLeaf = true) :
    Storable v ↔ v.isAbsent = false ∧ v.isForeign = false := by
  rw [Storable, ForeignFree, DotFree, throughout_leaf h, throughout_leaf h]
  cases v <;> simp [isLeaf, KeysAddressable, ownKeys] at h ⊢

theorem storable_array (items : List Value) :
    Storable (array items) ↔ ∀ v ∈ items, v.isAbsent = true ∨ Storable v := by
  simp only [isAbsent_or_storable_iff, forall_and]
  rw [Storable, ForeignFree, DotFree, throughout_array, throughout_array]
  simp [isAbsent, isForeign, KeysAddressable, ownKeys, ForeignFree, DotFree]

theorem storable_object (fields : List (String × Value)) :
    Storable (object fields) ↔
      ∀ e ∈ fields, hasSeparator e.1 = false ∧ (e.2.isAbsent = true ∨ Storable e.2) := by
  simp only [isAbsent_or_storable_iff, forall_and]
  rw [Storable, ForeignFree, DotFree, throughout_object, throughout_object, KeysAddressable,
    ownKeys, Fields.keys, List.forall_mem_map]
  simp only [isAbsent, isForeign, true_and, ForeignFree, DotFree]
  exact and_left_comm

theorem not_storable_of_isForeign {v : Value} (h : v.isForeign = true) : ¬ Storable v := by
  intro hs
  obtain ⟨-, hf, -⟩ := hs
  have hv : v.isForeign = false := hf v (.self v)
  rw [h] at hv
  cases hv

/-! An object is walked in place. -/

/-- The walk over an object in place, by index: an absent field is removed where it stands
    and the index stays, any other field is replaced and passed. -/
def sanitizeFrom (index : Nat) (events : List Event) (fields : Fields Value) :
    Sanitized (Fields Value) :=
  if h : index < fields.length then
    let (key, v) := fields[index]
    if hasSeparator key then ⟨fields, some (.invalidKey key), events ++ [.dottedKey key]⟩
    else if v.isAbsent then sanitizeFrom index events (fields.eraseIdx index)
    else
      let inner := v.sanitize
      let replaced := fields.set index (key, inner.value)
      match inner.fault? with
      | none => sanitizeFrom (index + 1) (events ++ inner.events) replaced
      | some fault => ⟨replaced, some fault, events ++ inner.events⟩
  else ⟨fields, none, events⟩
termination_by fields.length - index
decreasing_by
  · rw [List.length_eraseIdx_of_lt h]; omega
  · rw [List.length_set]; omega

/-- The index is the number of fields done: a removal brings the next field to it, so no
    field is passed over. -/
theorem sanitizeFrom_eq (rest done : Fields Value) (events : List Event) :
    sanitizeFrom done.length events (done.reverse ++ rest) = sanitizeFields done events rest := by
  induction rest generalizing done events with
  | nil =>
    rw [sanitizeFrom, dif_neg (by simp)]
    simp [sanitizeFields]
  | cons e rest ih =>
    obtain ⟨key, v⟩ := e
    have hlen : done.length < (done.reverse ++ (key, v) :: rest).length := by simp
    have hat : (done.reverse ++ (key, v) :: rest)[done.length] = (key, v) := by simp
    have herase : (done.reverse ++ (key, v) :: rest).eraseIdx done.length =
        done.reverse ++ rest := by
      simp [List.eraseIdx_append_of_length_le]
    have hset (w : Value) : (done.reverse ++ (key, v) :: rest).set done.length (key, w) =
        done.reverse ++ (key, w) :: rest := by
      simp
    rw [sanitizeFrom, dif_pos hlen, sanitizeFields]
    simp only [hat, herase, hset]
    by_cases hk : hasSeparator key = true
    · rw [if_pos hk, if_pos hk]
    · rw [if_neg hk, if_neg hk]
      by_cases ha : v.isAbsent = true
      · rw [if_pos ha, if_pos ha]
        exact ih done events
      · rw [if_neg ha, if_neg ha]
        cases v.sanitize.fault? with
        | none => simpa using ih ((key, v.sanitize.value) :: done) (events ++ v.sanitize.events)
        | some fault => rfl

theorem sanitize_object (fields : Fields Value) :
    (object fields).sanitize =
      let walked := sanitizeFrom 0 [] fields
      ⟨object walked.value, walked.fault?, walked.events⟩ := by
  have h := sanitizeFrom_eq fields [] []
  simp only [List.length_nil, List.reverse_nil, List.nil_append] at h
  rw [sanitize, h]

/-! When the two loops get through, and what they leave. -/

theorem sanitizeItems_fault? (items done : List Value) (events : List Event) :
    (sanitizeItems done events items).fault? = none ↔
      ∀ v ∈ items, v.isAbsent = true ∨ v.sanitize.fault? = none := by
  induction items generalizing done events with
  | nil => simp [sanitizeItems]
  | cons v rest ih =>
    rw [sanitizeItems, List.forall_mem_cons]
    by_cases ha : v.isAbsent = true
    · simp [ha, ih]
    · cases hf : v.sanitize.fault? with
      | none => simp [ha, hf, ih]
      | some fault => simp [ha, hf]

theorem sanitizeItems_value {items : List Value} (done : List Value) (events : List Event)
    (h : ∀ v ∈ items, v.isAbsent = true ∨ v.sanitize.fault? = none) :
    (sanitizeItems done events items).value =
      done.reverse ++ items.map fun v => if v.isAbsent then null else v.sanitize.value := by
  induction items generalizing done events with
  | nil => simp [sanitizeItems]
  | cons v rest ih =>
    obtain ⟨hv, hrest⟩ := List.forall_mem_cons.1 h
    rw [sanitizeItems]
    by_cases ha : v.isAbsent = true
    · simp [ha, ih _ _ hrest]
    · simp [ha, hv.resolve_left ha, ih _ _ hrest]

theorem sanitizeFields_fault? (fields : List (String × Value)) (done : Fields Value)
    (events : List Event) :
    (sanitizeFields done events fields).fault? = none ↔
      ∀ e ∈ fields, hasSeparator e.1 = false ∧
        (e.2.isAbsent = true ∨ e.2.sanitize.fault? = none) := by
  induction fields generalizing done events with
  | nil => simp [sanitizeFields]
  | cons e rest ih =>
    obtain ⟨key, v⟩ := e
    rw [sanitizeFields, List.forall_mem_cons]
    -- the key counts even where the value is absent, as it is looked at first
    by_cases hk : hasSeparator key = true
    · simp [hk]
    · by_cases ha : v.isAbsent = true
      · simp [hk, ha, ih]
      · cases hf : v.sanitize.fault? with
        | none => simp [hk, ha, hf, ih]
        | some fault => simp [hk, ha, hf]

theorem sanitizeFields_value {fields : List (String × Value)} (done : Fields Value)
    (events : List Event)
    (h : ∀ e ∈ fields, hasSeparator e.1 = false ∧
      (e.2.isAbsent = true ∨ e.2.sanitize.fault? = none)) :
    (sanitizeFields done events fields).value = done.reverse ++
      (fields.filter fun e => !e.2.isAbsent).map fun e => (e.1, e.2.sanitize.value) := by
  induction fields generalizing done events with
  | nil => simp [sanitizeFields]
  | cons e rest ih =>
    obtain ⟨key, v⟩ := e
    obtain ⟨⟨hk, hv⟩, hrest⟩ := List.forall_mem_cons.1 h
    rw [sanitizeFields, if_neg (by simp [hk])]
    by_cases ha : v.isAbsent = true
    · simp [ha, ih _ _ hrest]
    · simp [ha, hv.resolve_left ha, ih _ _ hrest]

/-! The whole walk. -/

theorem sanitize_fault?_iff (v : Value) : v.sanitize.fault? = none ↔ Storable v := by
  induction v with
  | array items ih =>
    rw [sanitize, sanitizeItems_fault?, storable_array]
    exact forall₂_congr fun v hv => or_congr_right (ih v hv)
  | object fields ih =>
    rw [sanitize, sanitizeFields_fault?, storable_object]
    exact forall₂_congr fun e he => and_congr_right fun _ => or_congr_right (ih e he)
  -- containers of a foreign kind are refused without a look at what they hold
  | map | set =>
    refine iff_of_false ?_ (not_storable_of_isForeign rfl)
    simp [sanitize, sanitizeLeaf, kind, Kind.isScalar]
  | _ =>
    rw [storable_leaf rfl]
    simp [sanitize, sanitizeLeaf, kind, Kind.isScalar, isAbsent, isForeign]

theorem sanitize_value {v : Value} (h : v.sanitize.fault? = none) :
    v.sanitize.value = v.normal := by
  induction v with
  | array items ih =>
    rw [sanitize, sanitizeItems_fault?] at h
    rw [sanitize, sanitizeItems_value _ _ h, normal, normalItems_eq]
    refine congrArg array (List.map_congr_left fun v hv => ?_)
    by_cases ha : v.isAbsent = true
    · simp [ha]
    · simp [ha, ih v hv ((h v hv).resolve_left ha)]
  | object fields ih =>
    rw [sanitize, sanitizeFields_fault?] at h
    rw [sanitize, sanitizeFields_value _ _ h, normal, normalFields_eq]
    refine congrArg object (List.map_congr_left fun e he => ?_)
    obtain ⟨hmem, ha⟩ := List.mem_filter.1 he
    rw [ih e hmem ((h e hmem).2.resolve_left (by simpa using ha))]
  | _ => simp only [sanitize, sanitizeLeaf, normal]; split <;> rfl

/-- What holds of everything in a value holds of everything in its normal form, if it holds
    of `null` and is kept one level down. -/
theorem Throughout.normal {P : Value → Prop} {v : Value} (h : Throughout P v) (hnull : P null)
    (hkeep : ∀ x, P x → P x.normal) : Throughout P v.normal := by
  induction v with
  | array items ih =>
    obtain ⟨hself, hitems⟩ := (throughout_array items).1 h
    have hself := hkeep _ hself
    rw [Value.normal] at hself ⊢
    refine (throughout_array _).2 ⟨hself, ?_⟩
    rw [normalItems_eq, List.forall_mem_map]
    intro v hv
    split
    · exact (throughout_leaf rfl).2 hnull
    · exact ih v hv (hitems v hv)
  | object fields ih =>
    obtain ⟨hself, hfields⟩ := (throughout_object fields).1 h
    have hself := hkeep _ hself
    rw [Value.normal] at hself ⊢
    refine (throughout_object _).2 ⟨hself, ?_⟩
    rw [normalFields_eq, List.forall_mem_map]
    intro e he
    have hmem := (List.mem_filter.1 he).1
    exact ih e hmem (hfields e hmem)
  | _ => exact h

theorem plain_normal {v : Value} (h : Storable v) : Throughout Plain v.normal := by
  induction v with
  | array items ih =>
    rw [storable_array] at h
    rw [normal, normalItems_eq, throughout_array, List.forall_mem_map]
    refine ⟨⟨rfl, rfl, by simp [KeysAddressable, ownKeys]⟩, fun v hv => ?_⟩
    by_cases ha : v.isAbsent = true
    · rw [if_pos ha, throughout_leaf rfl]
      exact ⟨rfl, rfl, by simp [KeysAddressable, ownKeys]⟩
    · rw [if_neg ha]
      exact ih v hv ((h v hv).resolve_left ha)
  | object fields ih =>
    rw [storable_object] at h
    rw [normal, normalFields_eq, throughout_object, List.forall_mem_map]
    refine ⟨⟨rfl, rfl, ?_⟩, fun e he => ?_⟩
    -- the keys that are left are keys of the value as it came
    · intro key hkey
      simp only [ownKeys, Fields.keys, List.map_map, List.mem_map, List.mem_filter] at hkey
      obtain ⟨e, ⟨he, -⟩, rfl⟩ := hkey
      exact (h e he).1
    · obtain ⟨hmem, ha⟩ := List.mem_filter.1 he
      exact ih e hmem ((h e hmem).2.resolve_left (by simpa using ha))
  | map | set => exact absurd h (not_storable_of_isForeign rfl)
  | _ =>
    rw [storable_leaf rfl] at h
    simp only [normal]
    rw [throughout_leaf rfl]
    exact ⟨h.1, h.2, by simp [KeysAddressable, ownKeys]⟩

/-- **Sanitizing succeeds exactly on storable values, and leaves their normal form**, in
    which nothing is absent, nothing is foreign and every key can be addressed. -/
theorem sanitize_normal_form (v : Value) :
    (v.sanitize.fault? = none ↔ v.isAbsent = false ∧ ForeignFree v ∧ DotFree v) ∧
    (v.sanitize.fault? = none → v.sanitize.value = v.normal ∧
      AbsentFree v.sanitize.value ∧ ForeignFree v.sanitize.value ∧ DotFree v.sanitize.value) := by
  refine ⟨sanitize_fault?_iff v, fun h => ?_⟩
  have hplain := plain_normal ((sanitize_fault?_iff v).1 h)
  rw [sanitize_value h]
  exact ⟨rfl, hplain.mono fun _ hx => hx.1, hplain.mono fun _ hx => hx.2.1,
    hplain.mono fun _ hx => hx.2.2⟩

/-- Two absent fields in a row, a hole, and an object that loses its only field. -/
theorem sanitize_normal_form_sparse :
    let v := object [("a", undefined), ("b", hole), ("c", array [hole, object [("d", undefined)]])]
    v.sanitize.fault? = none ∧
      v.sanitize.value = object [("c", array [null, object []])] ∧ AbsentFree v.sanitize.value := by
  intro v
  have h : v.sanitize.fault? = none := by decide +kernel
  have hleft := (sanitize_normal_form v).2 h
  exact ⟨h, hleft.1, hleft.2.1⟩

/-! ## Equal values and their stored forms

    Values that are alike are of one kind and have the same keys, and so have all the values in
    them (`Alike.throughout`), so that what makes a value storable holds of both or of neither.
    Their normal forms lose the same fields, wherever these stand, and stay alike
    (`Alike.normal`); they gain neither a repeated key nor a NaN, so the normal forms of equal
    values are equal (`Interchangeable.normal`). -/

theorem isForeign_eq_kind (v : Value) :
    v.isForeign = !(v.kind.isStorable || v.kind == .undefined) := by
  cases v <;> rfl

/-! Storable values. -/

section
variable {a b : Value}

theorem SameLeaf.kind_eq (h : SameLeaf a b) : a.kind = b.kind := by
  cases h with
  | absent ha hb =>
    rw [isAbsent_eq_kind, beq_iff_eq] at ha hb
    rw [ha, hb]
  | _ => rfl

theorem Alike.kind_eq (h : Alike SameLeaf a b) : a.kind = b.kind := by
  cases h with
  | leaf _ _ hs => exact hs.kind_eq
  | _ => rfl

theorem Alike.isAbsent_eq (h : Alike SameLeaf a b) : a.isAbsent = b.isAbsent := by
  rw [isAbsent_eq_kind, isAbsent_eq_kind, h.kind_eq]

theorem Alike.foreignFree (h : Alike SameLeaf a b) (ha : ForeignFree a) : ForeignFree b := by
  refine h.throughout ?_ ha
  intro x y hxy hx
  rw [isForeign_eq_kind] at hx ⊢
  rwa [← hxy.kind_eq]

theorem Alike.dotFree (h : Alike SameLeaf a b) (ha : DotFree a) : DotFree b := by
  refine h.throughout ?_ ha
  intro x y hxy hx key hkey
  exact hx key (hxy.ownKeys_perm.mem_iff.2 hkey)

theorem Alike.storable (h : Alike SameLeaf a b) (ha : Storable a) : Storable b := by
  obtain ⟨habsent, hforeign, hdots⟩ := ha
  exact ⟨h.isAbsent_eq ▸ habsent, h.foreignFree hforeign, h.dotFree hdots⟩

end

/-! Normal forms. -/

theorem forall₂_present {α : Type} {R : α → α → Prop} {f : Value → α}
    {as bs : List (String × Value)}
    (h : List.Forall₂ (fun d e => d.1 = e.1 ∧ Alike SameLeaf d.2 e.2) as bs)
    (hf : ∀ d ∈ as, ∀ {w}, Alike SameLeaf d.2 w → R (f d.2) (f w)) :
    List.Forall₂ (fun x y => x.1 = y.1 ∧ R x.2 y.2)
      ((as.filter fun d => !d.2.isAbsent).map fun d => (d.1, f d.2))
      ((bs.filter fun e => !e.2.isAbsent).map fun e => (e.1, f e.2)) := by
  induction h with
  | nil => exact .nil
  | @cons d e as bs hde _ ih =>
    obtain ⟨hd, has⟩ := List.forall_mem_cons.1 hf
    have hrest := ih has
    rw [List.filter_cons, List.filter_cons, ← hde.2.isAbsent_eq]
    split
    · exact .cons ⟨hde.1, hd hde.2⟩ hrest
    · exact hrest

theorem Alike.normal {a b : Value} (h : Alike SameLeaf a b) :
    Alike SameLeaf a.normal b.normal := by
  induction a generalizing b with
  | array as ih =>
    obtain ⟨bs, rfl, hs⟩ := (alike_array as b).1 h
    rw [Value.normal, Value.normal, normalItems_eq, normalItems_eq]
    refine .array ?_
    rw [List.forall₂_map_left_iff, List.forall₂_map_right_iff]
    refine forall₂_imp_mem hs fun v hv w hvw => ?_
    rw [← hvw.isAbsent_eq]
    split
    · exact .leaf rfl rfl .null
    · exact ih v hv hvw
  | object as ih =>
    obtain ⟨cs, rfl, bs, hs, hp⟩ := (alike_object as b).1 h
    rw [Value.normal, Value.normal, normalFields_eq, normalFields_eq]
    exact (alike_object _ _).2 ⟨_, rfl, _, forall₂_present hs ih, (hp.filter _).map _⟩
  | map as _ =>
    obtain ⟨bs, rfl, -⟩ := (alike_map as b).1 h
    exact h
  | set as _ =>
    obtain ⟨bs, rfl, -⟩ := (alike_set as b).1 h
    exact h
  | _ =>
    obtain ⟨hb, -⟩ := (alike_leaf rfl b).1 h
    rwa [normal_of_isLeaf rfl, normal_of_isLeaf hb]

theorem distinctKeys_normal {v : Value} (h : DistinctKeys v) : DistinctKeys v.normal := by
  refine Throughout.normal h List.nodup_nil fun x hx => ?_
  cases x with
  | object fields =>
    rw [normal, ownKeys, normalFields_eq, Fields.keys_mapSnd]
    exact List.Nodup.sublist (List.filter_sublist.map _) hx
  | _ => exact hx

theorem nanFree_normal {v : Value} (h : NaNFree v) : NaNFree v.normal := by
  refine Throughout.normal h rfl fun x hx => ?_
  cases x <;> exact hx

namespace Interchangeable
variable {a b : Value}

theorem alike (h : Interchangeable a b) : Alike SameLeaf a b :=
  ((equal_iff h.left h.right).1 h.equal).2.2

theorem storable_iff (h : Interchangeable a b) : Storable a ↔ Storable b :=
  ⟨h.alike.storable, h.symm.alike.storable⟩

theorem normal (h : Interchangeable a b) : Interchangeable a.normal b.normal := by
  obtain ⟨ha, hb, hab⟩ := h
  obtain ⟨hna, hnb, hs⟩ := (equal_iff ha hb).1 hab
  have hequal := (equal_iff (distinctKeys_normal ha) (distinctKeys_normal hb)).2
    ⟨nanFree_normal hna, nanFree_normal hnb, hs.normal⟩
  exact ⟨distinctKeys_normal ha, distinctKeys_normal hb, hequal⟩

end Interchangeable

end DocTree.Value
