import Mathlib.Data.List.Nodup
import DocTree.Proofs.Value.Alike
import DocTree.Value.Copy
import DocTree.Value.Equality

/- What deep equality decides. On values whose objects repeat no key, two values are equal
   exactly when no NaN occurs in either and they are the same tree up to the order of fields,
   the choice of absent value, and the sign of zero (`equal_iff`). The comparison of two
   objects only looks the fields of the first up in the second; that this misses no field of
   the second is a count, made once in `matched_iff`. Symmetry, transitivity and reflexivity
   off NaN are then those of `Alike`; and a value equals its copy as it equals itself, because
   the copy is the same tree. -/
namespace DocTree

/-! Numbers. -/

namespace Number

/-- The same number, or two zeros. -/
def SameUpToZero (x y : Number) : Prop := x = y ∨ x.magnitude = 0 ∧ y.magnitude = 0

theorem SameUpToZero.symm {x y : Number} (h : x.SameUpToZero y) : y.SameUpToZero x :=
  h.imp Eq.symm And.symm

theorem SameUpToZero.trans {x y z : Number} (h : x.SameUpToZero y) (h' : y.SameUpToZero z) :
    x.SameUpToZero z := by
  obtain rfl | ⟨hx, hy⟩ := h
  · exact h'
  · obtain rfl | ⟨-, hz⟩ := h'
    · exact .inr ⟨hx, hy⟩
    · exact .inr ⟨hx, hz⟩

theorem eq_of_magnitude {x y : Number} (hsign : x.isNegative = y.isNegative)
    (hm : x.magnitude = y.magnitude) : x = y := by
  have hx := x.bits.toNat_lt
  have hy := y.bits.toNat_lt
  simp only [isNegative, magnitude, Nat.pow_eq, decide_eq_decide] at hsign hm
  have hbits : x.bits = y.bits := UInt64.toNat_inj.1 (by omega)
  cases x
  cases y
  exact congrArg mk hbits

theorem rank_eq_iff (x y : Number) : x.rank = y.rank ↔ SameUpToZero x y := by
  constructor
  · intro h
    -- ranks forget the sign of zero and nothing else
    by_cases hzero : x.magnitude = 0 ∧ y.magnitude = 0
    · exact .inr hzero
    · left
      simp only [rank] at h
      apply eq_of_magnitude
      · cases hx : x.isNegative <;> cases hy : y.isNegative <;> simp [hx, hy] at h ⊢ <;> omega
      · split at h <;> split at h <;> omega
  · intro h
    rcases h with rfl | ⟨hx, hy⟩
    · rfl
    · simp [rank, hx, hy]

theorem eq_iff (x y : Number) :
    x.eq y = true ↔ x.isNaN = false ∧ y.isNaN = false ∧ SameUpToZero x y := by
  simp [eq, rank_eq_iff, and_assoc]

end Number

/-! Objects. -/

namespace Fields
variable {α : Type} {R : α → α → Prop}

theorem exists_forall₂_of_get? {as bs : Fields α}
    (h : ∀ d ∈ as, ∃ b, get? bs d.1 = some b ∧ R d.2 b) :
    ∃ cs, List.Forall₂ (fun d e => d.1 = e.1 ∧ R d.2 e.2) as cs ∧ cs ⊆ bs := by
  induction as with
  | nil => exact ⟨[], .nil, List.nil_subset bs⟩
  | cons d as ih =>
    obtain ⟨⟨b, hb, hR⟩, hrest⟩ := List.forall_mem_cons.1 h
    obtain ⟨cs, hcs, hsub⟩ := ih hrest
    exact ⟨(d.1, b) :: cs, .cons ⟨rfl, hR⟩ hcs, List.cons_subset.2 ⟨mem_of_get? hb, hsub⟩⟩

/-- **Looking up one way is enough.** Of two objects of one size that repeat no key, every
    field of the first has its match in the second exactly when the second, in some order,
    matches the first field by field. -/
theorem matched_iff {as bs : Fields α} (ha : Distinct as) (hb : Distinct bs) :
    (as.length = bs.length ∧ ∀ d ∈ as, ∃ b, get? bs d.1 = some b ∧ R d.2 b) ↔
      ∃ cs, List.Forall₂ (fun d e => d.1 = e.1 ∧ R d.2 e.2) as cs ∧ cs.Perm bs := by
  constructor
  · intro h
    obtain ⟨hlen, hfound⟩ := h
    obtain ⟨cs, hcs, hsub⟩ := exists_forall₂_of_get? hfound
    have hkeys : keys as = keys cs := by
      have hfst := (forall₂_pairs_iff.2 hcs).1
      rwa [List.forall₂_eq_eq_eq] at hfst
    -- the matches found have distinct keys, so none was found twice
    have hnodup : cs.Nodup := by
      rw [Distinct, hkeys] at ha
      exact List.Nodup.of_map Prod.fst ha
    have hle : List.length bs ≤ cs.length := Nat.le_of_eq (hlen.symm.trans hcs.length_eq)
    exact ⟨cs, hcs, (List.subperm_of_subset hnodup hsub).perm_of_length_le hle⟩
  · intro h
    obtain ⟨cs, hcs, hp⟩ := h
    refine ⟨hcs.length_eq.trans hp.length_eq, ?_⟩
    -- a field of the second object is what its key is looked up to there
    have hfind : ∀ e ∈ cs, get? bs e.1 = some e.2 :=
      fun e he => hb.get?_of_mem (hp.subset he)
    clear hp ha
    induction hcs with
    | nil => simp
    | @cons d e as cs hde hrest ih =>
      obtain ⟨he, hcs⟩ := List.forall_mem_cons.1 hfind
      exact List.forall_mem_cons.2 ⟨⟨e.2, hde.1 ▸ he, hde.2⟩, ih hcs⟩

end Fields

namespace Value

def isNaN : Value → Bool
  | number n => n.isNaN
  | date millis => millis.isNaN
  | _ => false

/-- No number and no date in the value is a NaN. -/
def NaNFree (v : Value) : Prop := Throughout (fun x => x.isNaN = false) v

/-- No object in the value repeats a key. Copies and values from JSON are so, whatever they were
    made from (`distinctKeys_copy`, `distinctKeys_ofJson`), and sanitizing and writing keep a
    document so (`distinctKeys_normal`, `DistinctKeys.editAll`). -/
def DistinctKeys (v : Value) : Prop := Throughout (fun x => x.ownKeys.Nodup) v

instance (v : Value) : Decidable (NaNFree v) :=
  inferInstanceAs (Decidable (Throughout (fun x => x.isNaN = false) v))

instance (v : Value) : Decidable (DistinctKeys v) :=
  inferInstanceAs (Decidable (Throughout (fun x => x.ownKeys.Nodup) v))

theorem distinctKeys_of_isLeaf {v : Value} (h : v.isLeaf = true) : DistinctKeys v := by
  rw [DistinctKeys, throughout_leaf h, ownKeys_of_isLeaf h]
  exact List.nodup_nil

theorem distinctKeys_array (items : List Value) :
    DistinctKeys (array items) ↔ ∀ v ∈ items, DistinctKeys v := by
  rw [DistinctKeys, throughout_array]
  exact and_iff_right List.nodup_nil

theorem distinctKeys_object (fields : Fields Value) :
    DistinctKeys (object fields) ↔ fields.Distinct ∧ ∀ e ∈ fields, DistinctKeys e.2 := by
  rw [DistinctKeys, throughout_object]
  rfl

theorem distinctKeys_map (pairs : List (Value × Value)) :
    DistinctKeys (map pairs) ↔ ∀ p ∈ pairs, DistinctKeys p.1 ∧ DistinctKeys p.2 := by
  rw [DistinctKeys, throughout_map]
  exact and_iff_right List.nodup_nil

theorem distinctKeys_set (members : List Value) :
    DistinctKeys (set members) ↔ ∀ v ∈ members, DistinctKeys v := by
  rw [DistinctKeys, throughout_set]
  exact and_iff_right List.nodup_nil

/-- Equal leaves, up to exchange of the two absent values and up to the sign of zero. -/
inductive SameLeaf : Value → Value → Prop
  | absent {a b : Value} : a.isAbsent = true → b.isAbsent = true → SameLeaf a b
  | null : SameLeaf null null
  | bool (b : Bool) : SameLeaf (bool b) (bool b)
  | number {x y : Number} : x.SameUpToZero y → SameLeaf (number x) (number y)
  | string (s : String) : SameLeaf (string s) (string s)
  | date {x y : Number} : x.SameUpToZero y → SameLeaf (date x) (date y)
  | bytes (content : List UInt8) : SameLeaf (bytes content) (bytes content)

theorem SameLeaf.refl {a : Value} (h : a.isLeaf = true) : SameLeaf a a := by
  cases a with
  | undefined | hole => exact .absent rfl rfl
  | null => exact .null
  | bool b => exact .bool b
  | number x => exact .number (.inl rfl)
  | string s => exact .string s
  | date x => exact .date (.inl rfl)
  | bytes content => exact .bytes content
  | array | object | map | set => cases h

theorem SameLeaf.symm {a b : Value} (h : SameLeaf a b) : SameLeaf b a := by
  cases h with
  | absent ha hb => exact .absent hb ha
  | number h => exact .number h.symm
  | date h => exact .date h.symm
  | null => exact .null
  | bool b => exact .bool b
  | string s => exact .string s
  | bytes content => exact .bytes content

theorem SameLeaf.trans {a b c : Value} (h : SameLeaf a b) (h' : SameLeaf b c) : SameLeaf a c := by
  cases h with
  | absent ha hb =>
    cases h' with
    | absent _ hc => exact .absent ha hc
    | _ => cases hb
  | number h =>
    cases h' with
    | absent ha _ => cases ha
    | number h' => exact .number (h.trans h')
  | date h =>
    cases h' with
    | absent ha _ => cases ha
    | date h' => exact .date (h.trans h')
  | _ => exact h'

/-! The comparison, kind by kind. -/

theorem equalItems_iff (as bs : List Value) :
    equalItems as bs = true ↔ List.Forall₂ (fun a b => a.equal b = true) as bs := by
  induction as generalizing bs with
  | nil => cases bs <;> simp [equalItems]
  | cons a as ih => cases bs <;> simp [equalItems, ih]

theorem equalPairs_iff (as bs : List (Value × Value)) :
    equalPairs as bs = true ↔
      List.Forall₂ (fun p q => p.1.equal q.1 = true ∧ p.2.equal q.2 = true) as bs := by
  induction as generalizing bs with
  | nil => cases bs <;> simp [equalPairs]
  | cons a as ih => cases bs <;> simp [equalPairs, ih]

theorem equalFields_iff (as : List (String × Value)) (bs : Fields Value) :
    equalFields as bs = true ↔ ∀ d ∈ as, ∃ b, bs.get? d.1 = some b ∧ d.2.equal b = true := by
  induction as with
  | nil => simp [equalFields]
  | cons d as ih =>
    obtain ⟨key, a⟩ := d
    rw [equalFields, List.forall_mem_cons, ← ih]
    cases bs.get? key <;> simp

theorem equal_array (as : List Value) (b : Value) :
    (array as).equal b = true ↔
      ∃ bs, b = array bs ∧ List.Forall₂ (fun a b => a.equal b = true) as bs := by
  cases b <;> simp [equal, equalItems_iff]

theorem equal_set (as : List Value) (b : Value) :
    (set as).equal b = true ↔
      ∃ bs, b = set bs ∧ List.Forall₂ (fun a b => a.equal b = true) as bs := by
  cases b <;> simp [equal, equalItems_iff]

theorem equal_map (as : List (Value × Value)) (b : Value) :
    (map as).equal b = true ↔ ∃ bs, b = map bs ∧
      List.Forall₂ (fun p q => p.1.equal q.1 = true ∧ p.2.equal q.2 = true) as bs := by
  cases b <;> simp [equal, equalPairs_iff]

theorem equal_object {as : List (String × Value)} {c : Value} (ha : Fields.Distinct as)
    (hc : c.ownKeys.Nodup) :
    (object as).equal c = true ↔ ∃ cs, c = object cs ∧
      ∃ bs, List.Forall₂ (fun d e => d.1 = e.1 ∧ d.2.equal e.2 = true) as bs ∧ bs.Perm cs := by
  cases c with
  | object cs =>
    have hmatch := Fields.matched_iff (R := fun a b => a.equal b = true) ha hc
    simp [equal, equalFields_iff, ← hmatch]
  | _ => simp [equal]

theorem equal_leaf {a : Value} (h : a.isLeaf = true) (b : Value) :
    a.equal b = true ↔
      a.isNaN = false ∧ b.isNaN = false ∧ b.isLeaf = true ∧ SameLeaf a b := by
  constructor
  · intro hab
    cases a with
    | undefined | hole =>
      have hb : b.isAbsent = true := by simpa [equal] using hab
      have hn : b.isNaN = false := by cases b <;> simp [isAbsent, isNaN] at hb ⊢
      exact ⟨rfl, hn, isLeaf_of_isAbsent hb, .absent rfl hb⟩
    | null =>
      cases b with
      | null => exact ⟨rfl, rfl, rfl, .null⟩
      | _ => simp [equal, isNull] at hab
    | bool p =>
      cases b with
      | bool q =>
        obtain rfl : p = q := by simpa [equal] using hab
        exact ⟨rfl, rfl, rfl, .bool p⟩
      | _ => simp [equal] at hab
    | number x =>
      cases b with
      | number y =>
        obtain ⟨hx, hy, hxy⟩ := (Number.eq_iff x y).1 (by simpa [equal] using hab)
        exact ⟨hx, hy, rfl, .number hxy⟩
      | _ => simp [equal] at hab
    | string s =>
      cases b with
      | string t =>
        obtain rfl : s = t := by simpa [equal] using hab
        exact ⟨rfl, rfl, rfl, .string s⟩
      | _ => simp [equal] at hab
    | date x =>
      cases b with
      | date y =>
        obtain ⟨hx, hy, hxy⟩ := (Number.eq_iff x y).1 (by simpa [equal] using hab)
        exact ⟨hx, hy, rfl, .date hxy⟩
      | _ => simp [equal] at hab
    | bytes s =>
      cases b with
      | bytes t =>
        obtain rfl : s = t := by simpa [equal] using hab
        exact ⟨rfl, rfl, rfl, .bytes s⟩
      | _ => simp [equal] at hab
    | array | object | map | set => cases h
  · intro h
    obtain ⟨ha, hb, -, hs⟩ := h
    cases hs with
    | absent ha hb => cases a <;> simp [isAbsent, equal] at ha ⊢ <;> exact hb
    | null | bool | string | bytes => simp [equal, isNull]
    | number hxy => simpa [equal] using (Number.eq_iff _ _).2 ⟨ha, hb, hxy⟩
    | date hxy => simpa [equal] using (Number.eq_iff _ _).2 ⟨ha, hb, hxy⟩

/-! The whole comparison. -/

theorem nanFree_array (items : List Value) :
    NaNFree (array items) ↔ ∀ v ∈ items, NaNFree v := by
  rw [NaNFree, throughout_array]
  exact and_iff_right rfl

theorem nanFree_object (fields : List (String × Value)) :
    NaNFree (object fields) ↔ ∀ e ∈ fields, NaNFree e.2 := by
  rw [NaNFree, throughout_object]
  exact and_iff_right rfl

theorem nanFree_map (pairs : List (Value × Value)) :
    NaNFree (map pairs) ↔ ∀ p ∈ pairs, NaNFree p.1 ∧ NaNFree p.2 := by
  rw [NaNFree, throughout_map]
  exact and_iff_right rfl

theorem nanFree_set (members : List Value) :
    NaNFree (set members) ↔ ∀ v ∈ members, NaNFree v := by
  rw [NaNFree, throughout_set]
  exact and_iff_right rfl

/-! What equality decides, for each kind of container from what it decides for the parts. -/

section
variable {α : Type} {mk : List α → Value} {P : α → Prop} {as : List α} {b : Value}

/-- A container is compared with one of its own kind. What the comparison asks of the parts of
    both sides is asked of the two containers. -/
theorem equal_iff_of_kind {E S : List α → Prop}
    (hequal : (mk as).equal b = true ↔ ∃ bs, b = mk bs ∧ E bs)
    (halike : Alike SameLeaf (mk as) b ↔ ∃ bs, b = mk bs ∧ S bs)
    (hnan : ∀ xs, NaNFree (mk xs) ↔ ∀ x ∈ xs, P x)
    (hparts : ∀ bs, b = mk bs → (E bs ↔ (∀ x ∈ as, P x) ∧ (∀ y ∈ bs, P y) ∧ S bs)) :
    (mk as).equal b = true ↔ NaNFree (mk as) ∧ NaNFree b ∧ Alike SameLeaf (mk as) b := by
  rw [hequal, halike, hnan]
  constructor
  · intro h
    obtain ⟨bs, rfl, hE⟩ := h
    obtain ⟨has, hbs, hS⟩ := (hparts bs rfl).1 hE
    exact ⟨has, (hnan bs).2 hbs, bs, rfl, hS⟩
  · intro h
    obtain ⟨has, hb, bs, rfl, hS⟩ := h
    exact ⟨bs, rfl, (hparts bs rfl).2 ⟨has, (hnan bs).1 hb, hS⟩⟩

/-- Arrays, maps and sets are compared place by place. -/
theorem equal_iff_of_places {R S : α → α → Prop}
    (hequal : (mk as).equal b = true ↔ ∃ bs, b = mk bs ∧ List.Forall₂ R as bs)
    (halike : Alike SameLeaf (mk as) b ↔ ∃ bs, b = mk bs ∧ List.Forall₂ S as bs)
    (hnan : ∀ xs, NaNFree (mk xs) ↔ ∀ x ∈ xs, P x)
    (hparts : ∀ bs, b = mk bs → ∀ x ∈ as, ∀ y ∈ bs, R x y ↔ P x ∧ P y ∧ S x y) :
    (mk as).equal b = true ↔ NaNFree (mk as) ∧ NaNFree b ∧ Alike SameLeaf (mk as) b :=
  equal_iff_of_kind hequal halike hnan fun bs hbs => forall₂_split_iff (hparts bs hbs)

end

theorem equal_object_iff {as : List (String × Value)} {b : Value} (ha : Fields.Distinct as)
    (hb : b.ownKeys.Nodup)
    (hfields : ∀ bs, b = object bs → ∀ d ∈ as, ∀ e ∈ bs,
      (d.2.equal e.2 = true ↔ NaNFree d.2 ∧ NaNFree e.2 ∧ Alike SameLeaf d.2 e.2)) :
    (object as).equal b = true ↔
      NaNFree (object as) ∧ NaNFree b ∧ Alike SameLeaf (object as) b := by
  refine equal_iff_of_kind (equal_object ha hb) (alike_object as b) nanFree_object ?_
  intro bs hbs
  refine forall₂_perm_split_iff fun d hd e he => ?_
  rw [hfields bs hbs d hd e he]
  -- the keys are asked to be the same in any case
  tauto

theorem equal_leaf_iff {a : Value} (ha : a.isLeaf = true) (b : Value) :
    a.equal b = true ↔ NaNFree a ∧ NaNFree b ∧ Alike SameLeaf a b := by
  rw [equal_leaf ha, alike_leaf ha, NaNFree, throughout_leaf ha]
  refine and_congr_right fun _ => ?_
  constructor
  · intro h
    obtain ⟨hn, hl, hs⟩ := h
    exact ⟨(throughout_leaf hl).2 hn, hl, hs⟩
  · intro h
    obtain ⟨hn, hl, hs⟩ := h
    exact ⟨(throughout_leaf hl).1 hn, hl, hs⟩

theorem equal_iff {a b : Value} (ha : DistinctKeys a) (hb : DistinctKeys b) :
    a.equal b = true ↔ NaNFree a ∧ NaNFree b ∧ Alike SameLeaf a b := by
  induction a generalizing b with
  | array as ih =>
    have hda := (distinctKeys_array as).1 ha
    refine equal_iff_of_places (equal_array as b) (alike_array as b) nanFree_array ?_
    rintro bs rfl x hx y hy
    exact ih x hx (hda x hx) ((distinctKeys_array bs).1 hb y hy)
  | object as ih =>
    obtain ⟨hkeys, hda⟩ := (distinctKeys_object as).1 ha
    refine equal_object_iff hkeys (hb b (.self b)) ?_
    rintro bs rfl d hd e he
    exact ih d hd (hda d hd) (((distinctKeys_object bs).1 hb).2 e he)
  | map as ih =>
    have hda := (distinctKeys_map as).1 ha
    refine equal_iff_of_places (equal_map as b) (alike_map as b) nanFree_map ?_
    rintro bs rfl p hp q hq
    have hdb := (distinctKeys_map bs).1 hb q hq
    rw [(ih p hp).1 (hda p hp).1 hdb.1, (ih p hp).2 (hda p hp).2 hdb.2]
    tauto
  | set as ih =>
    have hda := (distinctKeys_set as).1 ha
    refine equal_iff_of_places (equal_set as b) (alike_set as b) nanFree_set ?_
    rintro bs rfl x hx y hy
    exact ih x hx (hda x hx) ((distinctKeys_set bs).1 hb y hy)
  | _ => exact equal_leaf_iff rfl b

theorem equal_self_iff {a : Value} (ha : DistinctKeys a) : a.equal a = true ↔ NaNFree a := by
  have hself : Alike SameLeaf a a := Alike.refl (fun _ => SameLeaf.refl) a
  rw [equal_iff ha ha, and_iff_left hself, and_self]

/-- **What deep equality decides**: no NaN on either side, and the same tree up to the order
    of fields, the choice of absent value and the sign of zero. It is symmetric and
    transitive, and a value equals itself unless it holds a NaN. -/
theorem equal_decides_alike {a b c : Value} (ha : DistinctKeys a) (hb : DistinctKeys b)
    (hc : DistinctKeys c) :
    (a.equal b = true ↔ NaNFree a ∧ NaNFree b ∧ Alike SameLeaf a b) ∧
      a.equal b = b.equal a ∧
      (a.equal b = true → b.equal c = true → a.equal c = true) ∧
      (a.equal a = true ↔ NaNFree a) := by
  refine ⟨equal_iff ha hb, ?_, ?_, ?_⟩
  · have hswap : Alike SameLeaf a b ↔ Alike SameLeaf b a :=
      ⟨Alike.symm fun _ _ => SameLeaf.symm, Alike.symm fun _ _ => SameLeaf.symm⟩
    rw [Bool.eq_iff_iff, equal_iff ha hb, equal_iff hb ha, hswap]
    exact and_left_comm
  · intro hab hbc
    obtain ⟨hna, -, hsab⟩ := (equal_iff ha hb).1 hab
    obtain ⟨-, hnc, hsbc⟩ := (equal_iff hb hc).1 hbc
    exact (equal_iff ha hc).2 ⟨hna, hnc, Alike.trans (fun _ _ _ h => h.trans) hsab hsbc⟩
  · exact equal_self_iff ha

/-- Two orders of the same fields, with the other absent value and the other zero. -/
theorem equal_decides_alike_reordered :
    let a := object [("x", number ⟨0⟩), ("y", array [hole, map [(null, set [string "z"])]])]
    let b := object [("y", array [undefined, map [(null, set [string "z"])]]),
      ("x", number ⟨0x8000000000000000⟩)]
    DistinctKeys a ∧ DistinctKeys b ∧ a.equal b = true ∧ b.equal a = true ∧
      NaNFree a ∧ NaNFree b ∧ Alike SameLeaf a b := by
  intro a b
  have ha : DistinctKeys a := by
    simp (disch := decide) [a, DistinctKeys, throughout_object, throughout_array, throughout_map,
      throughout_set, throughout_leaf, ownKeys, Fields.keys]
  have hb : DistinctKeys b := by
    simp (disch := decide) [b, DistinctKeys, throughout_object, throughout_array, throughout_map,
      throughout_set, throughout_leaf, ownKeys, Fields.keys]
  have hab : a.equal b = true := by decide +kernel
  obtain ⟨hiff, hsymm, -, -⟩ := equal_decides_alike ha hb ha
  exact ⟨ha, hb, hab, hsymm ▸ hab, hiff.1 hab⟩

/-! ## Copies

    An object is copied by insertion, which would join fields that share a key; where no object
    repeats a key, every copy is the value itself (`copy_eq_self`). So a comparison of the two
    is a comparison of the value with itself, and says whether it holds a NaN. -/

theorem copyFields_eq_ofList (fields : List (String × Value)) :
    copyFields [] fields = Fields.ofList (fields.map fun e => (e.1, e.2.copy)) := by
  rw [copyFields_eq, Fields.ofList, List.foldl_map]

theorem copy_eq_self {v : Value} (h : DistinctKeys v) : v.copy = v := by
  induction v with
  | array items ih =>
    have hitems := (distinctKeys_array items).1 h
    have hcopy : items.map copy = items := map_eq_self fun v hv => ih v hv (hitems v hv)
    rw [copy, copyItems_eq, hcopy]
    rfl
  | object fields ih =>
    obtain ⟨hkeys, hfields⟩ := (distinctKeys_object fields).1 h
    have hcopy : fields.map (fun e => (e.1, e.2.copy)) = fields :=
      map_eq_self fun e he => congrArg (Prod.mk e.1) (ih e he (hfields e he))
    rw [copy, copyFields_eq_ofList, hcopy, Fields.ofList_of_distinct hkeys]
  | map pairs ih =>
    have hpairs := (distinctKeys_map pairs).1 h
    have hcopy : pairs.map (fun p => (p.1.copy, p.2.copy)) = pairs := by
      refine map_eq_self fun p hp => ?_
      rw [(ih p hp).1 (hpairs p hp).1, (ih p hp).2 (hpairs p hp).2]
    rw [copy, copyPairs_eq, hcopy]
    rfl
  | set members ih =>
    have hmembers := (distinctKeys_set members).1 h
    have hcopy : members.map copy = members := map_eq_self fun v hv => ih v hv (hmembers v hv)
    rw [copy, copyItems_eq, hcopy]
    rfl
  | _ => rfl

/-- A copy repeats no key, whatever was copied. -/
theorem distinctKeys_copy (v : Value) : DistinctKeys v.copy := by
  induction v with
  | array items ih =>
    rw [copy, copyItems_eq, List.reverse_nil, List.nil_append, distinctKeys_array,
      List.forall_mem_map]
    exact ih
  | object fields ih =>
    rw [copy, copyFields_eq_ofList, distinctKeys_object]
    refine ⟨Fields.distinct_ofList _, fun e he => ?_⟩
    obtain ⟨d, hd, rfl⟩ := List.mem_map.1 (Fields.ofList_subset _ he)
    exact ih d hd
  | map pairs ih =>
    rw [copy, copyPairs_eq, List.reverse_nil, List.nil_append, distinctKeys_map, List.forall_mem_map]
    exact ih
  | set members ih =>
    rw [copy, copyItems_eq, List.reverse_nil, List.nil_append, distinctKeys_set, List.forall_mem_map]
    exact ih
  | _ => exact distinctKeys_of_isLeaf rfl

/-- **A copy is the same tree**: the same constructor at every node, with the same bits of
    numbers, texts and bytes, the same length of every list and the same order of every
    object's fields. A value and its copy are equal, in either order, unless the value holds a
    NaN. -/
theorem copy_same_tree {v : Value} (h : DistinctKeys v) :
    v.copy = v ∧ (v.equal v.copy = true ↔ NaNFree v) ∧ (v.copy.equal v = true ↔ NaNFree v) := by
  have hcopy : v.copy = v := copy_eq_self h
  rw [hcopy]
  exact ⟨rfl, equal_self_iff h, equal_self_iff h⟩

/-- Every kind of value, with keys that differ in case only and a negative zero; then the same
    with a NaN as the key of a map. -/
theorem copy_same_tree_every_kind :
    let v (n : Number) := object [("b", array [hole, undefined, null, bool true, hole]),
      ("B", map [(number n, set [date n, object [("b", bytes [0, 255])]])]), ("", string "")]
    let zero : Number := ⟨0x8000000000000000⟩
    let nan : Number := ⟨0x7ff8000000000000⟩
    (DistinctKeys (v zero) ∧ (v zero).copy = v zero ∧ (v zero).equal (v zero).copy = true) ∧
      DistinctKeys (v nan) ∧ (v nan).copy = v nan ∧ ¬ (v nan).copy.equal (v nan) = true := by
  intro v zero nan
  have hzero : DistinctKeys (v zero) := by decide +kernel
  have hnan : DistinctKeys (v nan) := by decide +kernel
  have hfree : NaNFree (v zero) := by decide +kernel
  have hheld : ¬ NaNFree (v nan) := by decide +kernel
  obtain ⟨hsame, hequal, -⟩ := copy_same_tree hzero
  obtain ⟨hsame', -, hequal'⟩ := copy_same_tree hnan
  exact ⟨⟨hzero, hsame, hequal.2 hfree⟩, hnan, hsame', fun h => hheld (hequal'.1 h)⟩

end Value
end DocTree
