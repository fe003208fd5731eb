import DocTree.Proofs.Lists
import DocTree.Proofs.Value.Within

/- The same tree up to the order of fields. `Alike same a b` allows the fields of every
   object, at every depth, to stand in another order, and compares leaves by `same`; all
   else is as it is: the order of items, members and pairs, and every length. It is an
   equivalence when `same` is one (`Alike.refl`, `Alike.symm`, `Alike.trans`). An object is
   compared in two steps, field by field with a list that has its keys in its order, and
   then up to a permutation of that list; symmetry and transitivity exchange the two. -/
namespace DocTree.Value

/-- The same tree up to the order of fields and up to `same` at the leaves. -/
inductive Alike (same : Value → Value → Prop) : Value → Value → Prop
  | leaf {a b : Value} : a.isLeaf = true → b.isLeaf = true → same a b → Alike same a b
  | array {as bs : List Value} : List.Forall₂ (Alike same) as bs →
      Alike same (array as) (array bs)
  | object {as bs cs : List (String × Value)} : Fields.keys as = Fields.keys bs →
      List.Forall₂ (Alike same) (as.map Prod.snd) (bs.map Prod.snd) → bs.Perm cs →
      Alike same (object as) (object cs)
  | map {as bs : List (Value × Value)} :
      List.Forall₂ (Alike same) (as.map Prod.fst) (bs.map Prod.fst) →
      List.Forall₂ (Alike same) (as.map Prod.snd) (bs.map Prod.snd) →
      Alike same (map as) (map bs)
  | set {as bs : List Value} : List.Forall₂ (Alike same) as bs → Alike same (set as) (set bs)

/-! What is alike to a value of each kind. -/

section
variable {same : Value → Value → Prop}

theorem alike_leaf {a : Value} (h : a.isLeaf = true) (b : Value) :
    Alike same a b ↔ b.isLeaf = true ∧ same a b := by
  constructor
  · intro hab
    cases hab with
    | leaf _ hb hs => exact ⟨hb, hs⟩
    | _ => cases h
  · intro hb
    exact .leaf h hb.1 hb.2

theorem alike_array (as : List Value) (b : Value) :
    Alike same (array as) b ↔ ∃ bs, b = array bs ∧ List.Forall₂ (Alike same) as bs := by
  constructor
  · intro h
    cases h with
    | leaf h => cases h
    | array h => exact ⟨_, rfl, h⟩
  · intro h
    obtain ⟨bs, rfl, h⟩ := h
    exact .array h

theorem alike_set (as : List Value) (b : Value) :
    Alike same (set as) b ↔ ∃ bs, b = set bs ∧ List.Forall₂ (Alike same) as bs := by
  constructor
  · intro h
    cases h with
    | leaf h => cases h
    | set h => exact ⟨_, rfl, h⟩
  · intro h
    obtain ⟨bs, rfl, h⟩ := h
    exact .set h

theorem alike_map (as : List (Value × Value)) (b : Value) :
    Alike same (map as) b ↔ ∃ bs, b = map bs ∧
      List.Forall₂ (fun p q => Alike same p.1 q.1 ∧ Alike same p.2 q.2) as bs := by
  constructor
  · intro h
    cases h with
    | leaf h => cases h
    | map hk hv => exact ⟨_, rfl, forall₂_pairs_iff.1 ⟨hk, hv⟩⟩
  · intro h
    obtain ⟨bs, rfl, h⟩ := h
    obtain ⟨hk, hv⟩ := forall₂_pairs_iff.2 h
    exact .map hk hv

theorem alike_object (as : List (String × Value)) (c : Value) :
    Alike same (object as) c ↔ ∃ cs, c = object cs ∧
      ∃ bs, List.Forall₂ (fun d e => d.1 = e.1 ∧ Alike same d.2 e.2) as bs ∧ bs.Perm cs := by
  constructor
  · intro h
    cases h with
    | leaf h => cases h
    | object hk hv hp =>
      refine ⟨_, rfl, _, forall₂_pairs_iff.1 ⟨?_, hv⟩, hp⟩
      rw [List.forall₂_eq_eq_eq]
      exact hk
  · intro h
    obtain ⟨cs, rfl, bs, h, hp⟩ := h
    obtain ⟨hk, hv⟩ := forall₂_pairs_iff.2 h
    rw [List.forall₂_eq_eq_eq] at hk
    exact .object hk hv hp

/-! An equivalence. -/

theorem Alike.refl (h : ∀ a, a.isLeaf = true → same a a) (v : Value) : Alike same v v := by
  induction v with
  | array items ih => exact .array (List.forall₂_same.2 ih)
  | object fields ih =>
    exact (alike_object _ _).2
      ⟨fields, rfl, fields, List.forall₂_same.2 fun e he => ⟨rfl, ih e he⟩, .refl fields⟩
  | map pairs ih => exact (alike_map _ _).2 ⟨pairs, rfl, List.forall₂_same.2 ih⟩
  | set members ih => exact .set (List.forall₂_same.2 ih)
  | _ => exact .leaf rfl rfl (h _ rfl)

theorem Alike.symm (h : ∀ a b, same a b → same b a) {a b : Value} (hab : Alike same a b) :
    Alike same b a := by
  induction a generalizing b with
  | array as ih =>
    obtain ⟨bs, rfl, hs⟩ := (alike_array as b).1 hab
    exact .array (forall₂_symm_mem hs fun a ha _ => ih a ha)
  | object as ih =>
    obtain ⟨cs, rfl, bs, hs, hp⟩ := (alike_object as b).1 hab
    have hba : List.Forall₂ (fun d e => d.1 = e.1 ∧ Alike same d.2 e.2) bs as :=
      forall₂_symm_mem hs fun d hd _ hde => ⟨hde.1.symm, ih d hd hde.2⟩
    -- from `cs` the permutation comes first; it is moved behind the comparison
    obtain ⟨ds, hcd, hp⟩ := List.perm_comp_forall₂ hp.symm hba
    exact (alike_object cs _).2 ⟨as, rfl, ds, hcd, hp⟩
  | map as ih =>
    obtain ⟨bs, rfl, hs⟩ := (alike_map as b).1 hab
    exact (alike_map bs _).2 ⟨as, rfl, forall₂_symm_mem hs fun p hp _ hpq =>
      ⟨(ih p hp).1 hpq.1, (ih p hp).2 hpq.2⟩⟩
  | set as ih =>
    obtain ⟨bs, rfl, hs⟩ := (alike_set as b).1 hab
    exact .set (forall₂_symm_mem hs fun a ha _ => ih a ha)
  | _ =>
    obtain ⟨hb, hs⟩ := (alike_leaf rfl b).1 hab
    exact .leaf hb rfl (h _ _ hs)

theorem Alike.trans (h : ∀ a b c, same a b → same b c → same a c) {a b c : Value}
    (hab : Alike same a b) (hbc : Alike same b c) : Alike same a c := by
  induction a generalizing b c with
  | array as ih =>
    obtain ⟨bs, rfl, hs⟩ := (alike_array as b).1 hab
    obtain ⟨cs, rfl, hs'⟩ := (alike_array bs c).1 hbc
    exact .array (forall₂_trans_mem hs hs' fun a ha _ _ => ih a ha)
  | object as ih =>
    obtain ⟨bs', rfl, bs, hs, hp⟩ := (alike_object as b).1 hab
    obtain ⟨cs', rfl, cs, hs', hp'⟩ := (alike_object bs' c).1 hbc
    -- the second comparison, made on the list that the first one ended with
    obtain ⟨ds, hbd, hp⟩ := List.perm_comp_forall₂ hp hs'
    refine (alike_object as _).2 ⟨cs', rfl, ds, ?_, hp.trans hp'⟩
    exact forall₂_trans_mem hs hbd fun d hd _ _ hde hef =>
      ⟨hde.1.trans hef.1, ih d hd hde.2 hef.2⟩
  | map as ih =>
    obtain ⟨bs, rfl, hs⟩ := (alike_map as b).1 hab
    obtain ⟨cs, rfl, hs'⟩ := (alike_map bs c).1 hbc
    exact (alike_map as _).2 ⟨cs, rfl, forall₂_trans_mem hs hs' fun p hp _ _ hpq hqr =>
      ⟨(ih p hp).1 hpq.1 hqr.1, (ih p hp).2 hpq.2 hqr.2⟩⟩
  | set as ih =>
    obtain ⟨bs, rfl, hs⟩ := (alike_set as b).1 hab
    obtain ⟨cs, rfl, hs'⟩ := (alike_set bs c).1 hbc
    exact .set (forall₂_trans_mem hs hs' fun a ha _ _ => ih a ha)
  | _ =>
    obtain ⟨hb, hs⟩ := (alike_leaf rfl b).1 hab
    obtain ⟨hc, hs'⟩ := (alike_leaf hb c).1 hbc
    exact .leaf rfl hc (h _ _ _ hs hs')

/-! What is in alike values is alike. -/

theorem Alike.exists_child {a b y : Value} (h : Alike same a b) (hy : y ∈ b.children) :
    ∃ x ∈ a.children, Alike same x y := by
  cases h with
  | leaf _ hb =>
    rw [children_of_isLeaf hb] at hy
    cases hy
  | array hs => exact exists_mem_of_forall₂ hs hy
  | object _ hs hp => exact exists_mem_of_forall₂ hs ((hp.map Prod.snd).mem_iff.2 hy)
  | map hk hv =>
    rcases List.mem_append.1 hy with hy | hy
    · obtain ⟨x, hx, hxy⟩ := exists_mem_of_forall₂ hk hy
      exact ⟨x, List.mem_append_left _ hx, hxy⟩
    · obtain ⟨x, hx, hxy⟩ := exists_mem_of_forall₂ hv hy
      exact ⟨x, List.mem_append_right _ hx, hxy⟩
  | set hs => exact exists_mem_of_forall₂ hs hy

theorem Alike.exists_within {a b y : Value} (h : Alike same a b) (hy : Within y b) :
    ∃ x, Within x a ∧ Alike same x y := by
  induction hy generalizing a with
  | self => exact ⟨a, .self a, h⟩
  | inside hw _ ih =>
    obtain ⟨w, hwa, hw⟩ := h.exists_child hw
    obtain ⟨x, hx, hxy⟩ := ih hw
    exact ⟨x, .inside hwa hx, hxy⟩

theorem Alike.throughout {P : Value → Prop} {a b : Value} (h : Alike same a b)
    (hP : ∀ {x y}, Alike same x y → P x → P y) (ha : Throughout P a) : Throughout P b := by
  intro y hy
  obtain ⟨x, hx, hxy⟩ := h.exists_within hy
  exact hP hxy (ha x hx)

theorem Alike.ownKeys_perm {a b : Value} (h : Alike same a b) : a.ownKeys.Perm b.ownKeys := by
  cases h with
  | leaf ha hb => rw [ownKeys_of_isLeaf ha, ownKeys_of_isLeaf hb]
  | object hk _ hp =>
    show (Fields.keys _).Perm (Fields.keys _)
    rw [hk]
    exact hp.map Prod.fst
  | _ => exact .nil

end
end DocTree.Value
