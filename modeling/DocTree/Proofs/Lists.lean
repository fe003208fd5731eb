import Mathlib.Data.List.Perm.Basic
import Mathlib.Data.Option.Basic

/- Lists and options as such. Two lists are compared place by place with `List.Forall₂`; the
   relation may be known only for what is in them, and may ask something of each side apart
   (`forall₂_split_iff`), also where the second list is only known up to its order
   (`forall₂_perm_split_iff`). Two look-ups that find related values, or both find nothing,
   are compared with `Option.Rel`, and two lists are related when all look-ups in them are
   (`forall₂_iff_getElem?`). -/
namespace DocTree

section
variable {α : Type}

theorem map_eq_self {f : α → α} {l : List α} (h : ∀ x ∈ l, f x = x) : l.map f = l :=
  (List.map_congr_left h).trans (List.map_id l)

theorem filterMap_getElem?_range (l : List α) :
    (List.range l.length).filterMap (l[·]?) = l := by
  induction l with
  | nil => rfl
  | cons x l ih =>
    rw [List.length_cons, List.range_succ_eq_map, List.filterMap_cons, List.filterMap_map]
    exact congrArg (x :: ·) ih

theorem exists_first {P : α → Prop} {l : List α} (h : ¬ ∀ x ∈ l, P x) :
    ∃ before x after, l = before ++ x :: after ∧ (∀ y ∈ before, P y) ∧ ¬ P x := by
  classical
  have hsome : (l.find? fun x => !decide (P x)).isSome = true := by
    rw [List.find?_isSome]
    simpa using h
  obtain ⟨x, hx⟩ := Option.isSome_iff_exists.1 hsome
  obtain ⟨hfails, before, after, hl, hbefore⟩ := List.find?_eq_some_iff_append.1 hx
  exact ⟨before, x, after, hl, by simpa using hbefore, by simpa using hfails⟩

end

section
variable {α β γ : Type} {R : α → β → Prop}

/-! Look-ups. -/

theorem exists_of_some_rel {a : α} {o : Option β} (h : Option.Rel R (some a) o) :
    ∃ b, o = some b ∧ R a b := by
  cases h with
  | some hab => exact ⟨_, rfl, hab⟩

theorem exists_of_rel_some {o : Option α} {b : β} (h : Option.Rel R o (some b)) :
    ∃ a, o = some a ∧ R a b := by
  cases h with
  | some hab => exact ⟨_, rfl, hab⟩

theorem isSome_eq_of_rel {o : Option α} {o' : Option β} (h : Option.Rel R o o') :
    o.isSome = o'.isSome := by
  cases h <;> rfl

theorem forall₂_iff_getElem? (as : List α) (bs : List β) :
    List.Forall₂ R as bs ↔ ∀ i : Nat, Option.Rel R as[i]? bs[i]? := by
  constructor
  · intro h
    induction h with
    | nil => exact fun _ => .none
    | cons hab _ ih =>
      intro i
      cases i with
      | zero => exact .some hab
      | succ i => exact ih i
  · intro h
    induction as generalizing bs with
    | nil =>
      cases bs with
      | nil => exact .nil
      | cons b bs => exact nomatch h 0
    | cons a as ih =>
      cases bs with
      | nil => exact nomatch h 0
      | cons b bs =>
        cases h 0 with
        | some hab => exact .cons hab (ih bs fun i => h (i + 1))

/-! Lists compared place by place. -/

theorem exists_mem_of_forall₂ {as : List α} {bs : List β} {b : β} (h : List.Forall₂ R as bs)
    (hb : b ∈ bs) : ∃ a ∈ as, R a b := by
  induction h with
  | nil => cases hb
  | cons hab _ ih =>
    rcases List.mem_cons.1 hb with rfl | hb
    · exact ⟨_, List.mem_cons_self, hab⟩
    · obtain ⟨a, ha, hab⟩ := ih hb
      exact ⟨a, List.mem_cons_of_mem _ ha, hab⟩

theorem forall₂_imp_mem {S : α → β → Prop} {as : List α} {bs : List β}
    (h : List.Forall₂ R as bs) (hRS : ∀ a ∈ as, ∀ b, R a b → S a b) : List.Forall₂ S as bs := by
  have hmem : List.Forall₂ (fun a b => a ∈ as ∧ R a b) as bs :=
    (List.forall₂_and_left as bs).2 ⟨fun _ ha => ha, h⟩
  exact hmem.imp fun a b hab => hRS a hab.1 b hab.2

theorem forall₂_symm_mem {S : β → α → Prop} {as : List α} {bs : List β}
    (h : List.Forall₂ R as bs) (hRS : ∀ a ∈ as, ∀ b, R a b → S b a) : List.Forall₂ S bs as :=
  List.Forall₂.flip (forall₂_imp_mem h hRS)

theorem forall₂_trans_mem {S : β → γ → Prop} {T : α → γ → Prop} {as : List α} {bs : List β}
    {cs : List γ} (h : List.Forall₂ R as bs) (h' : List.Forall₂ S bs cs)
    (hRST : ∀ a ∈ as, ∀ b c, R a b → S b c → T a c) : List.Forall₂ T as cs := by
  induction h generalizing cs with
  | nil => cases h'; exact .nil
  | cons hab _ ih =>
    cases h' with
    | cons hbc htail =>
      exact .cons (hRST _ List.mem_cons_self _ _ hab hbc)
        (ih htail fun a ha => hRST a (List.mem_cons_of_mem _ ha))

theorem forall₂_pairs_iff {δ : Type} {S : γ → δ → Prop} {as : List (α × γ)} {bs : List (β × δ)} :
    List.Forall₂ R (as.map Prod.fst) (bs.map Prod.fst) ∧
        List.Forall₂ S (as.map Prod.snd) (bs.map Prod.snd) ↔
      List.Forall₂ (fun p q => R p.1 q.1 ∧ S p.2 q.2) as bs := by
  induction as generalizing bs with
  | nil => cases bs <;> simp
  | cons a as ih =>
    cases bs with
    | nil => simp
    | cons b bs =>
      simp only [List.map_cons, List.forall₂_cons, ← ih]
      exact and_and_and_comm

section
variable {P : α → Prop} {Q : β → Prop} {S : α → β → Prop}

/-- What a relation asks of each side apart can be asked beforehand. -/
theorem forall₂_split_iff {as : List α} {bs : List β}
    (h : ∀ a ∈ as, ∀ b ∈ bs, R a b ↔ P a ∧ Q b ∧ S a b) :
    List.Forall₂ R as bs ↔
      (∀ a ∈ as, P a) ∧ (∀ b ∈ bs, Q b) ∧ List.Forall₂ S as bs := by
  induction as generalizing bs with
  | nil => cases bs <;> simp
  | cons a as ih =>
    cases bs with
    | nil => simp
    | cons b bs =>
      have hhead := h a List.mem_cons_self b List.mem_cons_self
      have htail := ih fun x hx y hy =>
        h x (List.mem_cons_of_mem a hx) y (List.mem_cons_of_mem b hy)
      simp only [List.forall₂_cons, List.forall_mem_cons, hhead, htail]
      -- both sides ask the same six things
      exact ⟨fun ⟨⟨p, q, s⟩, ps, qs, ss⟩ => ⟨⟨p, ps⟩, ⟨q, qs⟩, s, ss⟩,
        fun ⟨⟨p, ps⟩, ⟨q, qs⟩, s, ss⟩ => ⟨⟨p, q, s⟩, ps, qs, ss⟩⟩

/-- The order of the second list does not show in what is asked of each of its items. -/
theorem forall₂_perm_split_iff {as : List α} {cs : List β}
    (h : ∀ a ∈ as, ∀ c ∈ cs, R a c ↔ P a ∧ Q c ∧ S a c) :
    (∃ bs, List.Forall₂ R as bs ∧ bs.Perm cs) ↔
      (∀ a ∈ as, P a) ∧ (∀ c ∈ cs, Q c) ∧ ∃ bs, List.Forall₂ S as bs ∧ bs.Perm cs := by
  have hsplit : ∀ bs : List β, bs.Perm cs →
      (List.Forall₂ R as bs ↔ (∀ a ∈ as, P a) ∧ (∀ c ∈ cs, Q c) ∧ List.Forall₂ S as bs) := by
    intro bs hp
    simp only [← hp.mem_iff]
    exact forall₂_split_iff fun a ha b hb => h a ha b (hp.subset hb)
  constructor
  · intro hR
    obtain ⟨bs, hR, hp⟩ := hR
    obtain ⟨hP, hQ, hS⟩ := (hsplit bs hp).1 hR
    exact ⟨hP, hQ, bs, hS, hp⟩
  · intro hS
    obtain ⟨hP, hQ, bs, hS, hp⟩ := hS
    exact ⟨bs, (hsplit bs hp).2 ⟨hP, hQ, hS⟩, hp⟩

end

end
end DocTree
