import DocTree.Value.Basic

/- Values as trees. `children` are the values one level down, in every kind of container,
   and `Within x v` says that `x` occurs anywhere in `v`, `v` itself included. A property
   that holds `Throughout` a value holds of everything in it; the equations at the end say
   what that means for each kind of container. `induction` is the induction principle
   over values: the case of a container assumes the claim for what it holds. -/
namespace DocTree.Value

/-- What a value holds one level down. Both parts of the pairs of a map count. -/
def children : Value → List Value
  | array items => items
  | object fields => fields.map Prod.snd
  | map pairs => pairs.map Prod.fst ++ pairs.map Prod.snd
  | set members => members
  | _ => []

/-- The keys of an object; no other value has keys of its own. -/
def ownKeys : Value → List String
  | object fields => Fields.keys fields
  | _ => []

/-- Values of the kinds that hold no other values. -/
def isLeaf : Value → Bool
  | array _ | object _ | map _ | set _ => false
  | _ => true

/-- The first value occurs in the second, at any depth. -/
inductive Within : Value → Value → Prop
  | self (v : Value) : Within v v
  | inside {x w v : Value} : w ∈ v.children → Within x w → Within x v

/-- The property holds of a value and of everything in it. -/
def Throughout (P : Value → Prop) (v : Value) : Prop := ∀ x, Within x v → P x

theorem isLeaf_of_isAbsent {v : Value} (h : v.isAbsent = true) : v.isLeaf = true := by
  cases v <;> simp [isAbsent, isLeaf] at h ⊢

theorem children_of_isLeaf {v : Value} (h : v.isLeaf = true) : v.children = [] := by
  cases v with
  | array | object | map | set => cases h
  | _ => rfl

theorem ownKeys_of_isLeaf {v : Value} (h : v.isLeaf = true) : v.ownKeys = [] := by
  cases v with
  | array | object | map | set => cases h
  | _ => rfl

/-! Induction. -/

/-- To show something of every value, show it of each leaf, and of each container from its
    holding of what is in it. -/
@[elab_as_elim, induction_eliminator]
theorem induction {motive : Value → Prop}
    (undefined : motive undefined) (hole : motive hole) (null : motive null)
    (bool : ∀ b, motive (bool b)) (number : ∀ n, motive (number n))
    (string : ∀ s, motive (string s))
    (array : ∀ items, (∀ v ∈ items, motive v) → motive (array items))
    (object : ∀ fields, (∀ e ∈ fields, motive e.2) → motive (object fields))
    (date : ∀ millis, motive (date millis)) (bytes : ∀ content, motive (bytes content))
    (map : ∀ pairs, (∀ p ∈ pairs, motive p.1 ∧ motive p.2) → motive (map pairs))
    (set : ∀ members, (∀ v ∈ members, motive v) → motive (set members)) (v : Value) :
    motive v := by
  -- the recursor of the type sees lists and pairs as trees of their own
  refine @Value.rec motive (fun items => ∀ v ∈ items, motive v)
    (fun fields => ∀ e ∈ fields, motive e.2) (fun pairs => ∀ p ∈ pairs, motive p.1 ∧ motive p.2)
    (fun e => motive e.2) (fun p => motive p.1 ∧ motive p.2)
    undefined hole null bool number string array object date bytes map set
    ?_ ?_ ?_ ?_ ?_ ?_ ?_ ?_ v
  · exact fun _ h => absurd h List.not_mem_nil
  · exact fun _ _ head tail => List.forall_mem_cons.2 ⟨head, tail⟩
  · exact fun _ h => absurd h List.not_mem_nil
  · exact fun _ _ head tail => List.forall_mem_cons.2 ⟨head, tail⟩
  · exact fun _ h => absurd h List.not_mem_nil
  · exact fun _ _ head tail => List.forall_mem_cons.2 ⟨head, tail⟩
  · exact fun _ _ h => h
  · exact fun _ _ hk hv => ⟨hk, hv⟩

/-! What holds throughout a value. -/

theorem throughout_iff (P : Value → Prop) (v : Value) :
    Throughout P v ↔ P v ∧ ∀ w ∈ v.children, Throughout P w := by
  constructor
  · intro h
    exact ⟨h v (.self v), fun w hw x hx => h x (.inside hw hx)⟩
  · intro h x hx
    obtain ⟨hv, hc⟩ := h
    cases hx with
    | self => exact hv
    | inside hw hx => exact hc _ hw x hx

section
variable {P : Value → Prop}

theorem throughout_leaf {v : Value} (h : v.isLeaf = true) : Throughout P v ↔ P v := by
  rw [throughout_iff, children_of_isLeaf h]
  simp

theorem Throughout.mono {Q : Value → Prop} {v : Value} (h : Throughout P v)
    (hPQ : ∀ x, P x → Q x) : Throughout Q v :=
  fun x hx => hPQ x (h x hx)

theorem throughout_array (items : List Value) :
    Throughout P (array items) ↔ P (array items) ∧ ∀ v ∈ items, Throughout P v :=
  throughout_iff P _

theorem throughout_object (fields : List (String × Value)) :
    Throughout P (object fields) ↔ P (object fields) ∧ ∀ e ∈ fields, Throughout P e.2 := by
  rw [throughout_iff, children, List.forall_mem_map]

theorem throughout_map (pairs : List (Value × Value)) :
    Throughout P (map pairs) ↔
      P (map pairs) ∧ ∀ p ∈ pairs, Throughout P p.1 ∧ Throughout P p.2 := by
  rw [throughout_iff, children, List.forall_mem_append, List.forall_mem_map, List.forall_mem_map]
  simp only [forall_and]

theorem throughout_set (members : List Value) :
    Throughout P (set members) ↔ P (set members) ∧ ∀ v ∈ members, Throughout P v :=
  throughout_iff P _

end

/-! A test of everything in a value. -/

mutual

/-- Whether a value and everything in it pass a test. -/
def all (test : Value → Bool) : Value → Bool
  | array items => test (array items) && allItems test items
  | object fields => test (object fields) && allFields test fields
  | map pairs => test (map pairs) && allPairs test pairs
  | set members => test (set members) && allItems test members
  | v => test v

def allItems (test : Value → Bool) : List Value → Bool
  | [] => true
  | v :: rest => v.all test && allItems test rest

def allFields (test : Value → Bool) : List (String × Value) → Bool
  | [] => true
  | (_, v) :: rest => v.all test && allFields test rest

def allPairs (test : Value → Bool) : List (Value × Value) → Bool
  | [] => true
  | (k, v) :: rest => k.all test && v.all test && allPairs test rest

end

section
variable (test : Value → Bool)

theorem allItems_iff (items : List Value) :
    allItems test items = true ↔ ∀ v ∈ items, v.all test = true := by
  induction items with
  | nil => simp [allItems]
  | cons v rest ih => simp [allItems, ih]

theorem allFields_iff (fields : List (String × Value)) :
    allFields test fields = true ↔ ∀ e ∈ fields, e.2.all test = true := by
  induction fields with
  | nil => simp [allFields]
  | cons e rest ih => rw [allFields, Bool.and_eq_true, ih, List.forall_mem_cons]

theorem allPairs_iff (pairs : List (Value × Value)) :
    allPairs test pairs = true ↔ ∀ p ∈ pairs, p.1.all test = true ∧ p.2.all test = true := by
  induction pairs with
  | nil => simp [allPairs]
  | cons p rest ih =>
    rw [allPairs, Bool.and_eq_true, Bool.and_eq_true, ih, List.forall_mem_cons]

theorem all_iff (v : Value) : v.all test = true ↔ Throughout (fun x => test x = true) v := by
  induction v with
  | array items ih =>
    rw [all, Bool.and_eq_true, allItems_iff, throughout_array]
    exact and_congr_right fun _ => forall₂_congr ih
  | object fields ih =>
    rw [all, Bool.and_eq_true, allFields_iff, throughout_object]
    exact and_congr_right fun _ => forall₂_congr ih
  | map pairs ih =>
    rw [all, Bool.and_eq_true, allPairs_iff, throughout_map]
    exact and_congr_right fun _ => forall₂_congr fun p hp => and_congr (ih p hp).1 (ih p hp).2
  | set members ih =>
    rw [all, Bool.and_eq_true, allItems_iff, throughout_set]
    exact and_congr_right fun _ => forall₂_congr ih
  | _ => rw [all, throughout_leaf rfl] <;> simp

end

instance (P : Value → Prop) [DecidablePred P] (v : Value) : Decidable (Throughout P v) :=
  decidable_of_iff (v.all (fun x => decide (P x)) = true) (by
    rw [all_iff]
    simp only [decide_eq_true_eq])

end DocTree.Value
