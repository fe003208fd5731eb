/- Fields of an object: pairs of a key and a value in insertion order. `insert` keeps the
   place of a key that is present and appends one that is not, so keys never repeat in
   a list built by insertion. -/
namespace DocTree

/-- Keys with their values, in insertion order. -/
abbrev Fields (α : Type) := List (String × α)

namespace Fields
variable {α : Type}

/-- The value under a key. -/
def get? : Fields α → String → Option α
  | [], _ => none
  | (k, x) :: rest, key => if k = key then some x else get? rest key

/-- Write `x` under a key: in place if the key is present, else at the end. -/
def insert : Fields α → String → α → Fields α
  | [], key, x => [(key, x)]
  | (k, y) :: rest, key, x => if k = key then (k, x) :: rest else (k, y) :: insert rest key x

/-- The keys in order. -/
def keys (fields : Fields α) : List String := fields.map Prod.fst

/-- Insert entries one after another: the first entry of a key fixes its place, the last
    one its value. -/
def ofList (entries : List (String × α)) : Fields α :=
  entries.foldl (fun fields entry => insert fields entry.1 entry.2) []

/-- No key occurs twice. -/
def Distinct (fields : Fields α) : Prop := (keys fields).Nodup

instance (fields : Fields α) : Decidable (Distinct fields) :=
  inferInstanceAs (Decidable (keys fields).Nodup)

@[simp] theorem get?_nil (key : String) : get? ([] : Fields α) key = none := rfl

@[simp] theorem keys_nil : keys ([] : Fields α) = [] := rfl

@[simp] theorem keys_cons (k : String) (x : α) (rest : Fields α) :
    keys ((k, x) :: rest) = k :: keys rest := rfl

theorem get?_insert_self (fields : Fields α) (key : String) (x : α) :
    get? (insert fields key x) key = some x := by
  induction fields with
  | nil => simp [insert, get?]
  | cons entry rest ih =>
    by_cases h : entry.1 = key <;> simp [insert, get?, h, ih]

theorem get?_insert_of_ne (fields : Fields α) {key other : String} (x : α) (h : other ≠ key) :
    get? (insert fields key x) other = get? fields other := by
  induction fields with
  | nil => simp [insert, get?, Ne.symm h]
  | cons entry rest ih =>
    by_cases hk : entry.1 = key
    · simp [insert, get?, hk, Ne.symm h]
    · simp [insert, get?, hk, ih]

theorem insert_eq_self {fields : Fields α} {key : String} {x : α}
    (h : get? fields key = some x) : insert fields key x = fields := by
  induction fields with
  | nil => cases h
  | cons entry rest ih =>
    obtain ⟨k, y⟩ := entry
    by_cases hk : k = key
    · simp only [get?, hk, if_true, Option.some.injEq] at h
      simp [insert, hk, h]
    · simp only [get?, hk, if_false] at h
      simp [insert, hk, ih h]

theorem insert_insert (fields : Fields α) (key : String) (x y : α) :
    insert (insert fields key x) key y = insert fields key y := by
  induction fields with
  | nil => simp [insert]
  | cons entry rest ih =>
    by_cases h : entry.1 = key
    · simp [insert, h]
    · simp [insert, h, ih]

theorem mem_insert {fields : Fields α} {key : String} {x : α} {e : String × α}
    (h : e ∈ insert fields key x) : e ∈ fields ∨ e = (key, x) := by
  induction fields with
  | nil => exact .inr (List.mem_singleton.1 h)
  | cons entry rest ih =>
    obtain ⟨k, y⟩ := entry
    rw [insert] at h
    by_cases hk : k = key
    · rw [if_pos hk] at h
      rcases List.mem_cons.1 h with rfl | h
      · exact .inr (by rw [hk])
      · exact .inl (List.mem_cons_of_mem _ h)
    · rw [if_neg hk] at h
      rcases List.mem_cons.1 h with rfl | h
      · exact .inl List.mem_cons_self
      · exact (ih h).imp_left (List.mem_cons_of_mem _)

theorem mem_of_get? {fields : Fields α} {key : String} {x : α}
    (h : get? fields key = some x) : (key, x) ∈ fields := by
  induction fields with
  | nil => cases h
  | cons entry rest ih =>
    obtain ⟨k, y⟩ := entry
    by_cases hk : k = key
    · simp only [get?, hk, if_true, Option.some.injEq] at h
      simp [hk, h]
    · simp only [get?, hk, if_false] at h
      exact List.mem_cons_of_mem _ (ih h)

theorem Distinct.get?_of_mem {fields : Fields α} (hd : Distinct fields) {key : String} {x : α}
    (h : (key, x) ∈ fields) : get? fields key = some x := by
  induction fields with
  | nil => cases h
  | cons entry rest ih =>
    obtain ⟨k, y⟩ := entry
    obtain ⟨hk, hd⟩ := List.nodup_cons.1 hd
    rcases List.mem_cons.1 h with h | h
    · cases h
      simp [get?]
    · have hne : k ≠ key := fun e => hk (List.mem_map.2 ⟨_, h, e.symm⟩)
      simp [get?, hne, ih hd h]

theorem keys_insert (fields : Fields α) (key : String) (x : α) :
    keys (insert fields key x) =
      if key ∈ keys fields then keys fields else keys fields ++ [key] := by
  induction fields with
  | nil => simp [insert, keys]
  | cons entry rest ih =>
    obtain ⟨k, y⟩ := entry
    by_cases h : k = key
    · simp [insert, h]
    · simp only [insert, h, if_false, keys_cons, ih, List.mem_cons, Ne.symm h, false_or]
      split <;> simp

theorem length_insert (fields : Fields α) (key : String) (x : α) :
    (fields.insert key x).length =
      if key ∈ keys fields then fields.length else fields.length + 1 := by
  have hlen : (fields.insert key x).length = (keys (insert fields key x)).length :=
    (List.length_map Prod.fst).symm
  rw [hlen, keys_insert]
  split
  · exact List.length_map Prod.fst
  · rw [List.length_append, keys, List.length_map, List.length_singleton]

theorem isSome_get?_iff (fields : Fields α) (key : String) :
    (get? fields key).isSome = true ↔ key ∈ keys fields := by
  induction fields with
  | nil => simp
  | cons e fields ih =>
    obtain ⟨k, x⟩ := e
    rw [get?, keys_cons, List.mem_cons]
    by_cases hk : k = key
    · simp [hk]
    · simp [hk, Ne.symm hk, ih]

theorem get?_eq_none_iff (fields : Fields α) (key : String) :
    get? fields key = none ↔ key ∉ keys fields := by
  rw [← Option.not_isSome_iff_eq_none, isSome_get?_iff]

/-- Where no key occurs twice, leaving fields out hides their values and no others. -/
theorem Distinct.get?_filter {fields : Fields α} (hd : Distinct fields) (keep : α → Bool)
    (key : String) :
    get? (fields.filter fun e => keep e.2) key = (get? fields key).filter keep := by
  induction fields with
  | nil => rfl
  | cons entry rest ih =>
    obtain ⟨k, x⟩ := entry
    obtain ⟨hk, hd⟩ := List.nodup_cons.1 hd
    rw [List.filter_cons, get?]
    by_cases hkey : k = key
    · have hnone : get? rest key = none := (get?_eq_none_iff rest key).2 (hkey ▸ hk)
      by_cases hx : keep x = true
      · simp [hkey, hx, get?, Option.filter_some]
      -- no other field has the key of one that is left out
      · simp [hkey, hx, ih hd, hnone, Option.filter_some]
    · by_cases hx : keep x = true
      · simp [hkey, hx, get?, ih hd]
      · simp [hkey, hx, ih hd]

theorem keys_mapSnd {β : Type} (f : α → β) (fields : Fields α) :
    keys (fields.map fun e => (e.1, f e.2)) = keys fields := by
  rw [keys, List.map_map]
  rfl

theorem get?_mapSnd {β : Type} (f : α → β) (fields : Fields α) (key : String) :
    get? (fields.map fun e => (e.1, f e.2)) key = (get? fields key).map f := by
  induction fields with
  | nil => rfl
  | cons entry rest ih =>
    obtain ⟨k, y⟩ := entry
    rw [List.map_cons, get?, get?, ih]
    split <;> rfl

theorem insert_of_not_mem {fields : Fields α} {key : String} (x : α) (h : key ∉ keys fields) :
    insert fields key x = fields ++ [(key, x)] := by
  induction fields with
  | nil => rfl
  | cons entry rest ih =>
    obtain ⟨k, y⟩ := entry
    rw [keys_cons, List.mem_cons, not_or] at h
    rw [insert, if_neg (Ne.symm h.1), ih h.2, List.cons_append]

theorem ofList_of_distinct {entries : List (String × α)} (h : Distinct entries) :
    ofList entries = entries := by
  have hinsert : ∀ done : Fields α, Distinct (done ++ entries) →
      entries.foldl (fun fields entry => insert fields entry.1 entry.2) done = done ++ entries := by
    clear h
    induction entries with
    | nil => simp
    | cons entry rest ih =>
      intro done hd
      obtain ⟨k, y⟩ := entry
      have hk : k ∉ keys done := by
        intro hmem
        rw [Distinct, keys, List.map_append, List.map_cons, List.nodup_append] at hd
        exact hd.2.2 k hmem k List.mem_cons_self rfl
      rw [List.foldl_cons, insert_of_not_mem y hk, ih]
      · simp
      · simpa using hd
  exact hinsert [] h

theorem Distinct.insert_eq_map {fields : Fields α} (hd : Distinct fields) {key : String} {x : α}
    (f : α → α) (h : (key, x) ∈ fields) :
    Fields.insert fields key (f x) =
      fields.map fun e => (e.1, if e.1 = key then f e.2 else e.2) := by
  induction fields with
  | nil => cases h
  | cons e rest ih =>
    obtain ⟨k, y⟩ := e
    obtain ⟨hk, hd⟩ := List.nodup_cons.1 hd
    rw [Fields.insert, List.map_cons]
    by_cases hkey : k = key
    · subst hkey
      have hy : y = x := by
        rcases List.mem_cons.1 h with h | h
        · exact (Prod.mk.inj h).2.symm
        · exact absurd (List.mem_map.2 ⟨_, h, rfl⟩) hk
      have hrest : ∀ e ∈ rest, (e.1, if e.1 = k then f e.2 else e.2) = e := by
        intro e he
        rw [if_neg fun hek => hk (List.mem_map.2 ⟨e, he, hek⟩)]
      rw [if_pos rfl, if_pos rfl, hy, List.map_congr_left hrest, List.map_id']
    · have hmem : (key, x) ∈ rest := by
        rcases List.mem_cons.1 h with h | h
        · exact absurd (Prod.mk.inj h).1.symm hkey
        · exact h
      rw [if_neg hkey, if_neg hkey, ih hd hmem]

theorem length_eq_of_isSome_get? {as bs : Fields α} (ha : Distinct as) (hb : Distinct bs)
    (h : ∀ key, (get? as key).isSome = (get? bs key).isSome) : as.length = bs.length := by
  have hkeys : (keys as).Perm (keys bs) := by
    rw [List.perm_ext_iff_of_nodup ha hb]
    intro key
    rw [← isSome_get?_iff, ← isSome_get?_iff, h]
  simpa [keys] using hkeys.length_eq

theorem Distinct.insert {fields : Fields α} (h : Distinct fields) (key : String) (x : α) :
    Distinct (Fields.insert fields key x) := by
  unfold Distinct at *
  rw [keys_insert]
  split
  · exact h
  · next hk => exact List.nodup_append.2 ⟨h, by simp, by
      intro a ha b hb
      rcases List.mem_singleton.1 hb with rfl
      exact fun e => hk (e ▸ ha)⟩

theorem distinct_ofList (entries : List (String × α)) : Distinct (ofList entries) :=
  List.foldlRecOn entries _ List.nodup_nil fun _ hd entry _ => hd.insert entry.1 entry.2

theorem ofList_subset (entries : List (String × α)) : ofList entries ⊆ entries :=
  List.foldlRecOn (motive := fun fields => fields ⊆ entries) entries _ (List.nil_subset entries)
    fun _ hfields entry hentry e he => by
      rcases mem_insert he with he | rfl
      · exact hfields he
      · exact hentry

end Fields
end DocTree
