import DocTree.Proofs.Document.Runs
import DocTree.Proofs.Lists
import DocTree.Proofs.Path.Text

/- A sparse array as a finite map from indices to values. A write by a single segment puts its
   value at the index that the segment stands for, and is refused if there is none
   (`runItems_single`). So after a run of such writes every slot has what the last write to
   its index put there, or else what it had, or else a hole (`getD_runItems_singles`), and
   there are as many slots as the largest index needs (`length_runItems_singles`). Without its
   holes the array is the list of the map's values, in the order of their indices
   (`dropHoles_eq_filterMap`). -/
namespace DocTree.Value
open Writes

/-! The map that entries spell. -/

/-- The value of the last entry for an index, in whatever spelling. -/
def lastAt (entries : List (String × Value)) (i : Nat) : Option Value :=
  (entries.filter fun e => Path.index? e.1 == some i).getLast?.map Prod.snd

/-- The number of slots that the entries need: one more than the largest index. -/
def slotsNeeded (entries : List (String × Value)) : Nat :=
  (entries.filterMap fun e => Path.index? e.1).foldr (fun i n => max (i + 1) n) 0

theorem lastAt_cons (s : String) (v : Value) (entries : List (String × Value)) (i : Nat) :
    lastAt ((s, v) :: entries) i =
      (lastAt entries i).or (if Path.index? s = some i then some v else none) := by
  unfold lastAt
  by_cases hs : Path.index? s = some i
  · rw [List.filter_cons_of_pos (by simpa using hs), List.getLast?_cons, if_pos hs]
    cases (entries.filter fun e => Path.index? e.1 == some i).getLast? <;> rfl
  · rw [List.filter_cons_of_neg (by simpa using hs), if_neg hs, Option.or_none]

theorem exists_mem_of_lastAt {entries : List (String × Value)} {i : Nat} {v : Value}
    (h : lastAt entries i = some v) : ∃ e ∈ entries, e.2 = v := by
  obtain ⟨e, he, hv⟩ := Option.map_eq_some_iff.1 h
  exact ⟨e, (List.mem_filter.1 (List.mem_of_getLast? he)).1, hv⟩

/-! One write. -/

/-- The writes of entries whose keys are single segments. -/
def singles (entries : List (String × Value)) : Writes := entries.map fun e => ([e.1], e.2)

theorem runItems_single (items : List Value) (s : String) (v : Value)
    (entries : List (String × Value)) :
    runItems items (singles ((s, v) :: entries)) =
      runItems (((Path.index? s).map (placed items · v)).getD items) (singles entries) := by
  show runItems items (([s], v) :: singles entries) = _
  rw [runItems]
  cases Path.index? s <;> rfl

/-! A run of writes. -/

theorem length_runItems_singles (items : List Value) (entries : List (String × Value)) :
    (runItems items (singles entries)).length = max items.length (slotsNeeded entries) := by
  induction entries generalizing items with
  | nil => exact (Nat.max_zero _).symm
  | cons e entries ih =>
    obtain ⟨s, v⟩ := e
    rw [runItems_single, ih]
    cases hs : Path.index? s with
    | none => simp [slotsNeeded, hs]
    | some i =>
      have hneeded : slotsNeeded ((s, v) :: entries) = max (i + 1) (slotsNeeded entries) := by
        simp [slotsNeeded, hs]
      rw [hneeded, Option.map_some, Option.getD_some, length_placed]
      omega

theorem getD_runItems_singles (items : List Value) (entries : List (String × Value)) (j : Nat) :
    (runItems items (singles entries))[j]?.getD hole =
      (lastAt entries j).getD (items[j]?.getD hole) := by
  induction entries generalizing items with
  | nil => rfl
  | cons e entries ih =>
    obtain ⟨s, v⟩ := e
    rw [runItems_single, ih, lastAt_cons]
    cases hs : Path.index? s with
    | none => simp
    | some i =>
      rw [Option.map_some, Option.getD_some, getD_placed]
      cases lastAt entries j with
      -- a later write is not seen past
      | some w => rfl
      | none =>
        by_cases hj : j = i
        · simp [hj]
        · simp [hj, Ne.symm hj]

/-- The writes that the array refuses may be left out. -/
theorem runItems_filter_isIndex (items : List Value) (entries : List (String × Value)) :
    runItems items (singles (entries.filter fun e => Path.isIndex e.1)) =
      runItems items (singles entries) := by
  induction entries generalizing items with
  | nil => rfl
  | cons e entries ih =>
    obtain ⟨s, v⟩ := e
    rw [runItems_single]
    cases hs : Path.index? s with
    | none =>
      rw [List.filter_cons_of_neg (by simp [Path.isIndex, hs]), ih]
      rfl
    | some i =>
      rw [List.filter_cons_of_pos (by simp [Path.isIndex, hs]), runItems_single, hs, ih]

/-! Without holes. -/

theorem dropHoles_eq_filterMap (items : List Value) :
    dropHoles items =
      (List.range items.length).filterMap fun i => items[i]?.filter (!·.isHole) := by
  calc dropHoles items
      = ((List.range items.length).filterMap (items[·]?)).filter (!·.isHole) := by
        rw [filterMap_getElem?_range]
        rfl
    _ = _ := List.filter_filterMap

/-! As calls on a document. -/

/-- One assignment for each entry, in order. -/
def assignments (entries : List (String × Value)) : List Edit :=
  entries.map fun e => .assign e.1 e.2

theorem editAll_assignments (items : List Value) {entries : List (String × Value)}
    (hsingle : ∀ e ∈ entries, Path.separator ∉ e.1.toList) :
    (array items).editAll (assignments entries) = array (runItems items (singles entries)) := by
  have hentries : (assignments entries).flatMap Edit.entries = entries := by
    rw [assignments, List.flatMap_map]
    exact List.flatMap_singleton' entries
  have hwrites : ofFields entries = singles entries := by
    apply List.map_congr_left
    intro e he
    rw [Path.parse_of_separator_not_mem (hsingle e he)]
  have hroot : RootFree (singles entries) := by
    intro w hw
    obtain ⟨e, -, rfl⟩ := List.mem_map.1 hw
    exact List.cons_ne_nil _ _
  rw [editAll_eq_run, hentries, hwrites, run_array items hroot]

/-- **A sparse array is a finite map from indices to values.** Any assignments at single
    segments, none of a hole, leave an array with as many slots as there were, or as the
    largest index needs. A slot has the value of the last assignment to its index, else the
    item that was there, else a hole. Assignments by segments that are no index make no
    difference. And without its holes the array is the list of the values in the map, in the
    order of their indices. -/
theorem sparse_array_is_index_map (items : List Value) {entries : List (String × Value)}
    (hsingle : ∀ e ∈ entries, Path.separator ∉ e.1.toList)
    (hfilled : ∀ e ∈ entries, e.2.isHole = false) :
    ∃ final, (array items).editAll (assignments entries) = array final ∧
      final.length = max items.length (slotsNeeded entries) ∧
      (∀ i, i < final.length →
        final[i]? = some ((lastAt entries i).getD (items[i]?.getD hole))) ∧
      (array items).editAll (assignments (entries.filter fun e => Path.isIndex e.1)) =
        array final ∧
      dropHoles final = (List.range final.length).filterMap fun i =>
        (lastAt entries i).or (items[i]?.filter (!·.isHole)) := by
  have hslots : ∀ i, i < (runItems items (singles entries)).length →
      (runItems items (singles entries))[i]? =
        some ((lastAt entries i).getD (items[i]?.getD hole)) := by
    intro i hi
    rw [← getD_runItems_singles, List.getElem?_eq_getElem hi, Option.getD_some]
  refine ⟨runItems items (singles entries), editAll_assignments items hsingle,
    length_runItems_singles items entries, hslots, ?_, ?_⟩
  · rw [editAll_assignments items fun e he => hsingle e (List.mem_filter.1 he).1,
      runItems_filter_isIndex]
  · rw [dropHoles_eq_filterMap]
    apply List.filterMap_congr
    intro i hi
    rw [hslots i (List.mem_range.1 hi)]
    cases hlast : lastAt entries i with
    | some v =>
      obtain ⟨e, he, rfl⟩ := exists_mem_of_lastAt hlast
      simp [hfilled e he, Option.filter]
    | none =>
      cases items[i]? with
      | some x => rfl
      | none => rfl

/-- Two spellings of one index, the second one counting; an index in the middle, with an absent
    marker, which is no hole; and digits past the limit. -/
theorem sparse_array_is_index_map_padded :
    let items := [null, hole]
    let entries := [("04", bool true), ("1048577", null), ("1", undefined), ("4", null)]
    ∃ final, (array items).editAll (assignments entries) = array final ∧
      final.length = 5 ∧ final[3]? = some hole ∧ dropHoles final = [null, undefined, null] := by
  intro items entries
  have hsingle : ∀ e ∈ entries, Path.separator ∉ e.1.toList := by
    simp only [entries, List.forall_mem_cons]
    decide +kernel
  have hfilled : ∀ e ∈ entries, e.2.isHole = false := by
    simp [entries, isHole]
  have h04 : Path.index? "04" = some 4 := by decide +kernel
  have hpast : Path.index? "1048577" = none := by decide +kernel
  have h1 : Path.index? "1" = some 1 := by decide +kernel
  have h4 : Path.index? "4" = some 4 := by decide +kernel
  obtain ⟨final, hfinal, hlength, hslots, -, hdense⟩ :=
    sparse_array_is_index_map items hsingle hfilled
  have hfive : final.length = 5 := by
    rw [hlength]
    simp [slotsNeeded, items, entries, h04, hpast, h1, h4]
  refine ⟨final, hfinal, hfive, ?_, ?_⟩
  · rw [hslots 3 (by omega)]
    simp [lastAt, items, entries, h04, hpast, h1, h4]
  · rw [hdense, hfive]
    simp [List.range_succ, lastAt, items, entries, h04, hpast, h1, h4, isHole, Option.filter]

end DocTree.Value
