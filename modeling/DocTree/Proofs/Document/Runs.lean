import DocTree.Document.Update
import DocTree.Proofs.Document.RoundTrip

/- Runs of writes, taken apart child by child. An update is a run of the writes that its
   fields spell (`assignAll_value`), each made on what the ones before it left.

   1. A write to the root forgets the document, so nothing before it counts
      (`run_of_root`).
   2. Any other write goes into one child, and writes into different children do not
      meet. `below` are the writes that go into one child, as that child sees them; a run
      on an object or an array is the runs of those on the children
      (`runFields_cons`, `getElem?_runItems`).
   3. A value that is no container gives way to an empty one, of the kind that the first
      write calls for (`run_of_leaf`).

   With `below` every path gets shorter, so a property of runs may be shown from what it
   says of the writes below (`Writes.nested`). So it is shown that making the same writes a
   second time changes nothing (`settles`). -/
namespace DocTree

/-- Writes to make one after another, each a path and the value for its end. -/
abbrev Writes := List (Path × Value)

namespace Writes

/-- The writes that fields spell when they are assigned. -/
def ofFields (fields : List (String × Value)) : Writes :=
  fields.map fun e => (Path.parse e.1, e.2)

/-- A write as a child sees it, if it goes into that child. -/
def into (goes : String → Bool) : Path × Value → Option (Path × Value)
  | ([], _) => none
  | (s :: rest, v) => if goes s then some (rest, v) else none

/-- The writes that go into one child, as that child sees them. -/
def below (goes : String → Bool) (ws : Writes) : Writes := ws.filterMap (into goes)

/-- The writes that do not go into that child. -/
def others (goes : String → Bool) (ws : Writes) : Writes :=
  ws.filter fun w => (into goes w).isNone

/-- No write is to the root. -/
def RootFree (ws : Writes) : Prop := ∀ w ∈ ws, w.1 ≠ []

section
variable {goes : String → Bool}

@[simp] theorem below_nil : below goes [] = [] := rfl

@[simp] theorem others_nil : others goes [] = [] := rfl

theorem below_cons_root (v : Value) (ws : Writes) : below goes (([], v) :: ws) = below goes ws :=
  rfl

theorem below_cons (s : String) (rest : Path) (v : Value) (ws : Writes) :
    below goes ((s :: rest, v) :: ws) =
      if goes s = true then (rest, v) :: below goes ws else below goes ws := by
  by_cases h : goes s = true <;> simp [below, into, h]

theorem others_cons (s : String) (rest : Path) (v : Value) (ws : Writes) :
    others goes ((s :: rest, v) :: ws) =
      if goes s = true then others goes ws else (s :: rest, v) :: others goes ws := by
  by_cases h : goes s = true <;> simp [others, into, h]

theorem RootFree.tail {w : Path × Value} {ws : Writes} (h : RootFree (w :: ws)) : RootFree ws :=
  fun w' hw' => h w' (List.mem_cons_of_mem w hw')

theorem RootFree.others {ws : Writes} (h : RootFree ws) : RootFree (others goes ws) :=
  fun w hw => h w (List.mem_filter.1 hw).1

theorem into_eq_some_iff {w w' : Path × Value} :
    into goes w = some w' ↔ ∃ s, w = (s :: w'.1, w'.2) ∧ goes s = true := by
  obtain ⟨path, v⟩ := w
  obtain ⟨rest', v'⟩ := w'
  cases path with
  | nil => simp [into]
  | cons s rest =>
    by_cases h : goes s = true
    · simp only [into, h, if_true, Option.some.injEq, Prod.mk.injEq, List.cons.injEq]
      constructor
      · intro heq
        exact ⟨s, ⟨⟨rfl, heq.1⟩, heq.2⟩, h⟩
      · intro heq
        obtain ⟨_, ⟨⟨-, hrest⟩, hv⟩, -⟩ := heq
        exact ⟨hrest, hv⟩
    · simp [into, h]

theorem length_others_le (goes : String → Bool) (ws : Writes) :
    (others goes ws).length ≤ ws.length :=
  List.length_filter_le _ ws

theorem below_others (key key' : String) (ws : Writes) :
    below (· == key') (others (· == key) ws) =
      if key' = key then [] else below (· == key') ws := by
  induction ws with
  | nil => simp
  | cons w ws ih =>
    obtain ⟨path, v⟩ := w
    cases path with
    | nil => exact ih
    | cons s rest =>
      rw [others_cons]
      by_cases hs : s = key
      · rw [if_pos (beq_iff_eq.2 hs), ih, below_cons]
        by_cases hkey : key' = key
        · simp [hkey]
        · have hne : ¬ (s == key') = true := by simpa [hs] using Ne.symm hkey
          rw [if_neg hkey, if_neg hkey, if_neg hne]
      · rw [if_neg (by simpa using hs), below_cons, below_cons, ih]
        by_cases hkey : key' = key
        · have hne : ¬ (s == key') = true := by simpa [hkey] using hs
          rw [if_pos hkey, if_pos hkey, if_neg hne]
        · rw [if_neg hkey, if_neg hkey]

end

/-! Induction on the writes below. -/

/-- The segments of all paths, and one more for each write. -/
def weight : Writes → Nat
  | [] => 0
  | (path, _) :: ws => path.length + 1 + weight ws

theorem weight_below_add_length_le (goes : String → Bool) (ws : Writes) :
    weight (below goes ws) + ws.length ≤ weight ws := by
  induction ws with
  | nil => exact Nat.le_refl 0
  | cons w ws ih =>
    obtain ⟨path, v⟩ := w
    rw [weight, List.length_cons]
    cases path with
    | nil =>
      rw [below_cons_root]
      omega
    | cons s rest =>
      rw [below_cons, List.length_cons]
      split
      · rw [weight]
        omega
      · omega

/-- To show something of all lists of writes, show it of each from its holding of the writes
    below, whichever child they go into. -/
@[elab_as_elim]
theorem nested {motive : Writes → Prop} (ws : Writes)
    (step : ∀ ws, (ws ≠ [] → ∀ goes, motive (below goes ws)) → motive ws) : motive ws := by
  induction hn : weight ws using Nat.strongRecOn generalizing ws with
  | _ n ih =>
    apply step
    intro hne goes
    have hlen := List.length_pos_iff.2 hne
    have hle := weight_below_add_length_le goes ws
    exact ih _ (by omega) _ rfl

end Writes

/-- A call that writes by path: one assignment, or an update that assigns fields. -/
inductive Edit where
  | assign (path : String) (value : Value)
  | update (fields : Fields Value)

/-- The values that a call writes, each under its path, in order. -/
def Edit.entries : Edit → List (String × Value)
  | assign path value => [(path, value)]
  | update fields => fields

namespace Value
open Writes

/-! A run. -/

/-- The document after the writes, made one after another. -/
def run (doc : Value) (ws : Writes) : Value :=
  ws.foldl (fun doc w => (doc.write w.1 w.2).doc) doc

@[simp] theorem run_nil (doc : Value) : doc.run [] = doc := rfl

@[simp] theorem run_cons (doc : Value) (path : Path) (v : Value) (ws : Writes) :
    doc.run ((path, v) :: ws) = (doc.write path v).doc.run ws := rfl

theorem run_append (doc : Value) (ws ws' : Writes) :
    doc.run (ws ++ ws') = (doc.run ws).run ws' := List.foldl_append

theorem assignAll_value (doc : Value) (fields : List (String × Value)) :
    (doc.assignAll fields).value = doc.run (ofFields fields) := by
  induction fields generalizing doc with
  | nil => rfl
  | cons e fields ih =>
    obtain ⟨path, v⟩ := e
    have hnext : (doc.assignAll ((path, v) :: fields)).value =
        ((doc.assign path v).value.assignAll fields).value := rfl
    rw [hnext, ih, assign_value]
    rfl

/-- The document after one call. -/
def edit (doc : Value) : Edit → Value
  | .assign path v => (doc.assign path v).value
  | .update fields => (doc.update (.assign fields)).value

/-- The document after calls, one after another. -/
def editAll (doc : Value) (edits : List Edit) : Value := edits.foldl edit doc

theorem editAll_eq_run (doc : Value) (edits : List Edit) :
    doc.editAll edits = doc.run (ofFields (edits.flatMap Edit.entries)) := by
  induction edits generalizing doc with
  | nil => rfl
  | cons edit edits ih =>
    have hedit : doc.edit edit = doc.run (ofFields edit.entries) := by
      cases edit with
      | assign path v => exact assign_value doc path v
      | update fields => exact assignAll_value doc fields
    have hnext : doc.editAll (edit :: edits) = (doc.edit edit).editAll edits := rfl
    rw [hnext, ih, hedit, ← run_append, List.flatMap_cons, ofFields, ofFields, ofFields,
      List.map_append]

theorem run_of_root {ws : Writes} (h : ¬ RootFree ws) (doc doc' : Value) :
    doc.run ws = doc'.run ws := by
  have hroot : ∃ v, ([], v) ∈ ws := by
    simpa [RootFree] using h
  obtain ⟨v, hv⟩ := hroot
  obtain ⟨before, after, rfl⟩ := List.append_of_mem hv
  rw [run_append, run_append]
  rfl

/-! On an object. -/

/-- The fields after the writes that go into them. A missing field starts absent. -/
def runFields (fields : Fields Value) : Writes → Fields Value
  | [] => fields
  | ([], _) :: ws => runFields fields ws
  | (s :: rest, v) :: ws =>
    runFields (fields.insert s ((Slot.field fields s).content.write rest v).doc) ws

theorem run_object (fields : Fields Value) {ws : Writes} (h : RootFree ws) :
    (object fields).run ws = object (runFields fields ws) := by
  induction ws generalizing fields with
  | nil => rfl
  | cons w ws ih =>
    obtain ⟨path, v⟩ := w
    obtain ⟨hpath, hws⟩ := List.forall_mem_cons.1 h
    cases path with
    | nil => exact absurd rfl hpath
    | cons s rest => exact ih _ hws

theorem runFields_cons (key : String) (x : Value) (fields : Fields Value) (ws : Writes) :
    runFields ((key, x) :: fields) ws =
      (key, x.run (below (· == key) ws)) :: runFields fields (others (· == key) ws) := by
  induction ws generalizing x fields with
  | nil => rfl
  | cons w ws ih =>
    obtain ⟨path, v⟩ := w
    cases path with
    | nil => exact ih x fields
    | cons s rest =>
      rw [runFields, below_cons, others_cons]
      by_cases hs : key = s
      · have hgo : (s == key) = true := by simp [hs]
        rw [if_pos hgo, if_pos hgo, run_cons, ← ih]
        simp [Slot.content, Fields.insert, Fields.get?, hs]
      · have hgo : ¬ (s == key) = true := by simp [Ne.symm hs]
        rw [if_neg hgo, if_neg hgo, runFields, ← ih]
        simp [Slot.content, Fields.insert, Fields.get?, hs]

/-- The first field that is added may as well have been there, absent. -/
theorem runFields_nil (s : String) (rest : Path) (v : Value) (ws : Writes) :
    runFields [] ((s :: rest, v) :: ws) = runFields [(s, undefined)] ((s :: rest, v) :: ws) := by
  simp [runFields, Slot.content, Fields.insert, Fields.get?]

/-- Induction on fields and the writes into them, key by key. Where the fields end, the
    next write adds one. -/
theorem fieldwise {motive : Fields Value → Writes → Prop} (nil : motive [] [])
    (cons : ∀ key x fields ws, motive fields (others (· == key) ws) →
      motive ((key, x) :: fields) ws)
    (add : ∀ s rest v ws, motive [(s, undefined)] ((s :: rest, v) :: ws) →
      motive [] ((s :: rest, v) :: ws))
    (fields : Fields Value) {ws : Writes} (hws : RootFree ws) : motive fields ws := by
  induction fields generalizing ws with
  | cons e fields ih => exact cons e.1 e.2 fields ws (ih hws.others)
  | nil =>
    induction hn : ws.length using Nat.strongRecOn generalizing ws with
    | _ n ih =>
      cases ws with
      | nil => exact nil
      | cons w ws =>
        obtain ⟨path, v⟩ := w
        cases path with
        | nil => exact absurd rfl (hws _ List.mem_cons_self)
        | cons s rest =>
          have hothers : others (· == s) ((s :: rest, v) :: ws) = others (· == s) ws := by
            rw [others_cons, if_pos (beq_self_eq_true s)]
          have hle := length_others_le (· == s) ws
          rw [List.length_cons] at hn
          apply add
          apply cons
          rw [hothers]
          exact ih _ (by omega) hws.tail.others rfl

/-! On an array. -/

/-- The items after the writes that go into them. A write that the array refuses changes
    nothing, and a missing item starts as a hole. -/
def runItems (items : List Value) : Writes → List Value
  | [] => items
  | ([], _) :: ws => runItems items ws
  | (s :: rest, v) :: ws =>
    match Path.index? s with
    | none => runItems items ws
    | some i => runItems (placed items i ((Slot.item items i).content.write rest v).doc) ws

theorem run_array (items : List Value) {ws : Writes} (h : RootFree ws) :
    (array items).run ws = array (runItems items ws) := by
  induction ws generalizing items with
  | nil => rfl
  | cons w ws ih =>
    obtain ⟨path, v⟩ := w
    obtain ⟨hpath, hws⟩ := List.forall_mem_cons.1 h
    cases path with
    | nil => exact absurd rfl hpath
    | cons s rest =>
      rw [run_cons, runItems]
      cases hi : Path.index? s with
      | none =>
        have hskip : ((array items).write (s :: rest) v).doc = array items := by
          simp [write, slotFor?, hi]
        rw [hskip]
        exact ih items hws
      | some i =>
        have hstep : ((array items).write (s :: rest) v).doc =
            array (placed items i ((Slot.item items i).content.write rest v).doc) := by
          simp [write, slotFor?, hi, fill_item]
        rw [hstep]
        exact ih _ hws

/-- Some write goes into the item at this place or into a later one, so that the array has
    that item afterwards. -/
def covers (ws : Writes) (i : Nat) : Bool :=
  ws.any fun w => (w.1.head?.bind Path.index?).any (i ≤ ·)

theorem covers_cons (s : String) (rest : Path) (v : Value) (ws : Writes) (i : Nat) :
    covers ((s :: rest, v) :: ws) i = ((Path.index? s).any (i ≤ ·) || covers ws i) := rfl

theorem getElem?_runItems (items : List Value) (ws : Writes) (i : Nat) :
    (runItems items ws)[i]? =
      if i < items.length ∨ covers ws i = true
      then some ((Slot.item items i).content.run (below (Path.index? · == some i) ws))
      else none := by
  induction ws generalizing items with
  | nil =>
    by_cases hi : i < items.length
    · simp [runItems, Slot.content, hi]
    · simp [runItems, covers, hi]
  | cons w ws ih =>
    obtain ⟨path, v⟩ := w
    cases path with
    | nil => exact ih items
    | cons s rest =>
      rw [runItems, below_cons, covers_cons]
      cases hs : Path.index? s with
      | none => simpa using ih items
      | some j =>
        have hgo : (some j == some i) = true ↔ i = j := by
          rw [beq_iff_eq, Option.some_inj]
          exact eq_comm
        have hlen : i < max items.length (j + 1) ↔ i < items.length ∨ i ≤ j := by omega
        simp only [ih, Slot.content, length_placed, getD_placed, hgo, hlen, Option.any_some,
          Bool.or_eq_true, decide_eq_true_eq, or_assoc]
        -- the write made first is the first of the writes below its index
        by_cases hij : i = j
        · simp only [hij, if_true, run_cons]
        · simp only [hij, if_false]

theorem lt_length_runItems (items : List Value) (ws : Writes) (i : Nat) :
    i < (runItems items ws).length ↔ i < items.length ∨ covers ws i = true := by
  have hget := getElem?_runItems items ws i
  by_cases h : i < items.length ∨ covers ws i = true
  · rw [if_pos h] at hget
    exact iff_of_true (List.getElem?_eq_some_iff.1 hget).1 h
  · rw [if_neg h] at hget
    exact iff_of_false (Nat.not_lt.2 (List.getElem?_eq_none_iff.1 hget)) h

theorem length_runItems_eq {items items' : List Value} {ws ws' : Writes}
    (h : ∀ i, (i < items.length ∨ covers ws i = true) ↔
      (i < items'.length ∨ covers ws' i = true)) :
    (runItems items ws).length = (runItems items' ws').length := by
  have hlt : ∀ i, i < (runItems items ws).length ↔ i < (runItems items' ws').length := by
    intro i
    rw [lt_length_runItems, lt_length_runItems, h]
  have hleft := hlt (runItems items ws).length
  have hright := hlt (runItems items' ws').length
  omega

theorem getElem_runItems (items : List Value) (ws : Writes) {i : Nat}
    (h : i < (runItems items ws).length) :
    (runItems items ws)[i] =
      (Slot.item items i).content.run (below (Path.index? · == some i) ws) := by
  have hget := getElem?_runItems items ws i
  rw [if_pos ((lt_length_runItems items ws i).1 h), List.getElem?_eq_getElem h] at hget
  exact Option.some.inj hget

/-! On a value that is no container. -/

/-- The empty container that a segment calls for. -/
def emptyFor (s : String) : Value := if Path.isIndex s then array [] else object []

theorem isContainer_emptyFor (s : String) : (emptyFor s).isContainer = true := by
  unfold emptyFor
  split <;> rfl

theorem slotFor?_emptyFor {doc : Value} (h : doc.isContainer = false) (s : String) :
    (emptyFor s).slotFor? s = doc.slotFor? s := by
  rw [emptyFor, Path.isIndex]
  cases hs : Path.index? s with
  | none =>
    cases doc with
    | array items => cases h
    | object fields => cases h
    | _ => simp [slotFor?, hs]
  | some i =>
    cases doc with
    | array items => cases h
    | object fields => cases h
    | _ => simp [slotFor?, hs]

theorem run_of_leaf {doc : Value} (h : doc.isContainer = false) (s : String) (rest : Path)
    (v : Value) (ws : Writes) :
    doc.run ((s :: rest, v) :: ws) = (emptyFor s).run ((s :: rest, v) :: ws) := by
  have hslot := slotFor?_emptyFor h s
  rw [run_cons, run_cons, write, write, hslot]
  cases hd : doc.slotFor? s with
  | some slot => rfl
  | none =>
    obtain ⟨⟨items, rfl⟩, -⟩ := (slotFor?_eq_none_iff doc s).1 hd
    cases h

/-! ## Making the same writes twice

    A write that was refused the first time may succeed the second time, and the reverse, since
    a later write may have put another container in its way. That never shows: such a later
    write makes the second run forget whatever stands at its path (`run_of_root`). Where no
    write replaces a container as a whole, its fields and items keep their places the second
    time, and each of them gets the writes below it once more (`runFields_runFields`,
    `runItems_runItems`). -/

/-- The writes make no difference the second time, whatever they are made on. -/
def Settles (ws : Writes) : Prop := ∀ doc : Value, (doc.run ws).run ws = doc.run ws

theorem settles_nil : Settles [] := fun _ => rfl

theorem settles_of_root {ws : Writes} (h : ¬ RootFree ws) : Settles ws :=
  fun doc => run_of_root h (doc.run ws) doc

/-! On the fields of an object. -/

theorem settles_below_others {ws : Writes} (h : ∀ key, Settles (below (· == key) ws))
    (key key' : String) : Settles (below (· == key') (others (· == key) ws)) := by
  rw [below_others]
  split
  · exact settles_nil
  · exact h key'

/-- The fields that the first run adds are found in their places by the second one. -/
theorem runFields_runFields (fields : Fields Value) {ws : Writes} (hws : RootFree ws)
    (hbelow : ∀ key, Settles (below (· == key) ws)) :
    runFields (runFields fields ws) ws = runFields fields ws := by
  refine fieldwise (motive := fun fields ws => (∀ key, Settles (below (· == key) ws)) →
    runFields (runFields fields ws) ws = runFields fields ws) ?_ ?_ ?_ fields hws hbelow
  · intro _
    rfl
  · intro key x fields ws ih hbelow
    have hrest := ih (settles_below_others hbelow key)
    rw [runFields_cons, runFields_cons, hbelow key x, hrest]
  · intro s rest v ws ih hbelow
    rw [runFields_nil]
    exact ih hbelow

/-! On the items of an array. -/

theorem runItems_runItems (items : List Value) {ws : Writes}
    (hbelow : ∀ i, Settles (below (Path.index? · == some i) ws)) :
    runItems (runItems items ws) ws = runItems items ws := by
  have hlen : (runItems (runItems items ws) ws).length = (runItems items ws).length := by
    apply length_runItems_eq
    intro i
    rw [lt_length_runItems, or_assoc, or_self]
  apply List.ext_getElem hlen
  intro i h h'
  rw [getElem_runItems, Slot.content, List.getElem?_eq_getElem h', Option.getD_some,
    getElem_runItems]
  exact hbelow i _

/-! On a document. -/

theorem run_run_of_container {doc : Value} {ws : Writes} (hdoc : doc.isContainer = true)
    (hws : RootFree ws) (hbelow : ∀ goes, Settles (below goes ws)) :
    (doc.run ws).run ws = doc.run ws := by
  cases doc with
  | object fields =>
    rw [run_object fields hws, run_object _ hws, runFields_runFields fields hws fun _ => hbelow _]
  | array items =>
    rw [run_array items hws, run_array _ hws, runItems_runItems items fun _ => hbelow _]
  | _ => cases hdoc

/-- Making writes a second time changes nothing. -/
theorem settles (ws : Writes) : Settles ws := by
  induction ws using Writes.nested with
  | step ws ih =>
    by_cases hws : RootFree ws
    · intro doc
      cases ws with
      | nil => rfl
      | cons w ws =>
        have hbelow := ih (List.cons_ne_nil w ws)
        cases hdoc : doc.isContainer with
        | true => exact run_run_of_container hdoc hws hbelow
        | false =>
          -- the container that takes the value's place is the first write's choice
          obtain ⟨path, v⟩ := w
          cases path with
          | nil => exact absurd rfl (hws _ List.mem_cons_self)
          | cons s rest =>
            rw [run_of_leaf hdoc]
            exact run_run_of_container (isContainer_emptyFor s) hws hbelow
    · exact settles_of_root hws

/-- **Applying an update again changes nothing**, whatever the document and whichever of the
    fields overlap, are refused, or put a container in the way of others. -/
theorem update_assign_twice (doc : Value) (fields : Fields Value) :
    ((doc.update (.assign fields)).value.update (.assign fields)).value =
      (doc.update (.assign fields)).value := by
  show ((doc.assignAll fields).value.assignAll fields).value = (doc.assignAll fields).value
  rw [assignAll_value, assignAll_value]
  exact settles (ofFields fields) doc

end Value
end DocTree
