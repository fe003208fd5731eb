import DocTree.Proofs.Document.NormalForm
import DocTree.Proofs.Document.Runs
import DocTree.Proofs.Document.Slot
import DocTree.Proofs.Document.WriteLaws

/- What runs of writes keep throughout a document. A write goes down one path, and in every
   container on its way it changes one child. A property of single values is `Steady` when no
   such step can break it, whatever the step puts into its slot. Then what a step leaves has
   it throughout, if the value before and the fill had (`Steady.throughout_fill`), so a write
   keeps it throughout the document (`Steady.write`), and any run does (`Steady.run`). Four
   properties are steady: an object repeats no key, a value is not foreign, its keys hold no
   separator, and an array has no more slots than an index can ask for. -/
namespace DocTree.Value
open Writes

/-! What is in a container after a step. -/

/-- A step keeps what was one level down, and may add holes and what it puts into the slot. -/
theorem mem_children_fill {doc v x : Value} {s : String} {slot : Slot}
    (hslot : doc.slotFor? s = some slot) (hx : x ∈ (slot.fill v).children) :
    x ∈ doc.children ∨ x = hole ∨ x = v := by
  obtain ⟨fields, rfl, hfields⟩ | ⟨items, i, rfl, -, hitems⟩ := slotFor?_cases hslot
  · obtain ⟨e, he, rfl⟩ := List.mem_map.1 hx
    rcases Fields.mem_insert he with he | rfl
    · rcases hfields with rfl | ⟨-, rfl⟩
      · exact .inl (List.mem_map.2 ⟨e, he, rfl⟩)
      · exact absurd he List.not_mem_nil
    · exact .inr (.inr rfl)
  · rw [fill_item] at hx
    rcases mem_placed hx with hx | hx
    · rcases hitems with rfl | ⟨-, rfl⟩
      · exact .inl hx
      · exact absurd hx List.not_mem_nil
    · exact .inr hx

/-! Properties that no step breaks. -/

/-- The property holds of absent values, which a step starts from and pads with, and of what a
    step by one of these segments leaves of a value that had it. -/
structure Steady (P : Value → Prop) (segments : String → Prop) : Prop where
  absent : ∀ v : Value, v.isAbsent = true → P v
  fill : ∀ {doc : Value} {s : String} {slot : Slot}, P doc → segments s →
    doc.slotFor? s = some slot → ∀ v, P (slot.fill v)

namespace Steady
variable {P : Value → Prop} {segments : String → Prop} {doc v : Value}

theorem throughout_of_isAbsent (h : Steady P segments) (hv : v.isAbsent = true) :
    Throughout P v :=
  (throughout_leaf (isLeaf_of_isAbsent hv)).2 (h.absent v hv)

theorem throughout_content {s : String} {slot : Slot} (h : Steady P segments)
    (hdoc : Throughout P doc) (hslot : doc.slotFor? s = some slot) :
    Throughout P slot.content := by
  cases hc : doc.child? s with
  | none => exact h.throughout_of_isAbsent (content_isAbsent hslot hc)
  | some c =>
    rw [content_of_child? hslot hc]
    exact hdoc.child? hc

theorem throughout_fill {s : String} {slot : Slot} (h : Steady P segments)
    (hdoc : Throughout P doc) (hs : segments s) (hslot : doc.slotFor? s = some slot)
    (hv : Throughout P v) : Throughout P (slot.fill v) := by
  obtain ⟨hroot, hchildren⟩ := (throughout_iff P doc).1 hdoc
  apply (throughout_iff P _).2
  refine ⟨h.fill hroot hs hslot v, fun x hx => ?_⟩
  rcases mem_children_fill hslot hx with hx | rfl | rfl
  · exact hchildren x hx
  · exact h.throughout_of_isAbsent rfl
  · exact hv

theorem write {path : Path} (h : Steady P segments) (hdoc : Throughout P doc)
    (hpath : ∀ s ∈ path, segments s) (hv : Throughout P v) :
    Throughout P (doc.write path v).doc := by
  induction path generalizing doc with
  | nil => exact hv
  | cons s rest ih =>
    obtain ⟨hs, hrest⟩ := List.forall_mem_cons.1 hpath
    rw [Value.write]
    cases hslot : doc.slotFor? s with
    | none => exact hdoc
    | some slot =>
      have hinner := ih (h.throughout_content hdoc hslot) hrest
      exact h.throughout_fill hdoc hs hslot hinner

theorem run {ws : Writes} (h : Steady P segments) (hdoc : Throughout P doc)
    (hpaths : ∀ w ∈ ws, ∀ s ∈ w.1, segments s) (hvalues : ∀ w ∈ ws, Throughout P w.2) :
    Throughout P (doc.run ws) := by
  induction ws generalizing doc with
  | nil => exact hdoc
  | cons w ws ih =>
    obtain ⟨hpath, hpaths⟩ := List.forall_mem_cons.1 hpaths
    obtain ⟨hv, hvalues⟩ := List.forall_mem_cons.1 hvalues
    exact ih (h.write hdoc hpath hv) hpaths hvalues

end Steady

/-! ## Unique keys

    No step repeats one, so every run of writes keeps them unique throughout. -/

theorem steady_ownKeys_nodup : Steady (fun x => x.ownKeys.Nodup) fun _ => True where
  absent v hv := by
    rw [ownKeys_of_isLeaf (isLeaf_of_isAbsent hv)]
    exact List.nodup_nil
  fill {doc s slot} hdoc _ hslot v := by
    obtain ⟨fields, rfl, hfields⟩ | ⟨items, i, rfl, -, -⟩ := slotFor?_cases hslot
    · have hd : Fields.Distinct fields := by
        rcases hfields with rfl | ⟨-, rfl⟩
        · exact hdoc
        · exact List.nodup_nil
      exact hd.insert s v
    · rw [fill_item]
      exact List.nodup_nil

namespace DistinctKeys
variable {doc v : Value}

theorem write (hdoc : DistinctKeys doc) (hv : DistinctKeys v) (path : Path) :
    DistinctKeys (doc.write path v).doc :=
  steady_ownKeys_nodup.write hdoc (fun _ _ => trivial) hv

theorem run {ws : Writes} (hdoc : DistinctKeys doc) (hvalues : ∀ w ∈ ws, DistinctKeys w.2) :
    DistinctKeys (doc.run ws) :=
  steady_ownKeys_nodup.run hdoc (fun _ _ _ _ => trivial) hvalues

/-- After any sequence of assignments and updates, at any paths, a document in which no object
    repeats a key is such a document still. -/
theorem editAll {edits : List Edit} (hdoc : DistinctKeys doc)
    (hvalues : ∀ edit ∈ edits, ∀ e ∈ edit.entries, DistinctKeys e.2) :
    DistinctKeys (doc.editAll edits) := by
  rw [editAll_eq_run]
  apply hdoc.run
  rw [ofFields, List.forall_mem_map, List.forall_mem_flatMap]
  exact hvalues

end DistinctKeys

/-! ## Writes keep a document storable

    A value may stand somewhere inside a storable document when it is storable itself, or
    absent: when it is `Placeable`, which is to say that there is no foreign value throughout it
    and no key with a separator. A step of a path leaves an array or an object
    (`steady_isForeign`), and the only key that it adds is its segment, in which a path text has
    no separator (`steady_keysAddressable`). So every write keeps the document placeable, and
    storable unless it replaces the root (`storable_write`), which no path text does. -/

/-! One step. -/

theorem isForeign_of_isContainer {v : Value} (h : v.isContainer = true) : v.isForeign = false := by
  cases v with
  | array | object => rfl
  | _ => cases h

/-- A step leaves an array or an object, and these are never foreign. -/
theorem steady_isForeign : Steady (fun x => x.isForeign = false) fun _ => True where
  absent v hv := by cases v <;> simp [isAbsent, isForeign] at hv ⊢
  fill _ _ _ v := isForeign_of_isContainer (Slot.isContainer_fill _ v)

/-- A step adds no key but its own segment. -/
theorem steady_keysAddressable : Steady KeysAddressable fun s => hasSeparator s = false where
  absent v hv := by
    rw [KeysAddressable, ownKeys_of_isLeaf (isLeaf_of_isAbsent hv)]
    exact fun key hkey => absurd hkey List.not_mem_nil
  fill {doc s slot} hdoc hs hslot v := by
    obtain ⟨fields, rfl, hfields⟩ | ⟨items, i, rfl, -, -⟩ := slotFor?_cases hslot
    · intro key hkey
      obtain ⟨e, he, rfl⟩ := List.mem_map.1 hkey
      rcases Fields.mem_insert he with he | rfl
      · rcases hfields with rfl | ⟨-, rfl⟩
        · exact hdoc e.1 (List.mem_map.2 ⟨e, he, rfl⟩)
        · exact absurd he List.not_mem_nil
      · exact hs
    · rw [fill_item]
      exact fun key hkey => absurd hkey List.not_mem_nil

theorem Slot.fill_isAbsent (slot : Slot) (v : Value) : (slot.fill v).isAbsent = false := by
  rw [Bool.eq_false_iff]
  intro ha
  have hcontainer := slot.isContainer_fill v
  rw [isContainer_of_isAbsent ha] at hcontainer
  cases hcontainer

/-! A write, and a run of writes. -/

/-- No segment holds the separator. -/
def Addressable (path : Path) : Prop := ∀ s ∈ path, hasSeparator s = false

theorem placeable_write {doc v : Value} {path : Path} (hdoc : Placeable doc)
    (hpath : Addressable path) (hv : Placeable v) : Placeable (doc.write path v).doc := by
  obtain ⟨hforeign, hkeys⟩ := (isAbsent_or_storable_iff doc).1 hdoc
  obtain ⟨hvforeign, hvkeys⟩ := (isAbsent_or_storable_iff v).1 hv
  apply (isAbsent_or_storable_iff _).2
  constructor
  · exact steady_isForeign.write hforeign (fun _ _ => trivial) hvforeign
  · exact steady_keysAddressable.write hkeys hpath hvkeys

theorem write_isAbsent {doc : Value} {path : Path} (hdoc : doc.isAbsent = false)
    (hne : path ≠ []) (v : Value) : (doc.write path v).doc.isAbsent = false := by
  cases path with
  | nil => exact absurd rfl hne
  | cons s rest =>
    rw [write]
    cases doc.slotFor? s with
    | none => exact hdoc
    | some slot => exact slot.fill_isAbsent _

/-- A write below the root keeps a document storable, also when it is refused. -/
theorem storable_write {doc v : Value} {path : Path} (hdoc : Storable doc) (hne : path ≠ [])
    (hpath : Addressable path) (hv : Placeable v) : Storable (doc.write path v).doc := by
  have hleft := placeable_write (.inr hdoc) hpath hv
  exact hleft.resolve_left (by simp [write_isAbsent hdoc.1 hne v])

theorem storable_run {doc : Value} {ws : Writes} (hdoc : Storable doc) (hws : RootFree ws)
    (hpaths : ∀ w ∈ ws, Addressable w.1) (hvalues : ∀ w ∈ ws, Placeable w.2) :
    Storable (doc.run ws) := by
  induction ws generalizing doc with
  | nil => exact hdoc
  | cons w ws ih =>
    obtain ⟨hne, hws⟩ := List.forall_mem_cons.1 hws
    obtain ⟨hpath, hpaths⟩ := List.forall_mem_cons.1 hpaths
    obtain ⟨hv, hvalues⟩ := List.forall_mem_cons.1 hvalues
    exact ih (storable_write hdoc hne hpath hv) hws hpaths hvalues

theorem rootFree_ofFields (fields : List (String × Value)) : RootFree (ofFields fields) := by
  intro w hw
  obtain ⟨e, -, rfl⟩ := List.mem_map.1 hw
  exact Path.parse_ne_nil e.1

theorem addressable_parse (text : String) : Addressable (Path.parse text) := by
  intro s hs
  have hmem := Path.separator_not_mem_of_mem_parse hs
  simpa [hasSeparator] using hmem

/-- **Writing by path never makes a storable document unstorable**: after any sequence of
    assignments and updates, at any paths, of values that are absent or storable, the
    document still goes through the sanitizer. -/
theorem sanitize_editAll {doc : Value} {edits : List Edit} (hdoc : doc.sanitize.fault? = none)
    (hvalues : ∀ edit ∈ edits, ∀ e ∈ edit.entries,
      e.2.isAbsent = true ∨ e.2.sanitize.fault? = none) :
    (doc.editAll edits).sanitize.fault? = none := by
  rw [sanitize_fault?_iff] at hdoc ⊢
  rw [editAll_eq_run]
  apply storable_run hdoc (rootFree_ofFields _)
  · intro w hw
    obtain ⟨e, -, rfl⟩ := List.mem_map.1 hw
    exact addressable_parse e.1
  · intro w hw
    obtain ⟨e, he, rfl⟩ := List.mem_map.1 hw
    obtain ⟨edit, hedit, he⟩ := List.mem_flatMap.1 he
    exact (hvalues edit hedit e he).imp_right (sanitize_fault?_iff e.2).1

/-- Doubled separators, an index past the limit, a hole, and a refused write. -/
theorem sanitize_editAll_odd_paths :
    let doc := object [("tags", array [bool true])]
    let edits := [Edit.assign "tags.3" hole,
      .update [("..9999999", object [("k", undefined)]), ("tags.x", null), ("", undefined)]]
    doc.sanitize.fault? = none ∧
      (∀ edit ∈ edits, ∀ e ∈ edit.entries,
        e.2.isAbsent = true ∨ e.2.sanitize.fault? = none) ∧
      (doc.editAll edits).sanitize.fault? = none := by
  intro doc edits
  have hdoc : doc.sanitize.fault? = none := by decide +kernel
  have hvalues : ∀ edit ∈ edits, ∀ e ∈ edit.entries,
      e.2.isAbsent = true ∨ e.2.sanitize.fault? = none := by
    simp only [edits, List.forall_mem_cons, Edit.entries]
    decide +kernel
  exact ⟨hdoc, hvalues, sanitize_editAll hdoc hvalues⟩

/-! ## How long arrays get

    An index is bounded by `Path.maxIndex`, so a step that grows an array grows it to one slot
    more at most, and no segment of digits, however long, asks for more (`steady_slotCount`).
    `longestArray` is the length of the longest array anywhere in a value, also inside maps and
    sets (`longestArray_le_iff`). A run of writes leaves no array longer than the bound, unless
    it was so long in the document or in a written value. -/

/-! The longest array in a value. -/

mutual

/-- The length of the longest array in a value, at any depth. -/
def longestArray : Value → Nat
  | array items => max items.length (longestInItems items)
  | object fields => longestInFields fields
  | map pairs => longestInPairs pairs
  | set members => longestInItems members
  | _ => 0

def longestInItems : List Value → Nat
  | [] => 0
  | v :: rest => max v.longestArray (longestInItems rest)

def longestInFields : List (String × Value) → Nat
  | [] => 0
  | (_, v) :: rest => max v.longestArray (longestInFields rest)

def longestInPairs : List (Value × Value) → Nat
  | [] => 0
  | (k, v) :: rest => max (max k.longestArray v.longestArray) (longestInPairs rest)

end

section
variable (n : Nat)

theorem longestInItems_le_iff (items : List Value) :
    longestInItems items ≤ n ↔ ∀ v ∈ items, v.longestArray ≤ n := by
  induction items with
  | nil => simp [longestInItems]
  | cons v rest ih => rw [longestInItems, Nat.max_le, ih, List.forall_mem_cons]

theorem longestInFields_le_iff (fields : List (String × Value)) :
    longestInFields fields ≤ n ↔ ∀ e ∈ fields, e.2.longestArray ≤ n := by
  induction fields with
  | nil => simp [longestInFields]
  | cons e rest ih => rw [longestInFields, Nat.max_le, ih, List.forall_mem_cons]

theorem longestInPairs_le_iff (pairs : List (Value × Value)) :
    longestInPairs pairs ≤ n ↔ ∀ p ∈ pairs, p.1.longestArray ≤ n ∧ p.2.longestArray ≤ n := by
  induction pairs with
  | nil => simp [longestInPairs]
  | cons p rest ih => rw [longestInPairs, Nat.max_le, Nat.max_le, ih, List.forall_mem_cons]

end

/-- The number of slots of an array; no other value has any. -/
def slotCount : Value → Nat
  | array items => items.length
  | _ => 0

theorem slotCount_of_isLeaf {v : Value} (h : v.isLeaf = true) : v.slotCount = 0 := by
  cases v with
  | array | object | map | set => cases h
  | _ => rfl

theorem longestArray_le_iff (v : Value) (n : Nat) :
    v.longestArray ≤ n ↔ Throughout (fun x => x.slotCount ≤ n) v := by
  induction v with
  | array items ih =>
    rw [longestArray, Nat.max_le, longestInItems_le_iff, throughout_array]
    exact and_congr_right fun _ => forall₂_congr ih
  | object fields ih =>
    simp only [longestArray, longestInFields_le_iff, throughout_object, slotCount, Nat.zero_le,
      true_and]
    exact forall₂_congr ih
  | map pairs ih =>
    simp only [longestArray, longestInPairs_le_iff, throughout_map, slotCount, Nat.zero_le,
      true_and]
    exact forall₂_congr fun p hp => and_congr (ih p hp).1 (ih p hp).2
  | set members ih =>
    simp only [longestArray, longestInItems_le_iff, throughout_set, slotCount, Nat.zero_le,
      true_and]
    exact forall₂_congr ih
  | _ => exact iff_of_true (Nat.zero_le n) ((throughout_leaf rfl).2 (Nat.zero_le n))

/-! One step. -/

/-- A step grows an array by its index, and no index is past the limit. -/
theorem length_placed_le {items : List Value} {i : Nat} {s : String}
    (hi : Path.index? s = some i) (v : Value) :
    (placed items i v).length ≤ max (Path.maxIndex + 1) items.length := by
  have hle := Path.index?_le hi
  rw [length_placed]
  omega

theorem steady_slotCount {n : Nat} (hn : Path.maxIndex + 1 ≤ n) :
    Steady (fun x => x.slotCount ≤ n) fun _ => True where
  absent v hv := by
    rw [slotCount_of_isLeaf (isLeaf_of_isAbsent hv)]
    exact Nat.zero_le n
  fill {doc s slot} hdoc _ hslot v := by
    obtain ⟨fields, rfl, -⟩ | ⟨items, i, rfl, hi, hitems⟩ := slotFor?_cases hslot
    · exact Nat.zero_le n
    · have hold : items.length ≤ n := by
        rcases hitems with rfl | ⟨-, rfl⟩
        · exact hdoc
        · exact Nat.zero_le n
      rw [fill_item]
      show (placed items i v).length ≤ n
      have hgrown : (placed items i v).length ≤ max (Path.maxIndex + 1) items.length :=
        length_placed_le hi v
      omega

/-! Along a whole path, and over a run. -/

theorem exists_length_write_le {doc : Value} {front back : Path} {s : String} {items : List Value}
    (hitems : doc.slot? front = some (array items)) (v : Value) :
    ∃ items', (doc.write (front ++ s :: back) v).doc.slot? front = some (array items') ∧
      items'.length ≤ max (Path.maxIndex + 1) items.length := by
  by_cases hb : Blocked doc (front ++ s :: back)
  · rw [write_of_blocked v hb]
    exact ⟨items, hitems, Nat.le_max_right _ _⟩
  · obtain ⟨slot, x, hslot, hfilled⟩ := slot?_write (v := v) hb
    rw [hitems] at hslot
    obtain ⟨i, hi, rfl⟩ := Option.map_eq_some_iff.1 hslot
    refine ⟨placed items i x, ?_, length_placed_le hi x⟩
    rw [hfilled, fill_item]

/-- **Writing by path cannot make arrays long.** After any sequence of assignments and updates,
    at any paths and of any values, no array anywhere in the document is longer than one that
    was in the document before or in a written value, or than the largest index allows. Also
    an array that is longer than that from the start is never grown. And one more than an
    index, the number of slots that an array is grown to, is no overflow in a machine word. -/
theorem editAll_bounds_arrays (doc : Value) (edits : List Edit) :
    (∀ items, Within (array items) (doc.editAll edits) →
      items.length ≤ max (Path.maxIndex + 1)
        (max doc.longestArray (longestInFields (edits.flatMap Edit.entries)))) ∧
    (∀ path front s back items v, Path.parse path = front ++ s :: back →
      doc.slot? front = some (array items) →
      ∃ items', (doc.assign path v).value.slot? front = some (array items') ∧
        items'.length ≤ max (Path.maxIndex + 1) items.length) ∧
    ∀ s i, Path.index? s = some i → i + 1 < USize.size := by
  refine ⟨?_, ?_, ?_⟩
  · generalize hn : max (Path.maxIndex + 1)
      (max doc.longestArray (longestInFields (edits.flatMap Edit.entries))) = n
    obtain ⟨hlimit, hdoc, hvalues⟩ : Path.maxIndex + 1 ≤ n ∧ doc.longestArray ≤ n ∧
        longestInFields (edits.flatMap Edit.entries) ≤ n := by omega
    rw [longestInFields_le_iff] at hvalues
    have hrun : Throughout (fun x => x.slotCount ≤ n) (doc.editAll edits) := by
      rw [editAll_eq_run]
      apply (steady_slotCount hlimit).run ((longestArray_le_iff doc n).1 hdoc)
      · exact fun _ _ _ _ => trivial
      · intro w hw
        obtain ⟨e, he, rfl⟩ := List.mem_map.1 hw
        exact (longestArray_le_iff e.2 n).1 (hvalues e he)
    exact fun items hitems => hrun (array items) hitems
  · intro path front s back items v hpath hitems
    rw [assign_value, hpath]
    exact exists_length_write_le hitems v
  · intro s i hi
    calc i + 1 ≤ Path.maxIndex + 1 := Nat.succ_le_succ (Path.index?_le hi)
      _ < 4294967296 := by decide
      _ ≤ USize.size := USize.le_size

/-- Digits past the limit, an array in a set, a name that a list refuses; and the largest index
    behind zeros. -/
theorem editAll_bounds_arrays_digits :
    let doc := object [("list", array [null])]
    let edits := [Edit.assign "list.1048577" null,
      .update [("tags.03", set [array [hole]]), ("list.name", null), ("99999999999999999999", hole)]]
    (∀ items, Within (array items) (doc.editAll edits) → items.length ≤ 1048577) ∧
      (∃ items', (doc.assign "list.0001048576" null).value.slot? ["list"] = some (array items') ∧
        items'.length ≤ 1048577) ∧
      1048576 + 1 < USize.size := by
  intro doc edits
  have hmax : max (Path.maxIndex + 1)
      (max doc.longestArray (longestInFields (edits.flatMap Edit.entries))) = 1048577 := by
    decide +kernel
  have hlimit : max (Path.maxIndex + 1) ([null] : List Value).length = 1048577 := by decide +kernel
  have hpath : Path.parse "list.0001048576" = ["list"] ++ "0001048576" :: [] := by decide +kernel
  have hlist : doc.slot? ["list"] = some (array [null]) := by
    simp [doc, slot?, child?, Fields.get?]
  have hindex : Path.index? "0001048576" = some 1048576 := by decide +kernel
  obtain ⟨hrun, hstep, hword⟩ := editAll_bounds_arrays doc edits
  rw [hmax] at hrun
  obtain ⟨items', hitems', hlength⟩ := hstep _ _ _ _ _ null hpath hlist
  rw [hlimit] at hlength
  exact ⟨hrun, ⟨items', hitems', hlength⟩, hword _ _ hindex⟩

end DocTree.Value
