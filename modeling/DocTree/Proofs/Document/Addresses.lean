import DocTree.Proofs.Document.NormalForm
import DocTree.Proofs.Document.RoundTrip
import DocTree.Proofs.Document.Slot
import DocTree.Proofs.Path.Index
import DocTree.Proofs.Path.Text
import DocTree.Proofs.Value.Equality

/- Addresses of nodes, and paths put together. A node of a document is given by the steps that
   lead to it from the root, to fields by their keys and to items by their indices
   (`Reaches`), and the address of a node is the path that spells its steps. In a document
   that was sanitized every key is free of the separator, so that the address comes apart into
   the steps' own texts (`parse_address`); a look-up by those texts takes the same steps
   (`slot?_of_reaches`), and no two nodes have the same texts (`steps_eq_of_reaches`). -/
namespace DocTree

/-- One step down a document: to a field of an object or to an item of an array. -/
inductive Step where
  | field (key : String)
  | item (index : Nat)

/-- A step as a segment: a key as it is, an index in decimal. -/
def Step.text : Step → String
  | field key => key
  | item index => index.repr

/-- The path that spells steps, as text. -/
def address (steps : List Step) : String := Path.render (steps.map Step.text)

/-- No step goes to an item past those that a path can address. -/
def Indexable (steps : List Step) : Prop := ∀ i, Step.item i ∈ steps → i ≤ Path.maxIndex

theorem Indexable.tail {step : Step} {steps : List Step} (h : Indexable (step :: steps)) :
    Indexable steps :=
  fun i hi => h i (List.mem_cons_of_mem step hi)

namespace Value

/-- The steps lead from a value to a node of it. -/
inductive Reaches : Value → List Step → Value → Prop
  | root (v : Value) : Reaches v [] v
  | field {fields : List (String × Value)} {key : String} {child x : Value} {steps : List Step} :
      (key, child) ∈ fields → Reaches child steps x → Reaches (object fields) (.field key :: steps) x
  | item {items : List Value} {i : Nat} {child x : Value} {steps : List Step} :
      items[i]? = some child → Reaches child steps x → Reaches (array items) (.item i :: steps) x

/-- A value with another node in the place that steps lead to. -/
def replaceNode : Value → List Step → Value → Value
  | _, [], w => w
  | object fields, .field key :: steps, w =>
    object (fields.map fun e => (e.1, if e.1 = key then e.2.replaceNode steps w else e.2))
  | array items, .item i :: steps, w => array (items.modify i (·.replaceNode steps w))
  | v, _ :: _, _ => v

/-! What holds throughout a container holds throughout each node of it. -/

section
variable {P : Value → Prop} {child : Value}

theorem Throughout.field {fields : List (String × Value)} {key : String}
    (h : Throughout P (object fields)) (hmem : (key, child) ∈ fields) : Throughout P child :=
  ((throughout_object fields).1 h).2 _ hmem

theorem Throughout.item {items : List Value} {i : Nat} (h : Throughout P (array items))
    (hi : items[i]? = some child) : Throughout P child :=
  ((throughout_array items).1 h).2 _ (List.mem_of_getElem? hi)

end

/-! A look-up by the texts of the steps. -/

section
variable {doc x : Value} {steps : List Step}

theorem slot?_of_reaches (hkeys : DistinctKeys doc) (h : Reaches doc steps x)
    (hindex : Indexable steps) : doc.slot? (steps.map Step.text) = some x := by
  induction h with
  | root v => rfl
  | @field fields key child x steps hmem _ ih =>
    have hget := Fields.Distinct.get?_of_mem (hkeys _ (.self _)) hmem
    rw [List.map_cons, slot?, child?, Step.text, hget]
    exact ih (hkeys.field hmem) hindex.tail
  | @item items i child x steps hi _ ih =>
    have htext := Path.index?_repr (hindex i List.mem_cons_self)
    rw [List.map_cons, slot?, child?, Step.text, htext, Option.bind_some, hi]
    exact ih (hkeys.item hi) hindex.tail

theorem replace?_of_reaches (hkeys : DistinctKeys doc) (h : Reaches doc steps x)
    (hindex : Indexable steps) (w : Value) :
    doc.replace? (steps.map Step.text) w = some (doc.replaceNode steps w) := by
  induction h with
  | root v => rfl
  | @field fields key child x steps hmem _ ih =>
    have hd : Fields.Distinct fields := hkeys _ (.self _)
    have ih := ih (hkeys.field hmem) hindex.tail
    have hplace := hd.insert_eq_map (·.replaceNode steps w) hmem
    simp [replace?, replaceNode, Step.text, hd.get?_of_mem hmem, ih, hplace]
  | @item items i child x steps hi _ ih =>
    have htext := Path.index?_repr (hindex i List.mem_cons_self)
    have ih := ih (hkeys.item hi) hindex.tail
    simp [replace?, replaceNode, Step.text, htext, hi, ih, List.modify_eq_set]

/-! Addresses. -/

theorem parse_address (hdots : DotFree doc) (h : Reaches doc steps x) (hne : steps ≠ []) :
    Path.parse (address steps) = steps.map Step.text := by
  apply Path.parse_render
  · simpa using hne
  · clear hne
    induction h with
    | root v => simp
    | @field fields key child x steps hmem _ ih =>
      have hkey := hdots _ (.self _) key (List.mem_map.2 ⟨_, hmem, rfl⟩)
      rw [List.map_cons, List.forall_mem_cons]
      exact ⟨by simpa [hasSeparator, Step.text] using hkey, ih (hdots.field hmem)⟩
    | @item items i child x steps hi _ ih =>
      rw [List.map_cons, List.forall_mem_cons]
      exact ⟨Path.separator_not_mem_repr i, ih (hdots.item hi)⟩

/-- Steps to nodes of one document are the same if their texts are: which kind of step a text
    spells is decided by the container. -/
theorem steps_eq_of_reaches {y : Value} {steps' : List Step} (hkeys : DistinctKeys doc)
    (h : Reaches doc steps x) (h' : Reaches doc steps' y)
    (htexts : steps.map Step.text = steps'.map Step.text) : steps = steps' := by
  induction h generalizing steps' with
  | root v =>
    cases steps' with
    | nil => rfl
    | cons step steps' => cases htexts
  | @field fields key child x steps hmem _ ih =>
    cases h' with
    | root => cases htexts
    | @field _ key' child' _ steps' hmem' hreach' =>
      obtain ⟨hkey, hrest⟩ := List.cons.inj htexts
      obtain rfl : key = key' := hkey
      have hd : Fields.Distinct fields := hkeys _ (.self _)
      obtain rfl : child = child' := by
        have hget := hd.get?_of_mem hmem
        rw [hd.get?_of_mem hmem'] at hget
        exact (Option.some.inj hget).symm
      rw [ih (hkeys.field hmem) hreach' hrest]
  | @item items i child x steps hi _ ih =>
    cases h' with
    | root => cases htexts
    | @item _ i' child' _ steps' hi' hreach' =>
      obtain ⟨hindex, hrest⟩ := List.cons.inj htexts
      obtain rfl : i = i' := Path.repr_injective hindex
      obtain rfl : child = child' := Option.some.inj (hi.symm.trans hi')
      rw [ih (hkeys.item hi) hreach' hrest]

end

/-- **Every node of a sanitized document can be addressed.** The path that spells the steps to
    a node below the root reads that node and leads to its slot, so that another value put
    there takes the place of that node and of nothing else. Different nodes have different
    paths. -/
theorem node_address {v x : Value} {steps : List Step} (hkeys : DistinctKeys v)
    (hv : v.sanitize.fault? = none) (hx : Reaches v.sanitize.value steps x) (hne : steps ≠ [])
    (hindex : Indexable steps) :
    v.sanitize.value.readAt (address steps) = x ∧
    v.sanitize.value.slotAt? (address steps) = some x ∧
    (∀ w, v.sanitize.value.replaceAt? (address steps) w =
      some (v.sanitize.value.replaceNode steps w)) ∧
    ∀ steps' y, Reaches v.sanitize.value steps' y → steps' ≠ [] → steps' ≠ steps →
      address steps' ≠ address steps := by
  have hplain := plain_normal ((sanitize_fault?_iff v).1 hv)
  rw [← sanitize_value hv] at hplain
  have hkeys : DistinctKeys v.sanitize.value := sanitize_value hv ▸ distinctKeys_normal hkeys
  have hdots : DotFree v.sanitize.value := hplain.mono fun _ hy => hy.2.2
  have hparse := parse_address hdots hx hne
  have hslot : v.sanitize.value.slotAt? (address steps) = some x := by
    rw [slotAt?, hparse]
    exact slot?_of_reaches hkeys hx hindex
  refine ⟨?_, hslot, ?_, ?_⟩
  · have habsent : x.isAbsent = false := (hplain.slot? hslot _ (.self x)).1
    exact read_of_present_slot hslot habsent
  · intro w
    rw [replaceAt?, hparse]
    exact replace?_of_reaches hkeys hx hindex w
  · intro steps' y hy hne' hdiffer heq
    have htexts : steps'.map Step.text = steps.map Step.text := by
      rw [← parse_address hdots hy hne', heq, hparse]
    exact hdiffer (steps_eq_of_reaches hkeys hy hx htexts)

/-- An empty key, an item past one that became `null`, and a key of digits. -/
theorem node_address_odd_keys :
    let v := object [("x", hole), ("", array [undefined, object [("01", bool true)]])]
    let steps := [Step.field "", .item 1, .field "01"]
    DistinctKeys v ∧ v.sanitize.fault? = none ∧
      Reaches v.sanitize.value steps (bool true) ∧ Indexable steps ∧
      address steps = ".1.01" ∧ v.sanitize.value.readAt ".1.01" = bool true := by
  intro v steps
  have hkeys : DistinctKeys v := by decide +kernel
  have hv : v.sanitize.fault? = none := by decide +kernel
  have hleft : v.sanitize.value = object [("", array [null, object [("01", bool true)]])] :=
    sanitize_value hv
  have hx : Reaches v.sanitize.value steps (bool true) := by
    rw [hleft]
    exact .field List.mem_cons_self (.item rfl (.field List.mem_cons_self (.root _)))
  have hindex : Indexable steps := by
    intro i hi
    simp only [steps, List.mem_cons, Step.item.injEq, reduceCtorEq, List.not_mem_nil, or_false,
      false_or] at hi
    subst hi
    decide
  have haddress : address steps = ".1.01" := by decide +kernel
  have hread := (node_address hkeys hv hx (List.cons_ne_nil _ _) hindex).1
  exact ⟨hkeys, hv, hx, hindex, haddress, haddress ▸ hread⟩

/-! ## Paths put together

    A read along two paths is a read along the second in what the first one reads
    (`read_append`). A write along two paths is a write along the first, of what the second
    write makes of the value that the first path reads, and it is given up where one of these
    two is (`write_append`). What the first path reads may stand for nothing at all, or for a
    hole, which a read takes for absent; the second write makes the same of it, as it begins
    with a step into a value that is no container (`write_of_hole`). -/

/-! Reads, and what they make of a hole: it does not show below. -/

theorem read_append (doc : Value) (front back : Path) :
    doc.read (front ++ back) = (doc.read front).read back := by
  induction front generalizing doc with
  | nil =>
    cases doc with
    | hole =>
      -- the read of the first path takes the hole for absent
      show hole.read back = undefined.read back
      rw [read_of_isAbsent rfl, read_of_isAbsent rfl]
    | _ => rfl
  | cons s rest ih =>
    rw [List.cons_append, read, read]
    cases doc.child? s with
    | some child => exact ih child
    | none => exact (read_of_isAbsent rfl back).symm

theorem write_of_hole {back : Path} (hne : back ≠ []) (v : Value) :
    hole.write back v = undefined.write back v := by
  cases back with
  | nil => exact absurd rfl hne
  | cons s rest =>
    -- a step that is refused would hand the value back as it is
    have hsome : undefined.slotFor? s ≠ none := by simp [slotFor?_eq_none_iff]
    obtain ⟨slot, hslot⟩ := Option.ne_none_iff_exists'.1 hsome
    have hhole : hole.slotFor? s = some slot := hslot
    simp only [write, hslot, hhole]

theorem write_read_nil (doc v : Value) {back : Path} (hne : back ≠ []) :
    (doc.read []).write back v = doc.write back v := by
  cases doc with
  | hole => exact (write_of_hole hne v).symm
  | _ => rfl

/-! Writes. -/

/-- A write along two paths is a write along the first, of what the second write leaves. The
    segment that is refused is the first write's, or else the second one's. -/
theorem write_append (doc v : Value) (front : Path) {back : Path} (hne : back ≠ []) :
    let inner := (doc.read front).write back v
    let outer := doc.write front inner.doc
    doc.write (front ++ back) v = ⟨outer.doc, outer.refused.or inner.refused⟩ := by
  induction front generalizing doc with
  | nil =>
    rw [List.nil_append, write_read_nil doc v hne]
    rfl
  | cons s rest ih =>
    simp only [List.cons_append, write]
    cases h : doc.slotFor? s with
    | none => rfl
    | some slot =>
      simp only [read_cons_of_slot h, ih slot.content]

theorem DistinctKeys.read {doc : Value} (h : DistinctKeys doc) (path : Path) :
    DistinctKeys (doc.read path) := by
  cases hslot : doc.slot? path with
  | none =>
    rw [read_of_no_slot hslot]
    exact distinctKeys_of_isLeaf rfl
  | some x =>
    rw [read_of_slot? hslot]
    split
    · exact distinctKeys_of_isLeaf rfl
    · exact Throughout.slot? h hslot

/-- **Reads and assignments compose along joined paths.** A path of two parts reads what the
    second part reads in the value at the first part. An assignment at it leaves the document
    that an assignment at the first part leaves, of that value after an assignment at the
    second part; a copy of the value serves as well, as it is the value itself. And the
    segment that is refused, if there is one, is refused by one of these two assignments. -/
theorem assign_at_joined_path (doc v : Value) (p r : String) :
    doc.readAt (p ++ "." ++ r) = (doc.readAt p).readAt r ∧
    (doc.assign (p ++ "." ++ r) v).value =
      (doc.assign p ((doc.readAt p).assign r v).value).value ∧
    (DistinctKeys doc → (doc.assign (p ++ "." ++ r) v).value =
      (doc.assign p ((doc.readAt p).copy.assign r v).value).value) ∧
    (doc.write (Path.parse (p ++ "." ++ r)) v).refused =
      (doc.write (Path.parse p) ((doc.readAt p).assign r v).value).refused.or
        ((doc.readAt p).write (Path.parse r) v).refused := by
  have hjoined : Path.parse (p ++ "." ++ r) = Path.parse p ++ Path.parse r := Path.parse_append p r
  have hwrite := write_append doc v (Path.parse p) (Path.parse_ne_nil r)
  have hinner : ((doc.readAt p).assign r v).value =
      ((doc.read (Path.parse p)).write (Path.parse r) v).doc := assign_value (doc.readAt p) r v
  have hassign : (doc.assign (p ++ "." ++ r) v).value =
      (doc.assign p ((doc.readAt p).assign r v).value).value := by
    calc (doc.assign (p ++ "." ++ r) v).value
        = (doc.write (Path.parse p ++ Path.parse r) v).doc := by rw [assign_value, hjoined]
      _ = (doc.write (Path.parse p) ((doc.read (Path.parse p)).write (Path.parse r) v).doc).doc :=
          by rw [hwrite]
      _ = (doc.assign p ((doc.readAt p).assign r v).value).value := by rw [assign_value doc p, hinner]
  refine ⟨?_, hassign, fun hkeys => ?_, ?_⟩
  · rw [readAt, hjoined]
    exact read_append doc _ _
  · have hcopy : (doc.readAt p).copy = doc.readAt p := copy_eq_self (hkeys.read (Path.parse p))
    rw [hcopy]
    exact hassign
  · rw [hjoined, hinner, hwrite]
    rfl

/-- The first part leads to a hole, to a scalar, or is refused; and a second part that is
    refused. -/
theorem assign_at_joined_path_gaps :
    let doc := object [("list", array [hole]), ("size", null)]
    DistinctKeys doc ∧
      (doc.assign ("list.0" ++ "." ++ "a.1") undefined).value =
        (doc.assign "list.0" ((doc.readAt "list.0").copy.assign "a.1" undefined).value).value ∧
      (doc.assign ("size" ++ "." ++ "unit") hole).value =
        (doc.assign "size" ((doc.readAt "size").copy.assign "unit" hole).value).value ∧
      (doc.assign ("list.name" ++ "." ++ "0") null).value =
        (doc.assign "list.name" ((doc.readAt "list.name").copy.assign "0" null).value).value ∧
      (doc.assign ("list" ++ "." ++ "name.0") null).value =
        (doc.assign "list" ((doc.readAt "list").copy.assign "name.0" null).value).value := by
  intro doc
  have hkeys : DistinctKeys doc := by decide +kernel
  exact ⟨hkeys, (assign_at_joined_path doc undefined "list.0" "a.1").2.2.1 hkeys,
    (assign_at_joined_path doc hole "size" "unit").2.2.1 hkeys,
    (assign_at_joined_path doc null "list.name" "0").2.2.1 hkeys,
    (assign_at_joined_path doc null "list" "name.0").2.2.1 hkeys⟩

end Value
end DocTree
