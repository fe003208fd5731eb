import DocTree.Value.Basic

/- Deep copies. Every container is built anew from copies of what it holds; an object is
   rebuilt by inserting its fields one by one. -/
namespace DocTree.Value

mutual

/-- A deep copy of a value. -/
def copy : Value → Value
  | undefined => undefined
  | hole => hole
  | null => null
  | bool b => bool b
  | number n => number n
  | string s => string s
  | array items => array (copyItems [] items)
  | object fields => object (copyFields [] fields)
  | date millis => date millis
  | bytes content => bytes content
  | map pairs => map (copyPairs [] pairs)
  | set members => set (copyItems [] members)

/-- Copies of the items, after those already `done` (latest first). -/
def copyItems (done : List Value) : List Value → List Value
  | [] => done.reverse
  | v :: rest => copyItems (copy v :: done) rest

/-- Copies of the fields, inserted after those already `done`. -/
def copyFields (done : Fields Value) : List (String × Value) → Fields Value
  | [] => done
  | (key, v) :: rest => copyFields (done.insert key (copy v)) rest

/-- Copies of the pairs, after those already `done` (latest first). -/
def copyPairs (done : List (Value × Value)) : List (Value × Value) → List (Value × Value)
  | [] => done.reverse
  | (k, v) :: rest => copyPairs ((copy k, copy v) :: done) rest

end

theorem copyItems_eq (items done : List Value) :
    copyItems done items = done.reverse ++ items.map copy := by
  induction items generalizing done with
  | nil => simp [copyItems]
  | cons v rest ih => simp [copyItems, ih]

theorem copyPairs_eq (pairs done : List (Value × Value)) :
    copyPairs done pairs = done.reverse ++ pairs.map fun p => (copy p.1, copy p.2) := by
  induction pairs generalizing done with
  | nil => simp [copyPairs]
  | cons p rest ih => obtain ⟨k, v⟩ := p; simp [copyPairs, ih]

theorem copyFields_eq (fields : List (String × Value)) (done : Fields Value) :
    copyFields done fields =
      fields.foldl (fun fields entry => fields.insert entry.1 (copy entry.2)) done := by
  induction fields generalizing done with
  | nil => simp [copyFields]
  | cons entry rest ih => obtain ⟨k, v⟩ := entry; simp [copyFields, ih]

end DocTree.Value
