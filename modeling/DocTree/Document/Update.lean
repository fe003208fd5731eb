import DocTree.Event
import DocTree.Path.Basic

/- Writing by path, and updates. A write goes down segment by segment and makes room on the way:
   a missing field is added, an array is padded with holes, and a value that is no container
   gives way to an empty one of the kind that the segment calls for. Containers in place keep
   their kind, so an array refuses a segment that is no index; the write then ends there, and
   what was done before it stays. An update is either a mutation of the whole document, or
   fields to assign, each at the path that its key spells; later fields see what earlier ones
   left behind. -/
namespace DocTree

namespace Value

/-- The place inside a container that a segment addresses. -/
inductive Slot where
  | field (fields : Fields Value) (key : String)
  | item (items : List Value) (index : Nat)

namespace Slot

/-- What is there now: a missing field starts absent, a missing item as a hole. -/
def content : Slot → Value
  | field fields key => (fields.get? key).getD undefined
  | item items index => (items[index]?).getD hole

/-- The container with another value in the slot. A shorter array is padded with holes. -/
def fill : Slot → Value → Value
  | field fields key, value => object (fields.insert key value)
  | item items index, value =>
    if index < items.length then array (items.set index value)
    else array (items ++ List.replicate (index - items.length) hole ++ [value])

end Slot

/-- The slot of a segment inside a value, which is an empty container if the value was none.
    An array has no slot for a segment that is no index. -/
def slotFor? : Value → String → Option Slot
  | object fields, segment => some (.field fields segment)
  | array items, segment => (Path.index? segment).map (.item items ·)
  | _, segment =>
    match Path.index? segment with
    | some index => some (.item [] index)
    | none => some (.field [] segment)

/-- How a write ended. -/
structure Written where
  /-- The document afterwards. -/
  doc : Value
  /-- The segment that an array refused, if the write was given up. -/
  refused : Option String

/-- Write a value at a path. -/
def write : Value → Path → Value → Written
  | _, [], value => ⟨value, none⟩
  | doc, segment :: rest, value =>
    match doc.slotFor? segment with
    | none => ⟨doc, some segment⟩
    | some slot =>
      let inner := slot.content.write rest value
      ⟨slot.fill inner.doc, inner.refused⟩

/-- Write at the path that a text spells, and report a write that was given up. -/
def assign (doc : Value) (path : String) (value : Value) : Logged Value :=
  let written := doc.write (Path.parse path) value
  match written.refused with
  | none => ⟨written.doc, []⟩
  | some segment => ⟨written.doc, [.writeSkipped path segment]⟩

end Value

/-! Updates. -/

/-- What an update does to a document. -/
inductive Update where
  | mutate (change : Value → Logged Value)
  | assign (fields : Fields Value)

namespace Value

/-- Assign fields one after another, each announced before it is written. -/
def assignAll : Value → List (String × Value) → Logged Value
  | doc, [] => pure doc
  | doc, (path, value) :: rest => do
    Logged.report (.assigning path)
    let next ← doc.assign path value
    next.assignAll rest

/-- The document after an update. -/
def update (doc : Value) : Update → Logged Value
  | .mutate change => change doc
  | .assign fields => doc.assignAll fields

end Value
end DocTree
