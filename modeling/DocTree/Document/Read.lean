import DocTree.Path.Basic
import DocTree.Value.Basic

/- Reading and replacing by path. A segment goes to a field of an object or to a slot of
   an array; nothing else can be entered, and nothing is created. A read finds holes
   absent, while `slot?` and `replace?` see them as they are. -/
namespace DocTree.Value

/-- What a segment leads to inside a value. -/
def child? : Value → String → Option Value
  | object fields, segment => Fields.get? fields segment
  | array items, segment => (Path.index? segment).bind (items[·]?)
  | _, _ => none

/-- The value at a path: absent when the path leads nowhere or to a hole. -/
def read : Value → Path → Value
  | doc, [] => if doc.isHole then undefined else doc
  | doc, segment :: rest =>
    match doc.child? segment with
    | some child => child.read rest
    | none => undefined

/-- The slot at a path, if all of the path exists. -/
def slot? : Value → Path → Option Value
  | doc, [] => some doc
  | doc, segment :: rest => (doc.child? segment).bind (·.slot? rest)

/-- The document with another value in an existing slot, `none` if there is no such slot. -/
def replace? : Value → Path → Value → Option Value
  | _, [], value => some value
  | object fields, segment :: rest, value => do
    let child ← Fields.get? fields segment
    let changed ← child.replace? rest value
    return object (Fields.insert fields segment changed)
  | array items, segment :: rest, value => do
    let index ← Path.index? segment
    let child ← items[index]?
    let changed ← child.replace? rest value
    return array (items.set index changed)
  | _, _ :: _, _ => none

/-- The value at the path that a text spells. -/
def readAt (doc : Value) (path : String) : Value := doc.read (Path.parse path)

/-- The slot at the path that a text spells. -/
def slotAt? (doc : Value) (path : String) : Option Value := doc.slot? (Path.parse path)

/-- The document with another value in the slot at the path that a text spells. -/
def replaceAt? (doc : Value) (path : String) (value : Value) : Option Value :=
  doc.replace? (Path.parse path) value

end DocTree.Value
