import DocTree.Json.Printer
import DocTree.Value.Basic

/- Values as JSON trees and back. `toJson?` converts what can be stored and refuses the
   rest; `serialize` writes an absent value as `null` wherever a value must stand, and
   names the first value that it cannot write. Both leave absent fields out. -/
namespace DocTree.Value

/-- The JSON of a number: an integer if it is a safe one, `null` if it is not finite. The
    sign of zero is lost. -/
def numberToJson (x : Number) : Json :=
  match x.toSafeInt? with
  | some n => .integer n
  | none => if x.isFinite then .float x else .null

mutual

/-- The JSON of a value, unless it is absent or a foreign kind occurs in it. -/
def toJson? : Value → Option Json
  | undefined | hole => none
  | null => some .null
  | bool b => some (.bool b)
  | number x => some (numberToJson x)
  | string s => some (.string s)
  | array items => (itemsToJson? [] items).map .array
  | object fields => (fieldsToJson? [] fields).map .object
  | date _ | bytes _ | map _ | set _ => none

/-- The JSON of items, after those already `done` (latest first); absent ones are `null`. -/
def itemsToJson? (done : List Json) : List Value → Option (List Json)
  | [] => some done.reverse
  | v :: rest =>
    if v.isAbsent then itemsToJson? (.null :: done) rest
    else
      match v.toJson? with
      | some j => itemsToJson? (j :: done) rest
      | none => none

/-- The JSON of fields, after those already `done` (latest first); absent ones are left out. -/
def fieldsToJson? (done : List (String × Json)) :
    List (String × Value) → Option (List (String × Json))
  | [] => some done.reverse
  | (key, v) :: rest =>
    if v.isAbsent then fieldsToJson? done rest
    else
      match v.toJson? with
      | some j => fieldsToJson? ((key, j) :: done) rest
      | none => none

end

mutual

/-- The JSON of a value, or the kind of the first value in it that has none. -/
def serialize : Value → Except Kind Json
  | undefined | hole | null => .ok .null
  | bool b => .ok (.bool b)
  | number x => .ok (numberToJson x)
  | string s => .ok (.string s)
  | array items => (serializeItems [] items).map .array
  | object fields => (serializeFields [] fields).map .object
  | v => .error v.kind

/-- The JSON of items, after those already `done` (latest first). -/
def serializeItems (done : List Json) : List Value → Except Kind (List Json)
  | [] => .ok done.reverse
  | v :: rest =>
    match v.serialize with
    | .ok j => serializeItems (j :: done) rest
    | .error kind => .error kind

/-- The JSON of the fields that are not absent, after those already `done` (latest first). -/
def serializeFields (done : List (String × Json)) :
    List (String × Value) → Except Kind (List (String × Json))
  | [] => .ok done.reverse
  | (key, v) :: rest =>
    if v.isAbsent then serializeFields done rest
    else
      match v.serialize with
      | .ok j => serializeFields ((key, j) :: done) rest
      | .error kind => .error kind

end

/-- The message for a value that `serialize` refuses. -/
def refusalMessage (kind : Kind) : String := "cannot serialize a " ++ kind.name ++ " value"

mutual

/-- The value of a JSON tree; an integer goes to the nearest number. -/
def ofJson : Json → Value
  | .null => null
  | .bool b => bool b
  | .integer n => number (.ofInt n)
  | .float x => number x
  | .string s => string s
  | .array items => array (itemsOfJson [] items)
  | .object members => object (fieldsOfJson [] members)

def itemsOfJson (done : List Value) : List Json → List Value
  | [] => done.reverse
  | j :: rest => itemsOfJson (ofJson j :: done) rest

/-- The fields of an object's members, inserted after those already `done`. -/
def fieldsOfJson (done : Fields Value) : List (String × Json) → Fields Value
  | [] => done
  | (key, j) :: rest => fieldsOfJson (done.insert key (ofJson j)) rest

end

end DocTree.Value
