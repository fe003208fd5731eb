import DocTree.Fields
import DocTree.Number.Basic

/- The values a document is made of. Scalars, arrays and objects can be stored. Dates,
   bytes, maps and sets are foreign kinds: a host may hand them in, and they are
   compared and copied, but never stored. Two values stand for "nothing here": the
   absent marker `undefined`, and `hole`, an array slot that was never assigned. -/
namespace DocTree

/-- A document value. -/
inductive Value where
  /-- The absent marker, distinct from `null`. -/
  | undefined
  /-- An array slot that a write beyond the end left behind; it reads as `undefined`. -/
  | hole
  | null
  | bool (b : Bool)
  | number (n : Number)
  | string (s : String)
  | array (items : List Value)
  | object (fields : List (String × Value))
  /-- Milliseconds since the Unix epoch. -/
  | date (millis : Number)
  | bytes (content : List UInt8)
  /-- Pairs of a key and a value, both of any kind. -/
  | map (pairs : List (Value × Value))
  | set (members : List Value)

/-- A value that nobody has set is absent. -/
instance : Inhabited Value := ⟨.undefined⟩

/-- What a value is, as far as messages and dispatch go. Both absent values share a kind. -/
inductive Kind where
  | undefined
  | null
  | boolean
  | number
  | string
  | array
  | object
  | date
  | bytes
  | map
  | set
  deriving DecidableEq, Repr, Inhabited

namespace Kind

def name : Kind → String
  | undefined => "undefined"
  | null => "null"
  | boolean => "boolean"
  | number => "number"
  | string => "string"
  | array => "array"
  | object => "object"
  | date => "date"
  | bytes => "bytes"
  | map => "map"
  | set => "set"

instance : ToString Kind := ⟨name⟩

/-- The kinds with a literal identity. -/
def isScalar : Kind → Bool
  | null | boolean | number | string => true
  | _ => false

/-- The kinds that may occur in a stored document. -/
def isStorable : Kind → Bool
  | array | object => true
  | k => k.isScalar

end Kind

namespace Value

def kind : Value → Kind
  | undefined | hole => .undefined
  | null => .null
  | bool _ => .boolean
  | number _ => .number
  | string _ => .string
  | array _ => .array
  | object _ => .object
  | date _ => .date
  | bytes _ => .bytes
  | map _ => .map
  | set _ => .set

/-- The absent marker and holes. -/
def isAbsent : Value → Bool
  | undefined | hole => true
  | _ => false

def isHole : Value → Bool
  | hole => true
  | _ => false

def isNull : Value → Bool
  | null => true
  | _ => false

/-- Arrays and objects, the kinds that a path can descend into. -/
def isContainer : Value → Bool
  | array _ | object _ => true
  | _ => false

def bool? : Value → Option Bool
  | bool b => some b
  | _ => none

def number? : Value → Option Number
  | number n => some n
  | _ => none

def string? : Value → Option String
  | string s => some s
  | _ => none

def items? : Value → Option (List Value)
  | array items => some items
  | _ => none

def fields? : Value → Option (Fields Value)
  | object fields => some fields
  | _ => none

/-- The value under a key of an object. -/
def field? (v : Value) (key : String) : Option Value := v.fields?.bind (·.get? key)

/-- The number nearest to an integer. -/
def ofInt (n : Int) : Value := number (.ofInt n)

/-- A value that may be missing; a missing one is absent. -/
def ofOption {α : Type} (f : α → Value) : Option α → Value
  | some x => f x
  | none => undefined

/-- The items of a sequence without its holes. Absent markers and nulls stay. -/
def dropHoles (items : List Value) : List Value := items.filter (!·.isHole)

end Value
end DocTree
