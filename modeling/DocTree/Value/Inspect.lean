import DocTree.Number.Decimal
import DocTree.Text.Quoted
import DocTree.Value.Basic

/- Values as text for a reader who debugs: every value under the name of its constructor,
   with quoted strings. Every function appends to the text written so far. -/
namespace DocTree.Value

/-- How a number is written here: positionally from `0.0001` up to sixteen digits before
    the point, else as in `1.5e16` and `1e-5`. A half goes up. -/
def inspectLayout : Number.Layout := ⟨-4, 15, false, .up⟩

def inspectNumber (x : Number) : String :=
  if x.isNaN then "NaN"
  else if x.isFinite then inspectLayout.write x
  else if x.isNegative then "-inf"
  else "inf"

/-- A list of bytes in base ten. -/
def inspectBytes (content : List UInt8) : String :=
  "[" ++ ", ".intercalate (content.map fun b => toString b.toNat) ++ "]"

mutual

/-- Append the text of a value. -/
def appendInspect (out : String) : Value → String
  | undefined => out ++ "Undefined"
  | hole => out ++ "Hole"
  | null => out ++ "Null"
  | bool b => out ++ (if b then "Bool(true)" else "Bool(false)")
  | number x => out ++ "Number(" ++ inspectNumber x ++ ")"
  | string s => (Quoted.append (out ++ "String(") s).push ')'
  | array items => appendItems (out ++ "Array([") items ++ "])"
  | object fields => appendFields (out ++ "Object(\x7b") fields ++ "\x7d)"
  | date millis => out ++ "Date(" ++ inspectNumber millis ++ ")"
  | bytes content => out ++ "Bytes(" ++ inspectBytes content ++ ")"
  | map pairs => appendPairs (out ++ "Map([") pairs ++ "])"
  | set members => appendItems (out ++ "Set([") members ++ "])"

def appendItems (out : String) : List Value → String
  | [] => out
  | [v] => appendInspect out v
  | v :: rest => appendItems (appendInspect out v ++ ", ") rest

def appendFields (out : String) : List (String × Value) → String
  | [] => out
  | [(key, v)] => appendInspect (Quoted.append out key ++ ": ") v
  | (key, v) :: rest => appendFields (appendInspect (Quoted.append out key ++ ": ") v ++ ", ") rest

def appendPairs (out : String) : List (Value × Value) → String
  | [] => out
  | [(k, v)] => appendInspect (appendInspect (out.push '(') k ++ ", ") v |>.push ')'
  | (k, v) :: rest =>
    appendPairs ((appendInspect (appendInspect (out.push '(') k ++ ", ") v).push ')' ++ ", ") rest

end

/-- The text of a value. -/
def inspect (v : Value) : String := appendInspect "" v

/-- The text of an object's fields alone. -/
def inspectFields (fields : Fields Value) : String :=
  appendFields "\x7b" fields ++ "\x7d"

end DocTree.Value
