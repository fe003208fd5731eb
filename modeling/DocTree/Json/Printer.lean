import DocTree.Fields
import DocTree.Number.Decimal

/- JSON trees and their text. A number is an integer or a binary floating-point number, as its
   text has neither point nor exponent, or has one. The text has no spaces; every function that
   writes a part of it appends to what was written so far. -/
namespace DocTree

inductive Json where
  | null
  | bool (b : Bool)
  | integer (n : Int)
  | float (x : Number)
  | string (s : String)
  | array (items : List Json)
  | object (members : List (String × Json))
  deriving Inhabited

namespace Json

/-- How a floating-point number is written: positionally from `0.00001` up to sixteen digits
    before the point, else as in `1e+16` and `1.5e-7`. A half goes to the even digit. -/
def layout : Number.Layout := ⟨-5, 15, true, .toEven⟩

/-- A base-sixteen digit in lower case. -/
def hexDigit (n : Nat) : Char := Nat.digitChar (n % 16)

/-- One character of a string: only quotes, backslashes and controls are escaped. -/
def escape (out : String) (c : Char) : String :=
  if c = '"' then out ++ "\\\""
  else if c = '\\' then out ++ "\\\\"
  else if c = '\n' then out ++ "\\n"
  else if c = '\r' then out ++ "\\r"
  else if c = '\t' then out ++ "\\t"
  else if c = '\x08' then out ++ "\\b"
  else if c = '\x0c' then out ++ "\\f"
  else if c.toNat < 0x20 then
    ((out ++ "\\u00").push (hexDigit (c.toNat / 16))).push (hexDigit c.toNat)
  else out.push c

def appendString (out text : String) : String := (text.foldl escape (out.push '"')).push '"'

mutual

/-- Append the text of a tree. -/
def append (out : String) : Json → String
  | null => out ++ "null"
  | bool true => out ++ "true"
  | bool false => out ++ "false"
  | integer n => out ++ toString n
  | float x => out ++ layout.write x
  | string s => appendString out s
  | array items => (appendItems (out.push '[') items).push ']'
  | object members => (appendMembers (out.push '\x7b') members).push '\x7d'

def appendItems (out : String) : List Json → String
  | [] => out
  | [j] => append out j
  | j :: rest => appendItems ((append out j).push ',') rest

def appendMembers (out : String) : List (String × Json) → String
  | [] => out
  | [(key, j)] => append ((appendString out key).push ':') j
  | (key, j) :: rest => appendMembers ((append ((appendString out key).push ':') j).push ',') rest

end

/-- The text of a tree. -/
def text (j : Json) : String := append "" j

end Json
end DocTree
