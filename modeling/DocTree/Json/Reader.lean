import DocTree.Json.Printer
import DocTree.Number.Basic
import DocTree.Text.Digits

/- Reading JSON text, strictly by the grammar: no space but space, tab, line feed and
   carriage return, no leading zeros, no lone surrogates. Each reader takes what it can
   from the front of the text and returns it with the rest. A key that comes twice keeps
   its first place and takes its last value. -/
namespace DocTree.Json
namespace Reader

/-- The largest number of containers inside one another. -/
def maxDepth : Nat := 127

def isSpace (c : Char) : Bool := c = ' ' || c = '\n' || c = '\t' || c = '\r'

def skipSpace (text : List Char) : List Char := text.dropWhile isSpace

/-! Strings. -/

/-- The UTF-16 unit that four digits in base sixteen spell. -/
def unit? (a b c d : Char) : Option Nat :=
  [a, b, c, d].foldlM (fun unit c => (Digits.hex? c).map (16 * unit + ·)) 0

def isHighSurrogate (u : Nat) : Bool := 0xd800 ≤ u && u < 0xdc00

def isLowSurrogate (u : Nat) : Bool := 0xdc00 ≤ u && u < 0xe000

/-- What a one-letter escape stands for. -/
def shortEscape? : Char → Option Char
  | '"' => some '"'
  | '\\' => some '\\'
  | '/' => some '/'
  | 'b' => some '\x08'
  | 'f' => some '\x0c'
  | 'n' => some '\n'
  | 'r' => some '\r'
  | 't' => some '\t'
  | _ => none

/-- A string after its opening quote; the characters read so far are `done`, latest first. -/
def string? (done : List Char) : List Char → Option (String × List Char)
  | [] => none
  | '"' :: rest => some (String.ofList done.reverse, rest)
  | '\\' :: 'u' :: a :: b :: c :: d :: rest =>
    match unit? a b c d with
    | none => none
    | some high =>
      if isLowSurrogate high then none
      else if isHighSurrogate high then
        match rest with
        | '\\' :: 'u' :: e :: f :: g :: h :: rest =>
          match unit? e f g h with
          | none => none
          | some low =>
            if isLowSurrogate low then
              let code := 0x10000 + (high - 0xd800) * 0x400 + (low - 0xdc00)
              string? (Char.ofNat code :: done) rest
            else none
        | _ => none
      else string? (Char.ofNat high :: done) rest
  | '\\' :: c :: rest =>
    match shortEscape? c with
    | some c => string? (c :: done) rest
    | none => none
  | c :: rest => if c.toNat < 0x20 || c = '\\' then none else string? (c :: done) rest

/-! Numbers. -/

/-- The leading decimal digits, and the rest. -/
def digits (text : List Char) : List Char × List Char := text.span Char.isDigit

/-- The digits after a point; without a point there are none. -/
def fraction? : List Char → Option (List Char × List Char)
  | '.' :: rest =>
    let (places, rest) := digits rest
    if places.isEmpty then none else some (places, rest)
  | rest => some ([], rest)

/-- An exponent's digits, at least one. -/
def exponentDigits? (negative : Bool) (text : List Char) : Option (Option Int × List Char) :=
  let (places, rest) := digits text
  if places.isEmpty then none
  else
    let value : Int := Digits.decimal 0 places
    some (some (if negative then -value else value), rest)

/-- The exponent after an `e`, if there is one. -/
def exponent? : List Char → Option (Option Int × List Char)
  | 'e' :: '+' :: rest | 'E' :: '+' :: rest => exponentDigits? false rest
  | 'e' :: '-' :: rest | 'E' :: '-' :: rest => exponentDigits? true rest
  | 'e' :: rest | 'E' :: rest => exponentDigits? false rest
  | rest => some (none, rest)

/-- The floating-point number of a decimal; one beyond the largest finite number is refused. -/
def float? (negative : Bool) (digits : Nat) (scale : Int) : Option Json :=
  let x := Number.ofDecimal negative digits scale
  if x.isFinite then some (float x) else none

/-- An integer that a signed or unsigned word of 64 bits holds stays one; any other, and
    negative zero, becomes a floating-point number. -/
def integer? (negative : Bool) (value : Nat) : Option Json :=
  if negative then
    if 0 < value ∧ value ≤ Nat.pow 2 63 then some (integer (-value)) else float? true value 0
  else if value < Nat.pow 2 64 then some (integer value)
  else float? false value 0

/-- A number without its sign. -/
def unsigned? (negative : Bool) (text : List Char) : Option (Json × List Char) := do
  let (whole, rest) := digits text
  if whole.isEmpty || (whole.length > 1 && whole.head? = some '0') then none
  let (places, rest) ← fraction? rest
  let (exponent, rest) ← exponent? rest
  let value := Digits.decimal 0 whole
  let j ←
    if places.isEmpty && exponent.isNone then integer? negative value
    else float? negative (Digits.decimal value places) (exponent.getD 0 - places.length)
  return (j, rest)

def number? : List Char → Option (Json × List Char)
  | '-' :: rest => unsigned? true rest
  | text => unsigned? false text

/-! Trees. The first argument of each reader bounds the calls inside one another, which
    the length of the text does too; `depth` is how many more containers may open. -/

mutual

/-- A value, with no space before it. -/
def value? : Nat → Nat → List Char → Option (Json × List Char)
  | 0, _, _ => none
  | calls + 1, depth, text =>
    match text with
    | 'n' :: 'u' :: 'l' :: 'l' :: rest => some (null, rest)
    | 't' :: 'r' :: 'u' :: 'e' :: rest => some (bool true, rest)
    | 'f' :: 'a' :: 'l' :: 's' :: 'e' :: rest => some (bool false, rest)
    | '"' :: rest => (string? [] rest).map fun (s, rest) => (string s, rest)
    | '[' :: rest =>
      if depth = 0 then none
      else
        match skipSpace rest with
        | ']' :: rest => some (array [], rest)
        | rest => items? calls (depth - 1) [] rest
    | '\x7b' :: rest =>
      if depth = 0 then none
      else
        match skipSpace rest with
        | '\x7d' :: rest => some (object [], rest)
        | rest => members? calls (depth - 1) [] rest
    | text => number? text

/-- The items of an array up to its end, after those already `done` (latest first). -/
def items? : Nat → Nat → List Json → List Char → Option (Json × List Char)
  | 0, _, _, _ => none
  | calls + 1, depth, done, text =>
    match value? calls depth text with
    | none => none
    | some (j, rest) =>
      match skipSpace rest with
      | ',' :: rest => items? calls depth (j :: done) (skipSpace rest)
      | ']' :: rest => some (array (j :: done).reverse, rest)
      | _ => none

/-- The members of an object up to its end, inserted after those already `done`. -/
def members? : Nat → Nat → Fields Json → List Char → Option (Json × List Char)
  | 0, _, _, _ => none
  | calls + 1, depth, done, text =>
    match text with
    | '"' :: rest =>
      match string? [] rest with
      | none => none
      | some (key, rest) =>
        match skipSpace rest with
        | ':' :: rest =>
          match value? calls depth (skipSpace rest) with
          | none => none
          | some (j, rest) =>
            match skipSpace rest with
            | ',' :: rest => members? calls depth (done.insert key j) (skipSpace rest)
            | '\x7d' :: rest => some (object (done.insert key j), rest)
            | _ => none
        | _ => none
    | _ => none

end

end Reader

/-- The tree that a text spells, if it is JSON. -/
def parse? (text : String) : Option Json :=
  let chars := Reader.skipSpace text.toList
  match Reader.value? (chars.length + 1) Reader.maxDepth chars with
  | some (j, rest) => if (Reader.skipSpace rest).isEmpty then some j else none
  | none => none

end DocTree.Json
