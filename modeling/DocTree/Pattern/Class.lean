import DocTree.Pattern.Expr
import DocTree.Pattern.Flags
import DocTree.Text.Digits
import DocTree.Text.Properties

/- Escapes, and classes in brackets. A backslash and the characters after it stand for a character,
   a set or an assertion. A class has characters, ranges, escapes and further classes, joined or
   combined by operations of equal rank from the left. A negation comes last, after letters of
   the other case have joined. -/
namespace DocTree.Pattern

def isLetter (c : Char) : Bool := ('a' ≤ c && c ≤ 'z') || ('A' ≤ c && c ≤ 'Z')

/-- The character with a code point; surrogates are none. -/
def charOf? (code : Nat) : Option Char :=
  if code < 0xd800 ∨ (0xdfff < code ∧ code < 0x110000) then some (Char.ofNat code) else none

/-- The set of a property by name, among those with a table here. Case, blanks, hyphens and
    underscores in the name do not matter. -/
def property? (name : List Char) : Option CharSet :=
  let plain := (name.filter fun c => c != ' ' && c != '-' && c != '_').map Char.toLower
  match String.ofList plain with
  | "alphabetic" | "alpha" => some (settled .alphabetic)
  | "n" | "number" => some (settled .numeric)
  | "nd" | "decimalnumber" | "digit" => some settledDigit
  | "whitespace" | "wspace" | "space" => some .whiteSpace
  | "ascii" => some asciiOnly
  | "any" => some CharSet.empty.complement
  | _ => none

/-- What a single item of an expression or a class stands for. -/
inductive Primitive where
  | literal (c : Char)
  | set (s : CharSet)
  | check (a : Assertion)

/-- The character of `count` digits in base sixteen. -/
def hexDigits? (flags : Flags) (value : Nat) : Nat → List Char → Option (Char × List Char)
  | 0, rest => (charOf? value).map (·, rest)
  | count + 1, text =>
    match text with
    | [] => none
    | c :: rest =>
      (Digits.hex? c).bind fun d => hexDigits? flags (16 * value + d) count (flags.skip rest)

/-- What an opening brace holds, up to the closing one that there must be. -/
def braced? (flags : Flags) (text : List Char) : Option (List Char × List Char) :=
  match flags.next? text with
  | none => none
  | some (c, ⟨rest, _⟩) =>
    if c = '\x7d' then some ([], rest)
    else (braced? flags rest).map fun (inside, rest) => (c :: inside, rest)
termination_by text.length

/-- The value of digits in base sixteen. -/
def hexValue? (value : Nat) : List Char → Option Nat
  | [] => some value
  | c :: rest => (Digits.hex? c).bind fun d => hexValue? (16 * value + d) rest

/-- The character after `x`, `u` or `U`, which takes this many digits unless it has braces,
    and whether it has. -/
def hex? (flags : Flags) (count : Nat) (text : List Char) : Option (Char × Bool × List Char) :=
  match flags.skip text with
  | '\x7b' :: rest => do
    let (digits, rest) ← braced? flags rest
    if digits.isEmpty then none
    else
      let c ← (hexValue? 0 digits).bind charOf?
      some (c, true, rest)
  | text => (hexDigits? flags 0 count text).map fun (c, rest) => (c, false, rest)

/-- The set of a property after `p`: one letter, or a name between braces. -/
def propertyAfter? (flags : Flags) (text : List Char) : Option (CharSet × List Char) :=
  match flags.skip text with
  | '\x7b' :: rest =>
    (braced? flags rest).bind fun (name, rest) => (property? name).map (·, rest)
  | c :: rest => (property? [c]).map (·, rest)
  | [] => none

/-- The letters and hyphens at the start of a text, and what comes after them. -/
def boundaryName (flags : Flags) (text : List Char) : List Char × List Char :=
  match flags.next? text with
  | none => ([], [])
  | some (c, ⟨rest, _⟩) =>
    if isLetter c || c = '-' then
      let (name, rest) := boundaryName flags rest
      (c :: name, rest)
    else ([], c :: rest)
termination_by text.length

/-- The kinds of boundary with a name between braces; none if this is no such name, and a
    refusal if it only begins like one. -/
def namedBoundary? (flags : Flags) (text : List Char) :
    Option (Option (Assertion × List Char)) :=
  match boundaryName flags text with
  | (_, []) => none
  | ([], _) => some none
  | (name, '\x7d' :: rest) =>
    match String.ofList name with
    | "start" => some (some (.wordStart flags.word, rest))
    | "end" => some (some (.wordEnd flags.word, rest))
    | "start-half" => some (some (.wordStartHalf flags.word, rest))
    | "end-half" => some (some (.wordEndHalf flags.word, rest))
    | _ => none
  | _ => none

/-- The boundary after `b`. -/
def boundary? (flags : Flags) (text : List Char) : Option (Primitive × List Char) :=
  match text with
  | '\x7b' :: rest => do
    match ← namedBoundary? flags rest with
    | some (a, rest) => some (.check a, rest)
    | none => some (.check (.boundary flags.word), text)
  | _ => some (.check (.boundary flags.word), text)

/-- What comes after a backslash. Digits would refer back to a group, which is refused, and so
    are letters without a meaning; any other ASCII character stands for itself. Without Unicode
    `x` with two digits spells a byte, which is a character only in ASCII. -/
def escape? (flags : Flags) : List Char → Option (Primitive × List Char)
  | [] => none
  | c :: rest =>
    match c with
    | 'x' => do
      let (c, inBraces, rest) ← hex? flags 2 rest
      if flags.unicode || inBraces || c.toNat < 0x80 then some (.literal c, rest) else none
    | 'u' => (hex? flags 4 rest).map fun (c, _, rest) => (.literal c, rest)
    | 'U' => (hex? flags 8 rest).map fun (c, _, rest) => (.literal c, rest)
    | 'p' | 'P' => do
      let (set, rest) ← propertyAfter? flags rest
      let folded := flags.fold set
      if flags.unicode then some (.set (if c = 'p' then folded else folded.complement), rest)
      else none
    | 'd' | 's' | 'w' => some (.set (flags.shorthand c), rest)
    | 'D' | 'S' | 'W' =>
      if flags.unicode then some (.set (flags.shorthand c.toLower).complement, rest) else none
    | 'a' => some (.literal '\x07', rest)
    | 'f' => some (.literal '\x0c', rest)
    | 't' => some (.literal '\t', rest)
    | 'n' => some (.literal '\n', rest)
    | 'r' => some (.literal '\r', rest)
    | 'v' => some (.literal '\x0b', rest)
    | 'A' => some (.check .textStart, rest)
    | 'z' => some (.check .textEnd, rest)
    | 'b' => boundary? flags rest
    | 'B' => some (.check (.noBoundary flags.word), rest)
    | '<' => some (.check (.wordStart flags.word), rest)
    | '>' => some (.check (.wordEnd flags.word), rest)
    | c => if c.isDigit || isLetter c || 0x80 ≤ c.toNat then none else some (.literal c, rest)

/-! Classes. -/

/-- The set of a name between `[:` and `:]`. -/
def asciiClass? : String → Option CharSet
  | "alnum" => some (.ofRanges [('0', '9'), ('A', 'Z'), ('a', 'z')])
  | "alpha" => some (.ofRanges [('A', 'Z'), ('a', 'z')])
  | "ascii" => some asciiOnly
  | "blank" => some (.ofRanges [('\t', '\t'), (' ', ' ')])
  | "cntrl" => some (.ofRanges [('\x00', '\x1f'), ('\x7f', '\x7f')])
  | "digit" => some (.range '0' '9')
  | "graph" => some (.range '!' '~')
  | "lower" => some (.range 'a' 'z')
  | "print" => some (.range ' ' '~')
  | "punct" => some (.ofRanges [('!', '/'), (':', '@'), ('[', '\x60'), ('\x7b', '~')])
  | "space" => some (.ofRanges [('\t', '\r'), (' ', ' ')])
  | "upper" => some (.range 'A' 'Z')
  | "word" => some (.ofRanges [('0', '9'), ('A', 'Z'), ('_', '_'), ('a', 'z')])
  | "xdigit" => some (.ofRanges [('0', '9'), ('A', 'F'), ('a', 'f')])
  | _ => none

/-- Items of a class read so far: their union, how many there are, and the deepest of them. -/
structure ClassItems where
  set : CharSet := .empty
  count : Nat := 0
  depth : Nat := 0

def ClassItems.push (items : ClassItems) (set : CharSet) (depth : Nat) : ClassItems :=
  ⟨items.set.union set, items.count + 1, max items.depth depth⟩

/-- Several items in one place nest one deeper than a single one. -/
def ClassItems.nesting (items : ClassItems) : Nat :=
  if items.count < 2 then items.depth else items.depth + 1

/-- What is open inside a class. -/
inductive ClassFrame where
  /-- A bracket, with the items before it. -/
  | bracket (negated : Bool) (before : ClassItems)
  /-- An operation that waits for its right side. -/
  | operation (op : CharSet → CharSet → CharSet) (left : CharSet) (depth : Nat)

/-- Items as the right side of the operation that waits for them, if one does. -/
def closeOperation (flags : Flags) (items : ClassItems) :
    List ClassFrame → CharSet × Nat × List ClassFrame
  | .operation op left depth :: frames =>
    (op (flags.fold left) (flags.fold items.set), max depth items.nesting + 1, frames)
  | frames => (items.set, items.nesting, frames)

/-- A single character or escape of a class. -/
def classItem? (flags : Flags) : List Char → Option (Primitive × List Char)
  | '\\' :: rest => escape? flags rest
  | c :: rest => some (.literal c, rest)
  | [] => none

/-- A character of a class, with the bytes above ASCII refused without Unicode. -/
def classLiteral? (flags : Flags) : Primitive → Option Char
  | .literal c => if flags.unicode || c.toNat < 0x80 then some c else none
  | _ => none

/-- An item of a class, or a range if a hyphen follows that is not itself before a hyphen or the
    end of the class. -/
def classRange? (flags : Flags) (text : List Char) : Option (CharSet × List Char) := do
  let (first, rest) ← classItem? flags text
  let rest := flags.skip rest
  let single : Option (CharSet × List Char) :=
    match first with
    | .set s => some (s, rest)
    | .check _ => none
    | .literal _ => (classLiteral? flags first).map fun c => (.single c, rest)
  match rest with
  | [] => none
  | '-' :: after =>
    let next := flags.afterHyphen? after
    if next = some ']' || next = some '-' then single
    else do
      let (last, rest) ← classItem? flags (flags.skip after)
      let low ← classLiteral? flags first
      let high ← classLiteral? flags last
      if low ≤ high then some (.range low high, rest) else none
  | _ => single

/-- Hyphens at the start of a class, which stand for themselves, and the rest. -/
def leadingHyphens (flags : Flags) (items : ClassItems) (text : List Char) :
    ClassItems × List Char :=
  match flags.next? text with
  | none => (items, [])
  | some (c, ⟨rest, _⟩) =>
    if c = '-' then leadingHyphens flags (items.push (.single '-') 0) rest
    else (items, c :: rest)
termination_by text.length

/-- The start of a class after its bracket: a negation, then hyphens, then a closing bracket
    that stands for itself if it comes first. -/
def openClass? (flags : Flags) (text : List Char) : Option (Bool × ClassItems × List Char) :=
  let (negated, text) := match flags.skip text with
    | '^' :: rest => (true, rest)
    | text => (false, text)
  match leadingHyphens flags {} text with
  | (_, []) => none
  | (items, ']' :: rest) =>
    if items.count = 0 then some (negated, items.push (.single ']') 0, rest)
    else some (negated, items, ']' :: rest)
  | (items, text) => some (negated, items, text)

/-- A set with everything alike under the flags, then the other characters if it is negated. -/
def foldAndNegate? (flags : Flags) (negated : Bool) (set : CharSet) : Option CharSet :=
  let folded := flags.fold set
  flags.admit? (if negated then folded.complement else folded)

/-- A class of ASCII by name, after its opening bracket, and whether it is negated. -/
def namedClass? (text : List Char) : Option (CharSet × Bool × List Char) :=
  match text with
  | ':' :: rest =>
    let (negated, rest) := match rest with
      | '^' :: rest => (true, rest)
      | rest => (false, rest)
    let name := rest.takeWhile (· != ':')
    match rest.dropWhile (· != ':') with
    | ':' :: ']' :: rest =>
      (asciiClass? (String.ofList name)).map (·, negated, rest)
    | _ => none
  | _ => none

/-- A class from inside its first bracket on, with its nesting. The first argument bounds the
    number of items, which the length of the text does too. -/
def class? (flags : Flags) :
    Nat → List ClassFrame → ClassItems → List Char → Option (CharSet × Nat × List Char)
  | 0, _, _, _ => none
  | steps + 1, frames, items, text =>
    let operation (op : CharSet → CharSet → CharSet) (rest : List Char) :=
      let (set, depth, frames) := closeOperation flags items frames
      class? flags steps (.operation op set depth :: frames) {} rest
    match flags.skip text with
    | [] => none
    | '[' :: rest =>
      match namedClass? rest with
      | some (set, negated, rest) => do
        let set ← foldAndNegate? flags negated set
        class? flags steps frames (items.push set 0) rest
      | none => do
        let (negated, inner, rest) ← openClass? flags rest
        class? flags steps (.bracket negated items :: frames) inner rest
    | ']' :: rest =>
      let (set, depth, frames) := closeOperation flags items frames
      match frames with
      | .bracket negated before :: frames => do
        let set ← foldAndNegate? flags negated set
        if frames.isEmpty then some (set, depth + 1, rest)
        else class? flags steps frames (before.push set (depth + 1)) rest
      | _ => none
    | '&' :: '&' :: rest => operation .inter rest
    | '-' :: '-' :: rest => operation .diff rest
    | '~' :: '~' :: rest => operation .symmDiff rest
    | text => do
      let (set, rest) ← classRange? flags text
      class? flags steps frames (items.push set 0) rest

end DocTree.Pattern
