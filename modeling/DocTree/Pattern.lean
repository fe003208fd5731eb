import DocTree.Pattern.Class
import DocTree.Pattern.Room
import DocTree.Pattern.Search

/- Patterns: regular expressions with the text they were read from. The reader goes through the
   text once with a stack of the groups that are open; what a character means depends on the flags
   in force there, so the flags are applied as the expression is built. A text that is no
   expression, nests too deep or would take too much room is refused. -/
namespace DocTree

namespace Pattern

/-- The part of an expression read so far that can be repeated or put in sequence. -/
structure Part where
  expr : Expr
  /-- How many constructs are nested in it. -/
  depth : Nat := 0
  /-- Whether a repetition may follow; flags alone cannot be repeated. -/
  repeatable : Bool := true

/-- The deepest nesting of groups, repetitions, sequences, choices and classes. -/
def maxDepth : Nat := 250

/-! Groups and flags. -/

/-- The first characters of a name are letters or underscores; digits, dots and brackets may
    follow. -/
def isNameChar (first : Bool) (c : Char) : Bool :=
  c = '_' || CharSet.alphabetic.contains c ||
    (!first && (c = '.' || c = '[' || c = ']' || CharSet.numeric.contains c))

/-- The name of a group up to its closing bracket. -/
def groupName? (text : List Char) : Option (String × List Char) :=
  let name := text.takeWhile (· != '>')
  match name, text.dropWhile (· != '>') with
  | first :: more, '>' :: rest =>
    if isNameChar true first && more.all (isNameChar false) then
      some (String.ofList name, rest)
    else none
  | _, _ => none

/-- An open group, with what was read before it. -/
structure Group where
  flags : Flags
  items : List Part
  branches : List Part
  /-- Its number, if it has one. -/
  number : Option Nat

/-- Where the reader stands: the flags in force, the sequence and the branches of the innermost
    group (latest first), the groups around it, how many have a number, and the names in use. -/
structure State where
  flags : Flags := {}
  items : List Part := []
  branches : List Part := []
  groups : List Group := []
  numbered : Nat := 0
  names : List String := []

def State.push (s : State) (part : Part) : State := { s with items := part :: s.items }

def maxDepths (parts : List Part) : Nat := parts.foldl (fun n p => max n p.depth) 0

/-- The sequence that is being read, as one part. -/
def State.branch (s : State) : Part :=
  let nested := if s.items.length < 2 then 0 else 1
  { expr := .concat (s.items.reverse.map Part.expr), depth := maxDepths s.items + nested }

/-- All branches of the innermost group, as one part. -/
def State.choice (s : State) : Part :=
  if s.branches.isEmpty then s.branch
  else
    let branches := s.branch :: s.branches
    { expr := .choice (branches.reverse.map Part.expr), depth := maxDepths branches + 1 }

/-- Go on inside a group. -/
def State.enter (s : State) (inner : Flags) (number : Option Nat) : State :=
  { s with
    flags := inner
    items := []
    branches := []
    groups := ⟨s.flags, s.items, s.branches, number⟩ :: s.groups }

/-- Go on inside a group that gets the next number. -/
def State.enterNext (s : State) : State :=
  { s.enter s.flags (some (s.numbered + 1)) with numbered := s.numbered + 1 }

/-- Close the innermost group. -/
def State.leave? (s : State) : Option State :=
  match s.groups with
  | [] => none
  | group :: groups =>
    let inner := s.choice
    let expr := match group.number with
      | some number => .group number inner.expr
      | none => inner.expr
    some { s with
      flags := group.flags
      items := { expr, depth := inner.depth + 1 } :: group.items
      branches := group.branches
      groups := groups }

/-- What comes after an opening parenthesis. Looking ahead or behind is refused. -/
def group? (s : State) (text : List Char) : Option (State × List Char) :=
  match s.flags.skip text with
  | '?' :: '=' :: _ | '?' :: '!' :: _ | '?' :: '<' :: '=' :: _ | '?' :: '<' :: '!' :: _ => none
  | '?' :: 'P' :: '<' :: rest | '?' :: '<' :: rest => do
    let (name, rest) ← groupName? rest
    if s.names.contains name then none
    else some ({ s.enterNext with names := name :: s.names }, rest)
  | '?' :: rest => do
    let (inner, noFlags, last, rest) ← flags? s.flags [] true rest
    if last = ':' then some (s.enter inner none, rest)
    else if noFlags then none
    else some ({ s with flags := inner }.push { expr := .empty, repeatable := false }, rest)
  | text => some (s.enterNext, text)

/-! Repetitions. -/

/-- Repeat the last part of the sequence. -/
def State.repeat? (s : State) (low : Nat) (high : Option Nat) (greedy : Bool) : Option State :=
  match s.items with
  | [] => none
  | last :: items =>
    if last.repeatable then
      let expr := last.expr.repetition low high (greedy != s.flags.swapGreed)
      some { s with items := { expr, depth := last.depth + 1 } :: items }
    else none

/-- The digits at the start of a text, and what comes after them. -/
def digits (flags : Flags) (text : List Char) : List Char × List Char :=
  match flags.next? text with
  | none => ([], [])
  | some (c, ⟨rest, _⟩) =>
    if c.isDigit then
      let (more, rest) := digits flags rest
      (c :: more, rest)
    else ([], c :: rest)
termination_by text.length

/-- A count in base ten, below `2 ^ 32`, with blanks around it. -/
def count? (flags : Flags) (text : List Char) : Option (Nat × List Char) :=
  let (places, rest) := digits flags (text.dropWhile CharSet.whiteSpace.contains)
  let value := Digits.decimal 0 places
  if places.isEmpty || Nat.pow 2 32 ≤ value then none
  else some (value, flags.skip (rest.dropWhile CharSet.whiteSpace.contains))

/-- The limits after an opening brace, up to its closing one. -/
def limits? (flags : Flags) (text : List Char) : Option (Nat × Option Nat × List Char) := do
  let (low, rest) ← count? flags (flags.skip text)
  match rest with
  | '\x7d' :: rest => some (low, some low, rest)
  | ',' :: rest =>
    match flags.skip rest with
    | '\x7d' :: rest => some (low, none, rest)
    | rest => do
      let (high, rest) ← count? flags rest
      match rest with
      | '\x7d' :: rest => if low ≤ high then some (low, some high, rest) else none
      | _ => none
  | _ => none

/-- Whether a repetition takes as much as it can, which a question mark after it denies. -/
def dropLazyMark : List Char → Bool × List Char
  | '?' :: rest => (false, rest)
  | rest => (true, rest)

/-! The whole expression. -/

/-- The expression of a single item. Without Unicode a character outside ASCII has no other
    case. -/
def primitive? (flags : Flags) : Primitive → Option Expr
  | .literal c =>
    if !flags.unicode && 0x80 ≤ c.toNat then some (.literal [c])
    else some (.ofSet (flags.fold (.single c)))
  | .set set => (flags.admit? set).map .ofSet
  | .check a => some (.check a)

/-- One step of the reader, after blanks. -/
def step? (s : State) (c : Char) (rest : List Char) : Option (State × List Char) :=
  let primitive (p : Primitive) (rest : List Char) : Option (State × List Char) :=
    (primitive? s.flags p).map fun expr => (s.push { expr }, rest)
  let repeated (low : Nat) (high : Option Nat) (rest : List Char) : Option (State × List Char) :=
    let (greedy, rest) := dropLazyMark rest
    (s.repeat? low high greedy).map (·, rest)
  match c with
  | '(' => group? s rest
  | ')' => s.leave?.map (·, rest)
  | '|' => some ({ s with items := [], branches := s.branch :: s.branches }, rest)
  | '[' => do
    let (negated, items, rest) ← openClass? s.flags rest
    let (set, depth, rest) ← class? s.flags (rest.length + 1) [.bracket negated {}] items rest
    some (s.push { expr := .ofSet set, depth }, rest)
  | '?' => repeated 0 (some 1) rest
  | '*' => repeated 0 none rest
  | '+' => repeated 1 none rest
  | '\x7b' => do
    let (low, high, rest) ← limits? s.flags rest
    repeated low high (s.flags.skip rest)
  | '\\' => do
    let (p, rest) ← escape? s.flags rest
    primitive p rest
  | '.' => primitive (.set s.flags.dot) rest
  | '^' =>
    primitive (.check (if s.flags.multiLine then .lineStart s.flags.returns else .textStart)) rest
  | '$' =>
    primitive (.check (if s.flags.multiLine then .lineEnd s.flags.returns else .textEnd)) rest
  | c => primitive (.literal c) rest

/-- All steps. The first argument bounds their number, which the length of the text does too. -/
def steps? : Nat → State → List Char → Option State
  | 0, _, _ => none
  | steps + 1, s, text =>
    match s.flags.skip text with
    | [] => some s
    | c :: rest => (step? s c rest).bind fun (s, rest) => steps? steps s rest

/-- The expression that a text spells. -/
def parse? (text : String) : Option Expr :=
  let chars := text.toList
  match steps? (chars.length + 1) {} chars with
  | some s =>
    let whole := s.choice
    if s.groups.isEmpty && whole.depth ≤ maxDepth && whole.expr.fits then some whole.expr
    else none
  | none => none

end Pattern

/-- A regular expression that texts are searched for. -/
structure Pattern where
  source : String
  expr : Pattern.Expr

/-- The pattern that a text spells, if it is one. -/
def Pattern.ofString? (source : String) : Option Pattern :=
  (Pattern.parse? source).map (⟨source, ·⟩)

/-- Whether some part of a text matches. -/
def Pattern.isFoundIn (p : Pattern) (text : String) : Bool := p.expr.isFoundIn text

end DocTree
