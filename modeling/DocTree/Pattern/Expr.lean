import DocTree.Text.CharSet

/- Regular expressions over characters, with assertions about the place between two
   characters. Neither the number of a group nor which of several ways a repetition takes
   first matters for whether a text matches; an expression holds them because expressions
   that differ in them are not the same branch of a choice. -/
namespace DocTree.Pattern

/-- A condition on the place between the character before and the one after. -/
inductive Assertion where
  | textStart
  | textEnd
  /-- The start of a line; `returns` says whether carriage returns end lines too. -/
  | lineStart (returns : Bool)
  | lineEnd (returns : Bool)
  /-- One side is a character of the set and the other side is none. -/
  | boundary (word : CharSet)
  | noBoundary (word : CharSet)
  | wordStart (word : CharSet)
  | wordEnd (word : CharSet)
  /-- No character of the set before, whatever comes after. -/
  | wordStartHalf (word : CharSet)
  | wordEndHalf (word : CharSet)
  deriving DecidableEq, Repr

/-- Whether a side of a place shows a character of the set. -/
def shows (set : CharSet) (side : Option Char) : Bool := side.any set.contains

/-- Whether an assertion holds between two characters; `none` is an end of the text. -/
def Assertion.holds (before after : Option Char) : Assertion → Bool
  | textStart => before.isNone
  | textEnd => after.isNone
  | lineStart returns =>
    before.isNone || before == some '\n' ||
      (returns && before == some '\r' && after != some '\n')
  | lineEnd returns =>
    after.isNone || (after == some '\n' && !(returns && before == some '\r')) ||
      (returns && after == some '\r')
  | boundary word => shows word before != shows word after
  | noBoundary word => shows word before == shows word after
  | wordStart word => !shows word before && shows word after
  | wordEnd word => shows word before && !shows word after
  | wordStartHalf word => !shows word before
  | wordEndHalf word => !shows word after

/-- A regular expression. -/
inductive Expr where
  /-- The characters of a text in order; of the empty text, none. -/
  | literal (text : List Char)
  /-- One character of a set. -/
  | chars (set : CharSet)
  | check (assertion : Assertion)
  | seq (p q : Expr)
  | alt (p q : Expr)
  /-- At least `low` copies in sequence, and at most `high` if there is a limit; `greedy` if
      it rather takes more copies than fewer. -/
  | repeated (p : Expr) (low : Nat) (high : Option Nat) (greedy : Bool)
  /-- A group that remembers what it matched, by its number in the whole expression. -/
  | group (number : Nat) (p : Expr)
  deriving DecidableEq, Repr

namespace Expr

def empty : Expr := literal []

/-- Whether no way through the expression reads a character. -/
def isZeroWidth : Expr → Bool
  | literal text => text.isEmpty
  | chars _ => false
  | check _ => true
  | seq p q | alt p q => p.isZeroWidth && q.isZeroWidth
  | repeated p _ _ _ | group _ p => p.isZeroWidth

/-- Whether some way through the expression neither reads nor checks anything. -/
def isOptional : Expr → Bool
  | literal text => text.isEmpty
  | chars _ | check _ => false
  | seq p q => p.isOptional && q.isOptional
  | alt p q => p.isOptional || q.isOptional
  | repeated p low _ _ => low = 0 || p.isOptional
  | group _ p => p.isOptional

/-- The fewest characters that a way through the expression reads; none if a set in it is
    empty, so that some way is not there. -/
def leastWidth? : Expr → Option Nat
  | literal text => some text.length
  | chars set => if set.ranges.isEmpty then none else some 1
  | check _ => some 0
  | seq p q => p.leastWidth?.bind fun m => q.leastWidth?.map fun n => m + n
  | alt p q => p.leastWidth?.bind fun m => q.leastWidth?.map fun n => min m n
  | repeated p low _ _ => p.leastWidth?.map fun n => n * low
  | group _ p => p.leastWidth?

/-- Whether every way through the expression checks an assertion before it reads. -/
def opensWith (a : Assertion) : Expr → Bool
  | literal _ | chars _ => false
  | check b => a = b
  | seq p q => p.opensWith a || (p.isZeroWidth && q.opensWith a)
  | alt p q => p.opensWith a && q.opensWith a
  | repeated p low _ _ => low != 0 && p.opensWith a
  | group _ p => p.opensWith a

/-- Whether every way through the expression checks an assertion after all it reads. -/
def closesWith (a : Assertion) : Expr → Bool
  | literal _ | chars _ => false
  | check b => a = b
  | seq p q => q.closesWith a || (q.isZeroWidth && p.closesWith a)
  | alt p q => p.closesWith a && q.closesWith a
  | repeated p low _ _ => low != 0 && p.closesWith a
  | group _ p => p.closesWith a

/-! Sequences, choices and repetitions in simplest form. A sequence holds no sequence and no two
    texts next to each other, a choice holds no choice, a choice among characters or sets is
    a set, and what all branches of a choice begin with stands before it. -/

/-- A list joined by `op`, halved so that the expression stays shallow. -/
def balance (op : Expr → Expr → Expr) : List Expr → Expr
  | [] => empty
  | [p] => p
  | p :: q :: rest =>
    let all := p :: q :: rest
    let half := all.length / 2
    op (balance op (all.take half)) (balance op (all.drop half))
termination_by ps => ps.length
decreasing_by
  all_goals simp only [List.length_take, List.length_drop, List.length_cons]; omega

/-- The members of a sequence. -/
def parts : Expr → List Expr
  | literal [] => []
  | seq p q => p.parts ++ q.parts
  | p => [p]

/-- The branches of a choice. -/
def branches : Expr → List Expr
  | alt p q => p.branches ++ q.branches
  | p => [p]

/-- Put a member before the others of a sequence; texts join. -/
def prepend (p : Expr) (rest : List Expr) : List Expr :=
  match p, rest with
  | literal s, literal t :: rest => literal (s ++ t) :: rest
  | p, rest => p :: rest

/-- All of the expressions in sequence. -/
def concat (ps : List Expr) : Expr := balance seq ((ps.flatMap parts).foldr prepend [])

/-- A set; one with a single character is that character. -/
def ofSet (set : CharSet) : Expr :=
  match set.ranges with
  | [(low, high)] => if low = high then literal [Char.ofNat low] else chars set
  | _ => chars set

/-- The code point of an expression that is a single character. -/
def code? : Expr → Option Nat
  | literal [c] => some c.toNat
  | _ => none

def set? : Expr → Option CharSet
  | chars set => some set
  | _ => none

/-- Any one of the branches, which are no choices: a set, where all are characters or all are
    sets. -/
def oneOf (ps : List Expr) : Expr :=
  match ps.mapM code?, ps.mapM set? with
  | some codes, _ => ofSet (.ofCodes codes)
  | _, some sets => ofSet (.unionAll sets)
  | _, _ => balance alt ps

/-- The members that two sequences begin with. -/
def commonStart : List Expr → List Expr → List Expr
  | p :: ps, q :: qs => if p = q then p :: commonStart ps qs else []
  | _, _ => []

/-- The members of a sequence of more than one. -/
def members : Expr → List Expr
  | seq p q => (seq p q).parts
  | _ => []

/-- Any one of the expressions. -/
def choice (ps : List Expr) : Expr :=
  let all := ps.flatMap branches
  let start := match all.map members with
    | [] => []
    | first :: others => others.foldl commonStart first
  if start.isEmpty then oneOf all
  else
    let rests := all.map fun p => concat (p.parts.drop start.length)
    concat (start ++ [oneOf (rests.flatMap branches)])

/-- Copies of an expression in sequence. One that reads no character is the same when it is
    there more than once. -/
def repetition (p : Expr) (low : Nat) (high : Option Nat) (greedy : Bool) : Expr :=
  let (low, high) :=
    if p.isZeroWidth then (min low 1, some (min (high.getD 1) 1)) else (low, high)
  if high = some 0 then empty
  else if low = 1 && high = some 1 then p
  else repeated p low high greedy

end Expr
end DocTree.Pattern
