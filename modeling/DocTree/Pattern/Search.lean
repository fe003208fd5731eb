import DocTree.Pattern.Expr

/- Searching a text for a regular expression in one pass. Each character of the text moves all
   ways through the expression that are under way at once, and ways that have come to the same
   place of the expression are one, so the time is the length of the text times the number of
   places, whatever the expression. Copies of a repeated expression that no way has reached
   take neither time nor room, and neither do those that only do what an earlier one does. -/
namespace DocTree.Pattern

/-- The ways that are under way in an expression. -/
inductive Ways where
  | none
  /-- In a text: what each of them has yet to read. -/
  | reading (rests : List (List Char))
  /-- In a set: one that has just read its character. -/
  | done
  /-- In the two parts of a sequence or a choice. -/
  | both (p q : Ways)
  /-- In a copy of a repeated expression, by its number, and in later copies. -/
  | copy (number : Nat) (inside later : Ways)
  deriving DecidableEq

namespace Ways

def isNone : Ways → Bool
  | none => true
  | _ => false

/-- The ways in two parts. -/
def pair (p q : Ways) : Ways := if p.isNone && q.isNone then none else both p q

/-- The two parts of what `pair` puts together. -/
def split : Ways → Ways × Ways
  | both p q => (p, q)
  | _ => (none, none)

/-- The copies that ways are in, after those found before, which come latest first. -/
def copiesAfter (before : List (Nat × Ways)) : Ways → List (Nat × Ways)
  | copy number inside later => copiesAfter ((number, inside) :: before) later
  | _ => before.reverse

/-- The copies that ways are in, in ascending order of their numbers. -/
def toCopies (ways : Ways) : List (Nat × Ways) := ways.copiesAfter []

/-- The ways in copies, given latest first. -/
def ofCopies (copies : List (Nat × Ways)) : Ways :=
  copies.foldl (fun later (number, inside) => copy number inside later) none

def rests : Ways → List (List Char)
  | reading rests => rests
  | _ => []

end Ways

/-- What can happen at one place of the text without reading a character. -/
structure Passage where
  /-- A way that arrives at the start of the expression can leave at its end. -/
  through : Bool
  /-- A way that is inside the expression can leave at its end. -/
  out : Bool

/-- The rests of texts after a character that they begin with. -/
def readOn (after : Option Char) (rests : List (List Char)) : List (List Char) :=
  rests.filterMap fun rest =>
    match rest with
    | c :: rest => if after = some c then some rest else none
    | [] => none

/-- The first number from `least` on that is missing in an ascending list. -/
def firstMissing (least : Nat) : List Nat → Nat
  | [] => least
  | n :: rest => if n = least then firstMissing (least + 1) rest else least

/-- The copies at which ways arrive, in ascending order, when they arrive at `starts`. If they can
    pass through a copy they arrive at all later ones too. Of the copies without any way, from
    `enough` on, the first does what the others do. -/
def arrivals (through : Bool) (enough copies : Nat) (live starts : List Nat) : List Nat :=
  match through, starts with
  | true, first :: _ =>
    let live := live.filter (first ≤ ·)
    let free := firstMissing first live
    if free < enough then List.range' first (copies - first)
    else
      live.takeWhile (· < free) ++
        (if free < copies then free :: live.dropWhile (· < free) else [])
  | _, _ => starts

/-- Put the ways in one copy before those in earlier copies. They are not needed if the copy before
    it has the same and is one from `enough` on. -/
def keep (enough number : Nat) (ways : Ways) (earlier : List (Nat × Ways)) :
    List (Nat × Ways) :=
  let known := ways.isNone || earlier.head?.any fun (n, those) => enough ≤ n && those = ways
  if known then earlier else (number, ways) :: earlier

/-- Move the ways in all copies, given where new ones arrive and what comes of one that arrives
    in a copy without any. The result and what is done come latest first. -/
def moveCopies (enough : Nat) (fresh : Ways) (moved : List (Nat × Ways)) :
    List (Nat × (Bool → Ways)) → List Nat → List (Nat × Ways)
  | [], [] => moved
  | (i, move) :: rest, [] => moveCopies enough fresh (keep enough i (move false) moved) rest []
  | [], j :: arrive => moveCopies enough fresh (keep enough j fresh moved) [] arrive
  | (i, move) :: rest, j :: arrive =>
    if i < j then
      moveCopies enough fresh (keep enough i (move false) moved) rest (j :: arrive)
    else if i = j then moveCopies enough fresh (keep enough i (move true) moved) rest arrive
    else moveCopies enough fresh (keep enough j fresh moved) ((i, move) :: rest) arrive
termination_by rest arrive => rest.length + arrive.length

/-- The passage of an expression between two characters, and how the ways in it move when the one
    after is read, given whether a way arrives at its start. Whatever leaves the first part of a
    sequence arrives at the second, and whatever leaves a copy of a repeated expression arrives at
    the next; without a limit the last copy is followed by itself. From the copy on after which
    a way may leave everywhere, an earlier copy can do all that a later one can. -/
def Expr.flow (before after : Option Char) : Expr → Ways → Passage × (Bool → Ways)
  | literal text, ways =>
    let rests := ways.rests
    (⟨text.isEmpty, rests.any List.isEmpty⟩, fun arrives =>
      let rests := readOn after (if arrives then text :: rests else rests)
      if rests.isEmpty then .none else .reading rests)
  | chars set, ways =>
    (⟨false, !ways.isNone⟩, fun arrives =>
      if arrives && after.any set.contains then .done else .none)
  | check assertion, _ => (⟨assertion.holds before after, false⟩, fun _ => .none)
  | seq p q, ways =>
    let (inP, inQ) := ways.split
    let (first, moveP) := p.flow before after inP
    let (second, moveQ) := q.flow before after inQ
    (⟨first.through && second.through, first.out && second.through || second.out⟩,
      fun arrives => .pair (moveP arrives) (moveQ (arrives && first.through || first.out)))
  | alt p q, ways =>
    let (inP, inQ) := ways.split
    let (left, moveP) := p.flow before after inP
    let (right, moveQ) := q.flow before after inQ
    (⟨left.through || right.through, left.out || right.out⟩,
      fun arrives => .pair (moveP arrives) (moveQ arrives))
  | repeated p low high _, ways =>
    let (idle, enter) := p.flow before after .none
    let live := ways.toCopies.map fun (i, inside) => (i, p.flow before after inside)
    let leaving := live.filterMap fun (i, passage, _) => if passage.out then some i else none
    (⟨low = 0 || idle.through, leaving.any fun i => idle.through || low ≤ i + 1⟩,
      fun arrives =>
        let copies := high.getD (max low 1)
        let next := leaving.filterMap fun i =>
          if i + 1 < copies then some (i + 1) else if high.isNone then some i else none
        let starts := (if arrives then 0 :: next else next).eraseReps
        let enough := if p.isOptional then 0 else low - 1
        .ofCopies (moveCopies enough (enter true) [] (live.map fun (i, _, move) => (i, move))
          (arrivals idle.through enough copies (live.map Prod.fst) starts)))
  | group _ p, ways => p.flow before after ways

/-- Whether a way through the expression ends in the text, when one starts at every place. -/
def Expr.search (e : Expr) (before : Option Char) (ways : Ways) : List Char → Bool
  | [] =>
    let (passage, _) := e.flow before none ways
    passage.through || passage.out
  | c :: rest =>
    let (passage, move) := e.flow before (some c) ways
    passage.through || passage.out || e.search (some c) (move true) rest

/-- Whether some part of a text matches the expression. -/
def Expr.isFoundIn (e : Expr) (text : String) : Bool := e.search none .none text.toList

end DocTree.Pattern
