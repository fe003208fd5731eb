import DocTree.Pattern.Expr

/- How much room an expression takes as an automaton over bytes. An expression is used only if the
   automaton that reads texts forward and the one that reads them backward both stay within the
   limit. The automaton itself is not built: a `Tally` counts its states and the room they
   take. A state takes 32 bytes, 8 more for each range of bytes it chooses among, and 4 more for
   each state that it goes to without reading. -/
namespace DocTree

/-! Sets of characters as strings of bytes in UTF-8. A range of characters falls into pieces in
    which each byte goes through a range of its own, whatever the others are. -/

/-- A range of bytes. -/
structure ByteRange where
  low : UInt8
  high : UInt8
  deriving DecidableEq, Repr

namespace ByteRange

/-- Cut a range of code points where the parts above the last `bits` bits differ: what comes
    before the first boundary, what comes after the last one, and the rest cut at larger
    boundaries. -/
def cut (low high : Nat) : List Nat → List (Nat × Nat)
  | [] => [(low, high)]
  | bits :: more =>
    let block := Nat.pow 2 bits
    if low / block = high / block then [(low, high)]
    else
      let first := (low + (block - 1)) / block * block
      let stop := (high + 1) / block * block
      let front := if low < first then [(low, first - 1)] else []
      let back := if stop ≤ high then [(stop, high)] else []
      front ++ (if first < stop then cut first (stop - 1) more else []) ++ back

/-- The ranges of code points that take one, two, three (below and above the surrogates) or four
    bytes, and how many bits of theirs the last byte, the last two and so on hold. -/
def widths : List (Nat × Nat × List Nat) :=
  [(0, 0x7f, []), (0x80, 0x7ff, [6]), (0x800, 0xd7ff, [6, 12]), (0xe000, 0xffff, [6, 12]),
    (0x10000, 0x10ffff, [6, 12, 18])]

/-- The bytes of the characters between two code points that `cut` leaves together. -/
def ofCodes (low high : Nat) : List ByteRange :=
  ((String.utf8EncodeChar (Char.ofNat low)).zip (String.utf8EncodeChar (Char.ofNat high))).map
    fun (low, high) => ⟨low, high⟩

end ByteRange

/-- The strings of bytes of the members, in ascending order. -/
def CharSet.byteRanges (s : CharSet) : List (List ByteRange) :=
  s.ranges.flatMap fun (low, high) =>
    ByteRange.widths.flatMap fun (least, most, bits) =>
      let low := max low least
      let high := min high most
      if low ≤ high then
        (ByteRange.cut low high bits).map fun (low, high) => ByteRange.ofCodes low high
      else []

namespace Pattern

/-! An automaton as far as it is built. -/

/-- The most room an automaton may take. -/
def maxRoom : Nat := 10 * Nat.pow 2 20

/-- An automaton as far as it is built. -/
structure Tally where
  states : Nat := 0
  room : Nat := 0

namespace Tally

/-- Take more room, if it is there. -/
def take (t : Tally) (more : Nat) : Option Tally :=
  if t.room + more ≤ maxRoom then some { t with room := t.room + more } else none

/-- Some states more that read one range of bytes or none. -/
def plain (t : Tally) (count : Nat) : Option Tally :=
  { t with states := t.states + count }.take (32 * count)

/-- A state more that goes to others without reading. -/
def splitting (t : Tally) (targets : Nat) : Option Tally :=
  { t with states := t.states + 1 }.take (32 + 4 * targets)

/-- A state more that chooses among ranges of bytes. -/
def choosing (t : Tally) (ranges : Nat) : Option Tally :=
  { t with states := t.states + 1 }.take (32 + 8 * ranges)

/-- Build the same part several times. -/
def times (part : Tally → Option Tally) : Nat → Tally → Option Tally
  | 0, t => some t
  | count + 1, t =>
    match part t with
    | some t => times part count t
    | none => none

end Tally

/-! A choice among texts, which share what they begin with. -/

/-- The bytes of a text in UTF-8. -/
def utf8 (text : List Char) : List UInt8 := text.flatMap String.utf8EncodeChar

/-- The states of a choice among strings of bytes that are at most so long, which share what they
    begin with. A string that ends keeps those before it and those after it apart. -/
def wordsRoom : Nat → List (List UInt8) → Tally → Option Tally
  | 0, _, t => some t
  | length + 1, words, t =>
    if words.all List.isEmpty then some t
    else do
      let runs := words.splitBy fun a b => a.isEmpty = b.isEmpty
      let ends := match words with
        | [] :: more => 1 + (more.dropWhile List.isEmpty).countP List.isEmpty
        | _ => words.countP List.isEmpty
      let runs := runs.filter fun run => !run.all List.isEmpty
      let t ← t.splitting (runs.length + ends)
      runs.foldlM (fun t run => do
        let bytes := (run.filterMap List.head?).eraseDups
        let t ← if bytes.length = 1 then t.plain 1 else t.choosing bytes.length
        bytes.foldlM (fun t byte =>
          wordsRoom length (run.filterMap fun word =>
            if word.head? = some byte then some word.tail else none) t) t) t

/-- A choice among texts, which are read from their ends if `backward`. -/
def textsRoom (backward : Bool) (texts : List (List Char)) (t : Tally) : Option Tally :=
  let words := texts.map fun text => if backward then (utf8 text).reverse else utf8 text
  let length := words.foldl (fun n word => max n word.length) 0
  (t.plain 1).bind (wordsRoom (length + 1) words)

/-! A set of characters. Its states are shared where they are alike, as far as is remembered:
    there is a fixed number of places, a state has its place by a hash of what it is, and a place
    remembers the latest state only. -/

/-- Mix a number into a hash. -/
@[inline] def mix (hash number : UInt64) : UInt64 := (hash ^^^ number) * 1099511628211

/-- A range of bytes and the state after it. -/
structure Arrow where
  bytes : ByteRange
  target : Nat
  deriving DecidableEq

/-- The hash before any number is mixed in. -/
def plainHash : UInt64 := 14695981039346656037

/-- The states of a set built so far, with those that are remembered. -/
structure Shared where
  places : Array (Option (List Arrow × Nat))
  tally : Tally

/-- Nothing is remembered yet. -/
def Shared.start (places : Nat) (tally : Tally) : Shared :=
  ⟨Array.replicate places none, tally⟩

/-- The state with these arrows: the one that is remembered, or else a new one. -/
def Shared.state? (s : Shared) (hash : UInt64) (arrows : List Arrow)
    (build : Tally → Option Tally) : Option (Nat × Shared) :=
  let place := hash.toNat % s.places.size
  let known := match s.places.getD place none with
    | some (those, state) => if those = arrows then some state else none
    | none => none
  match known with
  | some state => some (state, s)
  | none =>
    let state := s.tally.states
    match build s.tally with
    | some tally => some (state, ⟨s.places.setIfInBounds place (some (arrows, state)), tally⟩)
    | none => none

/-- The state that reads any of the strings of bytes on to `target`, which are in ascending order
    and at most so long. -/
def forwardState? (target : Nat) :
    Nat → List (List ByteRange) → Shared → Option (Nat × Shared)
  | 0, _, s => some (target, s)
  | length + 1, strings, s =>
    if strings.all List.isEmpty then some (target, s)
    else do
      let groups := strings.splitBy fun a b => a.head? = b.head?
      let (arrows, s) ← groups.foldlM (fun (arrows, s) group =>
        match group with
        | (bytes :: rest) :: more => do
          let (state, s) ← forwardState? target length (rest :: more.map List.tail) s
          some (⟨bytes, state⟩ :: arrows, s)
        | _ => some (arrows, s)) (([] : List Arrow), s)
      let arrows := arrows.reverse
      let hash := arrows.foldl (fun hash arrow =>
        mix (mix (mix hash arrow.bytes.low.toUInt64) arrow.bytes.high.toUInt64)
          arrow.target.toUInt64) plainHash
      s.state? hash arrows (·.choosing arrows.length)

/-- The states that read one string of bytes backward on to `target`. -/
def backwardStates? (target : Nat) (s : Shared) : List ByteRange → Option Shared
  | [] => some s
  | bytes :: rest => do
    let arrow : Arrow := ⟨bytes, target⟩
    let hash :=
      mix (mix (mix plainHash target.toUInt64) bytes.low.toUInt64) bytes.high.toUInt64
    let (state, s) ← s.state? hash [arrow] (·.plain 1)
    backwardStates? state s rest

/-- The states of a set: one that chooses, if all members are ASCII; else, forward, a tree of
    them, and backward a chain for each string of bytes. -/
def setRoom (backward : Bool) (set : CharSet) (t : Tally) : Option Tally := do
  let ranges := set.ranges
  if ranges.all fun (_, high) => high < 0x80 then
    let t ← t.plain 1
    t.choosing ranges.length
  else
    let strings := set.byteRanges
    if backward then
      let t ← t.splitting strings.length
      let target := t.states
      let t ← t.plain 1
      let s ← strings.foldlM (backwardStates? target) (.start 1000 t)
      some s.tally
    else
      let target := t.states
      let t ← t.plain 1
      let (_, s) ← forwardState? target 4 strings (.start 10000 t)
      some s.tally

/-! A whole expression. -/

/-- The text of an expression that is one and not empty. -/
def Expr.text? : Expr → Option (List Char)
  | literal (c :: rest) => some (c :: rest)
  | _ => none

/-- The texts of a choice among texts only. -/
def Expr.texts? : Expr → Option (List (List Char))
  | alt p q => p.texts?.bind fun a => q.texts?.map fun b => a ++ b
  | p => p.text?.map ([·])

/-- How many branches a choice has. -/
def Expr.branchCount : Expr → Nat
  | alt p q => p.branchCount + q.branchCount
  | _ => 1

/-- The end of an expression that comes after `place` other branches of a choice, if it is a
    branch: the choice has a state that goes to all branches and one where they meet, which
    are built with the second branch. -/
def endBranch (place : Option Nat) (t : Tally) : Option Tally :=
  match place with
  | none => some t
  | some 1 => (t.splitting 1).bind (·.plain 1)
  | some _ => t.take 4

/-- The states of an expression, in the order in which they are built. -/
def Expr.roomIn (backward : Bool) : Expr → Option Nat → Tally → Option Tally
  | literal text, place, t =>
    (t.plain (max 1 (utf8 text).length)).bind (endBranch place)
  | chars set, place, t => (setRoom backward set t).bind (endBranch place)
  | check _, place, t => (t.plain 1).bind (endBranch place)
  | seq p q, place, t =>
    let both := if backward then (q.roomIn backward none t).bind (p.roomIn backward none)
      else (p.roomIn backward none t).bind (q.roomIn backward none)
    both.bind (endBranch place)
  | alt p q, some place, t =>
    (p.roomIn backward (some place) t).bind (q.roomIn backward (some (place + p.branchCount)))
  | alt p q, none, t =>
    match (alt p q).texts? with
    | some texts => textsRoom backward texts t
    | none =>
      (p.roomIn backward (some 0) t).bind (q.roomIn backward (some p.branchCount))
  | repeated p low high _, place, t =>
    let copy := p.roomIn backward none
    let copies := match low, high with
      | 0, none =>
        if p.leastWidth?.any (0 < ·) then (t.splitting 2).bind copy
        else do
          let t ← copy t
          let t ← t.splitting 2
          let t ← t.splitting 2
          t.plain 1
      | low, none => (Tally.times copy low t).bind (·.splitting 2)
      | 0, some 1 => do
        let t ← t.splitting 2
        let t ← copy t
        t.plain 1
      | low, some high => do
        let t ← if low = 0 then t.plain 1 else Tally.times copy low t
        if low = high then some t
        else
          let t ← t.plain 1
          Tally.times (fun t => (t.splitting 2).bind copy) (high - low) t
    copies.bind (endBranch place)
  | group _ p, place, t => do
    let t ← if backward then p.roomIn backward none t
      else
        let t ← t.plain 1
        let t ← p.roomIn backward none t
        t.plain 1
    endBranch place t

/-- The whole automaton. It begins by skipping any bytes, unless the expression holds at one end of
    the text only; the forward one remembers where a match starts and ends. -/
def Expr.automaton? (e : Expr) (backward : Bool) : Option Tally := do
  let atEnd := if backward then e.closesWith .textEnd else e.opensWith .textStart
  let t : Tally := {}
  let t ← if atEnd then t.plain 1
    else
      let t ← t.splitting 2
      let t ← t.plain 1
      t.choosing 1
  let t ← if backward then e.roomIn backward none t
    else
      let t ← t.plain 1
      let t ← e.roomIn backward none t
      t.plain 1
  t.plain 1

/-- Whether an expression takes no more room than it may. -/
def Expr.fits (e : Expr) : Bool := (e.automaton? false).isSome && (e.automaton? true).isSome

end Pattern
end DocTree
