/- Sets of characters. A set is the ascending list of the code points at which membership
   changes, starting from "not a member": a character is a member when an odd number of
   them are at most its code point. Union, intersection and differences are one merge. -/
namespace DocTree

/-- A set of characters, by the code points where membership changes. -/
structure CharSet where
  flips : Array Nat
  deriving DecidableEq, Repr, Inhabited

namespace CharSet

/-- How many of the flips in `low ..< high` are at most `code`, plus `low`; each step halves
    the stretch. -/
def rank (flips : Array Nat) (code : Nat) : Nat → Nat → Nat → Nat
  | 0, low, _ => low
  | steps + 1, low, high =>
    if low < high then
      let middle := (low + high) / 2
      if flips.getD middle 0 ≤ code then rank flips code steps (middle + 1) high
      else rank flips code steps low middle
    else low

def containsCode (s : CharSet) (code : Nat) : Bool :=
  rank s.flips code (s.flips.size.log2 + 2) 0 s.flips.size % 2 = 1

def contains (s : CharSet) (c : Char) : Bool := s.containsCode c.toNat

def empty : CharSet := ⟨#[]⟩

/-- The characters from `low` to `high`. -/
def range (low high : Char) : CharSet := ⟨#[low.toNat, high.toNat + 1]⟩

def single (c : Char) : CharSet := range c c

/-- All characters that are not members. -/
def complement (s : CharSet) : CharSet :=
  match s.flips.toList with
  | 0 :: rest => ⟨rest.toArray⟩
  | flips => ⟨(0 :: flips).toArray⟩

/-- The flips of the pointwise combination of two sets, given whether each holds so far. -/
def merge (op : Bool → Bool → Bool) (a b : Bool) : List Nat → List Nat → List Nat
  | [], [] => []
  | x :: xs, [] =>
    let rest := merge op (!a) b xs []
    if op a b = op (!a) b then rest else x :: rest
  | [], y :: ys =>
    let rest := merge op a (!b) [] ys
    if op a b = op a (!b) then rest else y :: rest
  | x :: xs, y :: ys =>
    if x < y then
      let rest := merge op (!a) b xs (y :: ys)
      if op a b = op (!a) b then rest else x :: rest
    else if y < x then
      let rest := merge op a (!b) (x :: xs) ys
      if op a b = op a (!b) then rest else y :: rest
    else
      let rest := merge op (!a) (!b) xs ys
      if op a b = op (!a) (!b) then rest else x :: rest
termination_by xs ys => xs.length + ys.length

/-- The set whose members are decided by `op` from membership in two sets. A character in
    neither set must not be a member. -/
def combine (op : Bool → Bool → Bool) (s t : CharSet) : CharSet :=
  ⟨(merge op false false s.flips.toList t.flips.toList).toArray⟩

def union (s t : CharSet) : CharSet := combine (· || ·) s t

def inter (s t : CharSet) : CharSet := combine (· && ·) s t

def diff (s t : CharSet) : CharSet := combine (fun a b => a && !b) s t

def symmDiff (s t : CharSet) : CharSet := combine (· != ·) s t

/-- The union of all sets of a list, which is halved so that few merges are of large sets. -/
def unionAll : List CharSet → CharSet
  | [] => empty
  | [s] => s
  | s :: t :: rest =>
    let all := s :: t :: rest
    let half := all.length / 2
    (unionAll (all.take half)).union (unionAll (all.drop half))
termination_by sets => sets.length
decreasing_by
  all_goals simp only [List.length_take, List.length_drop, List.length_cons]; omega

/-- The union of ranges given by their first and last characters. -/
def ofRanges (ranges : List (Char × Char)) : CharSet :=
  unionAll (ranges.map fun (low, high) => range low high)

/-- The union of single code points. -/
def ofCodes (codes : List Nat) : CharSet := unionAll (codes.map fun code => ⟨#[code, code + 1]⟩)

/-- A stretch of code points without the surrogates at its ends, if more than those. -/
def scalars? (low high : Nat) : Option (Nat × Nat) :=
  let low := if 0xd800 ≤ low ∧ low ≤ 0xdfff then 0xe000 else low
  let high := if 0xd800 ≤ high ∧ high ≤ 0xdfff then 0xd7ff else min high 0x10ffff
  if low ≤ high then some (low, high) else none

/-- The stretches between pairs of flips; a last one without its pair goes on to the end. -/
def stretches : List Nat → List (Nat × Nat)
  | [] => []
  | [low] => (scalars? low 0x10ffff).toList
  | low :: stop :: rest => (scalars? low (stop - 1)).toList ++ stretches rest

/-- The members as ranges of code points, in ascending order. -/
def ranges (s : CharSet) : List (Nat × Nat) := stretches s.flips.toList

end CharSet
end DocTree
