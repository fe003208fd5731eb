import DocTree.Path.Basic

/- The rules for a path that a caller writes down: not empty, no empty segment, and not
   too many segments. -/
namespace DocTree.Path

/-- The largest number of segments of an accepted path. -/
def maxDepth : Nat := 256

/-- Why a path is refused. -/
inductive Fault where
  | empty
  | emptySegment (position : Nat)
  | tooLong (segments : Nat)
  deriving DecidableEq, Repr

def Fault.message : Fault → String
  | empty => "EMPTY_PATH"
  | emptySegment position => "EMPTY_SEGMENT at position " ++ toString position
  | tooLong segments => "PATH_TOO_LONG: " ++ toString segments ++ " segments"

/-- The fault of a path text, if it has one. An empty segment, the first of them, is
    reported before the length. -/
def fault? (text : String) : Option Fault :=
  if text.isEmpty then some .empty
  else
    let path := parse text
    match path.findIdx? (·.isEmpty) with
    | some position => some (.emptySegment position)
    | none => if maxDepth < path.length then some (.tooLong path.length) else none

end DocTree.Path
