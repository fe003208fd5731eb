import DocTree.Text.Properties

/- The modes of a regular expression. They decide which characters of its text mean nothing,
   which characters are alike, and what the classes with a letter of their own hold. Classes
   and cases are those of Unicode 16.0: later characters are in no class and have no other
   case. -/
namespace DocTree.Pattern

/-- The modes that a group can switch. -/
structure Flags where
  /-- `i`: characters that differ in case only are alike. -/
  ignoreCase : Bool := false
  /-- `m`: `^` and `$` hold at every line. -/
  multiLine : Bool := false
  /-- `s`: the dot takes line ends too. -/
  dotAll : Bool := false
  /-- `R`: carriage returns end lines too. -/
  returns : Bool := false
  /-- `u`: classes and boundaries are those of Unicode, else of ASCII. -/
  unicode : Bool := true
  /-- `x`: blanks and comments in the expression mean nothing. -/
  extended : Bool := false
  /-- `U`: repetitions are lazy unless a question mark follows them. -/
  swapGreed : Bool := false

namespace Flags

/-- Set one flag by its letter. -/
def set? (flags : Flags) (on : Bool) : Char → Option Flags
  | 'i' => some { flags with ignoreCase := on }
  | 'm' => some { flags with multiLine := on }
  | 's' => some { flags with dotAll := on }
  | 'R' => some { flags with returns := on }
  | 'u' => some { flags with unicode := on }
  | 'x' => some { flags with extended := on }
  | 'U' => some { flags with swapGreed := on }
  | _ => none

end Flags

/-- Flags up to the character that ends them, which is returned too. No letter may come twice,
    and letters must follow the one minus sign that there may be. -/
def flags? (flags : Flags) (seen : List Char) (on : Bool) :
    List Char → Option (Flags × Bool × Char × List Char)
  | [] => none
  | c :: rest =>
    if c = ':' || c = ')' then
      if seen.head? = some '-' then none else some (flags, seen.isEmpty, c, rest)
    else if seen.contains c then none
    else if c = '-' then flags? flags (c :: seen) false rest
    else (flags.set? on c).bind fun flags => flags? flags (c :: seen) on rest

/-! What means nothing. -/

/-- Drop blanks, and comments from `#` to the end of the line. -/
def dropBlank (inComment : Bool) : List Char → List Char
  | [] => []
  | c :: rest =>
    if inComment then dropBlank (c != '\n') rest
    else if c = '#' then dropBlank true rest
    else if CharSet.whiteSpace.contains c then dropBlank false rest
    else c :: rest

theorem length_dropBlank_le (inComment : Bool) (text : List Char) :
    (dropBlank inComment text).length ≤ text.length := by
  induction text generalizing inComment with
  | nil => exact Nat.le_refl _
  | cons c rest ih =>
    unfold dropBlank
    split
    · exact Nat.le_succ_of_le (ih _)
    · split
      · exact Nat.le_succ_of_le (ih _)
      · split
        · exact Nat.le_succ_of_le (ih _)
        · exact Nat.le_refl _

/-- Drop what means nothing under the flags. -/
def Flags.skip (flags : Flags) (text : List Char) : List Char :=
  if flags.extended then dropBlank false text else text

theorem Flags.length_skip_le (flags : Flags) (text : List Char) :
    (flags.skip text).length ≤ text.length := by
  unfold skip
  split
  · exact length_dropBlank_le _ _
  · exact Nat.le_refl _

/-- The first character that means something under the flags, and the text after it. -/
def Flags.next? (flags : Flags) (text : List Char) :
    Option (Char × { rest : List Char // rest.length < text.length }) :=
  match h : flags.skip text with
  | [] => none
  | c :: rest =>
    have shorter : rest.length < text.length := by
      have := flags.length_skip_le text
      rwa [h] at this
    some (c, ⟨rest, shorter⟩)

/-- The first character that is no blank, after the sign of a comment if there is one before
    it: what a comment holds is not skipped. -/
def firstSign? (inComment : Bool) : List Char → Option Char
  | [] => none
  | c :: rest =>
    if CharSet.whiteSpace.contains c then firstSign? inComment rest
    else if c = '#' && !inComment then firstSign? true rest
    else some c

/-- The character that decides what the hyphen before it in a class is. -/
def Flags.afterHyphen? (flags : Flags) (text : List Char) : Option Char :=
  if flags.extended then firstSign? false text else text.head?

/-! Sets under the flags. -/

def asciiOnly : CharSet := CharSet.range '\x00' '\x7f'

/-- A set without what was added after Unicode 16.0. -/
def settled (set : CharSet) : CharSet := set.diff .recent

def settledWord : CharSet := settled .word

def settledDigit : CharSet := settled .decimalDigit

/-- The word characters under the flags. -/
def Flags.word (flags : Flags) : CharSet :=
  if flags.unicode then settledWord
  else .ofRanges [('0', '9'), ('A', 'Z'), ('_', '_'), ('a', 'z')]

/-- The set of `d`, `s` or `w`. -/
def Flags.shorthand (flags : Flags) : Char → CharSet
  | 'd' => if flags.unicode then settledDigit else .range '0' '9'
  | 's' => if flags.unicode then .whiteSpace else .ofRanges [('\t', '\r'), (' ', ' ')]
  | _ => flags.word

/-- A set with everything alike under the flags. Without Unicode only letters of ASCII are
    alike. -/
def Flags.fold (flags : Flags) (set : CharSet) : CharSet :=
  if !flags.ignoreCase then set
  else if flags.unicode then set.union (settled (settled set).caseClosed)
  else set.union (set.caseClosed.inter asciiOnly)

/-- Without Unicode a set must hold ASCII only, as no other character is a single byte. -/
def Flags.admit? (flags : Flags) (set : CharSet) : Option CharSet :=
  if flags.unicode || (set.diff asciiOnly).flips.isEmpty then some set else none

/-- What the dot takes. -/
def Flags.dot (flags : Flags) : CharSet :=
  if flags.dotAll then CharSet.empty.complement
  else if flags.returns then (CharSet.ofRanges [('\n', '\n'), ('\r', '\r')]).complement
  else (CharSet.single '\n').complement

end DocTree.Pattern
