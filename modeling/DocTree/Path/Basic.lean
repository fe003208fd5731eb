import DocTree.Text.Digits

/- Paths: segments with dots between them. A path text always has a first segment, the
   empty text one empty segment, and doubled dots make empty segments. A segment of
   decimal digits up to a limit addresses an array slot as well as an object key; every
   other segment is a key only. -/
namespace DocTree

/-- The segments of a path, from the root. -/
abbrev Path := List String

namespace Path

/-- The character between two segments. -/
def separator : Char := '.'

/-- The largest index that a segment can stand for, so that a write never grows an array
    past `maxIndex + 1` slots. -/
def maxIndex : Nat := Nat.pow 2 20

/-- The segments of a text, the first one apart. -/
def cut : List Char → List Char × List (List Char)
  | [] => ([], [])
  | c :: rest =>
    let (first, more) := cut rest
    if c = separator then ([], first :: more) else (c :: first, more)

/-- The path that a text spells. -/
def parse (text : String) : Path :=
  let (first, more) := cut text.toList
  (first :: more).map String.ofList

theorem parse_ne_nil (text : String) : parse text ≠ [] := List.cons_ne_nil _ _

theorem separator_not_mem_cut (cs : List Char) :
    ∀ segment ∈ (cut cs).1 :: (cut cs).2, separator ∉ segment := by
  induction cs with
  | nil => simp [cut]
  | cons c rest ih =>
    have hcut : cut (c :: rest) = if c = separator then ([], (cut rest).1 :: (cut rest).2)
        else (c :: (cut rest).1, (cut rest).2) := rfl
    rw [hcut]
    by_cases hc : c = separator
    · rw [if_pos hc]
      exact List.forall_mem_cons.2 ⟨List.not_mem_nil, ih⟩
    · rw [if_neg hc]
      obtain ⟨hfirst, hmore⟩ := List.forall_mem_cons.1 ih
      refine List.forall_mem_cons.2 ⟨?_, hmore⟩
      intro hmem
      rcases List.mem_cons.1 hmem with heq | hmem
      · exact hc heq.symm
      · exact hfirst hmem

theorem separator_not_mem_of_mem_parse {text segment : String} (h : segment ∈ parse text) :
    separator ∉ segment.toList := by
  obtain ⟨chars, hmem, rfl⟩ := List.mem_map.1 h
  rw [String.toList_ofList]
  exact separator_not_mem_cut text.toList chars hmem

/-- The segments with a separator between each two. -/
def render : Path → String
  | [] => ""
  | [segment] => segment
  | segment :: rest => segment ++ separator.toString ++ render rest

/-! Segments as indices. -/

/-- The array index a segment stands for: decimal digits only, and a value up to
    `maxIndex`. Leading zeros do not matter. An index is a machine word, so that digits
    whose number no word can hold stand for none. -/
def index? (segment : String) : Option Nat :=
  let digits := segment.toList
  if !digits.isEmpty && digits.all Char.isDigit then
    ((Digits.word? 0 digits).map UInt64.toNat).filter (· ≤ maxIndex)
  else none

def isIndex (segment : String) : Bool := (index? segment).isSome

theorem index?_le {segment : String} {i : Nat} (h : index? segment = some i) : i ≤ maxIndex := by
  simp only [index?] at h
  split at h
  · have hle := (Option.filter_eq_some_iff.1 h).2
    exact of_decide_eq_true hle
  · cases h

end Path
end DocTree
