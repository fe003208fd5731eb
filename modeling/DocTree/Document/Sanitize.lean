import DocTree.Event
import DocTree.Path.Basic
import DocTree.Text.Quoted
import DocTree.Value.Copy

/- Bringing a document into the form it is stored in. The walk goes depth first and keeps
   what it has done when it stops: absent fields are removed, absent items become `null`,
   and the first key with a path separator or value of a kind that cannot be stored ends
   it. Items and fields already walked are kept latest first, so that a walk over a long
   array is a loop. -/
namespace DocTree

/-- Why a document cannot be stored. -/
inductive Unstorable where
  /-- A key that no path can address, since it holds the separator. -/
  | invalidKey (key : String)
  /-- A value of a kind that is never stored. -/
  | unsupported (kind : Kind)
  deriving DecidableEq, Repr

def Unstorable.message : Unstorable → String
  | invalidKey key => "INVALID_KEY: " ++ Quoted.quote key
  | unsupported kind => "UNSUPPORTED_TYPE: " ++ kind.name

/-- A value as the walk left it, why the walk stopped early if it did, and what it reported. -/
structure Sanitized (α : Type) where
  value : α
  fault? : Option Unstorable
  events : List Event

namespace Value

/-- Whether a key holds the path separator, so that no path could address it. -/
def hasSeparator (key : String) : Bool := key.toList.contains Path.separator

/-- A value that is neither array nor object: scalars pass, other kinds are reported. -/
def sanitizeLeaf (v : Value) : Sanitized Value :=
  if v.kind.isScalar then ⟨v, none, []⟩
  else ⟨v, some (.unsupported v.kind), [.unsupported v.kind]⟩

mutual

/-- Sanitize a value of any kind. An absent root cannot be stored. -/
def sanitize : Value → Sanitized Value
  | object fields =>
    let walked := sanitizeFields [] [] fields
    ⟨object walked.value, walked.fault?, walked.events⟩
  | array items =>
    let walked := sanitizeItems [] [] items
    ⟨array walked.value, walked.fault?, walked.events⟩
  | v => v.sanitizeLeaf

/-- Sanitize fields, after those already `done`. The key is looked at before the value. -/
def sanitizeFields (done : Fields Value) (events : List Event) :
    List (String × Value) → Sanitized (Fields Value)
  | [] => ⟨done.reverse, none, events⟩
  | (key, v) :: rest =>
    if hasSeparator key then
      ⟨done.reverse ++ (key, v) :: rest, some (.invalidKey key), events ++ [.dottedKey key]⟩
    else if v.isAbsent then sanitizeFields done events rest
    else
      let inner := v.sanitize
      match inner.fault? with
      | none => sanitizeFields ((key, inner.value) :: done) (events ++ inner.events) rest
      | some fault =>
        ⟨done.reverse ++ (key, inner.value) :: rest, some fault, events ++ inner.events⟩

/-- Sanitize items, after those already `done`. -/
def sanitizeItems (done : List Value) (events : List Event) :
    List Value → Sanitized (List Value)
  | [] => ⟨done.reverse, none, events⟩
  | v :: rest =>
    if v.isAbsent then sanitizeItems (null :: done) events rest
    else
      let inner := v.sanitize
      match inner.fault? with
      | none => sanitizeItems (inner.value :: done) (events ++ inner.events) rest
      | some fault =>
        ⟨done.reverse ++ inner.value :: rest, some fault, events ++ inner.events⟩

end

/-- The storable form of a value, made on a copy, or why there is none. -/
def sanitized (v : Value) : Logged (Except Unstorable Value) :=
  let walked := v.copy.sanitize
  match walked.fault? with
  | none => ⟨.ok walked.value, walked.events⟩
  | some fault => ⟨.error fault, walked.events⟩

end Value
end DocTree
