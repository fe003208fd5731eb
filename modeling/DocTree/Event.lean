import DocTree.Value.Basic

/- What an operation reports while it works. Events are data: an operation that reports
   returns the list of its events, in order, beside its result. -/
namespace DocTree

inductive Level where
  | debug
  | trace
  deriving DecidableEq, Repr

def Level.name : Level → String
  | debug => "DEBUG"
  | trace => "TRACE"

/-- A report about one step of an operation. -/
inductive Event where
  /-- An update is about to write the field at this path. -/
  | assigning (path : String)
  /-- A write was given up because an array cannot hold this segment of the path. -/
  | writeSkipped (path segment : String)
  /-- An object key holds the path separator. -/
  | dottedKey (key : String)
  /-- A value of this kind cannot be stored. -/
  | unsupported (kind : Kind)
  deriving DecidableEq, Repr

namespace Event

def level : Event → Level
  | assigning _ => .trace
  | writeSkipped .. | dottedKey _ | unsupported _ => .debug

def message : Event → String
  | assigning _ => "assigning update field"
  | writeSkipped .. => "skipping write: non-index segment on an existing array"
  | dottedKey _ => "document key contains the path separator"
  | unsupported _ => "unsupported value in document"

/-- The named texts that go with the message. -/
def fields : Event → Fields String
  | assigning path => [("path", path)]
  | writeSkipped path segment => [("path", path), ("segment", segment)]
  | dottedKey key => [("key", key)]
  | unsupported kind => [("kind", kind.name)]

end Event

/-- A result with the events reported on the way to it. -/
structure Logged (α : Type) where
  value : α
  events : List Event := []

namespace Logged
variable {α β : Type}

instance : Monad Logged where
  pure x := ⟨x, []⟩
  bind x f := ⟨(f x.value).value, x.events ++ (f x.value).events⟩

/-- Report one event. -/
def report (event : Event) : Logged Unit := ⟨(), [event]⟩

@[simp] theorem pure_value (x : α) : (pure x : Logged α).value = x := rfl

@[simp] theorem pure_events (x : α) : (pure x : Logged α).events = [] := rfl

@[simp] theorem bind_value (x : Logged α) (f : α → Logged β) :
    (x >>= f).value = (f x.value).value := rfl

@[simp] theorem bind_events (x : Logged α) (f : α → Logged β) :
    (x >>= f).events = x.events ++ (f x.value).events := rfl

end Logged
end DocTree
