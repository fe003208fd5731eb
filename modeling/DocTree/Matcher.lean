import DocTree.Document.Read
import DocTree.Document.Update
import DocTree.Pattern
import DocTree.Value.Equality
import DocTree.Value.Inspect

/- Testing values, and documents by the values at their paths. -/
namespace DocTree

/-- How a candidate value is tested. -/
inductive Matcher where
  /-- By a test of the caller's own. -/
  | predicate (test : Value → Bool)
  /-- By searching it for a pattern, if it is a string. -/
  | pattern (p : Pattern)
  /-- By deep equality with an array or an object. -/
  | container (expected : Value)
  /-- By strict equality with a scalar or the absent marker. -/
  | literal (expected : Value)

namespace Matcher

/-- The matcher for an expected value. -/
def ofValue (expected : Value) : Matcher :=
  if expected.isContainer then container expected else literal expected

/-- Equality with a value that has a literal identity: a scalar or an absent value. Foreign
    kinds have none, and equal nothing here. -/
def strictlyEqual (expected candidate : Value) : Bool :=
  (expected.kind.isScalar || expected.isAbsent) && expected.equal candidate

/-- Whether a candidate passes. A candidate of the wrong kind just does not. -/
def accepts : Matcher → Value → Bool
  | predicate test, candidate => test candidate
  | pattern p, candidate => candidate.string?.any p.isFoundIn
  | container expected, candidate => expected.equal candidate
  | literal expected, candidate => strictlyEqual expected candidate

/-- The matcher as text; a predicate does not show what it tests. -/
def inspect : Matcher → String
  | predicate _ => "Predicate(..)"
  | pattern p => "Pattern(" ++ Quoted.quote p.source ++ ")"
  | container expected => "Container(" ++ expected.inspect ++ ")"
  | literal expected => "Literal(" ++ expected.inspect ++ ")"

end Matcher

/-- A query: matchers for the values at paths. -/
abbrev Query := List (String × Matcher)

/-- Whether a document passes every condition. A path that leads nowhere has the absent value. -/
def Query.accepts (query : Query) (doc : Value) : Bool :=
  query.all fun (path, matcher) => matcher.accepts (doc.readAt path)

/-- An update as text; a mutation does not show what it does. -/
def Update.inspect : Update → String
  | mutate _ => "Mutate(..)"
  | assign fields => "Assign(" ++ Value.inspectFields fields ++ ")"

end DocTree
