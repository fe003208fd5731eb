import DocTree.Value.Basic

/- Deep equality of values. Scalars are equal by kind and value, without coercion; arrays,
   sets and maps in order; objects regardless of the order of their fields. The two absent
   values are equal to each other and to nothing else. A value that holds a NaN is not
   equal to itself. -/
namespace DocTree.Value

mutual

/-- Deep equality. Objects of the same size are compared field by field of the first. -/
def equal : Value → Value → Bool
  | undefined, b => b.isAbsent
  | hole, b => b.isAbsent
  | null, b => b.isNull
  | bool a, bool b => a == b
  | number a, number b => a.eq b
  | string a, string b => a == b
  | array a, array b => equalItems a b
  | object a, object b => a.length == b.length && equalFields a b
  | date a, date b => a.eq b
  | bytes a, bytes b => a == b
  | map a, map b => equalPairs a b
  | set a, set b => equalItems a b
  | _, _ => false
termination_by structural a => a

/-- Sequences of the same length with equal items at each place. -/
def equalItems : List Value → List Value → Bool
  | [], [] => true
  | a :: as, b :: bs => equal a b && equalItems as bs
  | _, _ => false
termination_by structural as => as

/-- Every field of the first list is found in the second with an equal value. -/
def equalFields : List (String × Value) → Fields Value → Bool
  | [], _ => true
  | (key, a) :: rest, others =>
    match others.get? key with
    | some b => equal a b && equalFields rest others
    | none => false
termination_by structural fields => fields

/-- Pairs with equal keys and equal values at each place. -/
def equalPairs : List (Value × Value) → List (Value × Value) → Bool
  | [], [] => true
  | (j, a) :: as, (k, b) :: bs => equal j k && equal a b && equalPairs as bs
  | _, _ => false
termination_by structural as => as

end

instance : BEq Value := ⟨equal⟩

end DocTree.Value
