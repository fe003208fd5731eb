/- Digits in texts and the numbers they spell, without a bound or in a machine word. -/
namespace DocTree.Digits

/-- The number of a string of decimal digits, read after digits that spell `value`. -/
def decimal (value : Nat) : List Char → Nat
  | [] => value
  | c :: rest => decimal (10 * value + (c.toNat - '0'.toNat)) rest

/-! Numbers that a machine word has to hold. -/

/-- The result of an operation on words, unless it is too large for a word. -/
def checked (overflow : Bool) (result : UInt64) : Option UInt64 :=
  if overflow then none else some result

def mul? (a b : UInt64) : Option UInt64 := checked (a.toBitVec.umulOverflow b.toBitVec) (a * b)

def add? (a b : UInt64) : Option UInt64 := checked (a.toBitVec.uaddOverflow b.toBitVec) (a + b)

theorem checked_eq_some_iff {overflow : Bool} {result w : UInt64} {n : Nat}
    (hlarge : overflow = true → UInt64.size ≤ n) (hexact : overflow = false → result.toNat = n) :
    checked overflow result = some w ↔ w.toNat = n := by
  cases overflow with
  | true =>
    have hne : w.toNat ≠ n := Nat.ne_of_lt (Nat.lt_of_lt_of_le w.toNat_lt (hlarge rfl))
    exact iff_of_false (Option.some_ne_none w).symm hne
  | false =>
    rw [← hexact rfl, UInt64.toNat_inj, eq_comm]
    exact Option.some_inj

theorem mul?_eq_some_iff {a b w : UInt64} : mul? a b = some w ↔ w.toNat = a.toNat * b.toNat :=
  checked_eq_some_iff of_decide_eq_true fun h =>
    BitVec.toNat_mul_of_not_umulOverflow (ne_true_of_eq_false h)

theorem add?_eq_some_iff {a b w : UInt64} : add? a b = some w ↔ w.toNat = a.toNat + b.toNat :=
  checked_eq_some_iff of_decide_eq_true fun h =>
    BitVec.toNat_add_of_not_uaddOverflow (ne_true_of_eq_false h)

/-- The number of a word with a digit put after it, if it is a word. -/
def push? (value : UInt64) (c : Char) : Option UInt64 := do
  let tens ← mul? 10 value
  add? tens (c.toNat - '0'.toNat).toUInt64

/-- The number of a string of decimal digits as a word, read after digits that spell `value`.
    The reading ends at the first digit with which the number is no word. -/
def word? (value : UInt64) : List Char → Option UInt64
  | [] => some value
  | c :: rest => (push? value c).bind (word? · rest)

/-- The value of a digit in base sixteen, in either case. -/
def hex? (c : Char) : Option Nat :=
  if c.isDigit then some (c.toNat - '0'.toNat)
  else if 'a' ≤ c && c ≤ 'f' then some (c.toNat - 'a'.toNat + 10)
  else if 'A' ≤ c && c ≤ 'F' then some (c.toNat - 'A'.toNat + 10)
  else none

end DocTree.Digits
