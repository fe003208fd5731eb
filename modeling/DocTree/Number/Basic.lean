/- Numbers of a document: IEEE 754 binary64, held as the bit pattern. Comparison and
   the integer value are computed on the pattern in exact integer arithmetic, so a
   statement about a number is a statement about `Nat` and `Int`. A finite number is
   `significand * 2 ^ exponent`, negated when the sign bit is set. -/
namespace DocTree

/-- A binary floating-point number of 64 bits, given by its bits. -/
structure Number where
  bits : UInt64
  deriving DecidableEq, Repr, Inhabited

namespace Number

/-- The magnitude of both infinities; every larger magnitude is a NaN. -/
def infinityMagnitude : Nat := 2047 * Nat.pow 2 52

/-- The bits below the sign bit. They order the non-NaN numbers by absolute value. -/
def magnitude (x : Number) : Nat := x.bits.toNat % Nat.pow 2 63

/-- The sign bit. Both zeros and NaN have one too. -/
def isNegative (x : Number) : Bool := decide (Nat.pow 2 63 ≤ x.bits.toNat)

/-- The number with the given sign bit and magnitude. -/
def ofMagnitude (negative : Bool) (m : Nat) : Number :=
  ⟨UInt64.ofNat (if negative then Nat.pow 2 63 + m else m)⟩

def isNaN (x : Number) : Bool := decide (infinityMagnitude < x.magnitude)

def isFinite (x : Number) : Bool := decide (x.magnitude < infinityMagnitude)

/-- The quiet NaN with no payload. -/
def nan : Number := ⟨0x7ff8000000000000⟩

/-- Zero with the sign bit clear. -/
def zero : Number := ⟨0⟩

/-! Comparison. -/

/-- Signed position of a number in the order of the non-NaN numbers; both zeros have rank 0. -/
def rank (x : Number) : Int := if x.isNegative then -(x.magnitude : Int) else x.magnitude

/-- Numeric equality: NaN equals nothing, and the two zeros are equal. -/
def eq (x y : Number) : Bool := !x.isNaN && !y.isNaN && x.rank == y.rank

/-- Numeric order: false as soon as a NaN takes part. -/
def lt (x y : Number) : Bool := !x.isNaN && !y.isNaN && decide (x.rank < y.rank)

/-! The exact value of a finite number. -/

/-- The significand as an integer: a normal number has the hidden bit `2 ^ 52`. -/
def significand (x : Number) : Nat :=
  if x.magnitude / Nat.pow 2 52 = 0 then x.magnitude
  else Nat.pow 2 52 + x.magnitude % Nat.pow 2 52

/-- The exponent of two that the significand is scaled by. -/
def exponent (x : Number) : Int := (max (x.magnitude / Nat.pow 2 52) 1 : Nat) - 1075

/-- The integer that a finite number is, if it is one. -/
def toInt? (x : Number) : Option Int :=
  if x.isFinite then
    let sign : Int := if x.isNegative then -1 else 1
    let unit := Nat.pow 2 x.exponent.natAbs
    if 0 ≤ x.exponent then some (sign * (x.significand * unit : Nat))
    else if x.significand % unit = 0 then some (sign * (x.significand / unit : Nat))
    else none
  else none

/-- The largest integer below which all integers are numbers and differ from their neighbours. -/
def maxSafeInteger : Nat := Nat.pow 2 53 - 1

/-- The integer that a number is, if it is one of the safe integers. -/
def toSafeInt? (x : Number) : Option Int := x.toInt?.filter (·.natAbs ≤ maxSafeInteger)

/-! ## Rounding to the nearest number, ties to the even significand

    `nearest` rounds `m * 2 ^ q`; integers, decimals and 32-bit patterns are brought to that
    form. The bits of a result are the exponent field and the significand added up, so a carry
    out of the significand moves to the next exponent, and past the last one to infinity. -/

/-- The integer nearest to `m / 2 ^ s`; a tie goes to the even one. -/
def roundShift (m s : Nat) : Nat :=
  let unit := Nat.pow 2 s
  let quotient := m / unit
  let rest := 2 * (m % unit)
  if rest < unit ∨ (rest = unit ∧ quotient % 2 = 0) then quotient else quotient + 1

/-- The number nearest to `m * 2 ^ q`, with the given sign. -/
def nearest (negative : Bool) (m : Nat) (q : Int) : Number :=
  if m = 0 then ofMagnitude negative 0
  else
    -- the weight of the last significand bit, which a subnormal cannot lower
    let unit : Int := max (m.log2 + q - 52) (-1074)
    let rounded :=
      if unit ≤ q then m * Nat.pow 2 (q - unit).toNat else roundShift m (unit - q).toNat
    ofMagnitude negative (min infinityMagnitude ((unit + 1074).toNat * Nat.pow 2 52 + rounded))

/-- The number nearest to an integer; zero is positive. -/
def ofInt (n : Int) : Number := nearest (decide (n < 0)) n.natAbs 0

/-- The number nearest to `digits * 10 ^ scale`. Scales far outside the range of the
    format are settled first: at least `10 ^ 400` is infinite, below `10 ^ (-400)` is zero.
    Elsewhere a quotient of more than 64 bits whose last bit records a remainder rounds as
    the exact value does. -/
def ofDecimal (negative : Bool) (digits : Nat) (scale : Int) : Number :=
  if digits = 0 then ofMagnitude negative 0
  else if 400 ≤ scale then ofMagnitude negative infinityMagnitude
  else if digits.log2 + scale < -401 then ofMagnitude negative 0
  else if 0 ≤ scale then nearest negative (digits * Nat.pow 10 scale.toNat) 0
  else
    let divisor := Nat.pow 10 scale.natAbs
    let shift := divisor.log2 + 66 - digits.log2
    let scaled := digits * Nat.pow 2 shift
    let sticky := if scaled % divisor = 0 then 0 else 1
    nearest negative (2 * (scaled / divisor) + sticky) (-shift - 1)

/-- The number that a binary floating-point pattern of 32 bits stands for. -/
def ofBinary32 (bits : UInt32) : Number :=
  let negative := decide (Nat.pow 2 31 ≤ bits.toNat)
  let field : Nat := bits.toNat / Nat.pow 2 23 % Nat.pow 2 8
  let fraction : Nat := bits.toNat % Nat.pow 2 23
  if field = 255 then
    if fraction = 0 then ofMagnitude negative infinityMagnitude else nan
  else if field = 0 then nearest negative fraction (-149)
  else nearest negative (Nat.pow 2 23 + fraction) (field - 150)

end Number
end DocTree
