import DocTree.Number.Basic

/- How a finite number is written: the shortest decimal that reads back as it, in positional
   notation for decades inside a range and with an exponent outside it. All reals between the
   two midpoints beside a number round to it, the midpoints included when its significand
   is even. The search tries the powers of ten from coarse to fine, and on each grid
   the two neighbours of the number; the first grid with a neighbour between the
   midpoints gives the fewest digits, and of two such neighbours the nearer is taken. -/
namespace DocTree.Number

/-- The decimal `digits * 10 ^ scale`. -/
structure Decimal where
  digits : Nat
  scale : Int
  deriving DecidableEq, Repr

/-- Which neighbour is taken when both are equally near. -/
inductive Tie where
  | toEven
  | up
  deriving DecidableEq, Repr

/-- A number and the midpoints beside it, in quarters of its last bit. -/
structure Interval where
  low : Nat
  value : Nat
  high : Nat
  closed : Bool
  /-- The exponent of two of one quarter. -/
  exponent : Int

/-- The interval of the reals that round to a positive finite number. Below a power of two
    the next number is half as far away as above it. -/
def interval (x : Number) : Interval :=
  let m := 4 * x.significand
  let narrow := x.magnitude % Nat.pow 2 52 = 0 ∧ Nat.pow 2 52 < x.magnitude
  { low := if narrow then m - 1 else m - 2
    value := m
    high := m + 2
    closed := x.significand % 2 = 0
    exponent := x.exponent - 2 }

namespace Interval

/-- The neighbour of the value on the grid of `10 ^ scale` that lies in the interval, the
    nearer one if both do. The factors `a` and `b` bring the grid and the interval to a
    common unit. -/
def onGrid? (i : Interval) (tie : Tie) (scale : Int) : Option Nat :=
  let a := Nat.pow 10 scale.toNat * Nat.pow 2 (-i.exponent).toNat
  let b := Nat.pow 10 (-scale).toNat * Nat.pow 2 i.exponent.toNat
  let within (d : Nat) : Bool :=
    if i.closed then i.low * b ≤ d * a ∧ d * a ≤ i.high * b
    else i.low * b < d * a ∧ d * a < i.high * b
  let below := i.value * b / a
  let above := below + 1
  match within below, within above with
  | false, false => none
  | true, false => some below
  | false, true => some above
  | true, true =>
    match compare (2 * (i.value * b)) ((below + above) * a), tie with
    | .lt, _ => some below
    | .gt, _ => some above
    | .eq, .up => some above
    | .eq, .toEven => some (if below % 2 = 0 then below else above)

/-- The first grid with a neighbour in the interval, from `10 ^ scale` downwards. -/
def search (i : Interval) (tie : Tie) : Nat → Int → Decimal
  | 0, scale => ⟨0, scale⟩
  | steps + 1, scale =>
    match i.onGrid? tie scale with
    | some digits => ⟨digits, scale⟩
    | none => search i tie steps (scale - 1)

end Interval

/-- The decimal of fewest digits that rounds to a positive finite number, and the nearest
    of those. The search starts above the number's own decade, and seventeen digits always
    suffice. -/
def shortest (x : Number) (tie : Tie) : Decimal :=
  let decade : Int := (x.significand.log2 + x.exponent) * 30103 / 100000
  x.interval.search tie 22 (decade + 2)

/-! The text. The two places that write numbers differ only in the values of a `Layout`. -/

/-- The choices of one way to write a finite number. -/
structure Layout where
  /-- The decades of the first digit that are written positionally. -/
  lowest : Int
  highest : Int
  /-- Whether a positive exponent has a sign. -/
  plusSign : Bool
  tie : Tie

namespace Layout

/-- The digits of a natural number. -/
def digitsOf (n : Nat) : List Char := Nat.toDigits 10 n

/-- Positional notation of a digit string whose first digit has weight `10 ^ decade`. A
    point always stands between two digits. -/
def positional (digits : List Char) (decade : Int) : List Char :=
  if decade < 0 then
    '0' :: '.' :: (List.replicate ((-decade).toNat - 1) '0' ++ digits)
  else
    let whole := decade.toNat + 1
    let fraction := digits.drop whole
    digits.take whole ++ List.replicate (whole - digits.length) '0' ++
      '.' :: (if fraction.isEmpty then ['0'] else fraction)

/-- Notation with an exponent: one digit before the point, no point when no digit follows. -/
def scientific (l : Layout) (digits : List Char) (decade : Int) : List Char :=
  let mantissa := match digits with
    | first :: second :: rest => first :: '.' :: second :: rest
    | short => short
  let sign := if decade < 0 then ['-'] else if l.plusSign then ['+'] else []
  mantissa ++ 'e' :: (sign ++ digitsOf decade.natAbs)

/-- The text of a finite number. Zero keeps its sign. -/
def write (l : Layout) (x : Number) : String :=
  let sign := if x.isNegative then ['-'] else []
  if x.magnitude = 0 then String.ofList (sign ++ ['0', '.', '0'])
  else
    let decimal := x.shortest l.tie
    let digits := digitsOf decimal.digits
    let decade := decimal.scale + digits.length - 1
    let body :=
      if l.lowest ≤ decade ∧ decade ≤ l.highest then positional digits decade
      else l.scientific digits decade
    String.ofList (sign ++ body)

end Layout

end DocTree.Number
