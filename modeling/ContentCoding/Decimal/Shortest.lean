import ContentCoding.Amount

/-!
# The shortest decimal text of a binary fraction

Every finite double is m · 2^q. The decimals that read back as it fill an
interval around it, whose ends belong to it when m is even. `digitsOf` goes
through the decimal grids of one digit, two digits and so on, and takes the
first grid that has a point in the interval, and of two such points the nearer
one, or the even one when they are equally near. Only the two neighbours of the
value need testing: if any point of a grid is in the interval, one of those is.

`format` lays the digits out, positionally for moderate exponents and otherwise
with an exponent.
-/

namespace ContentCoding.Decimal.Shortest

/-- A positive fraction of two naturals. -/
structure Ratio where
  /-- The numerator. -/
  num : Nat
  /-- The denominator. -/
  den : Nat

/-- A magnitude between its two limits. -/
structure Interval where
  /-- The least candidate. -/
  low : Ratio
  /-- The magnitude itself. -/
  mid : Ratio
  /-- The greatest candidate. -/
  high : Ratio
  /-- Whether the limits themselves read back as the magnitude. -/
  closed : Bool

/-- A multiple of a power of two. -/
def scaled (multiple : Nat) (exponent : Int) : Ratio :=
  if 0 ≤ exponent then ⟨multiple * twoTo exponent.toNat, 1⟩ else ⟨multiple, twoTo (-exponent).toNat⟩

/-- The reals that round to a double with the given fields of its bit pattern. The
gap below a power of two is half as wide, except at the smallest exponent. -/
def intervalOf (biased fraction : Nat) : Interval :=
  let m := if biased = 0 then fraction else fraction + twoTo 52
  let q : Int := (if biased = 0 then 1 else biased : Nat) - 1075
  let below := if fraction = 0 ∧ 1 < biased then 4 * m - 1 else 4 * m - 2
  ⟨scaled below (q - 2), scaled (4 * m) (q - 2), scaled (4 * m + 2) (q - 2), m % 2 == 0⟩

/-- How many of at most so many factors of ten lift a fraction to one or more. -/
def lift : (fuel : Nat) → Ratio → Nat
  | 0, _ => 0
  | fuel + 1, r => if r.den ≤ r.num then 0 else lift fuel ⟨r.num * 10, r.den⟩ + 1

/-- The exponent k for which the fraction lies between 10^(k-1) and 10^k. -/
def pointPosition (r : Ratio) : Int :=
  if r.den ≤ r.num then (Nat.toDigits 10 (r.num / r.den)).length
  else 1 - (lift 400 r : Int)

/-- A point of a decimal grid. -/
structure Point where
  /-- The multiple. -/
  multiple : Nat
  /-- The exponent of the grid. -/
  exponent : Int

/-- A grid point as a fraction. -/
def Point.ratio (p : Point) : Ratio :=
  if 0 ≤ p.exponent then ⟨p.multiple * tenTo p.exponent.toNat, 1⟩
  else ⟨p.multiple, tenTo (-p.exponent).toNat⟩

/-- Whether a fraction lies in an interval. -/
def Interval.contains (i : Interval) (r : Ratio) : Bool :=
  let belowR := i.low.num * r.den
  let lowR := r.num * i.low.den
  let aboveR := i.high.num * r.den
  let highR := r.num * i.high.den
  if i.closed then belowR ≤ lowR && highR ≤ aboveR else belowR < lowR && highR < aboveR

/-- The grid point that stands for an interval on the grid of so many digits. -/
def pointOn? (i : Interval) (digits : Nat) : Option Point :=
  let k := pointPosition i.mid - digits
  let step := (Point.mk 1 k).ratio
  let num := i.mid.num * step.den
  let den := i.mid.den * step.num
  let below : Point := ⟨num / den, k⟩
  let above : Point := ⟨num / den + 1, k⟩
  match i.contains below.ratio, i.contains above.ratio with
  | true, true =>
    let twice := 2 * (num % den)
    if twice < den ∨ (twice = den ∧ below.multiple % 2 = 0) then some below else some above
  | true, false => some below
  | false, true => some above
  | false, false => none

/-- The point on the coarsest grid, starting with so many digits. -/
def firstPoint (i : Interval) : (left : Nat) → (digits : Nat) → Point
  | 0, digits => (pointOn? i digits).getD ⟨0, 0⟩
  | left + 1, digits =>
    match pointOn? i digits with
    | some point => point
    | none => firstPoint i left (digits + 1)

/-- Decimal digits without trailing zeros, and the position of the point before
which they stand: the value is 0.d₁…dₙ · 10^k. -/
structure Digits where
  /-- The digits. -/
  digits : List Char
  /-- The position of the point. -/
  point : Int

/-- Digits of a grid point. -/
def Point.digits (p : Point) : Digits :=
  let all := Nat.toDigits 10 p.multiple
  ⟨(all.reverse.dropWhile (· == '0')).reverse, p.exponent + all.length⟩

/-- The shortest digits of a positive finite double. -/
def digitsOf (biased fraction : Nat) : Digits :=
  (firstPoint (intervalOf biased fraction) 16 1).digits

/-- A layout of digits. -/
structure Layout where
  /-- Positional notation is used above this position of the point. -/
  least : Int
  /-- Positional notation is used up to this position of the point. -/
  greatest : Int

/-- Digits in positional notation, with at least one digit on either side of the point. -/
def positional (d : Digits) : List Char :=
  if d.point ≤ 0 then ['0', '.'] ++ List.replicate (-d.point).toNat '0' ++ d.digits
  else
    let k := d.point.toNat
    if d.digits.length ≤ k then
      d.digits ++ List.replicate (k - d.digits.length) '0' ++ ['.', '0']
    else d.digits.take k ++ ['.'] ++ d.digits.drop k

/-- Digits with an exponent, signed, of the first digit. -/
def exponential (d : Digits) : List Char :=
  let e := d.point - 1
  let mantissa := match d.digits with
    | [] => ['0']
    | [first] => [first]
    | first :: rest => first :: '.' :: rest
  mantissa ++ ['e', if e < 0 then '-' else '+'] ++ Nat.toDigits 10 e.natAbs

/-- Digits in a layout. -/
def Layout.write (layout : Layout) (d : Digits) : List Char :=
  if layout.least < d.point ∧ d.point ≤ layout.greatest then positional d else exponential d

/-- The text of a double in a layout. Infinite and undefined values have none and are
written as null. -/
def format (layout : Layout) (value : Float) : String :=
  let bits := value.toBits.toNat
  let sign := if twoTo 63 ≤ bits then ['-'] else []
  let biased := bits / twoTo 52 % 2048
  let fraction := bits % twoTo 52
  if biased = 2047 then "null"
  else if biased = 0 ∧ fraction = 0 then String.ofList (sign ++ ['0', '.', '0'])
  else String.ofList (sign ++ layout.write (digitsOf biased fraction))

end ContentCoding.Decimal.Shortest
