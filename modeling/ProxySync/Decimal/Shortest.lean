/-!
# Shortest decimal form of a binary64 number

Of all decimals that read back as the number, the one with the fewest digits, and of those the
nearest. A positive number is `m · 2 ^ q`; the reals that round to it reach half way to its
neighbours, ends included where `m` is even. For one, two, up to seventeen digits the two points of
that decimal grid around the number are tried, in exact arithmetic; the first grid with a hit
decides.
-/
namespace ProxySync.Decimal

/-- A positive binary64 number: `mantissa · 2 ^ exponent`. -/
structure Binary where
  mantissa : Nat
  exponent : Int
  /-- Whether the neighbour below is half as far away as the one above. -/
  narrowBelow : Bool

/-- The number of a bit pattern without its sign; none for zero, infinities and what is no
number. -/
def Binary.ofBits? (bits : Nat) : Option Binary :=
  let field : Nat := bits / 0x10000000000000 % 2048
  let fraction := bits % 0x10000000000000
  if field = 2047 then none
  else if field = 0 then
    if fraction = 0 then none
    else some { mantissa := fraction, exponent := -1074, narrowBelow := false }
  else some
    { mantissa := 0x10000000000000 + fraction, exponent := (field : Int) - 1075
      narrowBelow := fraction = 0 && 1 < field }

/-- A fraction of natural numbers. -/
structure Ratio where
  num : Nat
  den : Nat

namespace Ratio

/-- A natural number times a power of a base. -/
def scaled (n base : Nat) (e : Int) : Ratio :=
  if 0 ≤ e then { num := n * base.pow e.toNat, den := 1 }
  else { num := n, den := base.pow (-e).toNat }

/-- The product. -/
def mul (a b : Ratio) : Ratio := { num := a.num * b.num, den := a.den * b.den }

/-- Whether one fraction is below another. -/
def lt (a b : Ratio) : Bool := a.num * b.den < b.num * a.den

/-- Whether one fraction is not above another. -/
def le (a b : Ratio) : Bool := a.num * b.den ≤ b.num * a.den

end Ratio

/-- The exponent of the leading decimal digit. -/
def leadingExponent (r : Ratio) : Int :=
  if r.den ≤ r.num then ((Nat.toDigits 10 (r.num / r.den)).length : Int) - 1
  else
    let guess : Nat := (Nat.toDigits 10 (r.den / r.num)).length - 1
    if r.den ≤ r.num * Nat.pow 10 guess then -(guess : Int) else -(guess : Int) - 1

/-- The reals that round to a number: its value, the ends of the interval, and whether the ends
belong to it. -/
structure Rounding where
  value : Ratio
  low : Ratio
  high : Ratio
  closed : Bool

/-- The reals that round to a number. -/
def Binary.rounding (b : Binary) : Rounding :=
  { value := .scaled (4 * b.mantissa) 2 (b.exponent - 2)
    low := .scaled (4 * b.mantissa - (if b.narrowBelow then 1 else 2)) 2 (b.exponent - 2)
    high := .scaled (4 * b.mantissa + 2) 2 (b.exponent - 2)
    closed := b.mantissa % 2 = 0 }

/-- Whether a decimal rounds to the number. -/
def Rounding.holds (r : Rounding) (x : Ratio) : Bool :=
  if r.closed then r.low.le x && x.le r.high else r.low.lt x && x.lt r.high

/-- Digits and the power of ten that they are multiplied by. -/
structure Digits where
  digits : Nat
  exponent : Int
deriving DecidableEq

/-- The value of digits. -/
def Digits.value (d : Digits) : Ratio := .scaled d.digits 10 d.exponent

/-- The nearer of the two grid points around the number that read back, if any. -/
def Rounding.onGrid? (r : Rounding) (k : Int) : Option Digits :=
  let unscaled := r.value.mul (.scaled 1 10 (-k))
  let below := unscaled.num / unscaled.den
  let lower : Digits := { digits := below, exponent := k }
  let upper : Digits := { digits := below + 1, exponent := k }
  let twice := 2 * (unscaled.num % unscaled.den)
  match 0 < below && r.holds lower.value, r.holds upper.value with
  | true, true =>
    some (if twice < unscaled.den || (twice = unscaled.den && below % 2 = 0) then lower else upper)
  | true, false => some lower
  | false, true => some upper
  | false, false => none

/-- Tries grids with `count`, `count + 1`, … digits, `fuel` of them. -/
def Rounding.search (r : Rounding) (lead : Int) : Nat → Nat → Digits
  | 0, count =>
    let k := lead - (count - 1)
    let unscaled := r.value.mul (.scaled 1 10 (-k))
    { digits := unscaled.num / unscaled.den, exponent := k }
  | fuel + 1, count =>
    match r.onGrid? (lead - (count - 1)) with
    | some d => d
    | none => r.search lead fuel (count + 1)

/-- The shortest decimal form of a positive number. -/
def Binary.shortest (b : Binary) : Digits :=
  let r := b.rounding
  r.search (leadingExponent r.value) 17 1

/-- Digits without an exponent: zeros are filled in up to the point on either side. -/
def Digits.positional (d : Digits) : String :=
  let ds := Nat.toDigits 10 d.digits
  if 0 ≤ d.exponent then String.ofList (ds ++ List.replicate d.exponent.toNat '0')
  else
    let places := (-d.exponent).toNat
    let whole := ds.take (ds.length - places)
    let fraction := List.replicate (places - ds.length) '0' ++ ds.drop (ds.length - places)
    String.ofList ((if whole.isEmpty then ['0'] else whole) ++ '.' :: fraction)

/-- A non-negative finite number in its shortest form, without an exponent and without a point
where it is whole. -/
def positional (x : Float) : String :=
  match Binary.ofBits? (x.toBits.toNat % 0x8000000000000000) with
  | some b => b.shortest.positional
  | none => "0"

end ProxySync.Decimal
