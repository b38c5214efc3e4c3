/-!
# Double-precision numbers

A double is its sixty-four bits; every operation here is exact arithmetic on natural numbers
followed by one rounding, so results do not depend on the machine. `Double.round` takes a quotient to
the nearest double, a tie to the even one. `Double.text` writes the fewest digits that round back to
the number: positionally from a ten-thousandth up to ten to the sixteenth, otherwise with an
exponent of at least two digits.
-/
namespace ClusterAccess

structure Double where
  bits : UInt64
  deriving DecidableEq, Repr

namespace Double

def isNegative (x : Double) : Bool := x.bits ≥ 0x8000000000000000

/-- The bits without the sign. -/
def magnitude (x : Double) : Nat := x.bits.toNat % Nat.pow 2 63

def infinityBits : Nat := 2047 * Nat.pow 2 52

def isFinite (x : Double) : Bool := x.magnitude < infinityBits

def isNaN (x : Double) : Bool := infinityBits < x.magnitude

def isZero (x : Double) : Bool := x.magnitude == 0

def ofMagnitude (negative : Bool) (magnitude : Nat) : Double :=
  ⟨UInt64.ofNat (magnitude + if negative then Nat.pow 2 63 else 0)⟩

def infinity (negative : Bool) : Double := ofMagnitude negative infinityBits

def nan : Double := ofMagnitude false (2047 * Nat.pow 2 52 + Nat.pow 2 51)

/-- A finite double is `m * 2 ^ (e - 1074)` in absolute value, for `significand x = (m, e)`. -/
def significand (x : Double) : Nat × Nat :=
  let e := x.magnitude / Nat.pow 2 52
  let m := x.magnitude % Nat.pow 2 52
  if e = 0 then (m, 0) else (m + Nat.pow 2 52, e - 1)

/-- The quotient rounded to an integer, a tie to the even one. -/
def roundDiv (num den : Nat) : Nat :=
  let q := num / den
  let r := num % den
  if 2 * r > den ∨ (2 * r = den ∧ q % 2 = 1) then q + 1 else q

/-- The double nearest to `num / den`. -/
def round (negative : Bool) (num den : Nat) : Double :=
  if num = 0 then ofMagnitude negative 0
  else
    -- `num / den` lies strictly between `2 ^ (scale - 1075)` and `2 ^ (scale - 1073)`
    let scale : Int := (num.log2 : Int) - den.log2 + 1074
    -- the unit of the result is `2 ^ (unit - 1074)`
    let low := (scale - 53).toNat
    let fits (unit : Nat) : Bool := num * Nat.pow 2 1074 < den * Nat.pow 2 (unit + 53)
    let unit := if fits low then low else low + 1
    let m := roundDiv (num * Nat.pow 2 1074) (den * Nat.pow 2 unit)
    let bits := m + unit * Nat.pow 2 52
    if unit = 0 ∧ m < Nat.pow 2 52 then ofMagnitude negative m
    else if bits < infinityBits then ofMagnitude negative bits else infinity negative

/-- The double nearest to `digits * 10 ^ exponent`. -/
def ofDecimal (negative : Bool) (digits : Nat) (exponent : Int) : Double :=
  let size : Int := exponent + (Nat.log2 digits : Int) * 30103 / 100000
  if digits = 0 ∨ size < -400 then ofMagnitude negative 0
  else if size > 400 then infinity negative
  else if exponent < 0 then round negative digits (Nat.pow 10 (-exponent).toNat)
  else round negative (digits * Nat.pow 10 exponent.toNat) 1

/-- The double nearest to an integer. -/
def ofInt (i : Int) : Double := round (i < 0) i.natAbs 1

/-- The integer that a double equals, if it equals one. -/
def toInt? (x : Double) : Option Int :=
  if x.isFinite then
    let (m, e) := x.significand
    let num := m * Nat.pow 2 e
    if num % Nat.pow 2 1074 = 0 then
      let n : Int := num / Nat.pow 2 1074
      some (if x.isNegative then -n else n)
    else none
  else none

/-- A finite double as a numerator over `2 ^ 1074`. -/
def numerator (x : Double) : Int :=
  let (m, e) := x.significand
  let n : Int := (m * Nat.pow 2 e : Nat)
  if x.isNegative then -n else n

def add (x y : Double) : Double :=
  if x.isNaN || y.isNaN then nan
  else if !x.isFinite then (if y.isFinite || x == y then x else nan)
  else if !y.isFinite then y
  else
    let n := x.numerator + y.numerator
    round (if n = 0 then x.isNegative && y.isNegative else n < 0) n.natAbs (Nat.pow 2 1074)

def mul (x y : Double) : Double :=
  let negative := x.isNegative != y.isNegative
  if x.isNaN || y.isNaN then nan
  else if !x.isFinite || !y.isFinite then (if x.isZero || y.isZero then nan else infinity negative)
  else round negative (x.numerator.natAbs * y.numerator.natAbs) (Nat.pow 2 2148)

def neg (x : Double) : Double := ofMagnitude (!x.isNegative) x.magnitude

/-- Equality of numbers: the two zeros are equal and a NaN is equal to nothing. -/
def sameNumber (x y : Double) : Bool :=
  !x.isNaN && !y.isNaN && (x == y || (x.isZero && y.isZero))

/-- The numbers that round to a finite double: the double and the two ends, over `2 ^ 1076`, and
whether the ends belong to them. -/
structure Interval where
  value : Nat
  low : Nat
  high : Nat
  closed : Bool

def interval (x : Double) : Interval :=
  let (m, e) := x.significand
  let half := if m = Nat.pow 2 52 ∧ 0 < e then 1 else 2
  ⟨4 * m * Nat.pow 2 e, (4 * m - half) * Nat.pow 2 e, (4 * m + 2) * Nat.pow 2 e, m % 2 == 0⟩

def Interval.holds (i : Interval) (num : Nat) : Bool :=
  if i.closed then i.low ≤ num && num ≤ i.high else i.low < num && num < i.high

/-- The least `k` between `from` and `from + count` with `value < 10 ^ k`, over `2 ^ 1076`. -/
def decimalSize (value : Nat) (start : Int) : (count : Nat) → Int
  | 0 => start
  | count + 1 =>
    let below : Bool := if start < 0 then value * Nat.pow 10 (-start).toNat < Nat.pow 2 1076
      else value < Nat.pow 10 start.toNat * Nat.pow 2 1076
    if below then start else decimalSize value (start + 1) count

/-- The fewest digits that round back to the number, and the power of ten that they count. The first
grid of `n` digits with a point in the interval is taken, and on it the point next to the number. -/
def shortestFrom (i : Interval) (size : Int) (n : Nat) : (more : Nat) → Nat × Int
  | 0 => (0, 0)
  | more + 1 =>
    let exponent := size - n
    -- the grid's step is `up / down` over `2 ^ 1076`
    let up := Nat.pow 10 exponent.toNat * Nat.pow 2 1076
    let down := Nat.pow 10 (-exponent).toNat
    let below := i.value * down / up
    let hit (d : Nat) : Bool :=
      { i with low := i.low * down, high := i.high * down : Interval }.holds (d * up)
    let roundUp := 2 * (i.value * down % up) > up ∨ (2 * (i.value * down % up) = up ∧ below % 2 = 1)
    match hit below, hit (below + 1) with
    | true, true => (if roundUp then below + 1 else below, exponent)
    | true, false => (below, exponent)
    | false, true => (below + 1, exponent)
    | false, false => shortestFrom i size (n + 1) more

def shortest (x : Double) : Nat × Int :=
  let i := x.interval
  let start := ((i.value.log2 : Int) - 1076) * 1233 / 4096 - 1
  shortestFrom i (decimalSize i.value start 4) 1 17

def dropTrailingZeros (ds : List Char) : List Char := (ds.reverse.dropWhile (· == '0')).reverse

/-- Digits with the point after the first `point` of them. -/
def layout (ds : List Char) (point : Int) : List Char :=
  if -4 < point ∧ point ≤ 16 then
    if point ≤ 0 then '0' :: '.' :: List.replicate (-point).toNat '0' ++ ds
    else
      let p := point.toNat
      let whole := (ds ++ List.replicate (p - ds.length) '0').take p
      let rest := ds.drop p
      whole ++ '.' :: (if rest.isEmpty then ['0'] else rest)
  else
    let e := point - 1
    let power := (toString e.natAbs).toList
    ds.take 1 ++ (if ds.length = 1 then [] else '.' :: ds.drop 1) ++
      'e' :: (if e < 0 then '-' else '+') :: (if power.length < 2 then '0' :: power else power)

/-- The shortest text that reads back as the number. -/
def text (x : Double) : String :=
  let sign := if x.isNegative then "-" else ""
  if x.isNaN then "nan"
  else if !x.isFinite then sign ++ "inf"
  else if x.isZero then sign ++ "0.0"
  else
    let (d, e) := x.shortest
    let ds := (toString d).toList
    sign ++ String.ofList (layout (dropTrailingZeros ds) (e + ds.length))

end Double

end ClusterAccess
