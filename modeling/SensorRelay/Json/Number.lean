import SensorRelay.Binary.Arithmetic
import SensorRelay.Json.Numeral

/-! # Numbers of a JSON text

A numeral is a whole number where it is written as one that fits eight bytes, and otherwise an
eight-byte value, which is not always right to the last bit: leading digits are gathered as long as
they fit eight bytes, later ones only count or are passed over, and the result is multiplied or
divided by a power of ten. -/
namespace SensorRelay.Json

open Binary

/-- A number read from a numeral. -/
inductive Number where
  /-- Not negative, below `2 ^ 64`. -/
  | natural (n : Nat)
  /-- Negative, not below `- 2 ^ 63`. -/
  | negative (n : Int)
  | real (x : Double)
deriving DecidableEq

/-- Adds digits to a number while it stays below `2 ^ 64`, and gives the digits left over. -/
def gather (n : Nat) : List Digit → Nat × List Digit
  | [] => (n, [])
  | d :: rest => if n * 10 + d.val < UInt64.size then gather (n * 10 + d.val) rest else (n, d :: rest)

/-- The greatest power of ten in one multiplication or division. -/
def maxPower : Nat := 308

def powerOfTen (k : Nat) : Double := .ofNat (Nat.pow 10 k)

/-- `x / 10 ^ k` in steps of the greatest power; `steps` bounds their number. -/
def divide (x : Double) (k : Nat) : Nat → Double
  | 0 => x
  | steps + 1 =>
    if k ≤ maxPower then x / powerOfTen k
    else if x.same (.zero false) then x
    else divide (x / powerOfTen maxPower) (k - maxPower) steps

/-- `n * 10 ^ k`, unless it is too large. A value of eight bytes is zero after three of the steps
down. -/
def scale (n : Nat) (k : Int) : Option Double :=
  if k < 0 then some (divide (.ofNat n) k.natAbs 4)
  else if k.toNat ≤ maxPower then
    let x := .ofNat n * powerOfTen k.toNat
    if x.isFinite then some x else none
  else if n = 0 then some (.zero false)
  else none

/-- The greatest exponent that can be written out; beyond it only its sign counts. -/
def maxExponent : Nat := 0x7fffffff

/-- The value of digits, unless it passes the greatest exponent. -/
def exponentOf (digits : List Digit) : Option Nat :=
  let n := digits.foldl (fun n d => min (n * 10 + d.val) (maxExponent + 1)) 0
  if n ≤ maxExponent then some n else none

/-- `n * 10 ^ k` with a written exponent added to `k`. -/
def scaleBy (n : Nat) (k : Int) : Option (Bool × List Digit) → Option Double
  | none => scale n k
  | some (minus, digits) =>
    match exponentOf digits with
    | some e =>
      let k := if minus then k - e else k + e
      scale n (max (-maxExponent - 1) (min k maxExponent))
    | none => if n ≠ 0 ∧ !minus then none else some (.zero false)

/-- The greatest whole number that can be negated in eight bytes. -/
def maxNegated : Nat := 0x8000000000000000

namespace Numeral

/-- The numeral without its sign as an eight-byte value, unless it is too large. -/
def magnitude (n : Numeral) : Option Double :=
  let (significand, passed) := gather 0 n.whole
  let (significand, used) := match n.fraction with
    | none => (significand, 0)
    | some digits =>
      let (significand, passed) := gather significand digits
      (significand, digits.length - passed.length)
  scaleBy significand (passed.length - used) n.exponent

/-- Reads a numeral, unless it is too large for eight bytes. -/
def read (n : Numeral) : Option Number :=
  let (whole, passed) := gather 0 n.whole
  if passed = [] ∧ n.fraction = none ∧ n.exponent = none ∧ (!n.negative ∨ 0 < whole ∧ whole ≤ maxNegated)
  then some (if n.negative then .negative (-whole) else .natural whole)
  else n.magnitude.map fun x => .real (if n.negative then -x else x)

end Numeral

end SensorRelay.Json
