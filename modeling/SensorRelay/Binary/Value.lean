/-! # Binary floating-point values

The values of a binary format, and the one way in which a number becomes one of them: it is given
exactly, as a ratio of integers times a power of two, and the nearest value of the format is taken, a
half going to the neighbour whose last bit is zero. Nothing but the integers is used, so all of it
can be evaluated in a proof. -/
namespace SensorRelay.Binary

/-- The finite values are `m * 2 ^ e` with `m < 2 ^ precision` and `least ≤ e ≤ greatest`. -/
structure Format where
  precision : Nat
  least : Int
  greatest : Int
deriving DecidableEq

/-- Four-byte values. -/
def Format.single : Format := ⟨24, -149, 104⟩

/-- Eight-byte values. -/
def Format.double : Format := ⟨53, -1074, 971⟩

/-- A value of format `F`. A finite value has the least exponent that its significand leaves room
for, so that every value but zero is written in one way; zero has a sign and the least exponent. -/
inductive Value (F : Format) where
  | nan
  | infinite (negative : Bool)
  | finite (negative : Bool) (significand : Nat) (exponent : Int)
deriving DecidableEq

abbrev Single := Value .single
abbrev Double := Value .double

/-- The integer nearest to `n / d`, a half going to the even neighbour. -/
def nearest (n d : Nat) : Nat :=
  let q := n / d
  let twice := 2 * (n % d)
  if twice < d then q else if d < twice then q + 1 else q + q % 2

/-- The greatest integer `k` with `2 ^ k ≤ n / d`, both being positive. -/
def ratioLog (n d : Nat) : Int :=
  let k : Int := (n.log2 : Int) - d.log2
  if d <<< k.toNat ≤ n <<< (-k).toNat then k else k - 1

/-- The exponent at which a quotient `n / d * 2 ^ e` is rounded: its leading bit takes the first of
the format's places, unless that would pass the least exponent. -/
def Format.unit (F : Format) (n d : Nat) (e : Int) : Int :=
  max F.least (ratioLog n d + e + 1 - F.precision)

/-- The value nearest to `n / d * 2 ^ e`, with the given sign. -/
def Format.round (F : Format) (negative : Bool) (n d : Nat) (e : Int) : Value F :=
  if n = 0 then .finite negative 0 F.least
  else
    let u := F.unit n d e
    let m := nearest (n <<< (e - u).toNat) (d <<< (u - e).toNat)
    let carried := m = 1 <<< F.precision
    let u := if carried then u + 1 else u
    let m := if carried then m / 2 else m
    if F.greatest < u then .infinite negative else .finite negative m u

namespace Value
variable {F : Format}

def zero (negative : Bool) : Value F := .finite negative 0 F.least

def ofNat (n : Nat) : Value F := F.round false n 1 0

def ofInt (n : Int) : Value F := F.round (decide (n < 0)) n.natAbs 1 0

/-- The value nearest to `± digits * 10 ^ k`. -/
def ofDecimal (negative : Bool) (digits : Nat) (k : Int) : Value F :=
  F.round negative (digits * Nat.pow 10 k.toNat) (Nat.pow 10 (-k).toNat) 0

/-- The same number in another format, rounded. -/
def convert (G : Format) : Value F → Value G
  | .nan => .nan
  | .infinite s => .infinite s
  | .finite s m e => G.round s m 1 e

end Value

end SensorRelay.Binary
