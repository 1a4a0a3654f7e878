import SensorRelay.Binary.Arithmetic

/-! # The exponential of a four-byte value

`x` is split as `(k + r) * log 2 / 32` with an integer `k` and `|r| ≤ 1 / 2`. Then `exp x` is
`2 ^ (k / 32)`, whose fractional part comes from a table, times a cubic in `r`. All of it is done in
eight-byte values, and the product is rounded to four bytes. -/
namespace SensorRelay.Binary

/-- The significands of `2 ^ (i / 32)` for `i < 32`, each the nearest of 53 bits. -/
def rootSignificands : Array Nat := #[
  0x10000000000000, 0x1059b0d3158574, 0x10b5586cf9890f, 0x111301d0125b51,
  0x1172b83c7d517b, 0x11d4873168b9aa, 0x12387a6e756238, 0x129e9df51fdee1,
  0x1306fe0a31b715, 0x1371a7373aa9cb, 0x13dea64c123422, 0x144e086061892d,
  0x14bfdad5362a27, 0x15342b569d4f82, 0x15ab07dd485429, 0x16247eb03a5585,
  0x16a09e667f3bcd, 0x171f75e8ec5f74, 0x17a11473eb0187, 0x182589994cce13,
  0x18ace5422aa0db, 0x193737b0cdc5e5, 0x19c49182a3f090, 0x1a5503b23e255d,
  0x1ae89f995ad3ad, 0x1b7f76f2fb5e47, 0x1c199bdd85529c, 0x1cb720dcef9069,
  0x1d5818dcfba487, 0x1dfc97337b9b5f, 0x1ea4afa2a490da, 0x1f50765b6e4540]

namespace Exp

/-- `32 / log 2`. -/
def slope : Double := .finite false 0x171547652b82fe (-47)

/-- The coefficients of `2 ^ (r / 32)` at `r`, `r ^ 2` and `r ^ 3`. -/
def linear : Double := .finite false 0x162e42ff0c52d6 (-58)
def quadratic : Double := .finite false 0x1ebfce50fac4f3 (-65)
def cubic : Double := .finite false 0x1c6af84b912394 (-72)

def one : Double := .finite false 0x10000000000000 (-52)

/-- Above this the exponential overflows. -/
def upper : Single := .finite false 0xb17217 (-17)

/-- Below this the exponential rounds to zero. -/
def lower : Single := .finite true 0xcff1b4 (-17)

/-- `2 ^ (k / 32)`: the whole part of `k / 32` is an exponent, the rest is looked up. -/
def root (k : Int) : Double :=
  .finite false (rootSignificands.getD (k % 32).toNat 0) (k / 32 - 52)

end Exp

open Exp in
def Value.exp (x : Single) : Single :=
  if x.isNaN then .nan
  else if upper.less x then .infinite false
  else if x.less lower then .zero false
  else
    let z := slope * x.convert .double
    let k := z.toIntEven
    let r := z - .ofInt k
    let y := (cubic * r + quadratic) * (r * r) + (linear * r + one)
    (y * root k).convert .single

end SensorRelay.Binary
