import SensorRelay.Binary.Value

/-! # Arithmetic and order of binary floating-point values

Every operation computes its exact result and rounds it once. -/
namespace SensorRelay.Binary

namespace Value
variable {F : Format}

def neg : Value F → Value F
  | .nan => .nan
  | .infinite s => .infinite (!s)
  | .finite s m e => .finite (!s) m e

/-- `± m * 2 ^ e` as a multiple of `2 ^ u`, for `u ≤ e`. -/
def scaled (negative : Bool) (m : Nat) (e u : Int) : Int :=
  let n : Int := m <<< (e - u).toNat
  if negative then -n else n

/-- A sum of zero is positive unless both terms are negative. -/
def add : Value F → Value F → Value F
  | .nan, _ => .nan
  | _, .nan => .nan
  | .infinite s, .infinite t => if s = t then .infinite s else .nan
  | .infinite s, .finite .. => .infinite s
  | .finite .., .infinite t => .infinite t
  | .finite s m e, .finite t n f =>
    let u := min e f
    let sum := scaled s m e u + scaled t n f u
    if sum = 0 then .zero (s && t) else F.round (decide (sum < 0)) sum.natAbs 1 u

def sub (a b : Value F) : Value F := a.add b.neg

def mul : Value F → Value F → Value F
  | .nan, _ => .nan
  | _, .nan => .nan
  | .infinite s, .infinite t => .infinite (s ^^ t)
  | .infinite s, .finite t n _ => if n = 0 then .nan else .infinite (s ^^ t)
  | .finite s m _, .infinite t => if m = 0 then .nan else .infinite (s ^^ t)
  | .finite s m e, .finite t n f => F.round (s ^^ t) (m * n) 1 (e + f)

def div : Value F → Value F → Value F
  | .nan, _ => .nan
  | _, .nan => .nan
  | .infinite _, .infinite _ => .nan
  | .infinite s, .finite t _ _ => .infinite (s ^^ t)
  | .finite s _ _, .infinite t => .zero (s ^^ t)
  | .finite s m e, .finite t n f =>
    if n = 0 then if m = 0 then .nan else .infinite (s ^^ t)
    else F.round (s ^^ t) m n (e - f)

instance : Neg (Value F) := ⟨neg⟩
instance : Add (Value F) := ⟨add⟩
instance : Sub (Value F) := ⟨sub⟩
instance : Mul (Value F) := ⟨mul⟩
instance : Div (Value F) := ⟨div⟩

/-- Numeric order: false as soon as one side is not a number, and the two zeros are equal. -/
def less : Value F → Value F → Bool
  | .nan, _ => false
  | _, .nan => false
  | .infinite s, .infinite t => s && !t
  | .infinite s, .finite .. => s
  | .finite .., .infinite t => !t
  | .finite s m e, .finite t n f =>
    let u := min e f
    decide (scaled s m e u < scaled t n f u)

/-- Numeric equality: not a number differs from itself, and the two zeros are equal. -/
def same : Value F → Value F → Bool
  | .nan, _ => false
  | _, .nan => false
  | a, b => !a.less b && !b.less a

def isFinite : Value F → Bool
  | .finite .. => true
  | _ => false

def isNaN : Value F → Bool
  | .nan => true
  | _ => false

/-- `m * 2 ^ e` cut to an integer. -/
def cut (m : Nat) (e : Int) : Nat := m <<< e.toNat >>> (-e).toNat

/-- The nearest integer, a half going away from zero; the sign stays on a zero. -/
def roundAway : Value F → Value F
  | .finite s m e => if 0 ≤ e then .finite s m e else F.round s ((cut (2 * m) e + 1) / 2) 1 0
  | a => a

/-- The integer nearest to the value, a half going to the even neighbour; zero unless finite. -/
def toIntEven : Value F → Int
  | .finite s m e =>
    let n : Int := nearest (m <<< e.toNat) (1 <<< (-e).toNat)
    if s then -n else n
  | _ => 0

/-- The value moved into `lo .. hi`; not a number stays as it is. -/
def clamp (a lo hi : Value F) : Value F :=
  let a := if a.less lo then lo else a
  if hi.less a then hi else a

/-- The value cut to an integer and moved into the range of two bytes; not a number gives zero. -/
def toUInt16 : Value F → UInt16
  | .nan => 0
  | .infinite s => if s then 0 else 65535
  | .finite s m e => if s then 0 else UInt16.ofNat (min (cut m e) 65535)

/-- The interchange encoding without its sign bit: the exponent above the `precision - 1` low bits
of the significand. Not a number is written with the highest of those bits alone. -/
def magnitudeBits : Value F → Nat
  | .nan => ((F.greatest - F.least + 2).toNat <<< (F.precision - 1)) + 1 <<< (F.precision - 2)
  | .infinite _ => (F.greatest - F.least + 2).toNat <<< (F.precision - 1)
  | .finite _ m e => ((e - F.least).toNat <<< (F.precision - 1)) + m

def isNegative : Value F → Bool
  | .nan => false
  | .infinite s => s
  | .finite s _ _ => s

end Value

/-- The four bytes of the interchange encoding. -/
def Value.toBits (a : Single) : UInt32 :=
  UInt32.ofNat ((if a.isNegative then 1 <<< 31 else 0) + a.magnitudeBits)

end SensorRelay.Binary
