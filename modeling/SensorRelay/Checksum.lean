/-! # Cyclic redundancy checks

Remainders of a message, read as a polynomial over the two-element field, modulo a generator. Each is
a shift register: seven bits fed one at a time, sixteen bits fed a byte at the top, and thirty-two
bits in reversed order fed a byte at the bottom. -/
namespace SensorRelay.Checksum

/-- `f` applied `n` times. -/
def times {α : Type} (f : α → α) : Nat → α → α
  | 0, a => a
  | n + 1, a => times f n (f a)

/-- The low terms of `x ^ 7 + x ^ 3 + 1`. -/
def generator7 : UInt8 := 0x09

/-- Feeds one bit to a register of seven. -/
def feed7 (register : UInt8) (bit : Bool) : UInt8 :=
  let top := register >>> 6 &&& 1 == 1
  let shifted := register <<< 1 &&& 0x7f
  if bit ^^ top then shifted ^^^ generator7 else shifted

/-- The bits of a byte, the highest first. -/
def bitsHighFirst (byte : UInt8) : List Bool :=
  [7, 6, 5, 4, 3, 2, 1, 0].map fun i => byte >>> i &&& 1 == 1

/-- The check of short commands and telemetry chunks; the value has seven bits. -/
def crc7 (bytes : List UInt8) : UInt8 :=
  bytes.foldl (fun register byte => (bitsHighFirst byte).foldl feed7 register) 0

/-- The low terms of `x ^ 16 + x ^ 12 + x ^ 5 + 1`. -/
def generator16 : UInt16 := 0x1021

def shift16 (register : UInt16) : UInt16 :=
  if register &&& 0x8000 != 0 then register <<< 1 ^^^ generator16 else register <<< 1

/-- The check of register blocks. -/
def crc16 (bytes : List UInt8) : UInt16 :=
  bytes.foldl (fun register byte => times shift16 8 (register ^^^ (byte.toUInt16 <<< (8 : UInt16)))) 0xffff

/-- The low terms of the generator of degree 32, from the constant term at the highest bit to
`x ^ 31` at the lowest. -/
def generator32 : UInt32 := 0xedb88320

def shift32 (register : UInt32) : UInt32 :=
  if register &&& 1 != 0 then register >>> 1 ^^^ generator32 else register >>> 1

/-- The check of decoded frames. -/
def crc32 (bytes : List UInt8) : UInt32 :=
  ~~~bytes.foldl (fun register byte => times shift32 8 (register ^^^ byte.toUInt32)) 0xffffffff

end SensorRelay.Checksum
