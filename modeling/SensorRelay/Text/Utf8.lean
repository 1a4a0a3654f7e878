/-! # Reading UTF-8

Bytes are read as a list of characters, with a gap for every run of bytes that starts like a
character and is not one. A gap is as long as it can be read as the start of a character, and at
least one byte. -/
namespace SensorRelay.Text.Utf8

/-- What the first byte of a character tells: its share of the code point, the number of bytes that
follow, and the range of the first of them. -/
structure Lead where
  value : Nat
  following : Nat
  low : UInt8 := 0x80
  high : UInt8 := 0xbf

/-- The first bytes of characters. The ranges leave out longer spellings of short characters, the
surrogates and what lies past the last code point. -/
def lead? (b : UInt8) : Option Lead :=
  if b < 0x80 then some { value := b.toNat, following := 0 }
  else if b < 0xc2 then none
  else if b < 0xe0 then some { value := b.toNat % 32, following := 1 }
  else if b = 0xe0 then some { value := 0, following := 2, low := 0xa0 }
  else if b = 0xed then some { value := 13, following := 2, high := 0x9f }
  else if b < 0xf0 then some { value := b.toNat % 16, following := 2 }
  else if b = 0xf0 then some { value := 0, following := 3, low := 0x90 }
  else if b < 0xf4 then some { value := b.toNat % 8, following := 3 }
  else if b = 0xf4 then some { value := 4, following := 3, high := 0x8f }
  else none

/-- Reads `n` more bytes of a code point, the first of them in `low .. high`, and gives what stands
behind the bytes that fit. -/
def follow (value : Nat) : Nat → UInt8 → UInt8 → List UInt8 → Option Nat × List UInt8
  | 0, _, _, rest => (some value, rest)
  | _ + 1, _, _, [] => (none, [])
  | n + 1, low, high, b :: rest =>
    if low ≤ b ∧ b ≤ high then follow (value * 64 + b.toNat % 64) n 0x80 0xbf rest
    else (none, b :: rest)

theorem follow_length (value n : Nat) (low high : UInt8) (bytes : List UInt8) :
    (follow value n low high bytes).2.length ≤ bytes.length := by
  induction n generalizing value low high bytes with
  | zero => simp [follow]
  | succ n ih =>
    cases bytes with
    | nil => simp [follow]
    | cons b rest =>
      unfold follow
      split
      · exact Nat.le_succ_of_le (ih ..)
      · simp

/-- The character or gap at the front, and the bytes behind it. -/
def next (b : UInt8) (rest : List UInt8) : Option Char × List UInt8 :=
  match lead? b with
  | none => (none, rest)
  | some l => let (value, rest) := follow l.value l.following l.low l.high rest
    (value.map Char.ofNat, rest)

theorem next_length (b : UInt8) (rest : List UInt8) : (next b rest).2.length ≤ rest.length := by
  unfold next
  split
  · simp
  · exact follow_length ..

/-- The characters and gaps of `bytes`. -/
def read : List UInt8 → List (Option Char)
  | [] => []
  | b :: rest =>
    have := next_length b rest
    (next b rest).1 :: read (next b rest).2
termination_by bytes => bytes.length
decreasing_by simp only [List.length_cons]; omega

/-- The text, if there are no gaps. -/
def decode? (bytes : List UInt8) : Option (List Char) := (read bytes).mapM id

/-- The text, with the replacement character in every gap. -/
def decodeLossy (bytes : List UInt8) : List Char := (read bytes).map (·.getD '\ufffd')

end SensorRelay.Text.Utf8
