/-! # Numerals of a JSON text -/
namespace SensorRelay.Json

/-- A decimal digit. -/
abbrev Digit := Fin 10

/-- A numeral as it is written. The whole part is not empty, and neither are the others if they are
there. -/
structure Numeral where
  negative : Bool
  whole : List Digit
  fraction : Option (List Digit)
  /-- Whether the exponent has a minus, and its digits. -/
  exponent : Option (Bool × List Digit)
deriving DecidableEq

def digit? (c : Char) : Option Digit :=
  if h : '0'.toNat ≤ c.toNat ∧ c.toNat ≤ '9'.toNat then
    some ⟨c.toNat - '0'.toNat, by have := h.1; have := h.2; simp at *; omega⟩
  else none

/-- The digits at the front of a text, and the rest. -/
def digits : List Char → List Digit × List Char
  | [] => ([], [])
  | c :: rest => match digit? c with
    | some d => let (ds, rest) := digits rest; (d :: ds, rest)
    | none => ([], c :: rest)

/-- A whole part: one zero, or digits that start with another one. -/
def whole? (text : List Char) : Option (List Digit × List Char) :=
  match digits text with
  | ([], _) => none
  | ([d], rest) => some ([d], rest)
  | (d :: ds, rest) => if d = 0 then none else some (d :: ds, rest)

/-- The digits behind a point, if there is one. -/
def fraction? : List Char → Option (Option (List Digit) × List Char)
  | '.' :: text => match digits text with
    | ([], _) => none
    | (ds, rest) => some (some ds, rest)
  | text => some (none, text)

/-- An exponent's sign, true for a minus. -/
def exponentSign : List Char → Bool × List Char
  | '-' :: rest => (true, rest)
  | '+' :: rest => (false, rest)
  | rest => (false, rest)

def exponent? : List Char → Option (Option (Bool × List Digit) × List Char)
  | [] => some (none, [])
  | c :: text =>
    if c = 'e' ∨ c = 'E' then
      let (minus, text) := exponentSign text
      match digits text with
      | ([], _) => none
      | (ds, rest) => some (some (minus, ds), rest)
    else some (none, c :: text)

/-- A numeral behind its sign. -/
def numeral? (negative : Bool) (text : List Char) : Option (Numeral × List Char) := do
  let (whole, text) ← whole? text
  let (fraction, text) ← fraction? text
  let (exponent, text) ← exponent? text
  return (⟨negative, whole, fraction, exponent⟩, text)

theorem digits_length (text : List Char) : (digits text).2.length ≤ text.length := by
  induction text with
  | nil => simp [digits]
  | cons c rest ih =>
    unfold digits
    split
    · exact Nat.le_succ_of_le ih
    · simp

theorem digits_length_lt {text rest : List Char} {d : Digit} {ds : List Digit}
    (h : digits text = (d :: ds, rest)) : rest.length < text.length := by
  cases text with
  | nil => cases h
  | cons c s =>
    unfold digits at h
    split at h
    · have := digits_length s
      cases h
      exact Nat.lt_succ_of_le this
    · cases h

theorem whole?_length {text rest : List Char} {ds : List Digit} (h : whole? text = some (ds, rest)) :
    rest.length < text.length := by
  unfold whole? at h
  split at h
  · cases h
  · rename_i hd
    cases h
    exact digits_length_lt hd
  · rename_i hd
    split at h <;> cases h
    exact digits_length_lt hd

theorem fraction?_length {text rest : List Char} {ds : Option (List Digit)}
    (h : fraction? text = some (ds, rest)) : rest.length ≤ text.length := by
  unfold fraction? at h
  split at h
  · rename_i s
    have := digits_length s
    split at h
    · cases h
    · rename_i hd
      rw [hd] at this
      cases h
      exact Nat.le_succ_of_le this
  · cases h
    exact Nat.le_refl _

theorem exponentSign_length (text : List Char) : (exponentSign text).2.length ≤ text.length := by
  unfold exponentSign
  split <;> simp

theorem exponent?_length {text rest : List Char} {e : Option (Bool × List Digit)}
    (h : exponent? text = some (e, rest)) : rest.length ≤ text.length := by
  unfold exponent? at h
  split at h
  · cases h
    exact Nat.le_refl _
  · rename_i s
    split at h
    · have hs := exponentSign_length s
      have hd := digits_length (exponentSign s).2
      simp only at h
      split at h
      · cases h
      · rename_i hq
        rw [hq] at hd
        cases h
        simp only [List.length_cons] at hs hd ⊢
        omega
    · cases h
      exact Nat.le_refl _

theorem numeral?_length {negative : Bool} {text rest : List Char} {n : Numeral}
    (h : numeral? negative text = some (n, rest)) : rest.length < text.length := by
  unfold numeral? at h
  cases hw : whole? text with
  | none => simp [hw] at h
  | some w =>
    cases hf : fraction? w.2 with
    | none => simp [hw, hf] at h
    | some f =>
      cases he : exponent? f.2 with
      | none => simp [hw, hf, he] at h
      | some e =>
        simp only [hw, hf, he, Option.bind_eq_bind, Option.bind_some, Option.pure_def,
          Option.some.injEq, Prod.mk.injEq] at h
        rw [← h.2]
        exact Nat.lt_of_le_of_lt (exponent?_length he)
          (Nat.lt_of_le_of_lt (fraction?_length hf) (whole?_length hw))

end SensorRelay.Json
