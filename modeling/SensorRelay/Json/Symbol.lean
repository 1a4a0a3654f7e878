/-! # Strings of a JSON text -/
namespace SensorRelay.Json

/-- A character of a JSON string, or half of one: an escape can name half of a pair without its other
half. -/
inductive Symbol where
  | char (c : Char)
  | half (code : UInt16)
deriving DecidableEq

def hexDigit? (c : Char) : Option Nat :=
  if '0' ≤ c ∧ c ≤ '9' then some (c.toNat - '0'.toNat)
  else if 'a' ≤ c ∧ c ≤ 'f' then some (c.toNat - 'a'.toNat + 10)
  else if 'A' ≤ c ∧ c ≤ 'F' then some (c.toNat - 'A'.toNat + 10)
  else none

/-- The characters of the escapes with one letter. -/
def escapeChar? : Char → Option Char
  | '"' => some '"'
  | '\\' => some '\\'
  | '/' => some '/'
  | 'b' => some '\x08'
  | 'f' => some '\x0c'
  | 'n' => some '\n'
  | 'r' => some '\r'
  | 't' => some '\t'
  | _ => none

/-- A code of four hexadecimal digits: a character, or half of a pair. -/
def ofCode (code : Nat) : Symbol :=
  if 0xd800 ≤ code ∧ code < 0xe000 then .half (UInt16.ofNat code) else .char (Char.ofNat code)

/-- The symbols of a string up to its closing quote, and the text behind that. -/
def symbols? : List Char → Option (List Symbol × List Char)
  | [] => none
  | '"' :: rest => some ([], rest)
  | '\\' :: 'u' :: a :: b :: c :: d :: rest => do
    let code := (← hexDigit? a) * 4096 + (← hexDigit? b) * 256 + (← hexDigit? c) * 16 + (← hexDigit? d)
    let (symbols, rest) ← symbols? rest
    return (ofCode code :: symbols, rest)
  | '\\' :: e :: rest => do
    let c ← escapeChar? e
    let (symbols, rest) ← symbols? rest
    return (.char c :: symbols, rest)
  | c :: rest =>
    if c = '\\' ∨ c.toNat < 0x20 then none
    else do
      let (symbols, rest) ← symbols? rest
      return (.char c :: symbols, rest)

/-- Joins the halves that stand as a pair, the high one first. -/
def joinHalves : List Symbol → List Symbol
  | .half high :: .half low :: rest =>
    if high < 0xdc00 ∧ 0xdc00 ≤ low then
      .char (Char.ofNat (0x10000 + (high.toNat - 0xd800) * 1024 + (low.toNat - 0xdc00))) ::
        joinHalves rest
    else .half high :: joinHalves (.half low :: rest)
  | s :: rest => s :: joinHalves rest
  | [] => []

theorem symbols?_length {text rest : List Char} {symbols : List Symbol}
    (h : symbols? text = some (symbols, rest)) : rest.length ≤ text.length := by
  fun_induction symbols? text generalizing symbols with
  | case1 => cases h
  | case2 r => cases h; simp
  | case3 a b c d r ih =>
    simp only [Option.bind_eq_bind, Option.bind_eq_some_iff, Option.pure_def, Option.some.injEq,
      Prod.mk.injEq, Prod.exists] at h
    obtain ⟨_, _, _, _, _, _, _, _, ss, r', hr, _, rfl⟩ := h
    have := ih hr
    simp only [List.length_cons]
    omega
  | case4 e r _ ih =>
    simp only [Option.bind_eq_bind, Option.bind_eq_some_iff, Option.pure_def, Option.some.injEq,
      Prod.mk.injEq, Prod.exists] at h
    obtain ⟨_, _, ss, r', hr, _, rfl⟩ := h
    have := ih hr
    simp only [List.length_cons]
    omega
  | case5 => cases h
  | case6 c r _ _ _ _ ih =>
    simp only [Option.bind_eq_bind, Option.bind_eq_some_iff, Option.pure_def, Option.some.injEq,
      Prod.mk.injEq, Prod.exists] at h
    obtain ⟨ss, r', hr, _, rfl⟩ := h
    have := ih hr
    simp only [List.length_cons]
    omega

/-- The text of a string, unless it holds half of a pair. -/
def text? (symbols : List Symbol) : Option (List Char) :=
  symbols.mapM fun
    | .char c => some c
    | .half _ => none

end SensorRelay.Json
