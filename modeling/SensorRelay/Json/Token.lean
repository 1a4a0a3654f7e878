import SensorRelay.Json.Numeral
import SensorRelay.Json.Symbol

/-! # Tokens of a JSON text -/
namespace SensorRelay.Json

inductive Token where
  | openArray
  | closeArray
  | openObject
  | closeObject
  | comma
  | colon
  | null
  | bool (b : Bool)
  | number (n : Numeral)
  | string (symbols : List Symbol)
deriving DecidableEq

/-- The blanks between tokens. -/
def isGap (c : Char) : Bool := c == ' ' || c == '\t' || c == '\n' || c == '\r'

/-- A word at the front of a text. -/
def word? (word : String) (token : Token) (text : List Char) : Option (Token × List Char) :=
  if word.toList.isPrefixOf text then some (token, text.drop word.length) else none

/-- The token that starts with `c`, and the text behind it. -/
def token? (c : Char) (rest : List Char) : Option (Token × List Char) :=
  match c with
  | '[' => some (.openArray, rest)
  | ']' => some (.closeArray, rest)
  | '\x7b' => some (.openObject, rest)
  | '\x7d' => some (.closeObject, rest)
  | ',' => some (.comma, rest)
  | ':' => some (.colon, rest)
  | '"' => (symbols? rest).map fun (symbols, rest) => (.string (joinHalves symbols), rest)
  | '-' => (numeral? true rest).map fun (n, rest) => (.number n, rest)
  | 'n' => word? "ull" .null rest
  | 't' => word? "rue" (.bool true) rest
  | 'f' => word? "alse" (.bool false) rest
  | c => (numeral? false (c :: rest)).map fun (n, rest) => (.number n, rest)

theorem word?_length {word : String} {token t : Token} {text rest : List Char}
    (h : word? word token text = some (t, rest)) : rest.length ≤ text.length := by
  unfold word? at h
  split at h <;> cases h
  simp

theorem token?_length {c : Char} {rest after : List Char} {t : Token}
    (h : token? c rest = some (t, after)) : after.length ≤ rest.length := by
  unfold token? at h
  split at h
  all_goals first
    | (cases h; exact Nat.le_refl _)
    | exact word?_length h
    | skip
  all_goals
    obtain ⟨⟨_, r⟩, hr, he⟩ := Option.map_eq_some_iff.1 h
    cases he
  · exact symbols?_length hr
  · exact Nat.le_of_lt (numeral?_length hr)
  · exact Nat.le_of_lt_succ (numeral?_length hr)

/-- The tokens of a text. -/
def scan : List Char → Option (List Token)
  | [] => some []
  | c :: rest =>
    if isGap c then scan rest
    else
      match h : token? c rest with
      | none => none
      | some (t, after) =>
        have := token?_length h
        (scan after).map (t :: ·)
termination_by text => text.length

end SensorRelay.Json
