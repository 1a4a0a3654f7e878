import SensorRelay.Text.Blank
import SensorRelay.Text.Digit
import SensorRelay.Text.Word

/-! # Counting echo replies

A reply shows a time to live: the letters `ttl` in either case at the start of a word, `=` or `:`,
blanks and a digit. Blanks may go on over the end of the line. A line counts once, by the last such
field that starts in it, and the count goes on at the first line that starts behind that field. -/
namespace SensorRelay.Probe

open Text

/-- The text from the number of a field on, if a field stands at the front. -/
def fieldNumber? : List Char → Option (List Char)
  | t :: u :: l :: sign :: rest =>
    if t.toLower = 't' ∧ u.toLower = 't' ∧ l.toLower = 'l' ∧ (sign = '=' ∨ sign = ':') then
      match rest.dropWhile isBlank with
      | d :: rest => if isDigit d then some (d :: rest) else none
      | [] => none
    else none
  | _ => none

/-- The text from the number of the last field on that starts in this line. `inWord` says whether a
word character stands before the text. -/
def lastField? (inWord : Bool) : List Char → Option (List Char)
  | [] => none
  | c :: rest =>
    if c = '\n' then none
    else match lastField? (isWord c) rest with
      | some number => some number
      | none => if inWord then none else fieldNumber? (c :: rest)

/-- What follows the end of this line, if it has one. -/
def nextLine? : List Char → Option (List Char)
  | [] => none
  | c :: rest => if c = '\n' then some rest else nextLine? rest

theorem fieldNumber?_length {text rest : List Char} (h : fieldNumber? text = some rest) :
    rest.length ≤ text.length := by
  unfold fieldNumber? at h
  split at h
  · split at h
    · rename_i s _
      have hs : (s.dropWhile isBlank).length ≤ s.length := (List.dropWhile_sublist _).length_le
      split at h
      · rename_i hd
        split at h
        · cases h
          rw [hd] at hs
          simp only [List.length_cons] at hs ⊢
          omega
        · cases h
      · cases h
    · cases h
  · cases h

theorem lastField?_length {inWord : Bool} {text rest : List Char}
    (h : lastField? inWord text = some rest) : rest.length ≤ text.length := by
  induction text generalizing inWord with
  | nil => simp [lastField?] at h
  | cons c s ih =>
    unfold lastField? at h
    split at h
    · cases h
    · split at h
      · rename_i hs
        cases h
        exact Nat.le_succ_of_le (ih hs)
      · split at h
        · cases h
        · exact fieldNumber?_length h

theorem nextLine?_length {text rest : List Char} (h : nextLine? text = some rest) :
    rest.length < text.length := by
  induction text with
  | nil => simp [nextLine?] at h
  | cons c s ih =>
    unfold nextLine? at h
    split at h
    · cases h; simp
    · exact Nat.lt_succ_of_lt (ih h)

/-- The number of replies in a text that starts with a line. -/
def countReplies (text : List Char) : Nat :=
  match hf : lastField? false text with
  | some number =>
    match hn : nextLine? number with
    | some rest =>
      have := Nat.lt_of_lt_of_le (nextLine?_length hn) (lastField?_length hf)
      countReplies rest + 1
    | none => 1
  | none =>
    match hn : nextLine? text with
    | some rest =>
      have := nextLine?_length hn
      countReplies rest
    | none => 0
termination_by text.length

end SensorRelay.Probe
