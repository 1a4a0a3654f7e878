import SensorRelay.Probe.Reply
import SensorRelay.Proofs.Text.Classes
import SensorRelay.Proofs.Text.Pattern

/-! # The pattern of an echo reply

Replies are the matches of one pattern: from the start of a line on any text of the line, then a field
with its number. The longest text before the field is tried first, so a match ends with the last field of
its line, and the search goes on behind that.
-/
namespace SensorRelay.Probe
open Text Pattern Pattern.Item

def eitherOf (a b c : Char) : Bool := c == a || c == b

/-- A field with its number: `\bttl[=:]\s*\d+` in either case. -/
def fieldPattern : Pattern :=
  [wordEdge, one (eitherOf 't' 'T'), one (eitherOf 't' 'T'), one (eitherOf 'l' 'L'),
    one (eitherOf '=' ':'), many isBlank, one isDigit, many isDigit]

/-- A line up to the number of a field: `^.*\bttl[=:]\s*\d+` in either case. -/
def replyPattern : Pattern := lineStart :: many (· != '\n') :: fieldPattern

variable {before : Option Char} {c : Char} {text rest number : List Char}

/-! ## One field -/

theorem eitherOf_t_iff : eitherOf 't' 'T' c = true ↔ c.toLower = 't' := by
  simp [eitherOf, toLower_eq_t_iff]

theorem eitherOf_l_iff : eitherOf 'l' 'L' c = true ↔ c.toLower = 'l' := by
  simp [eitherOf, toLower_eq_l_iff]

theorem isWord_of_toLower_eq_t (h : c.toLower = 't') : isWord c = true := by
  rcases toLower_eq_t_iff.mp h with rfl | rfl
  · rfl
  · rfl

/-- The text from the digit on, if one is first. -/
def digits? : List Char → Option (List Char)
  | d :: rest => if isDigit d then some (d :: rest) else none
  | [] => none

theorem fieldNumber?_cons (t u l sign : Char) (rest : List Char) :
    fieldNumber? (t :: u :: l :: sign :: rest) =
      if t.toLower = 't' ∧ u.toLower = 't' ∧ l.toLower = 'l' ∧ (sign = '=' ∨ sign = ':') then
        digits? (rest.dropWhile isBlank)
      else none := rfl

/-- Where the number of a field ends. -/
def numberEnd (number : List Char) : Place := Place.skip isDigit ⟨none, number⟩

theorem matchEnd?_number (before : Option Char) (rest : List Char) :
    matchEnd? [many isBlank, one isDigit, many isDigit] ⟨before, rest⟩ =
      (digits? (rest.dropWhile isBlank)).map numberEnd := by
  have hblank : ∀ before c rest, isBlank c = true →
      matchEnd? [one isDigit, many isDigit] ⟨before, c :: rest⟩ = none := by
    intro before c rest hc
    rw [matchEnd?_one_cons, isDigit_eq_false_of_isBlank hc]
    rfl
  rw [matchEnd?_many_of_forall hblank, Place.skip]
  cases rest.dropWhile isBlank with
  | nil => rfl
  | cons d rest =>
    rw [matchEnd?_one_cons, matchEnd?_many_singleton]
    cases hd : isDigit d with
    | false => simp [digits?, hd]
    | true => simp [digits?, hd, numberEnd, Place.skip_cons_of_accepts hd]

theorem fieldNumber?_newline (rest : List Char) : fieldNumber? ('\n' :: rest) = none := by
  have hnewline : '\n'.toLower ≠ 't' := by decide
  rw [fieldNumber?.eq_def]
  split
  · rename_i t u l sign rest heq
    obtain ⟨rfl,-⟩ := List.cons.inj heq
    exact if_neg fun h => hnewline h.1
  · rfl

theorem eitherOf_sign_iff : eitherOf '=' ':' c = true ↔ c = '=' ∨ c = ':' := by simp [eitherOf]

/-- The pattern of a field without its edge reads what a field is. -/
theorem matchEnd?_field (before : Option Char) (text : List Char) :
    matchEnd? fieldPattern.tail ⟨before, text⟩ = (fieldNumber? text).map numberEnd := by
  match text with
  | [] => rfl
  | [t] => simp [fieldPattern, fieldNumber?]
  | [t, u] => simp [fieldPattern, fieldNumber?]
  | [t, u, l] => simp [fieldPattern, fieldNumber?]
  | t :: u :: l :: sign :: rest =>
    simp only [fieldPattern, List.tail_cons, matchEnd?_one_cons, matchEnd?_number, fieldNumber?_cons,
      eitherOf_t_iff, eitherOf_l_iff, eitherOf_sign_iff]
    by_cases ht : t.toLower = 't'
    · by_cases hu : u.toLower = 't'
      · by_cases hl : l.toLower = 'l'
        · by_cases hsign : sign = '=' ∨ sign = ':'
          · simp only [ht, hu, hl, hsign, and_self, if_true]
          · simp only [hsign, and_false, if_false, ite_self, Option.map_none]
        · simp only [hl, false_and, and_false, if_false, ite_self, Option.map_none]
      · simp only [hu, false_and, and_false, if_false, ite_self, Option.map_none]
    · simp only [ht, false_and, if_false, Option.map_none]

theorem isWord_of_fieldNumber? {number : List Char} (h : fieldNumber? text = some number) :
    text.head?.any isWord = true := by
  unfold fieldNumber? at h
  split at h
  · split at h
    · rename_i hname
      simp [isWord_of_toLower_eq_t hname.1]
    · cases h
  · cases h

/-- A field of the pattern starts where no word goes on, and ends with its number. -/
theorem matchEnd?_fieldPattern (before : Option Char) (text : List Char) :
    fieldPattern.matchEnd? ⟨before, text⟩ =
      if before.any isWord then none else (fieldNumber? text).map numberEnd := by
  have hedge : fieldPattern.matchEnd? ⟨before, text⟩ =
      if before.any isWord != text.head?.any isWord then (fieldNumber? text).map numberEnd
      else none := by
    rw [← matchEnd?_field before]
    exact matchEnd?_wordEdge _
  rw [hedge]
  cases hnumber : fieldNumber? text with
  | none => simp
  | some number =>
    rw [isWord_of_fieldNumber? hnumber]
    cases before.any isWord with
    | false => rfl
    | true => rfl

/-! ## One line -/

/-- The pattern finds the last field that starts in a line. -/
theorem matchEnd?_line (before : Option Char) (text : List Char) :
    matchEnd? (many (· != '\n') :: fieldPattern) ⟨before, text⟩ =
      (lastField? (before.any isWord) text).map numberEnd := by
  induction text generalizing before with
  | nil =>
    rw [matchEnd?_many_nil, matchEnd?_fieldPattern]
    simp [fieldNumber?, lastField?]
  | cons c rest ih =>
    rw [matchEnd?_many_cons, matchEnd?_fieldPattern, lastField?]
    by_cases hc : c = '\n'
    · simp [hc, fieldNumber?_newline]
    · rw [if_pos (by simpa using hc), if_neg hc, ih, Option.any_some]
      cases lastField? (isWord c) rest with
      | some number => rfl
      | none =>
        cases before.any isWord with
        | false => rfl
        | true => rfl

theorem isWord_of_isLineStart (h : before.all (· == '\n') = true) : before.any isWord = false := by
  cases before with
  | none => rfl
  | some c =>
    obtain rfl : c = '\n' := by simpa using h
    rfl

theorem matchEnd?_replyPattern (before : Option Char) (text : List Char) :
    replyPattern.matchEnd? ⟨before, text⟩ =
      if before.all (· == '\n') then (lastField? false text).map numberEnd else none := by
  rw [replyPattern, matchEnd?_lineStart, matchEnd?_line]
  split
  · rename_i hstart
    rw [isWord_of_isLineStart hstart]
  · rfl

/-! ## A whole text -/

theorem exists_digit_of_fieldNumber? (h : fieldNumber? text = some number) :
    ∃ d rest, number = d :: rest ∧ isDigit d = true := by
  unfold fieldNumber? at h
  split at h
  · split at h
    · split at h
      · rename_i d rest _
        split at h
        · rename_i hd
          exact ⟨d,rest,(Option.some.inj h).symm,hd⟩
        · cases h
      · cases h
    · cases h
  · cases h

theorem exists_digit_of_lastField? {inWord : Bool} (h : lastField? inWord text = some number) :
    ∃ d rest, number = d :: rest ∧ isDigit d = true := by
  induction text generalizing inWord with
  | nil => cases h
  | cons c rest ih =>
    rw [lastField?] at h
    split at h
    · cases h
    · split at h
      · rename_i hlater
        exact ih (hlater.trans h)
      · split at h
        · cases h
        · exact exists_digit_of_fieldNumber? h

/-- Behind a number stands one of its digits. -/
theorem exists_numberEnd_eq (h : ∃ d rest, number = d :: rest ∧ isDigit d = true) :
    ∃ d, isDigit d = true ∧ numberEnd number = ⟨some d, number.dropWhile isDigit⟩ := by
  obtain ⟨d,rest,rfl,hd⟩ := h
  obtain ⟨e,he⟩ : ∃ e, ((d :: rest).takeWhile isDigit).getLast? = some e := by
    rw [List.takeWhile_cons_of_pos hd, List.getLast?_cons]
    exact ⟨_,rfl⟩
  refine ⟨e,?_,?_⟩
  · exact List.all_eq_true.mp List.all_takeWhile e (List.mem_of_getLast? he)
  · rw [numberEnd, Place.skip, he]
    rfl

theorem nextLine?_dropWhile_isDigit (text : List Char) :
    nextLine? (text.dropWhile isDigit) = nextLine? text := by
  induction text with
  | nil => rfl
  | cons c rest ih =>
    cases hc : isDigit c with
    | false => rw [List.dropWhile_cons_of_neg (by simp [hc])]
    | true =>
      rw [List.dropWhile_cons_of_pos hc, ih]
      exact (if_neg (ne_newline_of_isDigit hc)).symm

/-- Behind the start of a line the search goes on at the next line. -/
theorem countFrom_of_ne_newline (hc : c ≠ '\n') (ended : Bool) (text : List Char) :
    replyPattern.countFrom ended ⟨some c, text⟩ =
      (nextLine? text).elim 0 fun rest => replyPattern.countFrom false ⟨some '\n', rest⟩ := by
  have hnone (text : List Char) : replyPattern.matchEnd? ⟨some c, text⟩ = none := by
    rw [matchEnd?_replyPattern]
    exact if_neg (by simpa using hc)
  induction text generalizing c ended with
  | nil => simp [countFrom, hnone, nextLine?]
  | cons d rest ih =>
    rw [countFrom, hnone, nextLine?]
    by_cases hd : d = '\n'
    · subst hd
      rfl
    · rw [if_neg hd]
      exact ih hd false fun text => (matchEnd?_replyPattern _ _).trans (if_neg (by simpa using hd))

theorem nextLine?_cons_of_ne (hc : c ≠ '\n') : nextLine? (c :: rest) = nextLine? rest := if_neg hc

/-- A line without a reply is passed over. -/
theorem countFrom_of_none (h : before.all (· == '\n') = true) (hfield : lastField? false text = none) :
    replyPattern.countFrom false ⟨before, text⟩ =
      (nextLine? text).elim 0 fun rest => replyPattern.countFrom false ⟨some '\n', rest⟩ := by
  have hend : replyPattern.matchEnd? ⟨before, text⟩ = none := by
    rw [matchEnd?_replyPattern, if_pos h, hfield]
    rfl
  cases text with
  | nil => simp [countFrom, hend, nextLine?]
  | cons c rest =>
    rw [countFrom, hend]
    by_cases hc : c = '\n'
    · subst hc
      rfl
    · rw [nextLine?_cons_of_ne hc]
      exact countFrom_of_ne_newline hc false rest

/-- A line with a reply counts once, and the search goes on behind the number of its last field. -/
theorem countFrom_of_some (h : before.all (· == '\n') = true)
    (hfield : lastField? false text = some number) :
    replyPattern.countFrom false ⟨before, text⟩ =
      (nextLine? number).elim 1 fun rest => replyPattern.countFrom false ⟨some '\n', rest⟩ + 1 := by
  obtain ⟨d,digits,rfl,hd⟩ := exists_digit_of_lastField? hfield
  obtain ⟨last,hlast,hplace⟩ := exists_numberEnd_eq ⟨d,digits,rfl,hd⟩
  have hend : replyPattern.matchEnd? ⟨before, text⟩ =
      some ⟨some last, (d :: digits).dropWhile isDigit⟩ := by
    rw [matchEnd?_replyPattern, if_pos h, hfield, ← hplace]
    rfl
  have hshorter : ((d :: digits).dropWhile isDigit).length < text.length := by
    rw [List.dropWhile_cons_of_pos hd]
    exact Nat.lt_of_lt_of_le (Nat.lt_succ_of_le (List.dropWhile_sublist _).length_le)
      (lastField?_length hfield)
  cases text with
  | nil => cases hfield
  | cons c rest =>
    rw [countFrom, hend]
    simp only [if_pos hshorter, countFrom_of_ne_newline (ne_newline_of_isDigit hlast),
      nextLine?_dropWhile_isDigit]
    cases nextLine? (d :: digits) with
    | none => rfl
    | some rest => rfl

/-- From the start of a line on, the matches of the pattern are the replies. -/
theorem countFrom_eq_countReplies (h : before.all (· == '\n') = true) (text : List Char) :
    replyPattern.countFrom false ⟨before, text⟩ = countReplies text := by
  fun_induction countReplies text generalizing before with
  | case1 text number hfield rest hnext _ ih =>
    rw [countFrom_of_some h hfield, hnext, Option.elim_some, ih rfl]
  | case2 text number hfield hnext =>
    rw [countFrom_of_some h hfield, hnext, Option.elim_none]
  | case3 text hfield rest hnext _ ih =>
    rw [countFrom_of_none h hfield, hnext, Option.elim_some, ih rfl]
  | case4 text hfield hnext =>
    rw [countFrom_of_none h hfield, hnext, Option.elim_none]

/-- The replies in a text are the matches of the pattern. -/
theorem count_replyPattern (text : List Char) : replyPattern.count text = countReplies text :=
  countFrom_eq_countReplies rfl text

end SensorRelay.Probe
