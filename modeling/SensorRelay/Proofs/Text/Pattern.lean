import SensorRelay.Text.Word

/-! # Text patterns

A pattern is a sequence of items. It is matched by backtracking: every item offers the places where it
can end, the best first, and the first way through all items is taken. A repetition offers its longest
run first. In a text the leftmost match counts, and the search goes on where it ends.
-/
namespace SensorRelay.Text

/-- A place in a text: the character before it, which there is not at the start, and what follows. -/
structure Place where
  before : Option Char
  rest : List Char

namespace Place

/-- The places that can be reached over at most `limit` accepted characters, the farthest first. -/
def reach (accepts : Char → Bool) : Nat → Place → List Place
  | limit + 1, ⟨before, c :: rest⟩ =>
    if accepts c then reach accepts limit ⟨some c, rest⟩ ++ [⟨before, c :: rest⟩]
    else [⟨before, c :: rest⟩]
  | _, place => [place]

/-- The place behind all accepted characters. -/
def skip (accepts : Char → Bool) (place : Place) : Place :=
  ⟨(place.rest.takeWhile accepts).getLast?.or place.before, place.rest.dropWhile accepts⟩

theorem skip_cons_of_accepts {accepts : Char → Bool} {c : Char} (h : accepts c = true)
    (before : Option Char) (rest : List Char) :
    skip accepts ⟨before, c :: rest⟩ = skip accepts ⟨some c, rest⟩ := by
  have hlast : (c :: rest.takeWhile accepts).getLast?.or before =
      (rest.takeWhile accepts).getLast?.or (some c) := by
    rw [List.getLast?_cons]
    cases (rest.takeWhile accepts).getLast? <;> rfl
  simp only [skip, List.takeWhile_cons_of_pos h, List.dropWhile_cons_of_pos h, hlast]

end Place

inductive Pattern.Item where
  | one (accepts : Char → Bool)
  | many (accepts : Char → Bool)
  | atMost (limit : Nat) (accepts : Char → Bool)
  | textStart
  | textEnd
  | lineStart
  | wordEdge

/-- The places where an item that starts at a place can end, the best first. -/
def Pattern.Item.ends : Pattern.Item → Place → List Place
  | one _, ⟨_, []⟩ => []
  | one accepts, ⟨_, c :: rest⟩ => if accepts c then [⟨some c, rest⟩] else []
  | many accepts, place => place.reach accepts place.rest.length
  | atMost limit accepts, place => place.reach accepts limit
  | textStart, place => if place.before.isNone then [place] else []
  | textEnd, place => if place.rest.isEmpty then [place] else []
  | lineStart, place => if place.before.all (· == '\n') then [place] else []
  | wordEdge, place => if place.before.any isWord != place.rest.head?.any isWord then [place] else []

abbrev Pattern := List Pattern.Item

namespace Pattern
open Item

/-- The end of the match that starts at a place, if there is one. -/
def matchEnd? : Pattern → Place → Option Place
  | [], place => some place
  | item :: later, place => (item.ends place).findSome? (matchEnd? later)

/-- The number of matches from a place on. Where a match has `ended`, the empty text does not match
again. -/
def countFrom (p : Pattern) (ended : Bool) : Place → Nat
  | ⟨before, []⟩ => if !ended && (p.matchEnd? ⟨before, []⟩).isSome then 1 else 0
  | ⟨before, c :: rest⟩ =>
    match p.matchEnd? ⟨before, c :: rest⟩ with
    | none => countFrom p false ⟨some c, rest⟩
    | some place =>
      if place.rest.length < (c :: rest).length then countFrom p true place + 1
      else (if ended then 0 else 1) + countFrom p false ⟨some c, rest⟩
termination_by place => place.rest.length
decreasing_by
  · exact Nat.lt_succ_self _
  · assumption
  · exact Nat.lt_succ_self _

/-- The number of matches in a text, none of which overlap. -/
def count (p : Pattern) (text : List Char) : Nat := p.countFrom false ⟨none, text⟩

/-- Whether a text has a match. -/
def isMatch (p : Pattern) (text : List Char) : Bool := p.count text != 0

variable {accepts : Char → Bool} {before : Option Char} {c : Char} {rest : List Char} {later : Pattern}

/-! ## One item -/

@[simp] theorem matchEnd?_nil (place : Place) : matchEnd? [] place = some place := rfl

@[simp] theorem matchEnd?_one_nil : matchEnd? (one accepts :: later) ⟨before, []⟩ = none := rfl

@[simp] theorem matchEnd?_one_cons :
    matchEnd? (one accepts :: later) ⟨before, c :: rest⟩ =
      if accepts c then later.matchEnd? ⟨some c, rest⟩ else none := by
  rw [matchEnd?, Item.ends]
  split
  · exact List.findSome?_singleton
  · rfl

@[simp] theorem matchEnd?_lineStart (place : Place) :
    matchEnd? (lineStart :: later) place =
      if place.before.all (· == '\n') then later.matchEnd? place else none := by
  rw [matchEnd?, Item.ends]
  split
  · exact List.findSome?_singleton
  · rfl

@[simp] theorem matchEnd?_wordEdge (place : Place) :
    matchEnd? (wordEdge :: later) place =
      if place.before.any isWord != place.rest.head?.any isWord then later.matchEnd? place
      else none := by
  rw [matchEnd?, Item.ends]
  split
  · exact List.findSome?_singleton
  · rfl

@[simp] theorem matchEnd?_textStart (place : Place) :
    matchEnd? (textStart :: later) place =
      if place.before.isNone then later.matchEnd? place else none := by
  rw [matchEnd?, Item.ends]
  split
  · exact List.findSome?_singleton
  · rfl

@[simp] theorem matchEnd?_textEnd (place : Place) :
    matchEnd? (textEnd :: later) place =
      if place.rest.isEmpty then later.matchEnd? place else none := by
  rw [matchEnd?, Item.ends]
  split
  · exact List.findSome?_singleton
  · rfl

/-! ## Repetitions -/

@[simp] theorem matchEnd?_many_nil :
    matchEnd? (many accepts :: later) ⟨before, []⟩ = later.matchEnd? ⟨before, []⟩ :=
  List.findSome?_singleton

/-- A longer run goes before a shorter one. -/
theorem matchEnd?_many_cons :
    matchEnd? (many accepts :: later) ⟨before, c :: rest⟩ =
      if accepts c then
        (matchEnd? (many accepts :: later) ⟨some c, rest⟩).or (later.matchEnd? ⟨before, c :: rest⟩)
      else later.matchEnd? ⟨before, c :: rest⟩ := by
  simp only [matchEnd?, Item.ends, List.length_cons, Place.reach]
  split
  · rw [List.findSome?_append, List.findSome?_singleton]
  · exact List.findSome?_singleton

/-- If no run can end before an accepted character, the longest is the only one. -/
theorem matchEnd?_many_of_forall
    (h : ∀ before c rest, accepts c = true → later.matchEnd? ⟨before, c :: rest⟩ = none)
    (place : Place) :
    matchEnd? (many accepts :: later) place = later.matchEnd? (place.skip accepts) := by
  obtain ⟨before,text⟩ := place
  induction text generalizing before with
  | nil => exact matchEnd?_many_nil
  | cons c rest ih =>
    rw [matchEnd?_many_cons]
    cases hc : accepts c with
    | false => simp [Place.skip, hc]
    | true => rw [if_pos rfl, h before c rest hc, Option.or_none, ih, Place.skip_cons_of_accepts hc]

/-- At the end of a pattern the longest run is taken. -/
theorem matchEnd?_many_singleton (place : Place) :
    matchEnd? [many accepts] place = some (place.skip accepts) := by
  obtain ⟨before,text⟩ := place
  induction text generalizing before with
  | nil => exact matchEnd?_many_nil
  | cons c rest ih =>
    rw [matchEnd?_many_cons]
    cases hc : accepts c with
    | false => simp [Place.skip, hc]
    | true => rw [if_pos rfl, ih, Option.some_or, Place.skip_cons_of_accepts hc]

theorem matchEnd?_atMost_zero (place : Place) :
    matchEnd? (atMost 0 accepts :: later) place = later.matchEnd? place := List.findSome?_singleton

theorem matchEnd?_atMost_nil (limit : Nat) :
    matchEnd? (atMost limit accepts :: later) ⟨before, []⟩ = later.matchEnd? ⟨before, []⟩ := by
  cases limit with
  | zero => exact matchEnd?_atMost_zero _
  | succ limit => exact List.findSome?_singleton

theorem matchEnd?_atMost_cons (limit : Nat) :
    matchEnd? (atMost (limit + 1) accepts :: later) ⟨before, c :: rest⟩ =
      if accepts c then
        (matchEnd? (atMost limit accepts :: later) ⟨some c, rest⟩).or
          (later.matchEnd? ⟨before, c :: rest⟩)
      else later.matchEnd? ⟨before, c :: rest⟩ := by
  simp only [matchEnd?, Item.ends, Place.reach]
  split
  · rw [List.findSome?_append, List.findSome?_singleton]
  · exact List.findSome?_singleton

/-- A run can end with the text if all that is left is accepted and not too much. -/
theorem isSome_matchEnd?_atMost_textEnd (limit : Nat) (before : Option Char) (text : List Char) :
    (matchEnd? [atMost limit accepts, textEnd] ⟨before, text⟩).isSome =
      (text.all accepts && decide (text.length ≤ limit)) := by
  induction text generalizing limit before with
  | nil => simp [matchEnd?_atMost_nil]
  | cons c rest ih =>
    have hmore : matchEnd? [textEnd] ⟨before, c :: rest⟩ = none := matchEnd?_textEnd _
    cases limit with
    | zero => simp [matchEnd?_atMost_zero, hmore]
    | succ limit =>
      rw [matchEnd?_atMost_cons, hmore, Option.or_none, List.all_cons]
      cases accepts c with
      | false => rfl
      | true => simpa using ih limit (some c)

/-! ## Patterns for a whole text -/

theorem countFrom_textStart (ended : Bool) (c : Char) (text : List Char) :
    countFrom (textStart :: later) ended ⟨some c, text⟩ = 0 := by
  induction text generalizing ended c with
  | nil => simp [countFrom]
  | cons d rest ih => simp [countFrom, ih]

theorem isMatch_textStart (text : List Char) :
    isMatch (textStart :: later) text = (later.matchEnd? ⟨none, text⟩).isSome := by
  have hend : matchEnd? (textStart :: later) ⟨none, text⟩ = later.matchEnd? ⟨none, text⟩ :=
    matchEnd?_textStart _
  rw [isMatch, count]
  cases text with
  | nil =>
    rw [countFrom, hend]
    cases later.matchEnd? ⟨none, []⟩ with
    | none => rfl
    | some place => rfl
  | cons c rest =>
    rw [countFrom, hend]
    cases later.matchEnd? ⟨none, c :: rest⟩ with
    | none =>
      simp only [countFrom_textStart]
      rfl
    | some place =>
      simp only [countFrom_textStart, Option.isSome_some]
      split
      · simp
      · rfl

end Pattern
end SensorRelay.Text
