import Mathlib.Data.Nat.Digits.Defs
import Mathlib.Tactic.Ring
import SensorRelay.Proofs.Settings.Accepted

/-! # What the variables say

A variable with a number holds a numeral, once the blanks around it are gone. One with a mode or an
address counts only if it is not blank. The reader of the environment stops at the first variable that it
cannot read; here every variable is described by itself, and the two agree.
-/
namespace SensorRelay

theorem bind_eq_ok_iff {ε α β : Type} {x : Except ε α} {f : α → Except ε β} {b : β} :
    (x >>= f) = .ok b ↔ ∃ a, x = .ok a ∧ f a = .ok b := by
  refine ⟨exists_of_bind_eq_ok,?_⟩
  rintro ⟨a,rfl,hf⟩
  exact hf

/-! ## Numerals -/

namespace Text
variable {cs : List Char} {n limit : Nat}

/-- The number that a decimal digit stands for. -/
def digitValue (c : Char) : Nat := c.toNat - '0'.toNat

/-- The text is `n` in decimal, with a plus in front or without. -/
def IsNumeral (cs : List Char) (n : Nat) : Prop :=
  ∃ digits, (cs = digits ∨ cs = '+' :: digits) ∧ digits ≠ [] ∧ (∀ c ∈ digits, c.isDigit = true) ∧
    n = Nat.ofDigits 10 (digits.reverse.map digitValue)

theorem foldlM_addDigit_eq_some_iff (digits : List Char) {a : Nat} :
    digits.foldlM addDigit a = some n ↔ (∀ c ∈ digits, c.isDigit = true) ∧
      n = a * 10 ^ digits.length + Nat.ofDigits 10 (digits.reverse.map digitValue) := by
  induction digits generalizing a with
  | nil =>
    have hvalue : a * 10 ^ 0 + Nat.ofDigits 10 [] = a := by
      rw [pow_zero, Nat.mul_one, Nat.ofDigits_nil, Nat.add_zero]
    simp only [List.foldlM_nil, Option.pure_def, Option.some.injEq, List.not_mem_nil, false_imp_iff,
      implies_true, true_and, List.length_nil, List.reverse_nil, List.map_nil, hvalue]
    exact eq_comm
  | cons c digits ih =>
    rw [List.foldlM_cons, addDigit]
    cases hc : c.isDigit with
    | false => simp [hc]
    | true =>
      -- The first digit is the last one of the reversed list, which has the highest place.
      have hvalue : Nat.ofDigits 10 ((c :: digits).reverse.map digitValue) =
          Nat.ofDigits 10 (digits.reverse.map digitValue) + 10 ^ digits.length * digitValue c := by
        rw [List.reverse_cons, List.map_append, Nat.ofDigits_append, List.length_map,
          List.length_reverse, List.map_singleton, Nat.ofDigits_singleton]
      have hsum : (a * 10 + digitValue c) * 10 ^ digits.length +
            Nat.ofDigits 10 (digits.reverse.map digitValue) =
          a * 10 ^ (digits.length + 1) + Nat.ofDigits 10 ((c :: digits).reverse.map digitValue) := by
        rw [hvalue]
        ring
      rw [if_pos rfl, List.length_cons, ← hsum]
      simp only [Option.bind_eq_bind, Option.bind_some, List.forall_mem_cons, hc, true_and]
      exact ih

/-- A plus is no digit, so that only one can stand in front. -/
theorem isNumeral_iff : IsNumeral cs n ↔ unsigned cs ≠ [] ∧ (∀ c ∈ unsigned cs, c.isDigit = true) ∧
    n = Nat.ofDigits 10 ((unsigned cs).reverse.map digitValue) := by
  constructor
  · rintro ⟨digits,rfl | rfl,hne,hdigits,hn⟩
    · have hunsigned : unsigned cs = cs := by
        unfold unsigned
        split
        · exact absurd (hdigits '+' List.mem_cons_self) (by decide)
        · rfl
      rw [hunsigned]
      exact ⟨hne,hdigits,hn⟩
    · exact ⟨hne,hdigits,hn⟩
  · rintro ⟨hne,hdigits,hn⟩
    refine ⟨unsigned cs,?_,hne,hdigits,hn⟩
    unfold unsigned
    split
    · exact .inr rfl
    · exact .inl rfl

theorem natural?_eq_some_iff : natural? limit cs = some n ↔ IsNumeral cs n ∧ n < limit := by
  rw [natural?, isNumeral_iff]
  cases hunsigned : unsigned cs with
  | nil => simp
  | cons c digits =>
    have hfold := foldlM_addDigit_eq_some_iff (c :: digits) (n := n) (a := 0)
    rw [Nat.zero_mul, Nat.zero_add] at hfold
    simp only [Option.filter_eq_some_iff, decide_eq_true_eq, hfold, ne_eq, reduceCtorEq,
      not_false_eq_true, true_and]

/-- Nothing but white space. -/
def Blank (cs : List Char) : Prop := ∀ c ∈ cs, isBlank c = true

end Text

/-! ## One variable -/

namespace Environment
open Text
variable {α : Type} {env : Environment} {name : String}

/-- What a variable gives, of whose texts only some count: nothing, unless it is set to one of those,
and then a value that the text is read as. -/
def Gives (env : Environment) (name : String) (Counts : List Char → Prop)
    (Reads : List Char → α → Prop) : Option α → Prop
  | none => ∀ text, env.get? name = some text → ¬ Counts text
  | some a => ∃ text, env.get? name = some text ∧ Counts text ∧ Reads text a

/-- Every text counts as a number. -/
def GivesNumber (env : Environment) (name : String) (toNat : α → Nat) : Option α → Prop :=
  env.Gives name (fun _ => True) fun text a => IsNumeral (trim text) (toNat a)

def GivesOverflow (env : Environment) (name : String) : Option Overflow → Prop :=
  env.Gives name (fun text => ¬ Blank text) fun text overflow => Overflow.parse text = some overflow

def GivesText (env : Environment) (name : String) : Option (List Char) → Prop :=
  env.Gives name (fun text => ¬ Blank text) fun text a => a = trim text

/-- The numbers below the limit are those of a word. -/
theorem exists_number_iff {limit : Nat} {error : SettingsError} {ofNat : Nat → α} {toNat : α → Nat}
    (hlt : ∀ a, toNat a < limit) (hword : ∀ a, ofNat (toNat a) = a)
    (hnat : ∀ n < limit, toNat (ofNat n) = n) {given : Option α} :
    (∃ v, env.number name limit error = .ok v ∧ v.map ofNat = given) ↔
      env.GivesNumber name toNat given := by
  rw [number]
  cases hget : env.get? name with
  | none =>
    cases given with
    | none => simp [GivesNumber, Gives, hget]
    | some a => simp [GivesNumber, Gives, hget]
  | some text =>
    have hnumeral (a : α) :
        IsNumeral (trim text) (toNat a) ↔ natural? limit (trim text) = some (toNat a) := by
      rw [natural?_eq_some_iff, and_iff_left (hlt a)]
    cases hread : natural? limit (trim text) with
    | none =>
      cases given with
      | none => simp [GivesNumber, Gives, hget, hread]
      | some a => simp [GivesNumber, Gives, hget, hread, hnumeral]
    | some n =>
      cases given with
      | none => simp [GivesNumber, Gives, hget, hread]
      | some a =>
        have hsame : ofNat n = a ↔ n = toNat a := by
          refine ⟨?_,fun h => h ▸ hword a⟩
          rintro rfl
          exact (hnat n (natural?_eq_some_iff.mp hread).2).symm
        simp [GivesNumber, Gives, hget, hread, hnumeral, hsame]

theorem GivesNumber.get?_eq_none {toNat : α → Nat} {given : Option α}
    (h : env.GivesNumber name toNat given) (hgiven : given = none) : env.get? name = none := by
  subst hgiven
  exact Option.eq_none_iff_forall_ne_some.mpr fun text htext => h text htext trivial

theorem nonBlank_eq_some_iff {text : List Char} :
    env.nonBlank name = some text ↔ env.get? name = some text ∧ ¬ Blank text := by
  rw [nonBlank, Option.filter_eq_some_iff, Bool.not_eq_true', ← Bool.not_eq_true, List.all_eq_true]
  rfl

theorem nonBlank_eq_none_iff :
    env.nonBlank name = none ↔ ∀ text, env.get? name = some text → ¬ ¬ Blank text := by
  rw [Option.eq_none_iff_forall_ne_some]
  exact forall_congr' fun text => nonBlank_eq_some_iff.not.trans not_and

theorem gives_none_iff {Reads : List Char → α → Prop} :
    env.Gives name (fun text => ¬ Blank text) Reads none ↔ env.nonBlank name = none :=
  nonBlank_eq_none_iff.symm

theorem gives_some_iff {Reads : List Char → α → Prop} {a : α} :
    env.Gives name (fun text => ¬ Blank text) Reads (some a) ↔
      ∃ text, env.nonBlank name = some text ∧ Reads text a := by
  simp only [Gives, nonBlank_eq_some_iff, and_assoc]

theorem overflow_eq_ok_iff {given : Option Overflow} :
    env.overflow name = .ok given ↔ env.GivesOverflow name given := by
  rw [overflow]
  cases given with
  | none =>
    rw [GivesOverflow, gives_none_iff]
    cases env.nonBlank name with
    | none => simp
    | some text => cases hread : Overflow.parse text <;> simp [hread]
  | some mode =>
    rw [GivesOverflow, gives_some_iff]
    cases env.nonBlank name with
    | none => simp
    | some text => cases hread : Overflow.parse text <;> simp [hread]

theorem map_trim_nonBlank_eq_iff {given : Option (List Char)} :
    (env.nonBlank name).map trim = given ↔ env.GivesText name given := by
  cases given with
  | none => rw [GivesText, gives_none_iff, Option.map_eq_none_iff]
  | some a =>
    rw [GivesText, gives_some_iff, Option.map_eq_some_iff]
    exact exists_congr fun text => and_congr_right fun _ => eq_comm

end Environment

/-! ## All variables -/

/-- The settings that variables give. -/
structure Overrides where
  capacity : Option UInt64 := none
  overflow : Option Overflow := none
  byteCapacity : Option UInt64 := none
  dequeueTimeoutMillis : Option UInt32 := none
  address : Option (List Char) := none
  window : Option UInt64 := none

/-- The settings with others put over them. -/
def Settings.put (s : Settings) (o : Overrides) : Settings :=
  { s with
    queue := {
      capacity := o.capacity.getD s.queue.capacity
      overflow := o.overflow.getD s.queue.overflow
      byteCapacity := o.byteCapacity.getD s.queue.byteCapacity
      dequeueTimeout := (o.dequeueTimeoutMillis.map Timeout.ofMillis).getD s.queue.dequeueTimeout }
    device := { s.device with address := o.address.or s.device.address }
    denoise := { s.denoise with window := o.window.getD s.denoise.window } }

namespace Environment
variable {env : Environment} {o : Overrides}

/-- The variables can be read, and give the settings `o`. -/
structure Says (env : Environment) (o : Overrides) : Prop where
  capacity : env.GivesNumber "SENSOR_QUEUE_CAPACITY" UInt64.toNat o.capacity
  overflow : env.GivesOverflow "SENSOR_QUEUE_MODE" o.overflow
  byteCapacity : env.GivesNumber "SENSOR_QUEUE_BYTE_CAPACITY" UInt64.toNat o.byteCapacity
  dequeueTimeoutMillis :
    env.GivesNumber "SENSOR_QUEUE_DEQUEUE_TIMEOUT_MS" UInt32.toNat o.dequeueTimeoutMillis
  address : env.GivesText "SENSOR_QUEUE_DEVICE_ADDR" o.address
  window : env.GivesNumber "SENSOR_QUEUE_DENOISE_WINDOW" UInt64.toNat o.window

/-- What the variables give, read in the order in which the settings are overridden. -/
def overrides (env : Environment) : Except SettingsError Overrides := do
  let capacity ← env.number "SENSOR_QUEUE_CAPACITY" UInt64.size .capacityVariable
  let overflow ← env.overflow "SENSOR_QUEUE_MODE"
  let byteCapacity ← env.number "SENSOR_QUEUE_BYTE_CAPACITY" UInt64.size .byteCapacityVariable
  let millis ← env.number "SENSOR_QUEUE_DEQUEUE_TIMEOUT_MS" UInt32.size .timeoutVariable
  let address := (env.nonBlank "SENSOR_QUEUE_DEVICE_ADDR").map Text.trim
  let window ← env.number "SENSOR_QUEUE_DENOISE_WINDOW" UInt64.size .windowVariable
  return ⟨capacity.map UInt64.ofNat, overflow, byteCapacity.map UInt64.ofNat, millis.map UInt32.ofNat,
    address, window.map UInt64.ofNat⟩

/-- The variables are read without a look at the settings that they go over. -/
theorem override_eq_map (s : Settings) (env : Environment) :
    s.override env = s.put <$> env.overrides := by
  simp only [Settings.override, overrides, map_bind, map_pure, Settings.put, Option.map_map]
  rfl

theorem exists_word64_iff {name : String} {error : SettingsError} {given : Option UInt64} :
    (∃ v, env.number name UInt64.size error = .ok v ∧ v.map UInt64.ofNat = given) ↔
      env.GivesNumber name UInt64.toNat given :=
  exists_number_iff UInt64.toNat_lt (fun _ => UInt64.ofNat_toNat) fun _ => UInt64.toNat_ofNat_of_lt'

theorem exists_word32_iff {name : String} {error : SettingsError} {given : Option UInt32} :
    (∃ v, env.number name UInt32.size error = .ok v ∧ v.map UInt32.ofNat = given) ↔
      env.GivesNumber name UInt32.toNat given :=
  exists_number_iff UInt32.toNat_lt (fun _ => UInt32.ofNat_toNat) fun _ => UInt32.toNat_ofNat_of_lt'

theorem overrides_eq_ok_iff : env.overrides = .ok o ↔ env.Says o := by
  simp only [overrides, bind_eq_ok_iff]
  constructor
  · rintro ⟨capacity,hcapacity,overflow,hoverflow,bytes,hbytes,millis,hmillis,window,hwindow,h⟩
    obtain rfl := Except.ok.inj h
    exact ⟨exists_word64_iff.mp ⟨_,hcapacity,rfl⟩,overflow_eq_ok_iff.mp hoverflow,
      exists_word64_iff.mp ⟨_,hbytes,rfl⟩,exists_word32_iff.mp ⟨_,hmillis,rfl⟩,
      map_trim_nonBlank_eq_iff.mp rfl,exists_word64_iff.mp ⟨_,hwindow,rfl⟩⟩
  · intro h
    obtain ⟨capacity,hcapacity,hcapacity'⟩ := exists_word64_iff.mpr h.capacity
    obtain ⟨bytes,hbytes,hbytes'⟩ := exists_word64_iff.mpr h.byteCapacity
    obtain ⟨millis,hmillis,hmillis'⟩ := exists_word32_iff.mpr h.dequeueTimeoutMillis
    obtain ⟨window,hwindow,hwindow'⟩ := exists_word64_iff.mpr h.window
    have hoverflow := overflow_eq_ok_iff.mpr h.overflow
    have haddress := map_trim_nonBlank_eq_iff.mpr h.address
    refine ⟨capacity,hcapacity,_,hoverflow,bytes,hbytes,millis,hmillis,window,hwindow,?_⟩
    rw [hcapacity', hbytes', hmillis', hwindow', haddress]
    rfl

end Environment
end SensorRelay
