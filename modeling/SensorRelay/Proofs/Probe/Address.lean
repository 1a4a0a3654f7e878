import Mathlib.Tactic.Common
import SensorRelay.Probe.Address
import SensorRelay.Proofs.Text.Classes
import SensorRelay.Proofs.Text.Pattern

/-! # What an address is

The check of an address, the pattern for it and a list of its rules say the same.
-/
namespace SensorRelay.Probe
open Text Pattern.Item

/-- `[A-Za-z0-9]` -/
def IsAlphanumeric (c : Char) : Prop :=
  ('A' ≤ c ∧ c ≤ 'Z') ∨ ('a' ≤ c ∧ c ≤ 'z') ∨ ('0' ≤ c ∧ c ≤ '9')

instance (c : Char) : Decidable (IsAlphanumeric c) :=
  inferInstanceAs (Decidable (('A' ≤ c ∧ c ≤ 'Z') ∨ ('a' ≤ c ∧ c ≤ 'z') ∨ ('0' ≤ c ∧ c ≤ '9')))

/-- `[A-Za-z0-9.:%_-]` -/
def IsAddressPart (c : Char) : Prop := IsAlphanumeric c ∨ c ∈ ['.', ':', '%', '_', '-']

instance (c : Char) : Decidable (IsAddressPart c) :=
  inferInstanceAs (Decidable (IsAlphanumeric c ∨ c ∈ ['.', ':', '%', '_', '-']))

/-- `^[A-Za-z0-9][A-Za-z0-9.:%_-]{0,252}$` -/
def addressPattern : Pattern :=
  [textStart, one (decide <| IsAlphanumeric ·), atMost 252 (decide <| IsAddressPart ·), textEnd]

/-- The rules for an address. -/
structure IsHost (address : List Char) : Prop where
  nonempty : 1 ≤ address.length
  length_le : address.length ≤ 253
  first : ∀ c ∈ address.head?, IsAlphanumeric c
  later : ∀ c ∈ address.tail, IsAddressPart c

theorem isAlphanum_iff {c : Char} : c.isAlphanum = true ↔ IsAlphanumeric c := by
  have hranges : c.isAlphanum = (decide (c.val ≥ 'A'.val ∧ c.val ≤ 'Z'.val) ||
      (decide (c.val ≥ 'a'.val) && decide (c.val ≤ 'z'.val)) || c.isDigit) := rfl
  simp only [hranges, Char.isDigit, IsAlphanumeric, Char.le_def, Bool.or_eq_true, Bool.and_eq_true,
    decide_eq_true_eq, ge_iff_le, or_assoc]

theorem isAddressChar_iff {c : Char} : isAddressChar c = true ↔ IsAddressPart c := by
  simp [isAddressChar, IsAddressPart, isAlphanum_iff, or_assoc]

theorem isAddress_iff {address : List Char} : isAddress address = true ↔ IsHost address := by
  cases address with
  | nil => exact ⟨fun h => absurd h (by decide),fun h => absurd h.nonempty (by decide)⟩
  | cons c rest =>
    simp only [isAddress, Bool.and_eq_true, List.all_eq_true, decide_eq_true_eq, isAlphanum_iff,
      isAddressChar_iff]
    constructor
    · rintro ⟨⟨hfirst,hlater⟩,hlength⟩
      exact ⟨Nat.succ_le_succ (Nat.zero_le _),hlength,by simpa using hfirst,hlater⟩
    · intro h
      exact ⟨⟨h.first c rfl,h.later⟩,h.length_le⟩

/-- An address is what the pattern matches as a whole. -/
theorem isMatch_addressPattern (address : List Char) :
    addressPattern.isMatch address = isAddress address := by
  rw [addressPattern, Pattern.isMatch_textStart]
  cases address with
  | nil => rfl
  | cons c rest =>
    have hfirst : decide (IsAlphanumeric c) = c.isAlphanum := by
      rw [Bool.eq_iff_iff, decide_eq_true_eq, isAlphanum_iff]
    have hlater : (fun c => decide (IsAddressPart c)) = isAddressChar := by
      funext c
      rw [Bool.eq_iff_iff, decide_eq_true_eq, isAddressChar_iff]
    have hlength : ((c :: rest).length ≤ maxAddressLength) = (rest.length ≤ 252) := by
      rw [List.length_cons, maxAddressLength, Nat.add_le_add_iff_right]
    rw [Pattern.matchEnd?_one_cons, hfirst, hlater, isAddress]
    simp only [hlength]
    cases c.isAlphanum with
    | false => rfl
    | true => exact Pattern.isSome_matchEnd?_atMost_textEnd 252 (some c) rest

theorem toNat_of_isAddressPart {c : Char} (h : IsAddressPart c) : 37 ≤ c.toNat ∧ c.toNat ≤ 122 := by
  rcases h with halphanumeric | hsign
  · have hranges : (65 ≤ c.toNat ∧ c.toNat ≤ 90) ∨ (97 ≤ c.toNat ∧ c.toNat ≤ 122) ∨
        (48 ≤ c.toNat ∧ c.toNat ≤ 57) := by
      simp only [IsAlphanumeric, Char.le_def, UInt32.le_iff_toNat_le] at halphanumeric
      exact halphanumeric
    omega
  · simp only [List.mem_cons, List.not_mem_nil, or_false] at hsign
    rcases hsign with rfl | rfl | rfl | rfl | rfl <;> decide

namespace IsHost
variable {address : List Char}

/-- An address cannot be taken for an option. -/
theorem head?_ne_dash (h : IsHost address) : address.head? ≠ some '-' := by
  intro hdash
  exact absurd (h.first '-' hdash) (by decide)

theorem isAddressPart (h : IsHost address) : ∀ c ∈ address, IsAddressPart c := by
  cases address with
  | nil => simp
  | cons c rest => exact List.forall_mem_cons.mpr ⟨.inl (h.first c rfl),h.later⟩

/-- An address has neither white space nor line breaks. -/
theorem isBlank_eq_false (h : IsHost address) : ∀ c ∈ address, isBlank c = false := by
  intro c hc
  have hrange := toNat_of_isAddressPart (h.isAddressPart c hc)
  cases hblank : isBlank c with
  | false => rfl
  | true =>
    have hbands := toNat_of_isBlank hblank
    omega

end IsHost
end SensorRelay.Probe
