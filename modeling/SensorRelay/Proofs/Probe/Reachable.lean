import Mathlib.Algebra.Order.Floor.Semiring
import Mathlib.Data.Rat.Floor
import SensorRelay.Probe.Reachable
import SensorRelay.Proofs.Probe.Address
import SensorRelay.Proofs.Wait.Schedule

/-! # What a probe does

A check starts the echo program for addresses only, with arguments that the number of replies, the wait
and the address determine. The device is reachable if the program ends in time, in whatever way, and its
output shows enough replies.
-/
namespace SensorRelay.Probe
open Text

variable {start : List String → Option Run} {address : List Char} {n timeoutMillis : UInt32}

/-! ## Numbers -/

theorem toNat_required (n : UInt32) : (required n).toNat = max 1 (min n.toNat 64) := by
  have hmax : maxRequired.toNat = 64 := rfl
  have hone : (1 : UInt32).toNat = 1 := rfl
  rw [required, UInt32.toNat_min, UInt32.toNat_max, hmax, hone]
  omega

theorem toNat_attempts (n : UInt32) : (attempts n).toNat = max 1 (min n.toNat 64) + 1 := by
  have hone : (1 : UInt32).toNat = 1 := rfl
  rw [attempts, UInt32.toNat_add, toNat_required, hone]
  omega

theorem waitSeconds_eq (timeoutMillis : UInt32) :
    waitSeconds timeoutMillis = max 1 ⌈(timeoutMillis.toNat : ℚ) / 1000⌉₊ := by
  have hceil : (timeoutMillis.toNat + 999) / 1000 = ⌈(timeoutMillis.toNat : ℚ) / 1000⌉₊ := by
    refine eq_of_forall_ge_iff fun k => ?_
    rw [Nat.ceil_le, div_le_iff₀ (by norm_num)]
    norm_cast
    omega
  rw [waitSeconds, hceil, max_comm]

theorem arguments_eq (address : List Char) (n timeoutMillis : UInt32) :
    arguments address n timeoutMillis =
      ["-c", toString (max 1 (min n.toNat 64) + 1), "-W",
        toString (max 1 ⌈(timeoutMillis.toNat : ℚ) / 1000⌉₊), String.ofList address] := by
  rw [arguments, toNat_attempts, waitSeconds_eq]

/-! ## A run of the echo program -/

namespace Run
variable {run : Run} {budget : Nanoseconds}

/-- The program is found to have ended, with this code, before its time has run out. -/
def EndsInTime (run : Run) (budget : Nanoseconds) (code : Int) : Prop :=
  ∃ before clock after, run.looks = before ++ ⟨.ended code, clock⟩ :: after ∧
    ∀ look ∈ before, look.state = .running ∧ ¬ (Timeout.after budget).IsOver run.start look.clock

/-- The wait for the end of the program. -/
def wait (run : Run) (budget : Nanoseconds) : Wait Status :=
  Wait.since run.start (· == .running) (.after budget) run.looks

theorem endsInTime_iff {code : Int} :
    run.EndsInTime budget code ↔ run.wait budget = .ready (.ended code) := by
  rw [wait, Wait.since_eq_ready_iff]
  constructor
  · rintro ⟨before,clock,after,hlooks,hbefore⟩
    refine ⟨before,⟨.ended code, clock⟩,after,hlooks,?_,rfl,rfl⟩
    exact fun look hlook => ⟨beq_iff_eq.mpr (hbefore look hlook).1,(hbefore look hlook).2⟩
  · rintro ⟨before,⟨state,clock⟩,after,hlooks,hbefore,-,rfl⟩
    refine ⟨before,clock,after,hlooks,?_⟩
    exact fun look hlook => ⟨beq_iff_eq.mp (hbefore look hlook).1,(hbefore look hlook).2⟩

theorem result_of_endsInTime {code : Int} {output : List UInt8} (h : run.EndsInTime budget code)
    (houtput : run.output = some output) : run.result budget = some (.ok output) := by
  have hwait : Wait.watch (· == .running) (.after budget) ((Timeout.after budget).deadline run.start)
      run.looks = .ready (.ended code) := endsInTime_iff.mp h
  simp only [result, hwait, houtput]

theorem exists_endsInTime_of_result {output : List UInt8} (h : run.result budget = some (.ok output)) :
    (∃ code, run.EndsInTime budget code) ∧ run.output = some output := by
  have hwait : run.wait budget = Wait.watch (· == .running) (.after budget)
      ((Timeout.after budget).deadline run.start) run.looks := rfl
  rw [result, ← hwait] at h
  split at h
  · cases h
  · cases h
  · rename_i code hended
    refine ⟨⟨code,endsInTime_iff.mpr hended⟩,?_⟩
    cases hout : run.output with
    | none => simp [hout] at h
    | some bytes => simpa [hout] using h
  · cases h

end Run

/-! ## A check -/

theorem started_eq_some_iff {arguments : List String} :
    (check start address n timeoutMillis).started = some arguments ↔
      IsHost address ∧ arguments = Probe.arguments address n timeoutMillis := by
  rw [check, ← isAddress_iff]
  cases isAddress address with
  | false => simp
  | true => simp [eq_comm]

theorem reachable_eq_of_result {run : Run} {result : Except EchoError (List UInt8)}
    (haddress : IsHost address) (hstart : start (arguments address n timeoutMillis) = some run)
    (hresult : run.result (budget n timeoutMillis) = some result) :
    (check start address n timeoutMillis).reachable = some (isEnough n result) := by
  rw [check, if_pos (isAddress_iff.mpr haddress)]
  simp only [hstart, hresult, Option.map_some]

theorem exists_output_of_reachable (h : (check start address n timeoutMillis).reachable = some true) :
    IsHost address ∧ ∃ run code output, start (arguments address n timeoutMillis) = some run ∧
      run.EndsInTime (budget n timeoutMillis) code ∧ run.output = some output ∧
      (required n).toNat ≤ countReplies (Utf8.decodeLossy output) := by
  rw [check] at h
  split at h
  · rename_i haddress
    refine ⟨isAddress_iff.mp haddress,?_⟩
    cases hstart : start (arguments address n timeoutMillis) with
    | none => simp [hstart, isEnough] at h
    | some run =>
      simp only [hstart, Option.map_eq_some_iff] at h
      obtain ⟨result,hresult,henough⟩ := h
      cases result with
      | error failure => cases henough
      | ok output =>
        obtain ⟨⟨code,hended⟩,houtput⟩ := Run.exists_endsInTime_of_result hresult
        exact ⟨run,code,output,rfl,hended,houtput,of_decide_eq_true henough⟩
  · cases h

/-- What a check of any text does. It starts the echo program exactly for what the pattern of an address
matches, which is what the rules for an address say; the arguments then are the number of replies, from
one to 64, and one more, the wait in whole seconds, rounded up and at least one, and the address, which
neither is an option nor has white space in it. If the program ends in time, with whatever code, the
device is reachable if its output shows as many replies as are required, and it is reachable in no other
case. -/
theorem check_starts_and_counts (start : List String → Option Run) (address : List Char)
    (n timeoutMillis : UInt32) :
    let required := max 1 (min n.toNat 64)
    let arguments := ["-c", toString (required + 1), "-W",
      toString (max 1 ⌈(timeoutMillis.toNat : ℚ) / 1000⌉₊), String.ofList address]
    let c := check start address n timeoutMillis
    (c.started.isSome = true ↔ addressPattern.isMatch address = true) ∧
      (c.started.isSome = true ↔ IsHost address) ∧
      (∀ given, c.started = some given →
        given = arguments ∧ address.head? ≠ some '-' ∧ ∀ d ∈ address, isBlank d = false) ∧
      (∀ run code output, IsHost address → start arguments = some run →
        run.EndsInTime (budget n timeoutMillis) code → run.output = some output →
        c.reachable = some (decide (required ≤ countReplies (Utf8.decodeLossy output)))) ∧
      (c.reachable = some true → IsHost address ∧ ∃ run code output, start arguments = some run ∧
        run.EndsInTime (budget n timeoutMillis) code ∧ run.output = some output ∧
        required ≤ countReplies (Utf8.decodeLossy output)) := by
  intro required arguments c
  have harguments : Probe.arguments address n timeoutMillis = arguments := arguments_eq _ _ _
  have hrequired : (Probe.required n).toNat = required := toNat_required n
  have hstarted : c.started.isSome = true ↔ IsHost address := by
    rw [Option.isSome_iff_exists]
    constructor
    · rintro ⟨given,hgiven⟩
      exact (started_eq_some_iff.mp hgiven).1
    · exact fun haddress => ⟨_,started_eq_some_iff.mpr ⟨haddress,rfl⟩⟩
  refine ⟨?_,hstarted,?_,?_,?_⟩
  · rw [hstarted, isMatch_addressPattern, isAddress_iff]
  · intro given hgiven
    obtain ⟨haddress,heq⟩ := started_eq_some_iff.mp hgiven
    exact ⟨heq.trans harguments,haddress.head?_ne_dash,haddress.isBlank_eq_false⟩
  · intro run code output haddress hstart hended houtput
    rw [← harguments] at hstart
    have hresult := Run.result_of_endsInTime hended houtput
    rw [reachable_eq_of_result haddress hstart hresult, isEnough, hrequired]
  · intro hreachable
    rw [← harguments, ← hrequired]
    exact exists_output_of_reachable hreachable

/-- A link-local address with a zone, and a program that ends with an error code, late by the clock but
found to have ended, behind two replies and a byte that is no text. -/
theorem check_starts_and_counts_link_local :
    let address := "fe80::1%eth0".toList
    let output := "ttl=64\n".toUTF8.toList ++ [0xff, 0x0a] ++ "TTL=1".toUTF8.toList
    let run : Run := ⟨100, [⟨.running, 5000⟩, ⟨.ended 1, 99999999999⟩], some output⟩
    let arguments := ["-c", "3", "-W", "2", "fe80::1%eth0"]
    let start : List String → Option Run := fun given => if given = arguments then some run else none
    let c := check start address 2 1500
    run.EndsInTime (budget 2 1500) 1 ∧ IsHost address ∧ c.started = some arguments ∧
      c.reachable = some true := by
  intro address output run arguments start c
  have hended : run.EndsInTime (budget 2 1500) 1 :=
    ⟨[⟨.running, 5000⟩],99999999999,[],rfl,by decide⟩
  have haddress : IsHost address := isAddress_iff.mp (by decide)
  have harguments : Probe.arguments address 2 1500 = arguments := by decide
  obtain ⟨-,hstarted,hgiven,hcount,-⟩ := check_starts_and_counts start address 2 1500
  obtain ⟨given,hsome⟩ := Option.isSome_iff_exists.mp (hstarted.mpr haddress)
  rw [← arguments_eq, harguments] at hgiven hcount
  have henough : c.reachable = some true := by
    rw [hcount run 1 output haddress (if_pos rfl) hended rfl]
    decide +kernel
  exact ⟨hended,haddress,hsome.trans (congrArg some (hgiven given hsome).1),henough⟩

end SensorRelay.Probe
