/-! # Steps that a machine checks

Words wrap, and a list has nothing out of its range. A build that checks its steps refuses a sum that
leaves its word, and the program ends there. A traced operation computes with words that wrap and writes
every step down with its operands: `value` is what it gives where nothing is checked, and `outcome` what
it gives where every step is. -/
namespace SensorRelay
namespace Machine

inductive Step where
  /-- The use of a slot of a storage of `size` slots. -/
  | slot (index size : Nat)
  /-- The use of the slots from `first` on and before `last`. -/
  | slice (first last size : Nat)
  /-- A copy between two slices. -/
  | copy (target source : Nat)
  /-- A sum of unsigned words of 64 bits. -/
  | sum (a b : Nat)
  | difference (a b : Nat)
  | remainder (divisor : Nat)
  /-- A sum of signed words of 32 bits. -/
  | sum32 (a b : Int)
  | product32 (a b : Int)
  /-- An assertion that `n` is below `bound`. -/
  | below (n bound : Nat)
  /-- An assertion that `n` is not above `bound`. -/
  | atMost (n bound : Nat)
deriving DecidableEq

/-- The signed words of 32 bits. -/
def InWord32 (n : Int) : Prop := -2147483648 ≤ n ∧ n < 2147483648

instance (n : Int) : Decidable (InWord32 n) := inferInstanceAs (Decidable (_ ∧ _))

namespace Step

def Sound : Step → Prop
  | .slot index size => index < size
  | .slice first last size => first ≤ last ∧ last ≤ size
  | .copy target source => target = source
  | .sum a b => a + b < UInt64.size
  | .difference a b => b ≤ a
  | .remainder divisor => 0 < divisor
  | .sum32 a b => InWord32 (a + b)
  | .product32 a b => InWord32 (a * b)
  | .below n bound => n < bound
  | .atMost n bound => n ≤ bound

instance : DecidablePred Sound
  | .slot _ _ | .sum _ _ | .remainder _ | .below _ _ => inferInstanceAs (Decidable (_ < _))
  | .difference _ _ | .atMost _ _ => inferInstanceAs (Decidable (_ ≤ _))
  | .slice _ _ _ => inferInstanceAs (Decidable (_ ∧ _))
  | .copy _ _ => inferInstanceAs (Decidable (_ = _))
  | .sum32 _ _ | .product32 _ _ => inferInstanceAs (Decidable (InWord32 _))

/-- What the program says when it ends at a step of arithmetic. -/
def complaint? : Step → Option String
  | .sum _ _ | .sum32 _ _ => some "attempt to add with overflow"
  | .difference _ _ => some "attempt to subtract with overflow"
  | .product32 _ _ => some "attempt to multiply with overflow"
  | .remainder _ => some "attempt to calculate the remainder with a divisor of zero"
  | .slot _ _ | .slice _ _ _ | .copy _ _ | .below _ _ | .atMost _ _ => none

end Step

end Machine

/-- A value with the steps that led to it. -/
structure Traced (α : Type) where
  value : α
  steps : List Machine.Step

namespace Traced
variable {α : Type}

instance : Monad Traced where
  pure a := ⟨a, []⟩
  bind t f := let u := f t.value; ⟨u.value, t.steps ++ u.steps⟩

/-- The first step that is not sound. -/
def fault? (t : Traced α) : Option Machine.Step := t.steps.find? fun step => !decide step.Sound

/-- Where every step is checked: the value, or the step at which the program ends. -/
def outcome (t : Traced α) : Except Machine.Step α :=
  match t.fault? with
  | none => .ok t.value
  | some step => .error step

/-- What is computed for every index, one after the other. -/
def ofFn {n : Nat} (f : Fin n → Traced α) : Traced (Array α) :=
  let cells := Array.ofFn f
  ⟨cells.map (·.value), cells.toList.flatMap (·.steps)⟩

def check (step : Machine.Step) : Traced Unit := ⟨(), [step]⟩

def add (a b : UInt64) : Traced UInt64 := ⟨a + b, [.sum a.toNat b.toNat]⟩

def sub (a b : UInt64) : Traced UInt64 := ⟨a - b, [.difference a.toNat b.toNat]⟩

def mod (a b : UInt64) : Traced UInt64 := ⟨a % b, [.remainder b.toNat]⟩

def add32 (a b : Int32) : Traced Int32 := ⟨a + b, [.sum32 a.toInt b.toInt]⟩

def mul32 (a b : Int32) : Traced Int32 := ⟨a * b, [.product32 a.toInt b.toInt]⟩

end Traced

end SensorRelay
