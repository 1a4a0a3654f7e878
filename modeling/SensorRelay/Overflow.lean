import SensorRelay.Text.Blank

/-! # What a full queue of items does -/
namespace SensorRelay

/-- What an enqueue does when the queue is full. -/
inductive Overflow where
  /-- The new item is handed back. -/
  | avoidDrop
  /-- The oldest item is destroyed and the new one is stored. -/
  | dropOldest
deriving DecidableEq

namespace Overflow

instance : Inhabited Overflow := ⟨avoidDrop⟩

def name : Overflow → String
  | avoidDrop => "avoid_drop"
  | dropOldest => "drop_oldest"

/-- Reads a name with blanks around it, in any ASCII case, with `_`, `-` or nothing between its
words. -/
def parse (text : List Char) : Option Overflow :=
  let word := String.ofList ((Text.trim text).map Char.toLower)
  if word ∈ ["avoid_drop", "avoid-drop", "avoiddrop"] then some .avoidDrop
  else if word ∈ ["drop_oldest", "drop-oldest", "dropoldest"] then some .dropOldest
  else none

end Overflow

end SensorRelay
