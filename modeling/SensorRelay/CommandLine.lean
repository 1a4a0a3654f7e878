import SensorRelay.Settings.Environment

/-! # The command line -/
namespace SensorRelay

/-- What the command line asks for. -/
structure Options where
  /-- The settings file. -/
  config : Option (List Char) := none
  /-- The number of frames to consume. -/
  frames : Option Nat := none
  skipProbe : Bool := false
  noDenoise : Bool := false
deriving DecidableEq

inductive Command where
  | run (options : Options)
  | help
  /-- The command line cannot be understood. -/
  | misuse
deriving DecidableEq

namespace Command

/-- An argument that can be a value of its own: it does not look like an option. -/
def isValue : List Char → Bool
  | '-' :: _ :: _ => false
  | _ => true

/-- An option with a value: the value stands behind `=`, or else is the next argument. Gives the
arguments behind it, too; nothing if the argument is another one, no value if it is missing. -/
def valueOf? (name : String) (arg : List Char) (rest : List (List Char)) :
    Option (Option (List Char × List (List Char))) :=
  if arg = name.toList then
    match rest with
    | value :: rest => some (if isValue value then some (value, rest) else none)
    | [] => some none
  else if (name ++ "=").toList.isPrefixOf arg then
    some (some (arg.drop (name.length + 1), rest))
  else none

/-- A value taken from the front of the arguments: the options with it, if it is good. -/
def setFrames (o : Options) (value : List Char) : Option Options :=
  match o.frames, Text.natural? UInt64.size value with
  | none, some n => some { o with frames := some n }
  | _, _ => none

def setConfig (o : Options) (value : List Char) : Option Options :=
  if o.config.isSome ∨ value = [] then none else some { o with config := some value }

theorem valueOf?_length {name : String} {arg value : List Char} {rest after : List (List Char)}
    (h : valueOf? name arg rest = some (some (value, after))) : after.length ≤ rest.length := by
  unfold valueOf? at h
  split at h
  · split at h
    · split at h <;> cases h
      simp
    · cases h
  · split at h <;> cases h
    exact Nat.le_refl _

/-- Reads arguments from the left; the first that cannot be understood or asks for help decides. -/
def read (o : Options) : List (List Char) → Command
  | [] => .run o
  | arg :: rest =>
    if arg = "--".toList then if rest = [] then .run o else .misuse
    else if arg = "--help".toList ∨ "-h".toList.isPrefixOf arg then .help
    else if arg = "--skip-probe".toList then
      if o.skipProbe then .misuse else read { o with skipProbe := true } rest
    else if arg = "--no-denoise".toList then
      if o.noDenoise then .misuse else read { o with noDenoise := true } rest
    else match hf : valueOf? "--frames" arg rest with
      | some (some (value, after)) =>
        have := valueOf?_length hf
        match setFrames o value with
        | some o => read o after
        | none => .misuse
      | some none => .misuse
      | none => match hc : valueOf? "--config" arg rest with
        | some (some (value, after)) =>
          have := valueOf?_length hc
          match setConfig o value with
          | some o => read o after
          | none => .misuse
        | _ => .misuse
termination_by args => args.length

def parse (args : List (List Char)) : Command := read {} args

end Command

end SensorRelay
