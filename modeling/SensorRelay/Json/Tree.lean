import SensorRelay.Json.Token

/-! # Values of a JSON text

A text is read in one pass over its tokens. The containers whose end has not come yet are kept on a
stack, so that the depth of a text is not limited. -/
namespace SensorRelay

/-- A JSON value. An object keeps its members in the order of the text, repeated keys included. -/
inductive Json where
  | null
  | bool (b : Bool)
  | number (n : Json.Numeral)
  | string (symbols : List Json.Symbol)
  | array (items : List Json)
  | object (members : List (List Json.Symbol × Json))

namespace Json

/-- A container whose end has not come, with what it holds so far, the last first. -/
inductive Opened where
  | array (items : List Json)
  /-- With the key of the value that is read. -/
  | object (members : List (List Symbol × Json)) (key : List Symbol)

/-- What may come next. -/
inductive Awaits where
  | value
  /-- A value, or the end of an array without items. -/
  | item
  | key
  /-- A key, or the end of an object without members. -/
  | member
  | colon
  /-- A comma, or the end of the innermost container. -/
  | separator
  /-- Nothing: this is the whole text's value. -/
  | nothing (root : Json)

structure Reader where
  opened : List Opened := []
  awaits : Awaits := .value

namespace Reader

/-- Puts a finished value into the innermost container. -/
def put (value : Json) : List Opened → Reader
  | [] => ⟨[], .nothing value⟩
  | .array items :: up => ⟨.array (value :: items) :: up, .separator⟩
  | .object members key :: up => ⟨.object ((key, value) :: members) [] :: up, .separator⟩

def open? (opened : List Opened) : Token → Option Reader
  | .openArray => some ⟨.array [] :: opened, .item⟩
  | .openObject => some ⟨.object [] [] :: opened, .member⟩
  | .null => some (put .null opened)
  | .bool b => some (put (.bool b) opened)
  | .number n => some (put (.number n) opened)
  | .string s => some (put (.string s) opened)
  | _ => none

/-- Ends the innermost container. -/
def close? : List Opened → Token → Option Reader
  | .array items :: up, .closeArray => some (put (.array items.reverse) up)
  | .object members _ :: up, .closeObject => some (put (.object members.reverse) up)
  | _, _ => none

def key? : List Opened → Token → Option Reader
  | .object members _ :: up, .string key => some ⟨.object members key :: up, .colon⟩
  | _, _ => none

/-- Goes on behind a comma. -/
def comma? : List Opened → Option Reader
  | opened@(.array _ :: _) => some ⟨opened, .value⟩
  | opened@(.object _ _ :: _) => some ⟨opened, .key⟩
  | [] => none

def step (r : Reader) (t : Token) : Option Reader :=
  match r.awaits with
  | .value => open? r.opened t
  | .item => (close? r.opened t).or (open? r.opened t)
  | .key => key? r.opened t
  | .member => (close? r.opened t).or (key? r.opened t)
  | .colon => if t = .colon then some ⟨r.opened, .value⟩ else none
  | .separator => if t = .comma then comma? r.opened else close? r.opened t
  | .nothing _ => none

def finish (r : Reader) : Option Json :=
  match r.awaits with
  | .nothing root => some root
  | _ => none

end Reader

/-- Reads a text that holds one value. -/
def parse? (text : List Char) : Option Json := do
  let tokens ← scan text
  let reader ← tokens.foldlM Reader.step {}
  reader.finish

end Json

end SensorRelay
