/-! # Device addresses -/
namespace SensorRelay.Probe

/-- The characters of a host name or an address behind the first. -/
def isAddressChar (c : Char) : Bool :=
  c.isAlphanum || c == '.' || c == ':' || c == '%' || c == '_' || c == '-'

def maxAddressLength : Nat := 253

/-- Whether a text looks like a host name or an address of either version. It starts with an ASCII
letter or digit, so that it cannot be taken for an option. -/
def isAddress (text : List Char) : Bool :=
  match text with
  | [] => false
  | c :: rest => c.isAlphanum && rest.all isAddressChar && decide (text.length ≤ maxAddressLength)

end SensorRelay.Probe
