/-!
# Hosts

What a lookup asks for: a text, which is an address or a name, or nothing at all. Nothing is asked
for when the option that names a host was given without a value.
-/

namespace RdsReach

/-- What a lookup asks for. -/
inductive Host where
  | named (text : String)
  | blank
deriving DecidableEq, Repr

/-- How messages show a host. -/
def Host.shown : Host → String
  | .named text => text
  | .blank => "[]"

end RdsReach
