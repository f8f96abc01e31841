/-! # Configuration

What a runtime is built from. A configuration can be held and written whatever its capacity, but
only one with room for a symbol is accepted. -/

namespace LateBinding

structure Config where
  symbolCapacity : Nat
  preinternKnownSymbols : Bool
  trackInternerStats : Bool
  deriving DecidableEq, Repr

inductive ConfigError
  /-- The file could not be read or written. -/
  | io
  /-- The text is no document of a configuration. -/
  | parse
  | zeroCapacity
  /-- The capacity does not fit the integers of the written form. -/
  | notWritable
  deriving DecidableEq, Repr

/-- The message of a refused configuration; the causes outside the configuration have none of their
own. -/
def ConfigError.message? : ConfigError → Option String
  | io | parse => none
  | zeroCapacity => some "Invalid configuration: symbol_capacity must be greater than zero"
  | notWritable => some "Invalid configuration: failed to serialize configuration"

namespace Config

def standard : Config := ⟨1024, true, true⟩

def validate (c : Config) : Except ConfigError Config :=
  if c.symbolCapacity = 0 then .error .zeroCapacity else .ok c

end Config

end LateBinding
