import ManagedBridge.Json.Error
import ManagedBridge.Text.Blank

/-!
# Settings

What a host can set for a bridge to a JVM, and why settings are refused.
-/

namespace ManagedBridge

structure BridgeConfig where
  /-- The class whose constructor and byte accessor the bridge uses for strings. -/
  stringClass : String := "java/lang/String"
  /-- The charset of conversions in both directions. -/
  charset : String := "UTF-8"
  /-- Whether the runtime prints drained exceptions itself. -/
  describeExceptions : Bool := true
  deriving DecidableEq, Repr

inductive ConfigError
  | parse (error : Json.Error)
  | emptyStringClass
  | emptyCharset
  deriving DecidableEq, Repr

namespace ConfigError

def message : ConfigError → String
  | parse error => "invalid bridge config: " ++ error.message
  | emptyStringClass => "string class must be a non-empty binary name"
  | emptyCharset => "charset must be a non-empty name"

def name : ConfigError → String
  | parse _ => "Parse"
  | emptyStringClass => "EmptyStringClass"
  | emptyCharset => "EmptyCharset"

end ConfigError

/-- Settings whose names are not blank; the class is looked at first. -/
def BridgeConfig.validate (c : BridgeConfig) : Except ConfigError BridgeConfig :=
  if Text.isBlank c.stringClass then .error .emptyStringClass
  else if Text.isBlank c.charset then .error .emptyCharset
  else .ok c

end ManagedBridge
