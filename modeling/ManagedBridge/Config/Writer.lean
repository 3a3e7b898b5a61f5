import ManagedBridge.Config
import ManagedBridge.Json.Text

/-!
# Writing settings

Settings are written as a JSON object with all three fields in their order, on one line or with one
field a line.
-/

namespace ManagedBridge.BridgeConfig

open ManagedBridge.Json

/-- The keys with their written values. -/
def members (c : BridgeConfig) : List (String × List Char) :=
  [("string_class", writeText c.stringClass),
   ("charset", writeText c.charset),
   ("describe_exceptions", (if c.describeExceptions then "true" else "false").toList)]

/-- The settings without white space. -/
def toJson (c : BridgeConfig) : String :=
  let member := fun (key, value) => writeText key ++ ':' :: value
  String.ofList ('{' :: List.intercalate [','] (c.members.map member) ++ ['}'])

/-- The settings with each field on a line of its own, indented by two spaces. -/
def toJsonLines (c : BridgeConfig) : String :=
  let member := fun (key, value) => ' ' :: ' ' :: writeText key ++ ':' :: ' ' :: value
  String.ofList ('{' :: '\n' :: List.intercalate [',', '\n'] (c.members.map member) ++ ['\n', '}'])

end ManagedBridge.BridgeConfig
