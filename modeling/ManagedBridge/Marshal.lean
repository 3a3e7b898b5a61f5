import ManagedBridge.Buffer
import ManagedBridge.CallContext

/-!
# Marshalling

Strings cross through a transient managed byte array. The bytes are copied as they are; what they
mean is the runtime's business. Whatever happens, an array that was obtained is released once,
after its last use.
-/

namespace ManagedBridge.Marshal

variable {σ κ ς β : Type}

def copiedLine (len : Nat) : LogLine :=
  ⟨.trace, "copied managed string to native", [("len", toString len)]⟩

def constructedLine (len : Nat) : LogLine :=
  ⟨.trace, "constructed managed string", [("len", toString len)]⟩

/-- Copies the content of an array into a new buffer of the length that the runtime reports. -/
def copyOut [Memory] (ctx : CallContext σ κ ς β) (array : β) :
    Call σ (Except BridgeError ByteBuffer) := do
  match ← ctx.byteArrayLen array with
  | .error e => return .error (.ofRuntime "byte_array_len" 0 e)
  | .ok len =>
    if ByteBuffer.fits len then
      match ← ctx.readByteArray array len with
      | .error e => return .error (.ofRuntime "read_byte_array" len e)
      | .ok bytes => return .ok (.filled len bytes)
    else return .error (.allocation "to_native" len)

/-- Copies the bytes of a managed string into a buffer; no string gives no buffer. -/
def toNative [Memory] (ctx : CallContext σ κ ς β) (caps : κ) (string? : Option ς) :
    Act σ (Except BridgeError (Option ByteBuffer)) := do
  let some string := string? | return .ok none
  match ← ctx.stringBytes caps string with
  | .error e => return .error (.ofRuntime "string_bytes" 0 e)
  | .ok array =>
    let copied ← copyOut ctx array
    ctx.releaseBytes array
    match copied with
    | .error e => return .error e
    | .ok buffer =>
      Act.count .toNative
      Act.note (copiedLine buffer.len)
      return .ok (some buffer)

/-- Writes `bytes` into the array and has the runtime build a string from it. -/
def construct (ctx : CallContext σ κ ς β) (caps : κ) (array : β) (bytes : List UInt8) :
    Call σ (Except BridgeError ς) := do
  match ← ctx.writeByteArray array bytes with
  | .error e => return .error (.ofRuntime "write_byte_array" bytes.length e)
  | .ok () =>
    match ← ctx.newString caps array with
    | .error e => return .error (.ofRuntime "new_string" bytes.length e)
    | .ok string => return .ok string

/-- Builds a managed string from bytes; no bytes give no string. -/
def toManaged (ctx : CallContext σ κ ς β) (caps : κ) (bytes? : Option (List UInt8)) :
    Act σ (Except BridgeError (Option ς)) := do
  let some bytes := bytes? | return .ok none
  match ← ctx.newByteArray bytes.length with
  | .error e => return .error (.ofRuntime "new_byte_array" bytes.length e)
  | .ok array =>
    let built ← construct ctx caps array bytes
    ctx.releaseBytes array
    match built with
    | .error e => return .error e
    | .ok string =>
      Act.count .toManaged
      Act.note (constructedLine bytes.length)
      return .ok (some string)

end ManagedBridge.Marshal
