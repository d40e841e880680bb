import SerialDialogue.Config.Basic
import SerialDialogue.Toml.Document

/-!
# Configurations in TOML

How the parts of a configuration are written in a TOML document.  Every part is either
a table with named fields, of which no other may occur, or an array with the fields in
their order.
-/

namespace SerialDialogue

open Toml

namespace Config

/-- The fields of a part, under their names.  In an array they come in the given order,
as far as it goes. -/
def fields (order : List String) : Node → Except Toml.Error Entries
  | .table _ entries =>
      match entries.find? fun entry => !order.contains entry.1 with
      | some entry => .error (.unknownField entry.1)
      | none => .ok entries
  | .array items => .ok (order.zip items)
  | .tables rows => .ok (order.zip rows)
  | _ => .error (.wrongType "table")

/-- The items of an array, or the tables of a double-bracket header. -/
def rows : Node → Except Toml.Error (List Node)
  | .array items => .ok items
  | .tables rows => .ok rows
  | _ => .error (.wrongType "array")

def asString : Node → Except Toml.Error String
  | .string text => .ok text
  | _ => .error (.wrongType "string")

def asBoolean : Node → Except Toml.Error Bool
  | .boolean value => .ok value
  | _ => .error (.wrongType "boolean")

/-- A number below `bound`. -/
def asNatural (bound : Nat) : Node → Except Toml.Error Nat
  | .integer value =>
      if 0 ≤ value ∧ value < bound then .ok value.toNat else .error (.wrongType "integer")
  | _ => .error (.wrongType "integer")

/-- A field that may be missing. -/
def optional (read : Node → Except Toml.Error α) (entries : Entries) (key : String) :
    Except Toml.Error (Option α) :=
  match entries.get? key with
  | none => .ok none
  | some node => (read node).map some

/-- A field that has to be there. -/
def required (read : Node → Except Toml.Error α) (entries : Entries) (key : String) :
    Except Toml.Error α :=
  match entries.get? key with
  | none => .error (.missingField key)
  | some node => read node

def serialOf (node : Node) : Except Toml.Error SerialSettings := do
  let entries ← fields ["device", "speed", "parity", "bits"] node
  let unset : SerialSettings := {}
  let device ← optional asString entries "device"
  let speed ← optional (asNatural 0x100000000) entries "speed"
  let parity ← optional asBoolean entries "parity"
  let bits ← optional (asNatural 0x100) entries "bits"
  return ⟨device.getD unset.device, speed.getD unset.speed, parity.getD unset.parity,
    bits.getD unset.bits⟩

def timeoutOf (node : Node) : Except Toml.Error TimeoutLiterals := do
  let entries ← fields ["script", "receive"] node
  let script ← optional asString entries "script"
  let receive ← optional asString entries "receive"
  return ⟨script, receive⟩

def scriptOf (node : Node) : Except Toml.Error NamedScript := do
  let entries ← fields ["name", "body"] node
  let name ← optional asString entries "name"
  let body ← required asString entries "body"
  return ⟨name.getD "", body⟩

def blockOf (node : Node) : Except Toml.Error TryBlock := do
  let entries ← fields ["name", "script", "except", "retry"] node
  let name ← optional asString entries "name"
  let script ← required asString entries "script"
  let except ← optional asString entries "except"
  let retry ← optional asBoolean entries "retry"
  return ⟨name.getD "", script, except, retry.getD false⟩

def ofEntries (document : Entries) : Except Toml.Error Config := do
  let entries ← fields ["serial", "timeout", "script", "try"] (.table .header document)
  let serial ← optional serialOf entries "serial"
  let timeout ← optional timeoutOf entries "timeout"
  let scripts ← optional rows entries "script"
  let tries ← optional rows entries "try"
  let scripts ← (scripts.getD []).mapM scriptOf
  let tries ← (tries.getD []).mapM blockOf
  return ⟨serial.getD {}, timeout.getD {}, scripts, tries⟩

/-- The configuration of the text of a document. -/
def parse? (document : String) : Except Failure Config :=
  (Toml.parse? document >>= ofEntries).mapError fun cause => .config (.malformed cause)

/-- The configuration in a file: what reading the file gave, as bytes. -/
def ofFile (path : String) (content : Except SystemError ByteArray) : Except Failure Config :=
  match content with
  | .error cause => .error (.config (.unreadable path (.system cause)))
  | .ok bytes =>
      match String.fromUTF8? bytes with
      | none => .error (.config (.unreadable path .notUtf8))
      | some document => parse? document

end Config

end SerialDialogue
