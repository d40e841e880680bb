/-!
# TOML values

The value of a TOML document and its parts.  Floating-point numbers and dates are kept
as they are written: nothing that this library reads from a document can be one.
-/

namespace SerialDialogue

namespace Toml

/-- Why a document, or what is read from it, is refused. -/
inductive Error where
  | malformed
  | nestedTooDeep
  | duplicateKey (key : String)
  | wrongType (expected : String)
  | unknownField (key : String)
  | missingField (key : String)
  deriving Repr, DecidableEq

def Error.message : Error → String
  | malformed => "malformed document"
  | nestedTooDeep => "nested too deep"
  | duplicateKey key => "duplicate key " ++ key
  | wrongType expected => "invalid type, expected " ++ expected
  | unknownField key => "unknown field " ++ key
  | missingField key => "missing field " ++ key

/-- How a table came to be, which decides what may still be added to it. -/
inductive Origin where
  /-- Written in braces; complete. -/
  | braces
  /-- The document itself, or a table with a header of its own. -/
  | header
  /-- Made on the way to a table whose header names it. -/
  | passedByHeader
  /-- Made on the way to a dotted key. -/
  | passedByKey
  deriving Repr, DecidableEq

/-- A value.  A moment is a date, a time or both; `tables` is the list of the tables
under one double-bracket header. -/
inductive Node where
  | string (text : String)
  | integer (value : Int)
  | boolean (value : Bool)
  | float (text : String)
  | moment (text : String)
  | array (items : List Node)
  | table (origin : Origin) (entries : List (String × Node))
  | tables (rows : List Node)

/-- The entries of a table, in the order in which their keys came. -/
abbrev Entries := List (String × Node)

namespace Entries

def get? (entries : Entries) (key : String) : Option Node :=
  (entries.find? (·.1 = key)).map (·.2)

/-- Change the value under a key, or add it behind the others. -/
def put (key : String) (value : Node) : Entries → Entries
  | [] => [(key, value)]
  | entry :: later =>
      if entry.1 = key then (key, value) :: later else entry :: put key value later

end Entries

end Toml

end SerialDialogue
