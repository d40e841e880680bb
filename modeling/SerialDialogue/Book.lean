import SerialDialogue.Command
import SerialDialogue.Script

/-!
# Books of scripts

The scripts and try blocks of a configuration under the names by which they are
selected.  A book is only made of a configuration in which every name stands for one
entry and every try block refers to scripts that exist, so a selection that was
resolved compiles unless a script of it does not parse.
-/

namespace SerialDialogue

/-- What can be selected by name. -/
inductive Entry where
  | script (script : NamedScript)
  | attempt (block : TryBlock)
  deriving Repr, DecidableEq

namespace Entry

def name : Entry → String
  | script named => named.name
  | attempt block => block.name

def asScript? : Entry → Option NamedScript
  | script named => some named
  | attempt _ => none

end Entry

/-- The entries of a configuration: the scripts, then the try blocks. -/
structure Book where
  entries : List Entry
  deriving Repr, DecidableEq

namespace Book

/-- The script at a place of the configuration, under its number where it has no
name. -/
def nameScript (index : Nat) (script : NamedScript) : NamedScript :=
  if script.name = "" then
    { script with name := "script" ++ toString (index + 1) }
  else
    script

/-- The entries that a configuration declares. -/
def entriesOf (config : Config) : List Entry :=
  (config.scripts.mapIdx fun index script => .script (nameScript index script)) ++
    config.tries.map .attempt

/-- The first of the names that is among `seen` or stands further ahead. -/
def firstRepeated? (seen : List String) : List String → Option String
  | [] => none
  | name :: later =>
      if seen.contains name then some name else firstRepeated? (name :: seen) later

/-- Every name that can be selected, in the order of declaration. -/
def names (book : Book) : List String :=
  book.entries.map Entry.name

/-- The entry of a name. -/
def get? (book : Book) (name : String) : Option Entry :=
  book.entries.find? fun entry => entry.name = name

/-- The script of a name; try blocks do not count. -/
def script? (book : Book) (name : String) : Option NamedScript :=
  (book.get? name).bind Entry.asScript?

/-- Why a try block refers to something that is no script. -/
def danglingReference? (book : Book) (block : TryBlock) : Option ResolutionError :=
  if (book.script? block.script).isNone then
    some (.missingScript block.name block.script)
  else
    match block.fallbackName with
    | none => none
    | some name =>
        if (book.script? name).isNone then some (.missingExcept block.name name) else none

/-- Why no book can be made of a configuration. -/
def flaw? (config : Config) : Option ResolutionError :=
  let book : Book := ⟨entriesOf config⟩
  if config.tries.any fun block => block.name = "" then
    some .unnamedBlock
  else if book.entries.isEmpty then
    some .nothingDeclared
  else
    match firstRepeated? [] book.names with
    | some name => some (.duplicateName name)
    | none => config.tries.findSome? book.danglingReference?

/-- The book of a configuration. -/
def ofConfig? (config : Config) : Except Failure Book :=
  match flaw? config with
  | some cause => .error (.resolution cause)
  | none => .ok ⟨entriesOf config⟩

/-- What is selected when nothing is named: the first script, or else the first
entry. -/
def default? (book : Book) : Option Entry :=
  (book.entries.find? fun entry => entry.asScript?.isSome).or book.entries.head?

def lookUp (book : Book) (name : String) : Except Failure Entry :=
  match book.get? name with
  | some entry => .ok entry
  | none => .error (.resolution (.unknownName name book.names))

/-- The entries of the requested names, in their order. -/
def resolve (book : Book) (requested : List String) : Except Failure (List Entry) :=
  if requested.isEmpty then
    .ok book.default?.toList
  else
    requested.mapM book.lookUp

def stepsOf (book : Book) (name : String) : Except Failure (List Step) :=
  match book.script? name with
  | none => .error (.resolution (.unknownScript name))
  | some script => (Script.parse? script.body).mapError (.script name)

def commandsOf (book : Book) : Entry → Except Failure (List Command)
  | .script script => return (← book.stepsOf script.name).map .step
  | .attempt block => do
      let main ← book.stepsOf block.script
      let fallback ← block.fallbackName.mapM book.stepsOf
      return [.attempt block main fallback]

/-- The commands of a selection, in its order. -/
def compile (book : Book) (entries : List Entry) : Except Failure (List Command) :=
  return (← entries.mapM book.commandsOf).flatten

end Book

end SerialDialogue
