import SerialDialogue.Toml.Moment
import SerialDialogue.Toml.Number

/-!
# TOML documents

From the text of a document to its table.  The keys under a header belong to the
table that the header names; the tables on the way to it are made as needed.  A table
has at most one header, and what dotted keys have made can be added to by dotted keys
under the same header only.
-/

namespace SerialDialogue

namespace Toml

/-! ## Tables -/

/-- Change the table at the end of a path of keys that starts in the table `origin`,
`entries`.  The tables that are missing on the way come from `passing`. -/
def changeAt (passing : Origin) (path : List String)
    (change : Origin → Entries → Except Error Node) (origin : Origin) (entries : Entries) :
    Except Error Node :=
  match path with
  | [] => change origin entries
  | key :: path => do
      let below ←
        match entries.get? key with
        | none => changeAt passing path change passing []
        | some (.table .braces _) => throw (.duplicateKey key)
        | some (.table below entries) =>
            if passing = .passedByKey ∧ below = .header then
              throw (.duplicateKey key)
            else
              changeAt passing path change below entries
        | some (.tables rows) =>
            match rows.getLast? with
            | some (.table below entries) => do
                let row ← changeAt passing path change below entries
                pure (.tables (rows.dropLast ++ [row]))
            | _ => throw (.duplicateKey key)
        | some _ => throw (.duplicateKey key)
      return .table origin (entries.put key below)

/-- Add a value under a key that the table must not have yet. -/
def addNew (key : String) (value : Node) (origin : Origin) (entries : Entries) :
    Except Error Node :=
  match entries.get? key with
  | none => .ok (.table origin (entries.put key value))
  | some _ => .error (.duplicateKey key)

/-- Add a value under a dotted key: directly, or in a table that dotted keys made. -/
def addDotted (key : String) (value : Node) (origin : Origin) (entries : Entries) :
    Except Error Node :=
  if origin = .passedByKey then addNew key value origin entries
  else .error (.duplicateKey key)

/-- Add a value to a table under a path of keys. -/
def addAt (path : List String) (value : Node) (origin : Origin) (entries : Entries) :
    Except Error Node :=
  match path with
  | [] => .error .malformed
  | [key] => addNew key value origin entries
  | path =>
      changeAt .passedByKey path.dropLast (addDotted (path.getLast?.getD "") value) origin entries

def Node.entries : Node → Entries
  | .table _ entries => entries
  | _ => []

/-! ## Values -/

/-- Drop blanks, comments and ends of lines inside an array. -/
def dropFiller (fuel : Nat) (text : List Char) : List Char :=
  match fuel with
  | 0 => text
  | fuel + 1 =>
      let rest := dropBlankLines text
      match rest with
      | '#' :: _ =>
          match endOfLine? (dropComment rest) with
          | some next => dropFiller fuel next
          | none => rest
      | rest => rest

/-- The part of a text in front of what is left of it. -/
def written (text rest : List Char) : String :=
  String.ofList (text.take (text.length - rest.length))

/-- A moment or a number, at its first character. -/
def number (text : List Char) : Except Error (Node × List Char) :=
  match moment? text with
  | some rest => .ok (.moment (written text rest), rest)
  | none =>
      match float text with
      | .ok rest => .ok (.float (written text rest), rest)
      | .error _ => (integer text).map fun (value, rest) => (.integer value, rest)

/-- A value without parts that is no string, at its first character. -/
def scalar (text : List Char) : Except Error (Node × List Char) :=
  if "true".toList.isPrefixOf text then .ok (.boolean true, text.drop 4)
  else if "false".toList.isPrefixOf text then .ok (.boolean false, text.drop 5)
  else number text

mutual

/-- A value, at its first character.  The fuel bounds the number of steps, and `room`
the levels of arrays and tables. -/
def value (fuel room : Nat) (text : List Char) : Except Error (Node × List Char) :=
  match fuel with
  | 0 => .error .malformed
  | fuel + 1 =>
      match text with
      | '"' :: _ => (string text).map fun (s, rest) => (.string s, rest)
      | '\'' :: _ => (string text).map fun (s, rest) => (.string s, rest)
      | '[' :: rest =>
          if room = 0 then .error .nestedTooDeep else arrayItems fuel (room - 1) [] rest
      | '\x7b' :: rest =>
          if room = 0 then
            .error .nestedTooDeep
          else
            match dropSpaces rest with
            | '\x7d' :: after => .ok (.table .braces [], after)
            | pairs => tablePairs fuel (room - 1) [] pairs
      | text => scalar text

/-- The rest of an array; `done` are its items so far, last one first. -/
def arrayItems (fuel room : Nat) (done : List Node) (text : List Char) :
    Except Error (Node × List Char) :=
  match fuel with
  | 0 => .error .malformed
  | fuel + 1 =>
      match dropFiller (text.length + 1) text with
      | ']' :: after => .ok (.array done.reverse, after)
      | item => do
          let (node, rest) ← value fuel room item
          match dropFiller (rest.length + 1) rest with
          | ',' :: more => arrayItems fuel room (node :: done) more
          | ']' :: after => return (.array (node :: done).reverse, after)
          | _ => throw .malformed

/-- The rest of a table in braces, at one of its pairs; `done` are its entries so far. -/
def tablePairs (fuel room : Nat) (done : Entries) (text : List Char) :
    Except Error (Node × List Char) :=
  match fuel with
  | 0 => .error .malformed
  | fuel + 1 => do
      let (path, rest) ← key text
      match rest with
      | '=' :: rest =>
          let (node, rest) ← value fuel room (dropSpaces rest)
          let done := (← addAt path node .header done).entries
          match dropSpaces rest with
          | ',' :: more => tablePairs fuel room done more
          | '\x7d' :: after => return (.table .braces done, after)
          | _ => throw .malformed
      | _ => throw .malformed

end

/-! ## Documents -/

/-- A document in the middle of its lines: what is finished, and the table whose
entries are being read, under the path of its header. -/
structure Assembly where
  finished : Entries := []
  current : Entries := []
  path : List String := []
  isRow : Bool := false

namespace Assembly

/-- Put a finished table under its key. -/
def place (current : Entries) (isRow : Bool) (key : String) (origin : Origin)
    (entries : Entries) : Except Error Node :=
  let table := Node.table .header current
  if isRow then
    match entries.get? key with
    | none => .ok (.table origin (entries.put key (.tables [table])))
    | some (.tables rows) => .ok (.table origin (entries.put key (.tables (rows ++ [table]))))
    | some _ => .error (.duplicateKey key)
  else
    match entries.get? key with
    | none => .ok (.table origin (entries.put key table))
    | some (.table .passedByHeader _) => .ok (.table origin (entries.put key table))
    | some (.table .passedByKey _) => .ok (.table origin (entries.put key table))
    | some _ => .error (.duplicateKey key)

def close (assembly : Assembly) : Except Error Entries :=
  match assembly.path.getLast? with
  | none => .ok assembly.current
  | some key =>
      (changeAt .passedByHeader assembly.path.dropLast
        (place assembly.current assembly.isRow key) .header assembly.finished).map Node.entries

/-- Begin a table whose header has the given path. -/
def openTable (path : List String) (finished : Entries) : Except Error Assembly :=
  match path.getLast? with
  | none => .error .malformed
  | some key => do
      let take (origin : Origin) (entries : Entries) : Except Error Node :=
        match entries.get? key with
        | none => .ok (.table origin entries)
        | some (.table .passedByHeader _) => .ok (.table origin entries)
        | some _ => .error (.duplicateKey key)
      let found ← changeAt .passedByHeader path.dropLast take .header finished
      -- What was made on the way to this table stays in it.
      let rec below (entries : Entries) : List String → Entries
        | [] => entries
        | key :: path =>
            match entries.get? key with
            | some (.table _ entries) => below entries path
            | some (.tables rows) =>
                match rows.getLast? with
                | some (.table _ entries) => below entries path
                | _ => []
            | _ => []
      return { finished := found.entries, current := below found.entries path, path := path }

/-- Begin one more row of the tables under a path. -/
def openRow (path : List String) (finished : Entries) : Except Error Assembly :=
  match path.getLast? with
  | none => .error .malformed
  | some key => do
      let check (origin : Origin) (entries : Entries) : Except Error Node :=
        match entries.get? key with
        | none => .ok (.table origin entries)
        | some (.tables _) => .ok (.table origin entries)
        | some _ => .error (.duplicateKey key)
      let found ← changeAt .passedByHeader path.dropLast check .header finished
      return { finished := found.entries, path := path, isRow := true }

end Assembly

/-- A header, behind its first bracket: its path, whether it is a double one, and the
text behind its line. -/
def header (text : List Char) : Except Error ((List String × Bool) × List Char) := do
  let (isRow, inside) :=
    match text with
    | '[' :: rest => (true, rest)
    | rest => (false, rest)
  let (path, rest) ← key inside
  match isRow, rest with
  | true, ']' :: ']' :: after => return ((path, true), ← endOfExpression after)
  | false, ']' :: after => return ((path, false), ← endOfExpression after)
  | _, _ => throw .malformed

/-- Read the lines of a document.  Every line is shorter than the text before it, so
the length of the text is fuel enough. -/
def readLines (fuel : Nat) (assembly : Assembly) (text : List Char) :
    Except Error Assembly :=
  match fuel with
  | 0 => .error .malformed
  | fuel + 1 =>
      match dropSpaces text with
      | [] => .ok assembly
      | '#' :: rest => do readLines fuel assembly (← endOfExpression ('#' :: rest))
      | '\n' :: rest => readLines fuel assembly rest
      | '\r' :: '\n' :: rest => readLines fuel assembly rest
      | '[' :: rest => do
          let ((path, isRow), rest) ← header rest
          let finished ← assembly.close
          let next ←
            if isRow then Assembly.openRow path finished else Assembly.openTable path finished
          readLines fuel next rest
      | line => do
          let (path, rest) ← key line
          match rest with
          | '=' :: rest =>
              let (node, rest) ← value (2 * rest.length + 2) (depthLimit - 1) (dropSpaces rest)
              let current := (← addAt path node .header assembly.current).entries
              readLines fuel { assembly with current := current } (← endOfExpression rest)
          | _ => throw .malformed

/-- The table of a document; a byte order mark in front of it is not part of it. -/
def parse? (document : String) : Except Error Entries := do
  let text :=
    match document.toList with
    | '\ufeff' :: rest => rest
    | text => text
  let assembly ← readLines (text.length + 1) {} text
  assembly.close

end Toml

end SerialDialogue
