import SerialDialogue.Log
import SerialDialogue.Regex.Basic
import SerialDialogue.Text.Blank
import SerialDialogue.Unicode.Alphanumeric

/-!
# Directives of a log filter

A directive says from which level on the entries of some parts of the program are
shown.  It has up to three parts, as in `target[span{field=value}]=level`: where the
entries come from, in which span they have to be said and what fields they have to
have, and the level.  A level may stand alone, and so may the other parts, which then
show everything.
-/

namespace SerialDialogue

/-- The least important entries that are shown. -/
inductive Threshold where
  | off
  | error
  | warn
  | info
  | debug
  | trace
  deriving Repr, DecidableEq

namespace Threshold

def shows (threshold : Threshold) : Level → Bool
  | .warn => threshold ∈ [warn, info, debug, trace]
  | .info => threshold ∈ [info, debug, trace]
  | .debug => threshold ∈ [debug, trace]

def name : Threshold → String
  | off => "off"
  | error => "error"
  | warn => "warn"
  | info => "info"
  | debug => "debug"
  | trace => "trace"

/-- All thresholds, in the order of their numbers. -/
def all : List Threshold :=
  [off, error, warn, info, debug, trace]

/-- The threshold of a number, which may have a plus sign and zeros in front. -/
def ofNumber? (text : List Char) : Option Threshold :=
  let digits :=
    match text with
    | '+' :: rest => rest
    | text => text
  if digits.isEmpty || !digits.all Char.isDigit then
    none
  else
    all[digits.foldl (fun value c => value * 10 + (c.toNat - '0'.toNat)) 0]?

/-- The threshold of a number or a name; the case of a name does not matter. -/
def ofText? (text : List Char) : Option Threshold :=
  (ofNumber? text).orElse fun _ =>
    all.find? fun threshold => threshold.name = String.ofList (text.map Char.toLower)

end Threshold

/-- A field that an entry has to have, perhaps with a certain value. -/
structure FieldTest where
  name : String
  valued : Bool
  deriving Repr, DecidableEq

/-- A directive: which entries it is about, and from which level on they are shown. -/
structure Directive where
  target : Option String := none
  span : Option String := none
  fields : List FieldTest := []
  threshold : Threshold := .trace
  deriving Repr, DecidableEq

namespace Directive

/-! ## Values of fields -/

/-- A number without a sign, perhaps with a point and an exponent. -/
def isUnsignedNumber (text : List Char) : Bool :=
  let whole := text.takeWhile Char.isDigit
  let rest := text.dropWhile Char.isDigit
  let (fraction, rest) :=
    match rest with
    | '.' :: more => (more.takeWhile Char.isDigit, more.dropWhile Char.isDigit)
    | rest => ([], rest)
  let exponent :=
    match rest with
    | [] => true
    | c :: more =>
        let digits :=
          match more with
          | '+' :: digits => digits
          | '-' :: digits => digits
          | digits => digits
        (c = 'e' || c = 'E') && !digits.isEmpty && digits.all Char.isDigit
  (!whole.isEmpty || !fraction.isEmpty) && exponent

/-- The name of a value that is no finite number. -/
def isSpecialNumber (text : List Char) : Bool :=
  ["inf", "infinity", "nan"].contains (String.ofList (text.map Char.toLower))

/-- A value that a field can be compared with: a regular expression, or a number with a
plus sign, which is none.  Everything else that is no text is a regular expression
too. -/
def isValue (text : List Char) : Bool :=
  match text with
  | '+' :: rest => isUnsignedNumber rest || isSpecialNumber rest
  | text => (Regex.compile? (String.ofList text)).toBool

/-- The test of a field, which has a name and perhaps a value behind an equals sign; a
second equals sign ends the value. -/
def fieldTest? (text : List Char) : Option FieldTest :=
  match Text.pieces '=' text with
  | [] => none
  | [name] => if name.isEmpty then none else some ⟨String.ofList name, false⟩
  | name :: value :: _ => if isValue value then some ⟨String.ofList name, true⟩ else none

/-! ## Reading -/

/-- Cut a text behind so many bytes, unless that is inside a character. -/
def cutAtByte? : Nat → List Char → Option (List Char × List Char)
  | 0, text => some ([], text)
  | _ + 1, [] => none
  | count + 1, c :: rest =>
      if c.utf8Size ≤ count + 1 then
        (cutAtByte? (count + 1 - c.utf8Size) rest).map fun (front, back) => (c :: front, back)
      else
        none

/-- The part of a text behind so many bytes, up to another number of bytes. -/
def between? (text : List Char) (start stop : Nat) : Option (List Char) := do
  let (front, _) ← cutAtByte? stop text
  let (_, part) ← cutAtByte? start front
  return part

/-- Where the reading of a directive stands.  Parts are known by the byte that they
start at. -/
inductive Reading where
  | start
  | name
  | span (start : Nat)
  | field (start : Nat)
  | behindField
  | behindBracket
  | level (start : Nat)
  deriving Repr, DecidableEq

/-- A character that a target may begin with. -/
def beginsTarget (c : Char) : Bool :=
  c = '-' || c = ':' || c = '_' || Unicode.isAlphanumeric c

/-- Read one more character, which stands at the given byte; parts are cut from the
directive as `written`. -/
def readChar (written : List Char) (place : Nat) (c : Char) (directive : Directive)
    (reading : Reading) : Option (Directive × Reading) :=
  match reading with
  | .start =>
      if c = '[' then some (directive, .span (place + 1))
      else if beginsTarget c then some (directive, .name)
      else none
  | .name =>
      if c = '=' ∨ c = '[' then do
        let target ← between? written 0 place
        let next := if c = '=' then .level (place + 1) else .span (place + 1)
        return ({ directive with target := String.ofList target }, next)
      else
        some (directive, .name)
  | .span start =>
      if c = ']' then do
        let span ← between? written start place
        return ({ directive with span := String.ofList span }, .behindBracket)
      else if c = '\x7b' then do
        let span ← between? written start place
        let span? := if span.isEmpty then none else some (String.ofList span)
        return ({ directive with span := span? }, .field (place + 1))
      else
        some (directive, .span start)
  | .field start =>
      if c = '\x7d' then do
        let test ← fieldTest? (← between? written start place)
        return ({ directive with fields := directive.fields ++ [test] }, .behindField)
      else
        some (directive, .field start)
  | .behindField => if c = ']' then some (directive, .behindBracket) else none
  | .behindBracket => if c = '=' then some (directive, .level (place + 1)) else none
  | .level start => some (directive, .level start)

def readFrom (written : List Char) (place : Nat) (directive : Directive) (reading : Reading) :
    List Char → Option (Directive × Reading)
  | [] => some (directive, reading)
  | c :: rest =>
      match readChar written place c directive reading with
      | none => none
      | some (directive, reading) =>
          readFrom written (place + c.utf8Size) directive reading rest

def finish? (written : List Char) (directive : Directive) : Reading → Option Directive
  | .name =>
      match Threshold.ofText? written with
      | some threshold => some { directive with threshold := threshold }
      | none => some { directive with target := String.ofList written }
  | .behindBracket => some directive
  | .level start =>
      match cutAtByte? start written with
      | some (_, []) => some directive
      | some (_, level) =>
          (Threshold.ofText? level).map fun threshold => { directive with threshold := threshold }
      | none => none
  | _ => none

/-- The directive of a text.  Blanks around the text do not count when its marks are
looked for, but its parts are cut from the text with its blanks at the places where
the marks stand without them; so a blank in front shifts every part, and one behind a
target or a level belongs to it. -/
def parse? (written : List Char) : Option Directive := do
  let (directive, reading) ← readFrom written 0 {} .start (Text.dropBlankEnds written)
  finish? written directive reading

/-! ## Choosing -/

/-- The directive can be decided on before anything is said: it asks for no span, and
for no value of a field. -/
def isStatic (directive : Directive) : Bool :=
  directive.span.isNone && directive.fields.all fun test => !test.valued

/-- The only field of every entry. -/
def messageField : String := "message"

/-- The directive is about the entries of a part of the program. -/
def covers (directive : Directive) (speaker : Speaker) : Bool :=
  directive.isStatic &&
    (directive.target.all fun target => target.toList.isPrefixOf speaker.target.toList) &&
    directive.fields.all fun test => test.name = messageField

/-- The directive says no less about which entries it is about than another one: its
target is longer, or it is as long and there are no fewer fields. -/
def isAsSpecific (directive other : Directive) : Bool :=
  let length (directive : Directive) : Nat :=
    directive.target.elim 0 fun target => target.utf8ByteSize + 1
  length other < length directive ||
    (length other = length directive && other.fields.length ≤ directive.fields.length)

end Directive

end SerialDialogue
