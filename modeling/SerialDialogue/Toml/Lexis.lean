import SerialDialogue.Toml.Node

/-!
# Keys and strings of TOML

The parts of a document that have no parts themselves, but for numbers and dates:
blanks, comments, strings and keys.  Every function takes the text that is left and
gives back what it read together with what is left then.
-/

namespace SerialDialogue

namespace Toml

def isSpace (c : Char) : Bool :=
  c = ' ' || c = '\t'

/-- A character that may stand for itself in a comment or a string: everything but the
control characters, of which only the tab is allowed. -/
def isPlain (c : Char) : Bool :=
  c = '\t' || (0x20 ≤ c.toNat && c.toNat != 0x7F)

def dropSpaces (text : List Char) : List Char :=
  text.dropWhile isSpace

def dropComment (text : List Char) : List Char :=
  match text with
  | '#' :: rest => rest.dropWhile isPlain
  | text => text

/-- The text behind the end of a line. -/
def endOfLine? : List Char → Option (List Char)
  | '\n' :: rest => some rest
  | '\r' :: '\n' :: rest => some rest
  | _ => none

/-- The text behind what may follow an expression on its line: blanks, a comment, and
the end of the line or of the document. -/
def endOfExpression (text : List Char) : Except Error (List Char) :=
  match dropComment (dropSpaces text) with
  | [] => .ok []
  | rest =>
      match endOfLine? rest with
      | some after => .ok after
      | none => .error .malformed

/-! ## Strings -/

def hexDigit? (c : Char) : Option Nat :=
  if '0' ≤ c ∧ c ≤ '9' then some (c.toNat - '0'.toNat)
  else if 'a' ≤ c ∧ c ≤ 'f' then some (c.toNat - 'a'.toNat + 10)
  else if 'A' ≤ c ∧ c ≤ 'F' then some (c.toNat - 'A'.toNat + 10)
  else none

/-- The scalar value of a row of hexadecimal digits behind `value`. -/
def scalarOf (value : Nat) : List Char → Except Error Char
  | [] =>
      if value < 0xD800 ∨ (0xDFFF < value ∧ value < 0x110000) then
        .ok (Char.ofNat value)
      else
        .error .malformed
  | c :: rest =>
      match hexDigit? c with
      | some digit => scalarOf (value * 16 + digit) rest
      | none => .error .malformed

def escaped? : Char → Option Char
  | 'b' => some '\x08'
  | 't' => some '\t'
  | 'n' => some '\n'
  | 'f' => some '\x0c'
  | 'r' => some '\r'
  | '"' => some '"'
  | '\\' => some '\\'
  | _ => none

/-- What an escape stands for, behind its backslash, and how many characters it takes. -/
def escape (text : List Char) : Except Error (Char × Nat) :=
  let point (count : Nat) (digits : List Char) : Except Error (Char × Nat) :=
    if digits.length < count then .error .malformed
    else (scalarOf 0 (digits.take count)).map fun c => (c, count + 1)
  match text with
  | 'u' :: digits => point 4 digits
  | 'U' :: digits => point 8 digits
  | c :: _ =>
      match escaped? c with
      | some meant => .ok (meant, 1)
      | none => .error .malformed
  | [] => .error .malformed

/-- The rest of a string in double quotes; `done` is what it holds so far, last
character first. -/
def basicString (done : List Char) (text : List Char) :
    Except Error (String × List Char) :=
  match text with
  | [] => .error .malformed
  | c :: rest =>
      if c = '"' then
        .ok (String.ofList done.reverse, rest)
      else if c = '\\' then
        match escape rest with
        | .ok (meant, count) => basicString (meant :: done) (rest.drop count)
        | .error e => .error e
      else if isPlain c then
        basicString (c :: done) rest
      else
        .error .malformed
termination_by text.length
decreasing_by all_goals simp only [List.length_cons, List.length_drop]; omega

/-- The rest of a string in single quotes. -/
def literalString (text : List Char) : Except Error (String × List Char) :=
  let inside := text.takeWhile (· != '\'')
  match text.dropWhile (· != '\'') with
  | [] => .error .malformed
  | _ :: rest =>
      if inside.all isPlain then .ok (String.ofList inside, rest) else .error .malformed

def dropLineEnd (text : List Char) : List Char :=
  (endOfLine? text).getD text

def dropBlankLines (text : List Char) : List Char :=
  match text with
  | [] => []
  | '\r' :: '\n' :: rest => dropBlankLines rest
  | c :: rest => if isSpace c || c = '\n' then dropBlankLines rest else c :: rest

theorem length_dropBlankLines_le (text : List Char) :
    (dropBlankLines text).length ≤ text.length := by
  fun_induction dropBlankLines text <;> simp_all <;> omega

theorem length_dropSpaces_le (text : List Char) :
    (dropSpaces text).length ≤ text.length :=
  (List.dropWhile_sublist isSpace).length_le

theorem length_of_endOfLine? {text rest : List Char} (h : endOfLine? text = some rest) :
    rest.length < text.length := by
  unfold endOfLine? at h
  split at h
  · cases h
    simp
  · cases h
    simp only [List.length_cons]
    omega
  · cases h

/-- The end of a string of several lines, at a run of three or more of its quotes: up
to two of them belong to the string. -/
def closeLines (quote : Char) (done : List Char) (text : List Char) : String × List Char :=
  let extra := min ((text.takeWhile (· = quote)).length - 3) 2
  (String.ofList (List.replicate extra quote ++ done).reverse, text.drop (extra + 3))

/-- The rest of a string between triple quotes, with escapes where the quotes are
double ones.  The end of a line is a line feed however it is written, and a backslash
at the end of a line joins the next text that is not blank. -/
def linesString (quote : Char) (done : List Char) (text : List Char) :
    Except Error (String × List Char) :=
  match text with
  | [] => .error .malformed
  | c :: rest =>
      if c = quote then
        if [quote, quote].isPrefixOf rest then
          .ok (closeLines quote done text)
        else
          linesString quote (c :: done) rest
      else if c = '\\' ∧ quote = '"' then
        match _joined : endOfLine? (dropSpaces rest) with
        | some next => linesString quote done (dropBlankLines next)
        | none =>
            match escape rest with
            | .ok (meant, count) => linesString quote (meant :: done) (rest.drop count)
            | .error e => .error e
      else
        match _ended : endOfLine? (c :: rest) with
        | some next => linesString quote ('\n' :: done) next
        | none =>
            if isPlain c then linesString quote (c :: done) rest else .error .malformed
termination_by text.length
decreasing_by
  · simp only [List.length_cons]
    omega
  · have first := length_of_endOfLine? _joined
    have second := length_dropSpaces_le rest
    have third := length_dropBlankLines_le next
    simp only [List.length_cons]
    omega
  · simp only [List.length_cons, List.length_drop]
    omega
  · exact length_of_endOfLine? _ended
  · simp only [List.length_cons]
    omega

/-- A string of any of the four forms, at its first quote. -/
def string (text : List Char) : Except Error (String × List Char) :=
  match text with
  | '"' :: '"' :: '"' :: rest => linesString '"' [] (dropLineEnd rest)
  | '\'' :: '\'' :: '\'' :: rest => linesString '\'' [] (dropLineEnd rest)
  | '"' :: rest => basicString [] rest
  | '\'' :: rest => literalString rest
  | _ => .error .malformed

/-! ## Keys -/

def isKeyChar (c : Char) : Bool :=
  c.isAlphanum || c = '-' || c = '_'

def keyPart (text : List Char) : Except Error (String × List Char) :=
  match text with
  | '"' :: rest => basicString [] rest
  | '\'' :: rest => literalString rest
  | text =>
      let name := text.takeWhile isKeyChar
      if name.isEmpty then
        .error .malformed
      else
        .ok (String.ofList name, text.dropWhile isKeyChar)

/-- The number of levels that a value or a key may not reach. -/
def depthLimit : Nat := 80

/-- A key: parts with dots between them and blanks around the dots.  It has at most as
many parts as `room` says. -/
def keyParts (room : Nat) (text : List Char) : Except Error (List String × List Char) :=
  match room with
  | 0 => .error .nestedTooDeep
  | room + 1 => do
      let (first, rest) ← keyPart (dropSpaces text)
      match dropSpaces rest with
      | '.' :: more =>
          let (others, after) ← keyParts room more
          return (first :: others, after)
      | after => return ([first], after)

def key (text : List Char) : Except Error (List String × List Char) :=
  keyParts (depthLimit - 1) text

end Toml

end SerialDialogue
