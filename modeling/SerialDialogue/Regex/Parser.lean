import SerialDialogue.Regex.Tree
import SerialDialogue.Text.Blank
import SerialDialogue.Unicode.Alphanumeric

/-!
# Reading regular expressions

From the characters between the slashes to a tree.  Every function takes the text
that is left and gives back what it read together with what is left then.  In the
verbose mode, blanks and comments between the parts of an expression are skipped;
`verbose` says whether the mode is on.
-/

namespace SerialDialogue

namespace Regex

namespace Parser

open Unicode

/-! ## Skipping -/

/-- Drop blanks and comments; a comment runs from `#` to the end of the line. -/
def skipSpace (inComment : Bool) : List Char → List Char
  | [] => []
  | c :: rest =>
      if inComment then
        skipSpace (c != '\n') rest
      else if Text.isBlank c then
        skipSpace false rest
      else if c = '#' then
        skipSpace true rest
      else
        c :: rest

/-- Drop blanks and comments where the verbose mode is on. -/
def skip (verbose : Bool) (text : List Char) : List Char :=
  if verbose then skipSpace false text else text

theorem length_skipSpace_le (inComment : Bool) (text : List Char) :
    (skipSpace inComment text).length ≤ text.length := by
  fun_induction skipSpace inComment text <;> simp_all <;> omega

theorem length_skip_le (verbose : Bool) (text : List Char) :
    (skip verbose text).length ≤ text.length := by
  unfold skip
  split
  · exact length_skipSpace_le false text
  · exact Nat.le_refl _

/-- The next character behind the one in front.  In the verbose mode blanks do not
count, nor does the mark that begins a comment. -/
def lookPast (verbose : Bool) (text : List Char) : Option Char :=
  if verbose then
    match (text.drop 1).dropWhile Text.isBlank with
    | '#' :: rest => (rest.dropWhile Text.isBlank).head?
    | rest => rest.head?
  else
    (text.drop 1).head?

/-! ## Characters -/

def hexDigit? (c : Char) : Option Nat :=
  if '0' ≤ c ∧ c ≤ '9' then some (c.toNat - '0'.toNat)
  else if 'a' ≤ c ∧ c ≤ 'f' then some (c.toNat - 'a'.toNat + 10)
  else if 'A' ≤ c ∧ c ≤ 'F' then some (c.toNat - 'A'.toNat + 10)
  else none

/-- The character of a code point, unless it is out of range or a surrogate. -/
def scalar? (n : Nat) : Option Char :=
  if n < 0xD800 ∨ (0xDFFF < n ∧ n < 0x110000) then some (Char.ofNat n) else none

/-- The characters with a meaning of their own somewhere in an expression. -/
def isMeta (c : Char) : Bool :=
  "\\.+*?()|[]\x7b\x7d^$#&-~".toList.contains c

/-- The characters that a backslash may precede without changing them. -/
def isEscapable (c : Char) : Bool :=
  isMeta c || (c.toNat < 0x80 && !c.isAlphanum && c != '<' && c != '>')

def isNameChar (first : Bool) (c : Char) : Bool :=
  c = '_' ||
    if first then isAlphabetic c
    else c = '.' || c = '[' || c = ']' || isAlphanumeric c

/-! ## Numbers -/

/-- A row of decimal digits, with blanks between them in the verbose mode. -/
def readDigits (verbose : Bool) (text : List Char) : List Char × List Char :=
  match text with
  | [] => ([], [])
  | c :: rest =>
      if c.isDigit then
        let more := readDigits verbose (skip verbose rest)
        (c :: more.1, more.2)
      else
        ([], c :: rest)
termination_by text.length
decreasing_by
  have := length_skip_le verbose rest
  simp only [List.length_cons]
  omega

/-- Drop blanks one by one, and what the verbose mode skips behind each. -/
def dropBlanks (verbose : Bool) (text : List Char) : List Char :=
  match text with
  | [] => []
  | c :: rest => if Text.isBlank c then dropBlanks verbose (skip verbose rest) else c :: rest
termination_by text.length
decreasing_by
  have := length_skip_le verbose rest
  simp only [List.length_cons]
  omega

/-- A decimal number of a repetition count, with blanks around it; `none` where there
are no digits. -/
def readCount (verbose : Bool) (text : List Char) : Except Error ((Option Nat) × List Char) :=
  let (digits, rest) := readDigits verbose (Text.dropBlankStart text)
  let rest := dropBlanks verbose rest
  let value := digits.foldl (fun value c => value * 10 + (c.toNat - '0'.toNat)) 0
  if digits.isEmpty then
    .ok (none, rest)
  else if value < 0x100000000 then
    .ok (some value, rest)
  else
    .error .countMalformed

/-- What stands between the braces of a counted repetition, and the closing brace. -/
def readRange (verbose : Bool) (text : List Char) :
    Except Error ((Nat × Option Nat) × List Char) := do
  let (least, rest) ← readCount verbose (skip verbose text)
  match least, rest with
  | some least, '\x7d' :: after => return ((least, some least), after)
  | some least, ',' :: more =>
      match skip verbose more with
      | '\x7d' :: after => return ((least, none), after)
      | bounds =>
          match ← readCount verbose bounds with
          | (some most, '\x7d' :: after) =>
              if least ≤ most then
                return ((least, some most), after)
              else
                throw .countMalformed
          | _ => throw .countMalformed
  | _, _ => throw .countMalformed

/-- A fixed number of hexadecimal digits behind `value`. -/
def readHexFixed (verbose : Bool) (value : Nat) : Nat → List Char → Except Error (Nat × List Char)
  | 0, text => .ok (value, text)
  | count + 1, text =>
      match text with
      | [] => .error .codePointMalformed
      | c :: rest =>
          match hexDigit? c with
          | none => .error .codePointMalformed
          | some digit => readHexFixed verbose (value * 16 + digit) count (skip verbose rest)

/-- Hexadecimal digits up to a closing brace, behind `value`; `found` says whether
there has been one. -/
def readHexBraced (verbose : Bool) (value : Nat) (found : Bool) (text : List Char) :
    Except Error (Nat × List Char) :=
  match _shape : skip verbose text with
  | [] => .error .codePointMalformed
  | c :: rest =>
      if c = '\x7d' then
        if found then .ok (value, skip verbose rest) else .error .codePointMalformed
      else
        match hexDigit? c with
        | none => .error .codePointMalformed
        | some digit => readHexBraced verbose (value * 16 + digit) true rest
termination_by text.length
decreasing_by
  have := length_skip_le verbose text
  simp only [_shape, List.length_cons] at this
  omega

/-- The hexadecimal form of a character, behind its letter, which fixes the number of
digits; braces may hold any number of them. -/
def readHex (verbose : Bool) (letter : Char) (text : List Char) :
    Except Error (Literal × List Char) := do
  let count := if letter = 'x' then 2 else if letter = 'u' then 4 else 8
  let (value, rest, braced) ←
    match skip verbose text with
    | '\x7b' :: more => do
        let (value, rest) ← readHexBraced verbose 0 false more
        pure (value, rest, true)
    | digits => do
        let (value, rest) ← readHexFixed verbose 0 count digits
        pure (value, rest, false)
  match scalar? value with
  | none => throw .codePointMalformed
  | some c => return (⟨c, !braced && letter = 'x'⟩, rest)

/-! ## Escapes -/

/-- A part of an expression that consumes at most one character. -/
inductive Primitive where
  | literal (literal : Literal)
  | dot
  | anchor (anchor : Anchor)
  | letter (kind : LetterClass) (negated : Bool)
  | property (query : PropertyQuery) (negated : Bool)

/-- The name between the braces of a property, up to the closing one. -/
def readBracedName (verbose : Bool) (text : List Char) : Except Error ((List Char) × List Char) :=
  match _shape : skip verbose text with
  | [] => .error .escapeMalformed
  | c :: rest =>
      if c = '\x7d' then
        .ok ([], rest)
      else
        match readBracedName verbose rest with
        | .error e => .error e
        | .ok (name, after) => .ok (c :: name, after)
termination_by text.length
decreasing_by
  have := length_skip_le verbose text
  simp only [_shape, List.length_cons] at this
  omega

/-- Cut a text in front of the first place where `mark` stands, and behind it. -/
def splitAtMark? (mark : List Char) : List Char → Option (List Char × List Char)
  | [] => none
  | c :: rest =>
      if mark.isPrefixOf (c :: rest) then
        some ([], (c :: rest).drop mark.length)
      else
        (splitAtMark? mark rest).map fun parts => (c :: parts.1, parts.2)

/-- The query of a braced property name: a name alone, or a name and a value with
`!=`, `:` or `=` between them.  The first of these marks asks for the characters that
have another value, which is said beside the query. -/
def queryOf (name : List Char) : PropertyQuery × Bool :=
  let valued (parts : List Char × List Char) : PropertyQuery :=
    .valued (String.ofList parts.1) (String.ofList parts.2)
  match splitAtMark? ['!', '='] name with
  | some parts => (valued parts, true)
  | none =>
      match (splitAtMark? [':'] name).orElse fun _ => splitAtMark? ['='] name with
      | some parts => (valued parts, false)
      | none => (.named (String.ofList name), false)

/-- A property, behind its letter `p` or `P`. -/
def readProperty (verbose : Bool) (negated : Bool) (text : List Char) :
    Except Error (Primitive × List Char) := do
  match skip verbose text with
  | [] => throw .escapeMalformed
  | '\x7b' :: more =>
      let (name, rest) ← readBracedName verbose more
      let (query, unequal) := queryOf name
      return (.property query (negated != unequal), rest)
  | c :: rest =>
      if c = '\\' then
        throw .propertyUnknown
      else
        return (.property (.named c.toString) negated, skip verbose rest)

/-- The letters of a special word boundary, and dashes. -/
def isBoundaryChar (c : Char) : Bool :=
  c.isAlpha || c = '-'

def readBoundaryName (verbose : Bool) (text : List Char) : List Char × List Char :=
  match text with
  | [] => ([], [])
  | c :: rest =>
      if isBoundaryChar c then
        let more := readBoundaryName verbose (skip verbose rest)
        (c :: more.1, more.2)
      else
        ([], c :: rest)
termination_by text.length
decreasing_by
  have := length_skip_le verbose rest
  simp only [List.length_cons]
  omega

/-- A word boundary, behind `\b`.  A brace behind it either names a special boundary
or begins a repetition count. -/
def readBoundary (verbose : Bool) (text : List Char) : Except Error (Primitive × List Char) :=
  match text with
  | '\x7b' :: more =>
      match skip verbose more with
      | [] => .error .boundaryMalformed
      | c :: rest =>
          if isBoundaryChar c then
            match readBoundaryName verbose (c :: rest) with
            | (name, '\x7d' :: after) =>
                if name = "start".toList then .ok (.anchor .wordStart, after)
                else if name = "end".toList then .ok (.anchor .wordEnd, after)
                else if name = "start-half".toList then .ok (.anchor .wordStartHalf, after)
                else if name = "end-half".toList then .ok (.anchor .wordEndHalf, after)
                else .error .boundaryMalformed
            | _ => .error .boundaryMalformed
          else
            .ok (.anchor .wordBoundary, text)
  | _ => .ok (.anchor .wordBoundary, text)

def readEscape (verbose : Bool) : List Char → Except Error (Primitive × List Char)
  | [] => .error .escapeMalformed
  | c :: rest =>
      let char (c : Char) : Except Error (Primitive × List Char) := .ok (.literal ⟨c, false⟩, rest)
      if c.isDigit then .error .backreference
      else if c = 'x' || c = 'u' || c = 'U' then
        (readHex verbose c rest).map fun (literal, after) => (.literal literal, after)
      else if c = 'p' || c = 'P' then readProperty verbose (c = 'P') rest
      else if c = 'd' || c = 'D' then .ok (.letter .digit (c = 'D'), rest)
      else if c = 's' || c = 'S' then .ok (.letter .space (c = 'S'), rest)
      else if c = 'w' || c = 'W' then .ok (.letter .word (c = 'W'), rest)
      else if isEscapable c then char c
      else if c = 'a' then char '\x07'
      else if c = 'f' then char '\x0c'
      else if c = 't' then char '\t'
      else if c = 'n' then char '\n'
      else if c = 'r' then char '\r'
      else if c = 'v' then char '\x0b'
      else if c = 'A' then .ok (.anchor .textStart, rest)
      else if c = 'z' then .ok (.anchor .textEnd, rest)
      else if c = 'b' then readBoundary verbose rest
      else if c = 'B' then .ok (.anchor .notWordBoundary, rest)
      else if c = '<' then .ok (.anchor .wordStart, rest)
      else if c = '>' then .ok (.anchor .wordEnd, rest)
      else .error .escapeMalformed

/-- A part that is no operator, no group and no class. -/
def readPrimitive (verbose : Bool) (c : Char) (rest : List Char) :
    Except Error (Primitive × List Char) :=
  match c with
  | '\\' => readEscape verbose rest
  | '.' => .ok (.dot, rest)
  | '^' => .ok (.anchor .lineStart, rest)
  | '$' => .ok (.anchor .lineEnd, rest)
  | c => .ok (.literal ⟨c, false⟩, rest)

def Primitive.toTree : Primitive → Tree
  | .literal char => .literal char
  | .dot => .dot
  | .anchor place => .anchor place
  | .letter kind negated => .letter kind negated
  | .property query negated => .property query negated

/-! ## Classes -/

def Primitive.toItem : Primitive → Except Error ClassTree
  | .literal char => .ok (.literal char)
  | .letter kind negated => .ok (.letter kind negated)
  | .property query negated => .ok (.property query negated)
  | _ => .error .classItemMalformed

def Primitive.toEnd : Primitive → Except Error Literal
  | .literal char => .ok char
  | _ => .error .rangeMalformed

/-- The class of a name between `[:` and `:]`. -/
def namedClass? (name : String) : Option NamedClass :=
  match name with
  | "alnum" => some .alnum
  | "alpha" => some .alpha
  | "ascii" => some .ascii
  | "blank" => some .blank
  | "cntrl" => some .cntrl
  | "digit" => some .digit
  | "graph" => some .graph
  | "lower" => some .lower
  | "print" => some .print
  | "punct" => some .punct
  | "space" => some .space
  | "upper" => some .upper
  | "word" => some .word
  | "xdigit" => some .xdigit
  | _ => none

/-- A named class, behind its opening bracket; `none` where there is none, and the
bracket then begins a class of its own. -/
def readNamed? (text : List Char) : Option (ClassTree × List Char) :=
  match text with
  | ':' :: more =>
      let (negated, more) :=
        match more with
        | '^' :: rest => (true, rest)
        | rest => (false, rest)
      let name := more.takeWhile (· != ':')
      match more.dropWhile (· != ':') with
      | ':' :: ']' :: after =>
          (namedClass? (String.ofList name)).map fun kind => (.named kind negated, after)
      | _ => none
  | _ => none

def readClassPart (verbose : Bool) (text : List Char) : Except Error (Primitive × List Char) :=
  match text with
  | [] => .error .classNotClosed
  | '\\' :: rest => readEscape verbose rest
  | c :: rest => .ok (.literal ⟨c, false⟩, rest)

def readClassRange (verbose : Bool) (text : List Char) : Except Error (ClassTree × List Char) := do
  let (first, rest) ← readClassPart verbose text
  match skip verbose rest with
  | [] => throw .classNotClosed
  | '-' :: more =>
      let past := lookPast verbose ('-' :: more)
      if past = some ']' ∨ past = some '-' then
        return (← first.toItem, '-' :: more)
      else
        match skip verbose more with
        | [] => throw .classNotClosed
        | second =>
            let (last, after) ← readClassPart verbose second
            let low ← first.toEnd
            let high ← last.toEnd
            if low.char ≤ high.char then
              return (.range low high, after)
            else
              throw .rangeMalformed
  | behind => return (← first.toItem, behind)

/-- An operation that waits for its right operand. -/
abbrev Waiting := Option (ClassOperation × ClassTree)

/-- Give a waiting operation its right operand. -/
def combine (waiting : Waiting) (right : ClassTree) : ClassTree :=
  match waiting with
  | none => right
  | some (kind, left) => .operation kind left right

/-- Dashes in front of a class, which stand for themselves. -/
def readDashes (verbose : Bool) (items : List ClassTree) (text : List Char) :
    List ClassTree × List Char :=
  match text with
  | [] => (items, [])
  | c :: rest =>
      if c = '-' then
        readDashes verbose (.literal ⟨'-', false⟩ :: items) (skip verbose rest)
      else
        (items, c :: rest)
termination_by text.length
decreasing_by
  have := length_skip_le verbose rest
  simp only [List.length_cons]
  omega

/-- The beginning of a class, behind its opening bracket: whether it is negated, and
the dashes or the bracket in front that stand for themselves (last one first). -/
def readClassHead (verbose : Bool) (text : List Char) :
    Except Error ((Bool × List ClassTree) × List Char) := do
  let (negated, rest) :=
    match skip verbose text with
    | '^' :: rest => (true, skip verbose rest)
    | rest => (false, rest)
  let (items, rest) := readDashes verbose [] rest
  match rest with
  | [] => throw .classNotClosed
  | ']' :: after =>
      if items.isEmpty then
        return ((negated, [.literal ⟨']', false⟩]), skip verbose after)
      else
        return ((negated, items), rest)
  | _ => return ((negated, items), rest)

/-- The rest of a class up to its closing bracket.  `waiting` is the operation whose
right operand is being read and `items` are its items so far, last one first. -/
def readClassBody (fuel : Nat) (verbose : Bool) (waiting : Waiting) (items : List ClassTree)
    (text : List Char) : Except Error (ClassTree × List Char) :=
  match fuel with
  | 0 => .error .classNotClosed
  | fuel + 1 =>
      let operate (kind : ClassOperation) (rest : List Char) :
          Except Error (ClassTree × List Char) :=
        let left := combine waiting (.ofItems items.reverse)
        readClassBody fuel verbose (some (kind, left)) [] rest
      match skip verbose text with
      | [] => .error .classNotClosed
      | '[' :: more =>
          match readNamed? more with
          | some (item, rest) => readClassBody fuel verbose waiting (item :: items) rest
          | none => do
              let ((negated, inside), rest) ← readClassHead verbose more
              let (body, rest) ← readClassBody fuel verbose none inside rest
              readClassBody fuel verbose waiting (.bracketed body negated :: items) rest
      | ']' :: after => .ok (combine waiting (.ofItems items.reverse), after)
      | '&' :: '&' :: rest => operate .intersection rest
      | '-' :: '-' :: rest => operate .difference rest
      | '~' :: '~' :: rest => operate .symmetricDifference rest
      | part => do
          let (item, rest) ← readClassRange verbose part
          readClassBody fuel verbose waiting (item :: items) rest

/-- A class, behind its opening bracket.  The fuel bounds the number of its parts. -/
def readClass (fuel : Nat) (verbose : Bool) (text : List Char) :
    Except Error (Tree × List Char) := do
  let ((negated, inside), rest) ← readClassHead verbose text
  let (body, rest) ← readClassBody fuel verbose none inside rest
  return (.bracketed body negated, rest)

/-! ## Groups -/

def flag? : Char → Option Flag
  | 'i' => some .caseInsensitive
  | 'm' => some .multiLine
  | 's' => some .dotMatchesNewline
  | 'U' => some .swapGreed
  | 'u' => some .unicode
  | 'R' => some .carriageReturn
  | 'x' => some .verbose
  | _ => none

/-- Flags up to the end of the group or its colon.  None may come twice, and the dash
needs a flag behind it.  `items` are those so far, last one first. -/
def readFlags (items : List FlagItem) : List Char → Except Error ((List FlagItem) × List Char)
  | [] => .error .flagsMalformed
  | c :: rest =>
      if c = ':' || c = ')' then
        if items.head? = some .negation then
          .error .flagsMalformed
        else
          .ok (items.reverse, c :: rest)
      else
        let item? := if c = '-' then some .negation else (flag? c).map .flag
        match item? with
        | none => .error .flagsMalformed
        | some item =>
            if items.contains item then .error .flagsMalformed
            else readFlags (item :: items) rest

/-- What a parenthesis begins. -/
inductive GroupHead where
  /-- A setting of flags for the rest of the enclosing group. -/
  | setting (items : List FlagItem)
  /-- A group under flags of its own, whether it captures, and the capture group
  names so far. -/
  | opening (items : List FlagItem) (captures : Bool) (names : List String)

/-- A capture group with a name, behind the angle bracket in front of the name. -/
def readGroupName (names : List String) (text : List Char) : Except Error (GroupHead × List Char) :=
  let name := text.takeWhile (· != '>')
  match name, text.dropWhile (· != '>') with
  | first :: more, '>' :: rest =>
      if isNameChar true first && more.all (isNameChar false) then
        let name := String.ofList name
        if names.contains name then
          .error .groupNameRepeated
        else
          .ok (.opening [] true (name :: names), rest)
      else
        .error .groupNameMalformed
  | _, _ => .error .groupNameMalformed

/-- The beginning of a group, behind its parenthesis. -/
def readGroupHead (verbose : Bool) (names : List String) (text : List Char) :
    Except Error (GroupHead × List Char) :=
  match skip verbose text with
  | '?' :: '=' :: _ => .error .lookAround
  | '?' :: '!' :: _ => .error .lookAround
  | '?' :: '<' :: '=' :: _ => .error .lookAround
  | '?' :: '<' :: '!' :: _ => .error .lookAround
  | '?' :: 'P' :: '<' :: rest => readGroupName names rest
  | '?' :: '<' :: rest => readGroupName names rest
  | '?' :: rest =>
      match readFlags [] rest with
      | .error e => .error e
      | .ok (items, ':' :: after) => .ok (.opening items false names, after)
      | .ok (items, after) =>
          if items.isEmpty then .error .operandMissing else .ok (.setting items, after.drop 1)
  | rest => .ok (.opening [] true names, rest)

/-! ## Expressions -/

/-- Where a reading of expressions stands. -/
structure Cursor where
  rest : List Char
  verbose : Bool := false
  names : List String := []

def repeatLast (least : Nat) (most : Option Nat) : List Tree → Except Error (List Tree)
  | [] => .error .operandMissing
  | .empty :: _ => .error .operandMissing
  | .flags _ :: _ => .error .operandMissing
  | item :: items => .ok (.repetition least most item :: items)

/-- A question mark behind a repetition only says which match is preferred. -/
def dropLaziness : List Char → List Char
  | '?' :: rest => rest
  | rest => rest

/-- Alternative expressions up to a closing parenthesis or the end.  `branches` are
those already read and `items` the parts of the next one so far, last one first. -/
def readExpression (fuel : Nat) (cursor : Cursor) (branches items : List Tree) :
    Except Error (Tree × Cursor) :=
  match fuel with
  | 0 => .error .nestedTooDeep
  | fuel + 1 =>
      let here := skip cursor.verbose cursor.rest
      let finish (rest : List Char) : Except Error (Tree × Cursor) :=
        .ok (.ofBranches (.ofItems items.reverse :: branches).reverse,
          { cursor with rest := rest })
      let continueWith (items : List Tree) (rest : List Char) :=
        readExpression fuel { cursor with rest := rest } branches items
      match here with
      | [] => finish []
      | ')' :: _ => finish here
      | '|' :: rest =>
          readExpression fuel { cursor with rest := rest } (.ofItems items.reverse :: branches) []
      | '(' :: more => do
          match ← readGroupHead cursor.verbose cursor.names more with
          | (.setting flags, rest) =>
              let verbose := (flagState flags .verbose).getD cursor.verbose
              readExpression fuel { cursor with rest := rest, verbose := verbose } branches
                (.flags flags :: items)
          | (.opening flags captures names, rest) =>
              let verbose := (flagState flags .verbose).getD cursor.verbose
              let (body, inner) ← readExpression fuel ⟨rest, verbose, names⟩ [] []
              match inner.rest with
              | ')' :: after =>
                  readExpression fuel ⟨after, cursor.verbose, inner.names⟩ branches
                    (.group flags captures body :: items)
              | _ => throw .groupNotClosed
      | '[' :: more => do
          let (tree, rest) ← readClass fuel cursor.verbose more
          continueWith (tree :: items) rest
      | '?' :: rest => do continueWith (← repeatLast 0 (some 1) items) (dropLaziness rest)
      | '*' :: rest => do continueWith (← repeatLast 0 none items) (dropLaziness rest)
      | '+' :: rest => do continueWith (← repeatLast 1 none items) (dropLaziness rest)
      | '\x7b' :: rest => do
          let ((least, most), after) ← readRange cursor.verbose rest
          continueWith (← repeatLast least most items) (dropLaziness (skip cursor.verbose after))
      | c :: rest => do
          let (primitive, after) ← readPrimitive cursor.verbose c rest
          continueWith (primitive.toTree :: items) after

/-- How deep an expression may be nested. -/
def nestingLimit : Nat := 250

end Parser

def Tree.parse? (text : List Char) : Except Error Tree := do
  let (tree, cursor) ← Parser.readExpression (2 * text.length + 2) { rest := text } [] []
  if cursor.rest.isEmpty then
    if tree.depth ≤ Parser.nestingLimit then
      return tree
    else
      throw .nestedTooDeep
  else
    throw .groupNotOpened

end Regex

end SerialDialogue
