/-!
# Regular expressions as written

The tree of a regular expression as its author wrote it: flags are still in place,
classes are still named, and nothing has been decided about letter case or Unicode.
-/

namespace SerialDialogue

namespace Regex

/-- Why a regular expression is refused. -/
inductive Error where
  | groupNotOpened
  | groupNotClosed
  | operandMissing
  | countMalformed
  | escapeMalformed
  | codePointMalformed
  | classNotClosed
  | rangeMalformed
  | classItemMalformed
  | flagsMalformed
  | groupNameMalformed
  | groupNameRepeated
  | lookAround
  | backreference
  | boundaryMalformed
  | propertyUnknown
  | propertyNeedsUnicode
  | notUtf8
  | nestedTooDeep
  | tooLarge
  deriving Repr, DecidableEq

def Error.message : Error → String
  | groupNotOpened => "unopened group"
  | groupNotClosed => "unclosed group"
  | operandMissing => "repetition operator missing expression"
  | countMalformed => "malformed repetition count"
  | escapeMalformed => "unrecognized escape sequence"
  | codePointMalformed => "malformed hexadecimal code point"
  | classNotClosed => "unclosed character class"
  | rangeMalformed => "invalid character class range"
  | classItemMalformed => "invalid item in a character class"
  | flagsMalformed => "malformed flags"
  | groupNameMalformed => "malformed capture group name"
  | groupNameRepeated => "duplicate capture group name"
  | lookAround => "look-around is not supported"
  | backreference => "backreferences are not supported"
  | boundaryMalformed => "malformed word boundary"
  | propertyUnknown => "Unicode property not found"
  | propertyNeedsUnicode => "Unicode not allowed here"
  | notUtf8 => "pattern can match invalid UTF-8"
  | nestedTooDeep => "exceeds the nesting limit"
  | tooLarge => "compiled expression is too large"

/-- The flags of a group. -/
inductive Flag where
  | caseInsensitive
  | multiLine
  | dotMatchesNewline
  | swapGreed
  | unicode
  | carriageReturn
  | verbose
  deriving Repr, DecidableEq

/-- One item between the `?` of a group and its end: a flag, or the dash after which
flags are switched off. -/
inductive FlagItem where
  | flag (flag : Flag)
  | negation
  deriving Repr, DecidableEq

/-- What the items say about a flag, if anything. -/
def flagState (items : List FlagItem) (flag : Flag) (negated : Bool := false) : Option Bool :=
  match items with
  | [] => none
  | .negation :: later => flagState later flag true
  | .flag first :: later =>
      if first = flag then some (!negated) else flagState later flag negated

/-- The positions that a pattern can ask for. -/
inductive Anchor where
  | lineStart
  | lineEnd
  | textStart
  | textEnd
  | wordBoundary
  | notWordBoundary
  | wordStart
  | wordEnd
  | wordStartHalf
  | wordEndHalf
  deriving Repr, DecidableEq

/-- The classes with a letter of their own. -/
inductive LetterClass where
  | digit
  | space
  | word
  deriving Repr, DecidableEq

/-- The classes with a name between `[:` and `:]`. -/
inductive NamedClass where
  | alnum
  | alpha
  | ascii
  | blank
  | cntrl
  | digit
  | graph
  | lower
  | print
  | punct
  | space
  | upper
  | word
  | xdigit
  deriving Repr, DecidableEq

/-- How a character property is asked for. -/
inductive PropertyQuery where
  | named (name : String)
  | valued (name value : String)
  deriving Repr, DecidableEq

/-- The operations on classes. -/
inductive ClassOperation where
  | intersection
  | difference
  | symmetricDifference
  deriving Repr, DecidableEq

/-- A character as written; `byte` marks the two-digit hexadecimal form, which may
stand for a byte. -/
structure Literal where
  char : Char
  byte : Bool := false
  deriving Repr, DecidableEq

/-- A bracketed class. -/
inductive ClassTree where
  | literal (literal : Literal)
  | range (first last : Literal)
  | named (kind : NamedClass) (negated : Bool)
  | letter (kind : LetterClass) (negated : Bool)
  | property (query : PropertyQuery) (negated : Bool)
  | bracketed (body : ClassTree) (negated : Bool)
  | union (items : List ClassTree)
  | operation (kind : ClassOperation) (left right : ClassTree)

/-- A regular expression. -/
inductive Tree where
  | empty
  | flags (items : List FlagItem)
  | literal (literal : Literal)
  | dot
  | anchor (anchor : Anchor)
  | letter (kind : LetterClass) (negated : Bool)
  | property (query : PropertyQuery) (negated : Bool)
  | bracketed (body : ClassTree) (negated : Bool)
  | repetition (least : Nat) (most : Option Nat) (body : Tree)
  | group (items : List FlagItem) (captures : Bool) (body : Tree)
  | alternatives (branches : List Tree)
  | sequence (items : List Tree)

/-- Class items put together; a single one stands for itself. -/
def ClassTree.ofItems : List ClassTree → ClassTree
  | [item] => item
  | items => .union items

def Tree.ofItems : List Tree → Tree
  | [] => .empty
  | [item] => item
  | items => .sequence items

def Tree.ofBranches : List Tree → Tree
  | [branch] => branch
  | branches => .alternatives branches

mutual

def ClassTree.depth : ClassTree → Nat
  | .bracketed body _ => body.depth + 1
  | .union [] => 0
  | .union items => ClassTree.depths items + 1
  | .operation _ left right => max left.depth right.depth + 1
  | _ => 0

def ClassTree.depths : List ClassTree → Nat
  | [] => 0
  | item :: items => max item.depth (ClassTree.depths items)

end

mutual

def Tree.depth : Tree → Nat
  | .bracketed body _ => body.depth + 1
  | .repetition _ _ body => body.depth + 1
  | .group _ _ body => body.depth + 1
  | .alternatives branches => Tree.depths branches + 1
  | .sequence items => Tree.depths items + 1
  | _ => 0

def Tree.depths : List Tree → Nat
  | [] => 0
  | item :: items => max item.depth (Tree.depths items)

end

end Regex

end SerialDialogue
