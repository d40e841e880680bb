import SerialDialogue.Regex.Expression
import SerialDialogue.Unicode.CaseFolding

/-!
# The meaning of a written expression

From the tree of a regular expression to one over sets of characters.  On the way the
flags are applied, sets are closed under letter case, and what could match bytes that
are not UTF-8 is refused.
-/

namespace SerialDialogue

namespace Regex

open Unicode

/-- The flags in force at a place of an expression. -/
structure Modes where
  caseInsensitive : Bool := false
  multiLine : Bool := false
  dotMatchesNewline : Bool := false
  unicode : Bool := true
  carriageReturn : Bool := false
  deriving Repr, DecidableEq

/-- The modes behind a setting of flags; a flag that is not named stays as it is. -/
def Modes.set (modes : Modes) (items : List FlagItem) : Modes :=
  { caseInsensitive := (flagState items .caseInsensitive).getD modes.caseInsensitive
    multiLine := (flagState items .multiLine).getD modes.multiLine
    dotMatchesNewline := (flagState items .dotMatchesNewline).getD modes.dotMatchesNewline
    unicode := (flagState items .unicode).getD modes.unicode
    carriageReturn := (flagState items .carriageReturn).getD modes.carriageReturn }

/-- Close a set under letter case where the modes ask for it. -/
def Modes.fold (modes : Modes) (set : CharSet) : CharSet :=
  if modes.caseInsensitive then set.closeUnderCase else set

/-- Letters of ASCII in both cases, for a set of ASCII characters. -/
def closeUnderAsciiCase (set : CharSet) : CharSet :=
  let swap (low high : Char) (distance : Int) : List (Nat × Nat) :=
    (set.inter (charRanges [(low, high)])).toList.map fun range =>
      ((range.1 + distance).toNat, (range.2 + distance).toNat)
  .unions [set, .ofRanges (swap 'a' 'z' (-32)), .ofRanges (swap 'A' 'Z' 32)]

/-- Fold and negate a class.  Without Unicode a class has to stay within ASCII. -/
def Modes.finish (modes : Modes) (negated : Bool) (set : CharSet) : Except Error CharSet :=
  if modes.unicode then
    let folded := modes.fold set
    .ok (if negated then folded.complement else folded)
  else
    let folded := if modes.caseInsensitive then closeUnderAsciiCase set else set
    if negated || !folded.isAscii then .error .notUtf8 else .ok folded

def Modes.letter (modes : Modes) (kind : LetterClass) (negated : Bool) :
    Except Error CharSet :=
  let set := kind.toSet modes.unicode
  if negated then
    if modes.unicode then .ok set.complement else .error .notUtf8
  else
    .ok set

/-- The set of a character property, which needs Unicode. -/
def Modes.property (modes : Modes) (query : PropertyQuery) (negated : Bool) :
    Except Error CharSet :=
  if modes.unicode then
    match query.toSet? with
    | none => .error .propertyUnknown
    | some set => modes.finish negated set
  else
    .error .propertyNeedsUnicode

/-- The character of a literal.  Without Unicode the two-digit hexadecimal form above
ASCII is a byte and no character. -/
def Modes.char (modes : Modes) (literal : Literal) : Except Error Char :=
  if !modes.unicode && literal.byte && 0x80 ≤ literal.char.toNat then
    .error .notUtf8
  else
    .ok literal.char

/-- The character of a literal in a class, which without Unicode is one of ASCII. -/
def Modes.classChar (modes : Modes) (literal : Literal) : Except Error Char := do
  let c ← modes.char literal
  if !modes.unicode && 0x80 ≤ c.toNat then throw .propertyNeedsUnicode else return c

def Modes.literal (modes : Modes) (literal : Literal) : Except Error CharSet := do
  let c ← modes.char literal
  let set := CharSet.single c.toNat
  if modes.unicode then
    return modes.fold set
  else if modes.caseInsensitive && c.toNat < 0x80 then
    return closeUnderAsciiCase set
  else
    return set

def Modes.dot (modes : Modes) : Except Error CharSet :=
  if !modes.unicode then .error .notUtf8
  else if modes.dotMatchesNewline then .ok .full
  else if modes.carriageReturn then
    .ok (charRanges [('\n', '\n'), ('\r', '\r')]).complement
  else .ok (CharSet.single '\n'.toNat).complement

def Modes.anchor (modes : Modes) : Anchor → Look
  | .lineStart => if modes.multiLine then .lineStart modes.carriageReturn else .textStart
  | .lineEnd => if modes.multiLine then .lineEnd modes.carriageReturn else .textEnd
  | .textStart => .textStart
  | .textEnd => .textEnd
  | .wordBoundary => .word .boundary modes.unicode
  | .notWordBoundary => .word .notBoundary modes.unicode
  | .wordStart => .word .start modes.unicode
  | .wordEnd => .word .finish modes.unicode
  | .wordStartHalf => .word .startHalf modes.unicode
  | .wordEndHalf => .word .finishHalf modes.unicode

mutual

def ClassTree.toSet (modes : Modes) : ClassTree → Except Error CharSet
  | .literal char => do
      let c ← modes.classChar char
      return .single c.toNat
  | .range first last => do
      let low ← modes.classChar first
      let high ← modes.classChar last
      return charRanges [(low, high)]
  | .named kind negated => modes.finish negated kind.toSet
  | .letter kind negated => modes.letter kind negated
  | .property query negated => modes.property query negated
  | .bracketed body negated => do modes.finish negated (← body.toSet modes)
  | .union items => ClassTree.toSets modes items
  | .operation kind left right => do
      let left ← left.toSet modes
      let right ← right.toSet modes
      let fold (set : CharSet) : CharSet :=
        if modes.unicode then modes.fold set
        else if modes.caseInsensitive then closeUnderAsciiCase set
        else set
      match kind with
      | .intersection => return (fold left).inter (fold right)
      | .difference => return (fold left).diff (fold right)
      | .symmetricDifference => return (fold left).symmDiff (fold right)

def ClassTree.toSets (modes : Modes) : List ClassTree → Except Error CharSet
  | [] => return .empty
  | item :: items => do
      let first ← item.toSet modes
      let others ← ClassTree.toSets modes items
      return first.union others

end

mutual

/-- The expression of a tree under the given modes, and the modes behind it.  A
setting of flags reaches to the end of its group. -/
def Tree.toExpression (modes : Modes) : Tree → Except Error (Expression × Modes)
  | .empty => return (.empty, modes)
  | .flags items => return (.empty, modes.set items)
  | .literal char => do return (.ofSet (← modes.literal char), modes)
  | .dot => do return (.ofSet (← modes.dot), modes)
  | .anchor place => return (.look (modes.anchor place), modes)
  | .letter kind negated => do return (.ofSet (← modes.letter kind negated), modes)
  | .property query negated => do return (.ofSet (← modes.property query negated), modes)
  | .bracketed body negated => do
      let set ← body.toSet modes
      return (.ofSet (← modes.finish negated set), modes)
  | .repetition least most body => do
      let (body, modes) ← body.toExpression modes
      return (.repeated least most body, modes)
  | .group items captures body => do
      let (body, _) ← body.toExpression (modes.set items)
      return (if captures then .capture body else body, modes)
  | .alternatives branches => do
      let (branches, modes) ← Tree.toExpressions modes branches
      return (.either branches, modes)
  | .sequence items => do
      let (items, modes) ← Tree.toExpressions modes items
      return (.join items, modes)

def Tree.toExpressions (modes : Modes) :
    List Tree → Except Error (List Expression × Modes)
  | [] => return ([], modes)
  | tree :: trees => do
      let (first, modes) ← tree.toExpression modes
      let (others, modes) ← Tree.toExpressions modes trees
      return (first :: others, modes)

end

end Regex

end SerialDialogue
