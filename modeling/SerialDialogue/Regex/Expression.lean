import SerialDialogue.Regex.Look

/-!
# Regular expressions with their meaning fixed

An expression in which every class is a set of characters and every position is a
test on the characters next to it.  Expressions are put together by the functions of
this module, which keep them in a simple form: no sequence stands in another one, no
choice in another one, texts that follow each other are one text, and what
alternatives begin with in common stands in front of them once.  The form decides how
large the automaton of an expression is.
-/

namespace SerialDialogue

namespace Regex

open Unicode

/-- A regular expression over sets of characters.  A text is not empty, and a sequence
or a choice has at least two parts. -/
inductive Expression where
  | empty
  | text (chars : List Char)
  | set (chars : CharSet)
  | look (look : Look)
  | repetition (least : Nat) (most : Option Nat) (body : Expression)
  | capture (body : Expression)
  | choice (branches : List Expression)
  | sequence (items : List Expression)

namespace Expression

/-! ## Measures -/

mutual

/-- The expression matches no text but the empty one. -/
def isEmptyOnly : Expression → Bool
  | .empty => true
  | .text chars => chars.isEmpty
  | .set _ => false
  | .look _ => true
  | .repetition _ most body => most = some 0 || body.isEmptyOnly
  | .capture body => body.isEmptyOnly
  | .choice branches => allEmptyOnly branches
  | .sequence items => allEmptyOnly items

def allEmptyOnly : List Expression → Bool
  | [] => true
  | first :: others => first.isEmptyOnly && allEmptyOnly others

end

mutual

/-- The number of characters that a match takes at least; `none` where a part of the
expression can never match. -/
def leastLength : Expression → Option Nat
  | .empty => some 0
  | .text chars => some chars.length
  | .set chars => if chars.isEmpty then none else some 1
  | .look _ => some 0
  | .repetition least _ body => body.leastLength.map (least * ·)
  | .capture body => body.leastLength
  | .choice branches => (leastLengths branches).map fun lengths => (lengths.min?).getD 0
  | .sequence items => (leastLengths items).map List.sum

def leastLengths : List Expression → Option (List Nat)
  | [] => some []
  | first :: others => do
      let length ← first.leastLength
      let lengths ← leastLengths others
      return length :: lengths

end

mutual

/-- The number of parts of an expression, itself included. -/
def weight : Expression → Nat
  | .repetition _ _ body => body.weight + 1
  | .capture body => body.weight + 1
  | .choice branches => weights branches + 1
  | .sequence items => weights items + 1
  | _ => 1

def weights : List Expression → Nat
  | [] => 0
  | first :: others => first.weight + weights others

end

mutual

/-- The expressions are the same.  No two captures are, since each has a number of its
own. -/
def same : Expression → Expression → Bool
  | .empty, .empty => true
  | .text first, .text second => first = second
  | .set first, .set second => first = second
  | .look first, .look second => first = second
  | .repetition least most body, .repetition fewest largest other =>
      least = fewest && most = largest && body.same other
  | .choice branches, .choice others => allSame branches others
  | .sequence items, .sequence others => allSame items others
  | _, _ => false

def allSame : List Expression → List Expression → Bool
  | [], [] => true
  | first :: firsts, second :: seconds => first.same second && allSame firsts seconds
  | _, _ => false

end

/-! ## Putting expressions together -/

/-- Any character of a set; the only one of its set is a text. -/
def ofSet (chars : CharSet) : Expression :=
  match chars.toList with
  | [(low, high)] => if low = high then .text [Char.ofNat low] else .set chars
  | _ => .set chars

/-- A repetition.  What matches only the empty text need not be repeated. -/
def repeated (least : Nat) (most : Option Nat) (body : Expression) : Expression :=
  let (least, most) :=
    if body.isEmptyOnly then (min least 1, some (min (most.getD 1) 1)) else (least, most)
  if most = some 0 then .empty
  else if least = 1 ∧ most = some 1 then body
  else .repetition least most body

def items : Expression → List Expression
  | .empty => []
  | .sequence items => items
  | other => [other]

/-- Make one text of texts that follow each other. -/
def mergeTexts : List Expression → List Expression
  | [] => []
  | .text chars :: others =>
      match mergeTexts others with
      | .text more :: rest => .text (chars ++ more) :: rest
      | rest => .text chars :: rest
  | other :: others => other :: mergeTexts others

def join (expressions : List Expression) : Expression :=
  match mergeTexts (expressions.flatMap items) with
  | [] => .empty
  | [item] => item
  | items => .sequence items

def branches : Expression → List Expression
  | .choice branches => branches
  | other => [other]

def char? : Expression → Option Char
  | .text [c] => some c
  | _ => none

def charSet? : Expression → Option CharSet
  | .set chars => some chars
  | _ => none

/-- The set that stands for alternatives of which all are characters, or all are
sets. -/
def asSet? (alternatives : List Expression) : Option CharSet :=
  match alternatives.mapM char? with
  | some chars => some (.ofRanges (chars.map fun c => (c.toNat, c.toNat)))
  | none => (alternatives.mapM charSet?).map .unions

/-- What two rows of expressions begin with in common. -/
def sharedStart : List Expression → List Expression → List Expression
  | first :: firsts, second :: seconds =>
      if first.same second then first :: sharedStart firsts seconds else []
  | _, _ => []

/-- The parts of a sequence; nothing else has any. -/
def sequenceItems : Expression → List Expression
  | .sequence items => items
  | _ => []

/-- What alternatives begin with in common, if all of them are sequences. -/
def commonStart (alternatives : List Expression) : List Expression :=
  match alternatives.map sequenceItems with
  | [] => []
  | first :: others => others.foldl sharedStart first

/-- One of several expressions, with that many steps of taking a common beginning out. -/
def eitherOf : Nat → List Expression → Expression
  | 0, alternatives => .choice alternatives
  | steps + 1, alternatives =>
      match alternatives.flatMap branches with
      | [] => .set .empty
      | [branch] => branch
      | all =>
          match asSet? all with
          | some chars => ofSet chars
          | none =>
              match commonStart all with
              | [] => .choice all
              | start =>
                  let rests := all.map fun branch => join (branch.items.drop start.length)
                  join (start ++ [eitherOf steps rests])

/-- One of several expressions.  A common beginning takes at least one part from every
alternative, so there are fewer steps than parts. -/
def either (alternatives : List Expression) : Expression :=
  eitherOf (weights alternatives + 1) alternatives

end Expression

end Regex

end SerialDialogue
