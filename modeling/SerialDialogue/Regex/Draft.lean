import SerialDialogue.Regex.ByteRow
import SerialDialogue.Regex.Expression
import Std.Data.HashMap

/-!
# The room of an automaton

How many bytes the automaton of an expression takes.  It runs over the bytes of a
text, one way for searching and the other way for finding where a match began, and
repetitions with counts are written out.  Only its size is drafted here: a state takes
32 bytes, every transition of a state with several of them takes 8 more, and every way
out of a fork 4 more.

Sets beyond ASCII share states, and the memory for shared states has a fixed number of
slots, so how much is shared depends on the numbers that the states have.  A draft
counts states in the order in which they are made for that reason.
-/

namespace SerialDialogue

namespace Regex

open Unicode

/-- The way in which an automaton reads a text. -/
inductive Direction where
  | forward
  | backward
  deriving Repr, DecidableEq

/-- An automaton of which only the size is known: its states, and the bytes that they
take beyond 32 each. -/
structure Draft where
  states : Nat := 0
  extra : Nat := 0

namespace Draft

def bytes (draft : Draft) : Nat :=
  32 * draft.states + draft.extra

/-- Add a state that takes so many bytes more than the least. -/
def add (draft : Draft) (extra : Nat := 0) : Draft :=
  ⟨draft.states + 1, draft.extra + extra⟩

def way (draft : Draft) : Draft :=
  { draft with extra := draft.extra + 4 }

def fork (draft : Draft) : Draft :=
  draft.add.way.way

end Draft

/-! ## Shared states -/

/-- A draft with a memory of states.  A state is remembered in a slot under what it
does, and forgotten when another one needs the slot. -/
structure Sharing (α : Type) where
  draft : Draft
  known : Std.HashMap UInt64 (α × Nat) := ∅

/-- A state that does what `key` says: the one in the slot or else a new one. -/
def Sharing.state {α : Type} [DecidableEq α] (sharing : Sharing α) (slot : UInt64) (key : α)
    (extra : Nat) : Nat × Sharing α :=
  let known? := (sharing.known[slot]?).filter (·.1 = key)
  match known? with
  | some (_, place) => (place, sharing)
  | none =>
      let place := sharing.draft.states
      (place, ⟨sharing.draft.add extra, sharing.known.insert slot (key, place)⟩)

def mixHash (hash value : UInt64) : UInt64 :=
  (hash ^^^ value) * 1099511628211

def emptyHash : UInt64 := 14695981039346656037

/-- A transition: the bytes that it takes, and the state behind it. -/
structure Transition where
  low : UInt8
  high : UInt8
  target : Nat
  deriving Repr, DecidableEq

def Transition.mix (hash : UInt64) (transition : Transition) : UInt64 :=
  mixHash (mixHash (mixHash hash transition.low.toUInt64) transition.high.toUInt64)
    (UInt64.ofNat transition.target)

/-! ## Sets, forwards -/

/-- A state on the way of the row that was read last: its transitions so far, and the
bytes of the one that leads on along the row. -/
structure RowState where
  transitions : List Transition := []
  onward : Option (UInt8 × UInt8) := none

/-- The transitions of a state when its way along the row leads to `target`. -/
def RowState.close (state : RowState) (target : Nat) : List Transition :=
  match state.onward with
  | none => state.transitions
  | some (low, high) => state.transitions ++ [⟨low, high, target⟩]

/-- Make the states of a row, the last one first; the row ends at `target`. -/
def closeRow (target : Nat) (states : List RowState) (sharing : Sharing (List Transition)) :
    Nat × Sharing (List Transition) :=
  match states with
  | [] => (target, sharing)
  | state :: others =>
      let (next, sharing) := closeRow target others sharing
      let transitions := state.close next
      let hash := transitions.foldl Transition.mix emptyHash
      sharing.state (hash % 10000) transitions (8 * transitions.length)

/-- Go from one row to the next.  The beginning that they have in common stays open,
and the states behind it are made. -/
def addRow (target : Nat) (states : List RowState) (row : ByteRow)
    (sharing : Sharing (List Transition)) : List RowState × Sharing (List Transition) :=
  match states, row with
  | state :: others, range :: ranges =>
      if state.onward = some range then
        let (others, sharing) := addRow target others ranges sharing
        (state :: others, sharing)
      else
        let (next, sharing) := closeRow target others sharing
        let fresh := ranges.map fun range => { onward := some range }
        (⟨state.close next, some range⟩ :: fresh, sharing)
  | _, _ => (states, sharing)

/-- The states of a set, forwards: rows share what they begin with, and states that
do the same are one state. -/
def Draft.rowsForward (draft : Draft) (rows : List ByteRow) : Draft :=
  let target := draft.states
  let (states, sharing) :=
    rows.foldl (fun (states, sharing) row => addRow target states row sharing)
      ([{}], { draft := draft.add })
  (closeRow target states sharing).2.draft

/-! ## Sets, backwards -/

/-- The states of a row, backwards: its first byte leads to `target`, every other byte
to the one before it. -/
def addRowBackward (target : Nat) (row : ByteRow) (sharing : Sharing Transition) :
    Sharing Transition :=
  match row with
  | [] => sharing
  | (low, high) :: others =>
      let hash :=
        mixHash (mixHash (mixHash emptyHash (UInt64.ofNat target)) low.toUInt64) high.toUInt64
      let (state, sharing) := sharing.state (hash % 1000) ⟨low, high, target⟩ 0
      addRowBackward state others sharing

/-- The states of a set, backwards: a fork with a way to every row, and rows share
what they begin with. -/
def Draft.rowsBackward (draft : Draft) (rows : List ByteRow) : Draft :=
  let target := draft.states + 1
  let sharing :=
    rows.foldl (fun sharing row => addRowBackward target row sharing)
      { draft := (draft.add (4 * rows.length)).add }
  sharing.draft

def Draft.set (draft : Draft) (direction : Direction) (chars : CharSet) : Draft :=
  if chars.isAscii then
    draft.add.add (8 * chars.toList.length)
  else
    match direction with
    | .forward => draft.rowsForward (byteRows chars)
    | .backward => draft.rowsBackward (byteRows chars)

/-! ## Alternative words -/

/-- Cut a list of words at the empty ones.  The others are given as their first byte
and the rest. -/
def cutAtEmpty : List (List UInt8) → List (List (UInt8 × List UInt8))
  | [] => [[]]
  | [] :: words => [] :: cutAtEmpty words
  | (byte :: rest) :: words =>
      match cutAtEmpty words with
      | [] => [[(byte, rest)]]
      | part :: parts => ((byte, rest) :: part) :: parts

/-- The states at a place of a tree of words, where `words` are what is left of the
words that come by.  A word that ends here is preferred to those behind it, so they
get a state of their own; only at the front do several such words count once. -/
def Draft.wordTree (draft : Draft) (depth : Nat) (words : List (List UInt8)) : Draft :=
  match depth with
  | 0 => draft
  | depth + 1 =>
      let distinct :=
        match words with
        | [] :: others => [] :: others.dropWhile List.isEmpty
        | words => words
      let parts := cutAtEmpty distinct
      let draft :=
        parts.foldl
          (fun draft part =>
            let bytes := (part.map Prod.fst).eraseDups
            let draft :=
              bytes.foldl
                (fun draft byte =>
                  let rests := (part.filter (·.1 = byte)).map Prod.snd
                  if rests.all List.isEmpty then draft else draft.wordTree depth rests)
                draft
            match bytes.length with
            | 0 => draft
            | 1 => draft.add
            | count => draft.add (8 * count))
          draft
      draft.add (4 * ((parts.filter (!·.isEmpty)).length + parts.length - 1))

/-- The states of alternative words: their end, and the tree of the words. -/
def Draft.words (draft : Draft) (direction : Direction) (words : List (List UInt8)) : Draft :=
  let words := if direction = .forward then words else words.map List.reverse
  draft.add.wordTree (words.foldl (fun longest word => max longest word.length) 0 + 1) words

/-! ## Expressions -/

/-- The room, in bytes, that an automaton may take. -/
def roomLimit : Nat := 10 * 0x100000

/-- That many copies of what `lay` adds; what does not fit any more is left out. -/
def Draft.copies (lay : Draft → Draft) : Nat → Draft → Draft
  | 0, draft => draft
  | count + 1, draft =>
      if roomLimit < draft.bytes then draft else copies lay count (lay draft)

/-- The text of an expression that is nothing but a text. -/
def Expression.text? : Expression → Option (List Char)
  | .text chars => some chars
  | _ => none

namespace Expression

mutual

/-- Add the states of an expression to a draft. -/
def lay (direction : Direction) (expression : Expression) (draft : Draft) : Draft :=
  match expression with
  | .empty => draft.add
  | .text chars => (textBytes chars).foldl (fun draft _ => draft.add) draft
  | .set chars => draft.set direction chars
  | .look _ => draft.add
  | .repetition least most body =>
      let copies (count : Nat) (draft : Draft) : Draft :=
        if count = 0 then draft.add
        else Draft.copies (fun draft => body.lay direction draft) count draft
      match most with
      | some most =>
          if least = 0 ∧ most = 1 then
            (body.lay direction draft.fork).add
          else if least = most then
            copies least draft
          else
            Draft.copies (fun draft => body.lay direction draft.fork) (most - least)
              (copies least draft).add
      | none =>
          if least = 0 then
            if body.leastLength.any (0 < ·) then
              body.lay direction draft.fork
            else
              (body.lay direction draft).fork.fork.add
          else
            (copies least draft).fork
  | .capture body =>
      match direction with
      | .forward => (body.lay direction draft.add).add
      | .backward => body.lay direction draft
  | .choice branches =>
      match branches.mapM text? with
      | some words => draft.words direction (words.map textBytes)
      | none => layBranches direction 0 branches draft
  | .sequence items => laySequence direction items draft

def laySequence (direction : Direction) (items : List Expression) (draft : Draft) : Draft :=
  match items with
  | [] => draft
  | first :: others =>
      match direction with
      | .forward => laySequence direction others (first.lay direction draft)
      | .backward => first.lay direction (laySequence direction others draft)

/-- Add the states of alternative expressions, of which `place` stand in front.  The
fork that leads to them and their end are made behind the second one. -/
def layBranches (direction : Direction) (place : Nat) (branches : List Expression)
    (draft : Draft) : Draft :=
  match branches with
  | [] => draft
  | first :: others =>
      let draft := (first.lay direction draft).way
      layBranches direction (place + 1) others (if place = 1 then draft.add.add else draft)

end

/-- The bytes that the automaton of an expression takes.  A match may begin anywhere,
and forwards the whole match is captured. -/
def room (direction : Direction) (expression : Expression) : Nat :=
  let anywhere := (({} : Draft).fork.add).add 8
  ((Expression.capture expression).lay direction anywhere).add.bytes

/-- The automaton fits both ways. -/
def fits (expression : Expression) : Bool :=
  expression.room .forward ≤ roomLimit && expression.room .backward ≤ roomLimit

end Expression

end Regex

end SerialDialogue
