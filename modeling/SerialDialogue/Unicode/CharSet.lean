import SerialDialogue.Unicode.Property

/-!
# Sets of characters

A set of code points as closed ranges in increasing order that neither overlap nor
touch, so that membership is a binary search and the set operations are scans.
-/

namespace SerialDialogue

namespace Unicode

/-- A set of code points, as increasing ranges with a gap between any two. -/
structure CharSet where
  ranges : Array (Nat × Nat)
  deriving Repr, DecidableEq

namespace CharSet

/-- The largest code point. -/
def last : Nat := 0x10FFFF

/-- Add a range behind the ranges read so far (newest first), none of which starts
later. -/
def join : List (Nat × Nat) → Nat × Nat → List (Nat × Nat)
  | [], range => [range]
  | newest :: older, range =>
      if range.1 ≤ newest.2 + 1 then
        (newest.1, max newest.2 range.2) :: older
      else
        range :: newest :: older

/-- The set of all code points in any of the ranges. -/
def ofRanges (ranges : List (Nat × Nat)) : CharSet :=
  let sorted := ranges.mergeSort fun first second => first.1 ≤ second.1
  ⟨(sorted.foldl join []).reverse.toArray⟩

def empty : CharSet := ⟨#[]⟩

def full : CharSet := ⟨#[(0, last)]⟩

def single (n : Nat) : CharSet := ⟨#[(n, n)]⟩

def toList (set : CharSet) : List (Nat × Nat) :=
  set.ranges.toList

/-- Search for `n` between the places `low` and `high`, with that many halvings. -/
def search (ranges : Array (Nat × Nat)) (n low high : Nat) : Nat → Bool
  | 0 => false
  | steps + 1 =>
      if low < high then
        let middle := (low + high) / 2
        match ranges[middle]? with
        | none => false
        | some range =>
            if n < range.1 then
              search ranges n low middle steps
            else if range.2 < n then
              search ranges n (middle + 1) high steps
            else
              true
      else
        false

/-- Membership of a code point. -/
def contains (set : CharSet) (n : Nat) : Bool :=
  search set.ranges n 0 set.ranges.size (set.ranges.size + 1)

/-- Membership of a character. -/
def has (set : CharSet) (c : Char) : Bool :=
  set.contains c.toNat

/-- The gaps between ranges, from the code point `from` on. -/
def gaps (start : Nat) : List (Nat × Nat) → List (Nat × Nat)
  | [] => if start ≤ last then [(start, last)] else []
  | (low, high) :: later =>
      if start < low then
        (start, low - 1) :: gaps (high + 1) later
      else
        gaps (high + 1) later

def complement (set : CharSet) : CharSet :=
  ⟨(gaps 0 set.toList).toArray⟩

def union (first second : CharSet) : CharSet :=
  ofRanges (first.toList ++ second.toList)

def inter (first second : CharSet) : CharSet :=
  (first.complement.union second.complement).complement

def diff (first second : CharSet) : CharSet :=
  first.inter second.complement

/-- The code points of exactly one of the sets. -/
def symmDiff (first second : CharSet) : CharSet :=
  (first.union second).diff (first.inter second)

def isEmpty (set : CharSet) : Bool :=
  set.ranges.isEmpty

/-- The set has no code point above 127. -/
def isAscii (set : CharSet) : Bool :=
  set.ranges.all fun range => range.2 < 0x80

def unions (sets : List CharSet) : CharSet :=
  ofRanges (sets.flatMap toList)

end CharSet

def Property.toSet (property : Property) : CharSet :=
  ⟨property.ranges.toArray⟩

/-- The set of the property of a table with the given name; empty where there is none. -/
def Property.setOf (table : List Property) (name : String) : CharSet :=
  (Property.find? table name).elim .empty Property.toSet

end Unicode

end SerialDialogue
