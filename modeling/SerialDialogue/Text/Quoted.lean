import SerialDialogue.Unicode.Additions
import SerialDialogue.Unicode.BinaryProperty
import SerialDialogue.Unicode.CharSet
import SerialDialogue.Unicode.GeneralCategory

/-!
# Quoted text

A text in double quotes as messages show it: quotes, backslashes and the common
control characters get a backslash, and every character that would not show, or
would melt into the one before it, is given by its code point.
-/

namespace SerialDialogue

namespace Text

open Unicode

/-- The categories whose characters do not show; the plain space does. -/
def invisibleCategories : List String :=
  ["cc", "cf", "cn", "co", "cs", "zl", "zp", "zs"]

/-- The characters that leave no mark: those of the invisible categories, and those that
are skipped where a font does not know them.  What the seventeenth edition of the
standard assigns is visible. -/
def invisible : CharSet :=
  (CharSet.unions
      (Property.setOf binaryProperties "defaultignorablecodepoint" ::
        invisibleCategories.map (Property.setOf generalCategories))).diff
    (Property.setOf additions "assigned")

/-- The characters that extend the one before them.  The two halfwidth sound marks have
a place of their own. -/
def extending : CharSet :=
  ((Property.setOf binaryProperties "graphemeextend").union
      (Property.setOf additions "graphemeextend")).diff
    (.ofRanges [(0xFF9E, 0xFF9F)])

/-- A character that is written as itself between quotes. -/
def isShown (c : Char) : Bool :=
  if c.toNat < 0x80 then
    0x20 ≤ c.toNat && c.toNat < 0x7F
  else
    !extending.has c && !invisible.has c

def quoteChar (c : Char) : List Char :=
  if c = '"' then ['\\', '"']
  else if c = '\\' then ['\\', '\\']
  else if c = '\t' then ['\\', 't']
  else if c = '\r' then ['\\', 'r']
  else if c = '\n' then ['\\', 'n']
  else if c = '\x00' then ['\\', '0']
  else if isShown c then [c]
  else ['\\', 'u', '\x7b'] ++ Nat.toDigits 16 c.toNat ++ ['\x7d']

def quote (s : String) : String :=
  String.ofList ('"' :: (s.toList.flatMap quoteChar ++ ['"']))

end Text

end SerialDialogue
