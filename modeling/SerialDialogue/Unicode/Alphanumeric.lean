import SerialDialogue.Unicode.Additions
import SerialDialogue.Unicode.BinaryProperty
import SerialDialogue.Unicode.CharSet
import SerialDialogue.Unicode.GeneralCategory

/-!
# Letters and numbers

The characters that names may be made of.  The tables of properties follow the
sixteenth edition of the standard and names the seventeenth, so its additions are put
on top.
-/

namespace SerialDialogue

namespace Unicode

def alphabetic : CharSet :=
  (Property.setOf binaryProperties "alphabetic").union (Property.setOf additions "alphabetic")

def numeric : CharSet :=
  .unions
    [ Property.setOf generalCategories "nd", Property.setOf generalCategories "nl",
      Property.setOf generalCategories "no", Property.setOf additions "numeric" ]

/-- A letter, or another character that counts as one. -/
def isAlphabetic (c : Char) : Bool :=
  if c.toNat < 0x80 then c.isAlpha else alphabetic.has c

def isAlphanumeric (c : Char) : Bool :=
  if c.toNat < 0x80 then c.isAlphanum else alphabetic.has c || numeric.has c

end Unicode

end SerialDialogue
