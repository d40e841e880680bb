/-!
# The end of a text

The most recent part of a text, measured in bytes and cut between two characters.
-/

namespace SerialDialogue

namespace Text

/-- A text without its first characters: as few of them as hold `count` bytes. -/
def dropBytes : Nat → List Char → List Char
  | 0, text => text
  | _ + 1, [] => []
  | count + 1, c :: rest => dropBytes (count + 1 - c.utf8Size) rest

/-- The end of a text, of at most `size` bytes. -/
def recentBytes (size : Nat) (text : String) : String :=
  String.ofList (dropBytes (text.utf8ByteSize - size) text.toList)

@[simp]
theorem dropBytes_zero (text : List Char) : dropBytes 0 text = text := by
  cases text <;> rfl

@[simp]
theorem dropBytes_nil (count : Nat) : dropBytes count [] = [] := by
  cases count <;> rfl

theorem dropBytes_suffix (count : Nat) (text : List Char) : dropBytes count text <:+ text := by
  induction text generalizing count with
  | nil => simp
  | cons c rest ih =>
      cases count with
      | zero => simp
      | succ count => exact (ih (count + 1 - c.utf8Size)).trans (List.suffix_cons c rest)

@[simp]
theorem recentBytes_toList (size : Nat) (text : String) :
    (recentBytes size text).toList = dropBytes (text.utf8ByteSize - size) text.toList := by
  simp [recentBytes]

end Text

end SerialDialogue
