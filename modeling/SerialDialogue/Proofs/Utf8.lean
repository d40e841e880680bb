import SerialDialogue.Text.Utf8

/-!
# Decoding piece by piece

A decoder may be fed a stream of bytes at once or in pieces.
-/

namespace SerialDialogue

namespace Utf8.Decoder

theorem foldl_push (done : List Char) (pending bytes : List UInt8) :
    bytes.foldl push (done, pending) =
      ((bytes.foldl push ([], pending)).1 ++ done, (bytes.foldl push ([], pending)).2) := by
  induction bytes generalizing done pending with
  | nil => rfl
  | cons byte rest ih =>
      have pushed : push (done, pending) byte =
          ((push ([], pending) byte).1 ++ done, (push ([], pending) byte).2) := by
        simp [push]
      rw [List.foldl_cons, List.foldl_cons, pushed, ih]
      rw [ih (push ([], pending) byte).1 (push ([], pending) byte).2, List.append_assoc]

/-- Two pieces are read as one. -/
theorem feed_append (decoder : Decoder) (first second : List UInt8) :
    decoder.feed (first ++ second) =
      ((decoder.feed first).1 ++ ((decoder.feed first).2.feed second).1,
        ((decoder.feed first).2.feed second).2) := by
  simp only [feed, List.foldl_append]
  rw [foldl_push]
  simp

end Utf8.Decoder

end SerialDialogue
