import SerialDialogue.Proofs.Session.Completion
import SerialDialogue.Proofs.Session.Cuts
import Mathlib.Data.List.DropRight

/-!
# The buffers of a session

What a session holds is told by the operations on it, without running them: its text by those since
it last forgot the text, its line by those since the line began, and the count of its lines by all
of them.  The line is kept whole; of the text at least the last bytes are kept.
-/

namespace SerialDialogue

namespace Session

namespace Operation

def char? : Operation → Option Char
  | push c => some c
  | forgetText | forget => none

/-- The text goes on. -/
def keepsText : Operation → Bool
  | push _ => true
  | forgetText | forget => false

/-- The line in progress goes on. -/
def keepsLine : Operation → Bool
  | push c => c != '\n'
  | forgetText => true
  | forget => false

end Operation

def pushed (operations : List Operation) : List Char :=
  operations.filterMap Operation.char?

/-- The characters pushed since the last operation that fails the test. -/
def pushedSince (test : Operation → Bool) (operations : List Operation) : List Char :=
  pushed (operations.rtakeWhile test)

theorem pushed_concat (operations : List Operation) (operation : Operation) :
    pushed (operations ++ [operation]) = pushed operations ++ operation.char?.toList := by
  rw [pushed, List.filterMap_append]
  cases operation <;> rfl

theorem pushedSince_concat (test : Operation → Bool) (operations : List Operation)
    (operation : Operation) : pushedSince test (operations ++ [operation]) =
      if test operation then pushedSince test operations ++ operation.char?.toList else [] := by
  rw [pushedSince, List.rtakeWhile_concat]
  split
  · exact pushed_concat _ _
  · rfl

theorem after_concat (operations : List Operation) (operation : Operation) :
    after (operations ++ [operation]) = (after operations).apply operation :=
  List.foldl_append

/-- The text began behind the last operation that forgot it. -/
theorem stream_eq_pushedSince (operations : List Operation) :
    stream operations = pushedSince Operation.keepsText operations := by
  induction operations using List.reverseRecOn with
  | nil => rfl
  | append_singleton earlier operation ih =>
      have last : stream (earlier ++ [operation]) = streamBehind (stream earlier) operation :=
        List.foldl_append
      rw [last, pushedSince_concat, ih]
      cases operation <;> rfl

/-- The line in progress began behind the last newline, or behind the last operation that forgot
it. -/
theorem line_after (operations : List Operation) :
    (after operations).line.toList = pushedSince Operation.keepsLine operations := by
  induction operations using List.reverseRecOn with
  | nil => rfl
  | append_singleton earlier operation ih =>
      rw [after_concat, pushedSince_concat]
      cases operation with
      | push c =>
          rw [apply, line_push, ← ih]
          by_cases newline : c = '\n' <;> simp [newline, Operation.keepsLine, Operation.char?]
      | forgetText => simp [apply, forgetText, ih, Operation.keepsLine, Operation.char?]
      | forget => rfl

theorem inLine_after (operations : List Operation) : (after operations).InLine := by
  rw [InLine, line_after, pushedSince, pushed, List.mem_filterMap]
  rintro ⟨operation, member, pushes⟩
  have keeps := List.mem_rtakeWhile_imp member
  cases operation with
  | push c =>
      obtain rfl : c = '\n' := Option.some.inj pushes
      exact absurd keeps (by decide)
  | forgetText => cases pushes
  | forget => cases pushes

theorem lineCount_after (operations : List Operation) :
    (after operations).lineCount = (pushed operations).count '\n' := by
  induction operations using List.reverseRecOn with
  | nil => rfl
  | append_singleton earlier operation ih =>
      rw [after_concat, pushed_concat, List.count_append, ← ih]
      cases operation with
      | push c => simp [apply, lineCount_push, Operation.char?, List.count_singleton]
      | forgetText => rfl
      | forget => rfl

theorem rdropWhile_terminator {text : List Char} (inLine : '\n' ∉ text) :
    text.rdropWhile (fun c => c == '\r' || c == '\n') = text.rdropWhile (· == '\r') := by
  induction text using List.reverseRecOn with
  | nil => rfl
  | append_singleton text c ih =>
      rw [List.mem_append, List.mem_singleton, not_or] at inLine
      rw [List.rdropWhile_concat, List.rdropWhile_concat, ih inLine.1]
      simp [Ne.symm inLine.2]

theorem InLine.withoutTerminator_line {session : Session} (inLine : session.InLine) :
    withoutTerminator session.line =
      String.ofList (session.line.toList.rdropWhile (· == '\r')) :=
  congrArg String.ofList (rdropWhile_terminator inLine)

theorem InLine.fst_push {session : Session} (inLine : session.InLine) (c : Char) :
    (session.push c).1 =
      if c = '\n' then some (String.ofList (session.line.toList.rdropWhile (· == '\r')))
      else none := by
  split
  · rename_i newline
    rw [newline, push_newline, inLine.withoutTerminator_line]
  · rename_i other
    exact push_of_ne_newline session other

/-- What a session holds, whatever was done to it.  Its text is an end of the characters pushed
since it last forgot the text, of bounded size and with no fewer bytes than those characters or
almost half the bound.  Its line is the characters pushed since the last newline, or since it was
last forgotten, and the lines are counted by the newlines.  A newline, and no other character, gives
back the line in front of it without the carriage returns at its end. -/
theorem buffers_of_history (operations : List Operation) :
    let session := after operations
    let since := pushedSince Operation.keepsText operations
    (session.text.toList <:+ since ∧ session.text.utf8ByteSize ≤ 10000 ∧
        min 4997 (String.ofList since).utf8ByteSize ≤ session.text.utf8ByteSize) ∧
      session.line.toList = pushedSince Operation.keepsLine operations ∧
      session.lineCount = (pushed operations).count '\n' ∧
      ∀ c, (session.push c).1 =
        if c = '\n' then some (String.ofList (session.line.toList.rdropWhile (· == '\r')))
        else none := by
  intro session since
  obtain ⟨front, rest, whole, cut⟩ := exists_cutBehind operations
  have all : stream operations = since := stream_eq_pushedSince operations
  rw [Text.utf8ByteSize_ofList, Text.utf8ByteSize_eq_byteCount]
  refine ⟨⟨?_, cut.fits, ?_⟩, line_after operations, lineCount_after operations,
    (inLine_after operations).fst_push⟩
  · exact all ▸ (remembers_after operations).text
  · rw [← all, whole]
    exact cut.le_byteCount

end Session

end SerialDialogue
