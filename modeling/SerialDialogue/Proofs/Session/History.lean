import SerialDialogue.Proofs.Text.Lowering
import SerialDialogue.Session.Basic

/-!
# The history of a session

A session is made by pushing characters and by forgetting.  What it remembers is the end of
what was pushed since it last forgot its text; its lower-case form is the end of what the
lower-case forms of these characters make.
-/

namespace SerialDialogue

namespace Session

/-- What can be done to a session. -/
inductive Operation where
  | push (c : Char)
  | forgetText
  | forget
  deriving Repr, DecidableEq

def apply (session : Session) : Operation → Session
  | .push c => (session.push c).2
  | .forgetText => session.forgetText
  | .forget => session.forget

/-- The session behind several operations on a fresh one. -/
def after (operations : List Operation) : Session :=
  operations.foldl apply {}

/-- The characters pushed since the text was last forgotten, behind those of `stream`. -/
def streamBehind (stream : List Char) : Operation → List Char
  | .push c => stream ++ [c]
  | .forgetText => []
  | .forget => []

/-- The characters pushed since the text was last forgotten. -/
def stream (operations : List Operation) : List Char :=
  operations.foldl streamBehind []

theorem stream_map_push (text : List Char) : stream (text.map .push) = text := by
  have along (stream : List Char) :
      (text.map Operation.push).foldl streamBehind stream = stream ++ text := by
    induction text generalizing stream with
    | nil => simp
    | cons c rest ih => simp [ih, streamBehind]
  exact along []

/-- What holds of a fresh session and is kept by every operation holds of whatever was made
by operations, with the characters that were pushed since the text was last forgotten. -/
theorem holds_after (invariant : Session → List Char → Prop) (start : invariant {} [])
    (step : ∀ session stream operation, invariant session stream →
      invariant (session.apply operation) (streamBehind stream operation))
    (operations : List Operation) : invariant (after operations) (stream operations) := by
  have along (session : Session) (stream : List Char) (holds : invariant session stream) :
      invariant (operations.foldl apply session) (operations.foldl streamBehind stream) := by
    induction operations generalizing session stream with
    | nil => exact holds
    | cons operation later ih => exact ih _ _ (step session stream operation holds)
  exact along {} [] start

@[simp]
theorem text_push (session : Session) (c : Char) :
    (session.push c).2.text = (session.extend c).text := by
  unfold push
  split <;> rfl

@[simp]
theorem lowered_push (session : Session) (c : Char) :
    (session.push c).2.lowered = (session.extend c).lowered := by
  unfold push
  split <;> rfl

theorem toList_foldl_push (chars : List Char) (s : String) :
    (chars.foldl String.push s).toList = s.toList ++ chars := by
  induction chars generalizing s with
  | nil => simp
  | cons c rest ih => simp [ih]

theorem extend_of_le {session : Session} {c : Char}
    (fits : (session.text.push c).utf8ByteSize ≤ limit) :
    (session.extend c).text.toList = session.text.toList ++ [c] ∧
      (session.extend c).lowered.toList = session.lowered.toList ++ Text.lowerChar c := by
  rw [extend, if_neg (Nat.not_lt.2 fits)]
  exact ⟨String.toList_push c, toList_foldl_push _ _⟩

theorem extend_of_lt {session : Session} {c : Char}
    (exceeds : limit < (session.text.push c).utf8ByteSize) :
    (session.extend c).text.toList =
        Text.recentChars (limit / 2) (session.text.toList ++ [c]) ∧
      (session.extend c).lowered.toList =
        Text.recentChars (limit / 2) (session.lowered.toList ++ Text.lowerChar c) := by
  rw [extend, if_pos exceeds]
  simp only [Text.toList_recentBytes, String.toList_push, toList_foldl_push, and_self]

/-- The session remembers ends of the stream and of its lower-case form. -/
structure Remembers (session : Session) (stream : List Char) : Prop where
  text : session.text.toList <:+ stream
  lowered : session.lowered.toList <:+ Text.lowerEach stream

theorem remembers_start : Remembers {} [] :=
  ⟨List.suffix_refl [], List.suffix_refl []⟩

theorem Remembers.push {session : Session} {stream : List Char}
    (remembers : session.Remembers stream) (c : Char) :
    (session.push c).2.Remembers (stream ++ [c]) := by
  have text : session.text.toList ++ [c] <:+ stream ++ [c] :=
    List.suffix_append_self_iff.2 remembers.text
  have lowered : session.lowered.toList ++ Text.lowerChar c <:+
      Text.lowerEach (stream ++ [c]) := by
    rw [Text.lowerEach_append, Text.lowerEach_cons, Text.lowerEach_nil, List.append_nil]
    exact List.suffix_append_self_iff.2 remembers.lowered
  refine ⟨?_, ?_⟩ <;> simp only [text_push, lowered_push] <;>
    rcases Nat.lt_or_ge limit (session.text.push c).utf8ByteSize with exceeds | fits
  · rw [(extend_of_lt exceeds).1]
    exact (Text.dropBytes_suffix _ _).trans text
  · rw [(extend_of_le fits).1]
    exact text
  · rw [(extend_of_lt exceeds).2]
    exact (Text.dropBytes_suffix _ _).trans lowered
  · rw [(extend_of_le fits).2]
    exact lowered

/-- Whatever is done to a session, it remembers the end of its stream. -/
theorem remembers_after (operations : List Operation) :
    (after operations).Remembers (stream operations) := by
  refine holds_after Remembers remembers_start
    (fun session stream operation remembers => ?_) operations
  cases operation with
  | push c => exact remembers.push c
  | forgetText => exact ⟨remembers_start.text, remembers_start.lowered⟩
  | forget => exact ⟨remembers_start.text, remembers_start.lowered⟩

end Session

end SerialDialogue
