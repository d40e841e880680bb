import SerialDialogue.Proofs.Session.History

/-!
# The cuts of a session

When its text passes the limit a session cuts the text and its lower-case form, each to its own
last bytes.  However often they were cut, each of the two is the end that the last cut left of all
that had come in before, and what has come in since: the earlier cuts leave no trace.  So both are
in step exactly where the last cut went through both at the same character.
-/

namespace SerialDialogue

namespace Session

/-- The texts were cut for the last time behind the characters of `front`, and those of `rest` have
come in since; without a cut all of them are in `rest`. -/
structure CutBehind (session : Session) (front rest : List Char) : Prop where
  text : session.text.toList = Text.recentChars (limit / 2) front ++ rest
  lowered : session.lowered.toList =
    Text.recentChars (limit / 2) (Text.lowerEach front) ++ Text.lowerEach rest
  exceeds : front = [] ∨ limit < Text.byteCount front
  fits : Text.byteCount session.text.toList ≤ limit

theorem cutBehind_nil {session : Session} (text : session.text = "")
    (lowered : session.lowered = "") : session.CutBehind [] [] := by
  refine ⟨?_, ?_, .inl rfl, ?_⟩
  · rw [text]
    rfl
  · rw [lowered]
    rfl
  · rw [text]
    exact Nat.zero_le _

namespace CutBehind

variable {session : Session} {front rest : List Char} (cut : session.CutBehind front rest)

include cut

theorem push_of_le {c : Char} (fits : (session.text.push c).utf8ByteSize ≤ limit) :
    (session.push c).2.CutBehind front (rest ++ [c]) := by
  obtain ⟨text, lowered⟩ := extend_of_le fits
  refine ⟨?_, ?_, cut.exceeds, ?_⟩
  · rw [text_push, text, cut.text, List.append_assoc]
  · rw [lowered_push, lowered, cut.lowered, List.append_assoc, Text.lowerEach_append,
      Text.lowerEach_cons, Text.lowerEach_nil, List.append_nil]
  · rwa [text_push, text, ← String.toList_push, ← Text.utf8ByteSize_eq_byteCount]

/-- A cut leaves what it would have left without the cuts before it. -/
theorem push_of_lt {c : Char} (exceeds : limit < (session.text.push c).utf8ByteSize) :
    (session.push c).2.CutBehind (front ++ (rest ++ [c])) [] := by
  obtain ⟨text, lowered⟩ := extend_of_lt exceeds
  rw [Text.utf8ByteSize_eq_byteCount, String.toList_push, cut.text, List.append_assoc,
    Text.byteCount_append] at exceeds
  -- The characters since the last cut passed the limit, and so they are many.
  have kept := Text.byteCount_recentChars_le (limit / 2) front
  have many : limit / 2 < Text.byteCount (rest ++ [c]) := by
    simp only [limit] at exceeds kept ⊢
    omega
  have wide := Text.byteCount_le_lowerEach (rest ++ [c])
  have enough : 3 ≤ Text.byteCount (rest ++ [c]) ∧
      3 ≤ Text.byteCount (Text.lowerEach (rest ++ [c])) := by
    simp only [limit] at many
    omega
  refine ⟨?_, ?_, .inr ?_, ?_⟩
  · rw [text_push, text, cut.text, List.append_assoc, List.append_nil,
      Text.recentChars_append enough.1]
  · have behind : session.lowered.toList ++ Text.lowerChar c =
        Text.recentChars (limit / 2) (Text.lowerEach front) ++ Text.lowerEach (rest ++ [c]) := by
      rw [cut.lowered]
      simp
    rw [lowered_push, lowered, behind, Text.recentChars_append enough.2,
      Text.lowerEach_append front, Text.lowerEach_nil, List.append_nil]
  · have fewer : Text.byteCount (Text.recentChars (limit / 2) front) ≤ Text.byteCount front :=
      Text.byteCount_le_of_suffix (Text.dropBytes_suffix _ front)
    rw [Text.byteCount_append]
    omega
  · rw [text_push, text]
    exact Nat.le_trans (Text.byteCount_recentChars_le _ _) (by decide)

/-- Of what has come in, half of the bytes that fit are left, except perhaps three. -/
theorem le_byteCount : min (limit / 2 - 3) (Text.byteCount (front ++ rest)) ≤
    Text.byteCount session.text.toList := by
  rw [cut.text, Text.byteCount_append, Text.byteCount_append]
  rcases Text.recentChars_eq_or_le (limit / 2) front with uncut | long
  · rw [uncut]
    omega
  · omega

theorem exists_push (c : Char) : ∃ front' rest', front' ++ rest' = front ++ rest ++ [c] ∧
    (session.push c).2.CutBehind front' rest' := by
  rcases Nat.lt_or_ge limit (session.text.push c).utf8ByteSize with exceeds | fits
  · exact ⟨_, _, by simp, cut.push_of_lt exceeds⟩
  · exact ⟨_, _, by simp, cut.push_of_le fits⟩

end CutBehind

/-- Whatever is done to a session, it holds what the last cut left and what has come in since. -/
theorem exists_cutBehind (operations : List Operation) :
    ∃ front rest, stream operations = front ++ rest ∧
      (after operations).CutBehind front rest := by
  refine holds_after
    (fun session stream => ∃ front rest, stream = front ++ rest ∧ session.CutBehind front rest)
    ⟨[], [], rfl, cutBehind_nil rfl rfl⟩ (fun session stream operation held => ?_) operations
  cases operation with
  | push c =>
      obtain ⟨front, rest, rfl, cut⟩ := held
      obtain ⟨front', rest', whole, further⟩ := cut.exists_push c
      exact ⟨front', rest', whole.symm, further⟩
  | forgetText => exact ⟨[], [], rfl, cutBehind_nil rfl rfl⟩
  | forget => exact ⟨[], [], rfl, cutBehind_nil rfl rfl⟩

/-! ## Both texts in step -/

/-- The lower-case form is that of the characters of the text. -/
def InStep (session : Session) : Prop :=
  session.lowered.toList = Text.lowerEach session.text.toList

namespace CutBehind

variable {session : Session} {front rest : List Char} (cut : session.CutBehind front rest)

include cut

theorem inStep_iff : session.InStep ↔
    Text.recentChars (limit / 2) (Text.lowerEach front) =
      Text.lowerEach (Text.recentChars (limit / 2) front) := by
  rw [InStep, cut.lowered, cut.text, Text.lowerEach_append, List.append_left_inj]

/-- The lower-case form of what the last cut left of the text fits, but does not fit with one more
character. -/
theorem inStep_iff_full :
    let kept := Text.lowerEach (Text.recentChars (limit / 2) front)
    session.InStep ↔ Text.byteCount kept ≤ limit / 2 ∧
      ∀ c, c :: kept <:+ Text.lowerEach front → limit / 2 < Text.byteCount (c :: kept) := by
  intro kept
  have within : kept <:+ Text.lowerEach front :=
    Text.lowerEach_suffix (Text.dropBytes_suffix _ front)
  rw [cut.inStep_iff, Text.recentChars_eq_iff within]

theorem front_eq_nil (fits : Text.byteCount (front ++ rest) ≤ limit) : front = [] := by
  refine cut.exceeds.resolve_right fun exceeds => ?_
  rw [Text.byteCount_append] at fits
  omega

end CutBehind

theorem inStep_of_byteCount_le {operations : List Operation}
    (fits : Text.byteCount (stream operations) ≤ limit) : (after operations).InStep := by
  obtain ⟨front, rest, whole, cut⟩ := exists_cutBehind operations
  rw [whole] at fits
  rw [cut.inStep_iff, cut.front_eq_nil fits]
  rfl

/-- Characters that keep their size are cut at the same place in both texts. -/
theorem inStep_of_keepsSize {operations : List Operation}
    (keeps : ∀ c ∈ stream operations, Text.KeepsSize c) : (after operations).InStep := by
  obtain ⟨front, rest, whole, cut⟩ := exists_cutBehind operations
  rw [whole] at keeps
  rw [cut.inStep_iff]
  exact Text.recentChars_lowerEach (fun c member => keeps c (List.mem_append_left _ member)) _

end Session

end SerialDialogue
