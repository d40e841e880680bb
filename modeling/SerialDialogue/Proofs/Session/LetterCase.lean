import SerialDialogue.Proofs.Session.Shadow
import SerialDialogue.Proofs.Text.Sigma

/-!
# Letter case

A text in single quotes is looked for whatever the letter case.  The text is lowered as a whole, and
so is what it is looked for in, unless a session has lowered that character by character.  This file
says for which texts each of the two agrees with the character-wise lower-case forms: in a whole
text those without open sigmas, and in a session those without capital sigmas at the end of a word.
-/

namespace SerialDialogue

namespace Text

/-- The two ways to lower a text give as many characters. -/
theorem length_lowerBehind (before text : List Char) :
    (lowerBehind before text).length = (lowerEach text).length := by
  induction text generalizing before with
  | nil => rfl
  | cons c rest ih =>
      rw [lowerBehind_cons, lowerEach_cons, List.length_append, List.length_append, ih]
      by_cases final : c = 'Σ' ∧ endsWord before rest
      · rw [if_pos final, final.1, lowerChar_sigma]
        rfl
      · rw [if_neg final]

theorem lowerBehind_append_of_not_mem {front : List Char} (noSigma : 'Σ' ∉ front)
    (before rest : List Char) : lowerBehind before (front ++ rest) =
      lowerEach front ++ lowerBehind (front.reverse ++ before) rest := by
  induction front generalizing before with
  | nil => rfl
  | cons c front ih =>
      obtain ⟨other, noSigma⟩ := not_or.1 (mt List.mem_cons.2 noSigma)
      have inside : ¬ (c = 'Σ' ∧ endsWord before (front ++ rest)) := fun final => other final.1.symm
      rw [List.cons_append, lowerBehind_cons, if_neg inside, ih noSigma, lowerEach_cons,
        List.append_assoc, List.reverse_cons, List.append_assoc]
      rfl

theorem lowerBehind_infix_lowerEach_iff (text : List Char) :
    lowerBehind [] text <:+: lowerEach text ↔ ¬ HasFinalSigma [] text := by
  rw [← lowerBehind_eq_lowerEach_iff]
  constructor
  · intro occurs
    exact occurs.eq_of_length (length_lowerBehind [] text)
  · intro same
    simp [same]

theorem not_infix_of_count {first second : List Char} {c d : Char} (other : c ≠ d)
    (other' : c ≠ 'α') : ¬ first ++ c :: second <:+: 'α' :: (first ++ d :: second) := by
  intro occurs
  have fewer := occurs.sublist.count_le c
  simp only [List.count_append, List.count_cons_self, List.count_cons_of_ne other.symm,
    List.count_cons_of_ne other'.symm] at fewer
  omega

/-- A text in lower case with an open sigma is found in one of the two lower-case forms of some
text, but not in the other one. -/
theorem exists_of_hasOpenSigma {needle : List Char} (lower : ∀ c ∈ needle, IsLower c)
    (openSigma : HasOpenSigma needle) :
    ∃ text, ¬ (needle <:+: lowerBehind [] text ↔ needle <:+: lowerEach text) := by
  obtain ⟨first, c, second, rfl, sigma, ends⟩ := openSigma
  have lowerFirst : ∀ d ∈ first, IsLower d := fun d member =>
    lower d (List.mem_append_left _ member)
  have lowerSecond : ∀ d ∈ second, IsLower d := fun d member =>
    lower d (List.mem_append_right _ (List.mem_cons_of_mem c member))
  have noSigma := sigma_not_mem_of_isLower lowerFirst
  have noSigma' := sigma_not_mem_of_isLower lowerSecond
  -- With a letter in front the sigma ends a word.
  let text := ['α'] ++ (first ++ 'Σ' :: second)
  have alpha : lowerEach ['α'] = ['α'] := by
    decide +kernel
  have each : lowerEach text = 'α' :: (first ++ 'σ' :: second) := by
    rw [lowerEach_append, lowerEach_append, lowerEach_cons 'Σ', lowerChar_sigma, alpha,
      lowerEach_of_isLower lowerFirst, lowerEach_of_isLower lowerSecond]
    rfl
  have whole : lowerBehind [] text = 'α' :: (first ++ 'ς' :: second) := by
    rw [lowerBehind_append_of_not_mem (by decide), lowerBehind_append_of_not_mem noSigma,
      lowerBehind_cons, if_pos ⟨rfl, ends⟩, lowerBehind_eq_lowerEach noSigma', alpha,
      lowerEach_of_isLower lowerFirst, lowerEach_of_isLower lowerSecond]
    rfl
  refine ⟨text, fun same => ?_⟩
  rw [whole, each] at same
  rcases sigma with rfl | rfl
  · exact not_infix_of_count (by decide) (by decide) (same.2 (List.suffix_cons _ _).isInfix)
  · exact not_infix_of_count (by decide) (by decide) (same.1 (List.suffix_cons _ _).isInfix)

/-- Exactly the texts without open sigmas are found in every text where they are found character
by character. -/
theorem forall_infix_iff (text : List Char) :
    (∀ received, lowerBehind [] text <:+: lowerBehind [] received ↔
        lowerEach text <:+: lowerEach received) ↔
      ¬ HasOpenSigma (lowerEach text) := by
  have lower : ∀ c ∈ lowerEach text, IsLower c := fun c member => isLower_of_mem_lowerEach member
  constructor
  · intro exactly openSigma
    have itself : lowerBehind [] (lowerEach text) = lowerEach text := by
      rw [lowerBehind_eq_lowerEach (sigma_not_mem_of_isLower lower), lowerEach_of_isLower lower]
    have alike := exactly (lowerEach text)
    rw [itself, lowerEach_of_isLower lower] at alike
    have same : lowerBehind [] text = lowerEach text :=
      (alike.2 List.infix_rfl).eq_of_length (length_lowerBehind [] text)
    obtain ⟨received, differs⟩ := exists_of_hasOpenSigma lower openSigma
    apply differs
    rw [← exactly received, same]
  · intro closed received
    have inside : ¬ HasFinalSigma [] text := fun final =>
      closed (hasOpenSigma_of_hasFinalSigma final)
    rw [(lowerBehind_eq_lowerEach_iff [] text).2 inside]
    exact infix_lowerBehind_iff closed [] received

end Text

theorem Pattern.isMatch_ofSubstring_iff (text received line : String) :
    (ofSubstring text).isMatch received line = true ↔
      Text.lowerBehind [] text.toList <:+: Text.lowerBehind [] received.toList := by
  rw [isMatch_eq_matchesLowered, matchesLowered_ofSubstring, String.contains_string_iff,
    Text.lowercase_toList, Text.lowercase_toList]

theorem Session.InStep.isMatch_ofSubstring_iff {session : Session} (inStep : session.InStep)
    (text : String) : session.isMatch (.ofSubstring text) = true ↔
      Text.lowerBehind [] text.toList <:+: Text.lowerEach session.text.toList := by
  rw [session.isMatch_ofSubstring_iff, Text.lowercase_toList, inStep]

/-- Matching whatever the letter case is exact where the character-wise lower-case forms decide it.
It is exact in every text received just in case no sigma is open in the text that is looked for.  In
a single one it is exact also where no capital sigma ends a word, neither there nor in the text that
is looked for.  In a session that has not been given more bytes than it may hold since it last
forgot its text, it is exact where no capital sigma ends a word of the text that is looked for;
where one does, a session that holds this very text does not find it. -/
theorem quoted_exact_iff (text : String) :
    ∃ pattern, Pattern.compile? ("'" ++ text ++ "'") = .ok pattern ∧
      ((∀ received line : String, pattern.isMatch received line = true ↔
          Text.lowerEach text.toList <:+: Text.lowerEach received.toList) ↔
        ¬ Text.HasOpenSigma (Text.lowerEach text.toList)) ∧
      (∀ received line : String, ¬ Text.HasFinalSigma [] text.toList →
        ¬ Text.HasFinalSigma [] received.toList →
          (pattern.isMatch received line = true ↔
            Text.lowerEach text.toList <:+: Text.lowerEach received.toList)) ∧
      ∀ operations, Text.byteCount (Session.stream operations) ≤ Session.limit →
        let session := Session.after operations
        (¬ Text.HasFinalSigma [] text.toList → (session.isMatch pattern = true ↔
          Text.lowerEach text.toList <:+: Text.lowerEach session.text.toList)) ∧
        (session.text = text →
          (session.isMatch pattern = true ↔ ¬ Text.HasFinalSigma [] text.toList)) := by
  refine ⟨.ofSubstring text, Pattern.compile?_quoted text, ?_, ?_, ?_⟩
  · rw [← Text.forall_infix_iff]
    constructor
    · intro exactly received
      rw [← String.toList_ofList (l := received), ← exactly (String.ofList received) "",
        Pattern.isMatch_ofSubstring_iff]
    · intro exactly received line
      rw [Pattern.isMatch_ofSubstring_iff]
      exact exactly received.toList
  · intro received line inside inside'
    rw [Pattern.isMatch_ofSubstring_iff, (Text.lowerBehind_eq_lowerEach_iff [] _).2 inside,
      (Text.lowerBehind_eq_lowerEach_iff [] _).2 inside']
  · intro operations fits session
    have found := (Session.inStep_of_byteCount_le fits).isMatch_ofSubstring_iff text
    constructor
    · intro inside
      rw [found, (Text.lowerBehind_eq_lowerEach_iff [] _).2 inside]
    · intro same
      have here : (Session.after operations).text = text := same
      rw [found, here]
      exact Text.lowerBehind_infix_lowerEach_iff text.toList

/-- A word of two Greek capitals is found neither in a longer word nor by a session that has
received it. -/
theorem quoted_sigma_ne :
    ∃ pattern, Pattern.compile? "'ΑΣ'" = .ok pattern ∧ "ΑΣ".toList <:+: "ΑΣΑ".toList ∧
      Text.lowerEach "ΑΣ".toList <:+: Text.lowerEach "ΑΣΑ".toList ∧
      pattern.isMatch "ΑΣΑ" "" = false ∧
      (Session.after [.push 'Α', .push 'Σ']).text = "ΑΣ" ∧
      (Session.after [.push 'Α', .push 'Σ']).isMatch pattern = false := by
  have needle : Text.lowerBehind [] "ΑΣ".toList = ['α', 'ς'] := by
    decide +kernel
  have longer : Text.lowerBehind [] "ΑΣΑ".toList = ['α', 'σ', 'α'] := by
    decide +kernel
  have occurs : "ΑΣ".toList <:+: "ΑΣΑ".toList := ⟨[], ['Α'], rfl⟩
  have inStep : (Session.after [.push 'Α', .push 'Σ']).InStep :=
    Session.inStep_of_byteCount_le (by decide +kernel)
  refine ⟨.ofSubstring "ΑΣ", Pattern.compile?_quoted "ΑΣ", occurs, ?_, ?_, rfl, ?_⟩
  · obtain ⟨front, back, whole⟩ := occurs
    rw [← whole, Text.lowerEach_append, Text.lowerEach_append]
    exact List.infix_append _ _ _
  · apply Bool.eq_false_iff.2
    intro found
    have sigma := ((Pattern.isMatch_ofSubstring_iff _ _ _).1 found).subset
    rw [needle, longer] at sigma
    exact absurd (sigma (List.mem_cons_of_mem _ List.mem_cons_self)) (by decide)
  · apply Bool.eq_false_iff.2
    intro found
    have sigma := ((inStep.isMatch_ofSubstring_iff _).1 found).subset
    rw [needle] at sigma
    exact absurd (sigma (List.mem_cons_of_mem _ List.mem_cons_self)) (by decide +kernel)

end SerialDialogue
