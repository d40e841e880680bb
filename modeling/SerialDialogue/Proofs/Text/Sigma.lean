import Mathlib.Data.List.Chain
import SerialDialogue.Proofs.Text.Lowering

/-!
# Sigmas in context

A capital sigma is lowered by its context: it becomes final behind a cased character with no cased
one behind it.  Lower-casing keeps letters letters, so that the context may be lowered before or
after.  A sigma is open where the characters of a text do not keep it from being final.  Texts
without open sigmas occur in the two lower-case forms of a text at the same places.
-/

namespace SerialDialogue

namespace Text

/-! ## Letters -/

/-- The character is cased, and it is not ignored. -/
def IsLetter (c : Char) : Prop :=
  isCaseIgnorable c = false ∧ isCased c = true

instance : DecidablePred IsLetter :=
  fun _ => inferInstanceAs (Decidable (_ ∧ _))

/-- The code points from `low` to `high` lie in one of the ranges. -/
def coversSpan (ranges : List (Nat × Nat)) (low high : Nat) : Bool :=
  ranges.any fun range => Nat.ble range.1 low && Nat.ble high range.2

/-- The code points from `low` to `high` lie between the ranges, which are in their order. -/
def avoidsSpan (low high : Nat) : List (Nat × Nat) → Bool
  | [] => true
  | range :: later => Nat.blt high range.1 || (Nat.blt range.2 low && avoidsSpan low high later)

theorem inRanges_of_coversSpan {ranges : List (Nat × Nat)} {low high n : Nat}
    (covers : coversSpan ranges low high) (above : low ≤ n) (below : n ≤ high) :
    inRanges ranges n = true := by
  obtain ⟨range, member, around⟩ := List.any_eq_true.1 covers
  simp only [Bool.and_eq_true, Nat.ble_eq] at around
  apply List.any_eq_true.2
  refine ⟨range, member, ?_⟩
  simp only [Bool.and_eq_true, decide_eq_true_eq]
  omega

theorem inRanges_eq_false_of_avoidsSpan {ranges : List (Nat × Nat)} {low high n : Nat}
    (sorted : ranges.Pairwise (·.1 < ·.1)) (avoids : avoidsSpan low high ranges)
    (above : low ≤ n) (below : n ≤ high) : inRanges ranges n = false := by
  induction ranges with
  | nil => rfl
  | cons range later ih =>
      obtain ⟨first, sorted⟩ := List.pairwise_cons.1 sorted
      simp only [avoidsSpan, Bool.or_eq_true, Bool.and_eq_true, Nat.blt_eq] at avoids
      rcases avoids with before | ⟨behind, avoids⟩
      · apply List.any_eq_false.2
        intro other member
        have : range.1 ≤ other.1 := by
          rcases List.mem_cons.1 member with rfl | member
          · exact Nat.le_refl _
          · exact Nat.le_of_lt (first other member)
        simp only [Bool.and_eq_true, decide_eq_true_eq]
        omega
      · have rest := ih sorted avoids
        simp only [inRanges] at rest ⊢
        rw [List.any_cons, rest, Bool.or_false]
        simp only [Bool.and_eq_false_iff, decide_eq_false_iff_not]
        omega

theorem pairwise_caseIgnorableRanges : caseIgnorableRanges.Pairwise (·.1 < ·.1) := by
  have chain : caseIgnorableRanges.IsChain (·.1 < ·.1) := by
    decide +kernel
  exact List.isChain_iff_pairwise.1 chain

theorem coversSpan_casedRanges : (lowercaseRuns.all fun run =>
    (coversSpan casedRanges run.first run.last || (List.range' run.first
      ((run.last - run.first) / run.step + 1) run.step).all (inRanges casedRanges)) &&
        coversSpan casedRanges run.target (run.target + (run.last - run.first))) = true := by
  decide +kernel

theorem avoidsSpan_caseIgnorableRanges : (lowercaseRuns.all fun run =>
    avoidsSpan run.first run.last caseIgnorableRanges &&
      avoidsSpan run.target (run.target + (run.last - run.first)) caseIgnorableRanges) = true := by
  decide +kernel

/-- A character with a lower-case form of its own is a letter, and so is its lower-case form. -/
theorem isLetter_of_covers {run : CaseRun} (member : run ∈ lowercaseRuns) {c d : Char}
    (covers : run.covers c.toNat) (lower : d.toNat = run.lower c.toNat) :
    IsLetter c ∧ IsLetter d := by
  have cased := List.all_eq_true.1 coversSpan_casedRanges run member
  have ignored := List.all_eq_true.1 avoidsSpan_caseIgnorableRanges run member
  simp only [Bool.and_eq_true, Bool.or_eq_true] at cased ignored
  simp only [CaseRun.covers, Bool.and_eq_true, decide_eq_true_eq, beq_iff_eq] at covers
  obtain ⟨⟨above, below⟩, stepped⟩ := covers
  rw [CaseRun.lower] at lower
  refine ⟨⟨?_, ?_⟩, ⟨?_, ?_⟩⟩
  · exact inRanges_eq_false_of_avoidsSpan pairwise_caseIgnorableRanges ignored.1 above below
  · rcases cased.1 with whole | each
    · exact inRanges_of_coversSpan whole above below
    · apply List.all_eq_true.1 each
      apply List.mem_range'.2
      refine ⟨(c.toNat - run.first) / run.step, ?_, ?_⟩
      · apply Nat.lt_succ_of_le
        apply Nat.div_le_div_right
        omega
      · have := Nat.div_add_mod (c.toNat - run.first) run.step
        omega
  · exact inRanges_eq_false_of_avoidsSpan pairwise_caseIgnorableRanges ignored.2 (by omega)
      (by omega)
  · exact inRanges_of_coversSpan cased.2 (by omega) (by omega)

theorem toLower_of_ascii : ∀ n < 0x80, (Char.ofNat n).toLower = Char.ofNat n ∨
    0x41 ≤ n ∧ n ≤ 0x5A ∧ (Char.ofNat n).toLower.toNat = n + 0x20 := by
  decide +kernel

theorem isLetter_toLower_of_ascii {c : Char} (ascii : c.toNat < 0x80) :
    c.toLower = c ∨ IsLetter c ∧ IsLetter c.toLower := by
  have asciiCases := toLower_of_ascii c.toNat ascii
  rw [Char.ofNat_toNat] at asciiCases
  rcases asciiCases with same | ⟨above, below, lower⟩
  · exact .inl same
  · right
    let run : CaseRun := ⟨0x41, 0x5A, 1, 0x61⟩
    have member : run ∈ lowercaseRuns := List.mem_cons_self
    apply isLetter_of_covers member
    · simp [run, CaseRun.covers, above, below, Nat.mod_one]
    · simp only [run, CaseRun.lower]
      omega

/-- A character is its own lower-case form, or it is a letter and its lower-case form is one,
perhaps with a mark behind it. -/
theorem lowerChar_cases (c : Char) : lowerChar c = [c] ∨ IsLetter c ∧
    ∃ d marks, lowerChar c = d :: marks ∧ IsLetter d ∧ marks.all isCaseIgnorable := by
  unfold lowerChar
  split
  · rename_i ascii
    rcases isLetter_toLower_of_ascii ascii with same | ⟨letter, lower⟩
    · exact .inl (congrArg ([·]) same)
    · exact .inr ⟨letter, _, [], rfl, lower, rfl⟩
  · split
    · rename_i dotted
      subst dotted
      exact .inr ⟨by decide +kernel, 'i', [Char.ofNat 0x307], rfl, by decide +kernel,
        by decide +kernel⟩
    · split
      · rename_i run found
        have among := List.mem_of_find?_eq_some found
        have covers := List.find?_some found
        obtain ⟨letter, lower⟩ :=
          isLetter_of_covers among covers (toNat_ofNat_lower among covers)
        exact .inr ⟨letter, _, [], rfl, lower, rfl⟩
      · exact .inl rfl

/-! ## What the context says -/

theorem leadsToCased_cons (c : Char) (rest : List Char) :
    leadsToCased (c :: rest) = if isCaseIgnorable c then leadsToCased rest else isCased c := by
  unfold leadsToCased
  rw [List.dropWhile_cons]
  by_cases ignorable : isCaseIgnorable c <;> simp [ignorable]

theorem leadsToCased_append (first second : List Char) :
    leadsToCased (first ++ second) =
      if first.all isCaseIgnorable then leadsToCased second else leadsToCased first := by
  induction first with
  | nil => simp
  | cons c rest ih =>
      rw [List.cons_append, leadsToCased_cons, leadsToCased_cons, ih]
      by_cases ignorable : isCaseIgnorable c <;> simp [ignorable]

theorem leadsToCased_of_isLetter {c : Char} (letter : IsLetter c) (rest : List Char) :
    leadsToCased (c :: rest) = true := by
  rw [leadsToCased_cons, letter.1]
  exact letter.2

theorem leadsToCased_of_prefix {first whole : List Char} (early : first <+: whole)
    (cased : leadsToCased first = true) : leadsToCased whole = true := by
  induction first generalizing whole with
  | nil => cases cased
  | cons c rest ih =>
      obtain ⟨more, rfl⟩ := early
      rw [List.cons_append, leadsToCased_cons]
      rw [leadsToCased_cons] at cased
      split
      · rename_i ignorable
        rw [if_pos ignorable] at cased
        exact ih (List.prefix_append rest more) cased
      · rename_i other
        rwa [if_neg other] at cased

/-- With a letter behind them characters lead to a cased one if they do with anything else. -/
theorem leadsToCased_append_alpha {first rest : List Char}
    (cased : leadsToCased (first ++ rest) = true) : leadsToCased (first ++ ['α']) = true := by
  have alpha : IsLetter 'α' := by
    decide +kernel
  rw [leadsToCased_append] at cased ⊢
  split
  · exact leadsToCased_of_isLetter alpha []
  · rename_i other
    rwa [if_neg other] at cased

theorem leadsToCased_lowerChar (c : Char) {lowered rest : List Char}
    (same : leadsToCased lowered = leadsToCased rest) :
    leadsToCased (lowerChar c ++ lowered) = leadsToCased (c :: rest) ∧
      leadsToCased ((lowerChar c).reverse ++ lowered) = leadsToCased (c :: rest) := by
  rcases lowerChar_cases c with itself | ⟨letter, d, marks, lower, letter', marked⟩
  · rw [itself, List.reverse_singleton, List.singleton_append, leadsToCased_cons,
      leadsToCased_cons, same]
    exact ⟨rfl, rfl⟩
  · rw [lower, leadsToCased_of_isLetter letter, List.cons_append, List.reverse_cons,
      List.append_assoc, leadsToCased_append]
    refine ⟨leadsToCased_of_isLetter letter' _, ?_⟩
    rw [if_pos (by rwa [List.all_reverse])]
    exact leadsToCased_of_isLetter letter' _

/-- The lower-case forms of the characters in front, the nearest first. -/
def lowerBefore (before : List Char) : List Char :=
  before.flatMap fun c => (lowerChar c).reverse

theorem reverse_lowerEach (text : List Char) :
    (lowerEach text).reverse = lowerBefore text.reverse := by
  rw [lowerEach, List.reverse_flatMap]
  rfl

theorem leadsToCased_lowerEach (text : List Char) :
    leadsToCased (lowerEach text) = leadsToCased text := by
  induction text with
  | nil => rfl
  | cons c rest ih =>
      rw [lowerEach_cons]
      exact (leadsToCased_lowerChar c ih).1

theorem leadsToCased_lowerBefore (before : List Char) :
    leadsToCased (lowerBefore before) = leadsToCased before := by
  induction before with
  | nil => rfl
  | cons c rest ih => exact (leadsToCased_lowerChar c ih).2

theorem leadsToCased_lowerBehind (before text : List Char) :
    leadsToCased (lowerBehind before text) = leadsToCased text := by
  have capital : IsLetter 'Σ' := by
    decide +kernel
  have final : IsLetter 'ς' := by
    decide +kernel
  induction text generalizing before with
  | nil => rfl
  | cons c rest ih =>
      rw [lowerBehind_cons]
      split
      · rename_i ends
        rw [ends.1, leadsToCased_of_isLetter capital]
        exact leadsToCased_of_isLetter final _
      · exact (leadsToCased_lowerChar c (ih (c :: before))).1

/-! ## Open sigmas -/

/-- A small sigma of the text may stand for a capital one that ends a word: a cased character comes
before it, or might come before the text, and none follows it in the text. -/
def HasOpenSigma (text : List Char) : Prop :=
  ∃ first c second, text = first ++ c :: second ∧ (c = 'σ' ∨ c = 'ς') ∧
    endsWord (first.reverse ++ ['α']) second

theorem endsWord_of_occurrence {before rest done more lowered : List Char}
    (ends : endsWord before rest) (matched : done <+: lowerBefore before)
    (within : more <+: lowered) (same : leadsToCased lowered = leadsToCased rest) :
    endsWord (done ++ ['α']) more := by
  simp only [endsWord, Bool.and_eq_true, Bool.not_eq_true'] at ends ⊢
  obtain ⟨cased, uncased⟩ := ends
  constructor
  · obtain ⟨further, whole⟩ := matched
    rw [← leadsToCased_lowerBefore, ← whole] at cased
    exact leadsToCased_append_alpha cased
  · apply Bool.eq_false_iff.2
    intro cased'
    have := leadsToCased_of_prefix within cased'
    rw [same, uncased] at this
    cases this

theorem hasOpenSigma_of_hasFinalSigma {text : List Char} (final : HasFinalSigma [] text) :
    HasOpenSigma (lowerEach text) := by
  obtain ⟨first, second, rfl, ends⟩ := final
  refine ⟨lowerEach first, 'σ', lowerEach second, ?_, .inl rfl, ?_⟩
  · rw [lowerEach_append, lowerEach_cons, lowerChar_sigma]
    rfl
  · rw [List.append_nil] at ends
    rw [reverse_lowerEach]
    exact endsWord_of_occurrence ends List.prefix_rfl List.prefix_rfl (leadsToCased_lowerEach _)

theorem prefix_append_congr {needle front first second : List Char}
    (same : ∀ more, needle = front ++ more → (more <+: first ↔ more <+: second)) :
    needle <+: front ++ first ↔ needle <+: front ++ second := by
  have carries {first second : List Char}
      (imp : ∀ more, needle = front ++ more → more <+: first → more <+: second)
      (early : needle <+: front ++ first) : needle <+: front ++ second := by
    rcases List.prefix_or_prefix_of_prefix early (List.prefix_append front first) with
      within | ⟨more, rfl⟩
    · exact within.trans (List.prefix_append front second)
    · apply (List.prefix_append_right_inj front).2
      exact imp more rfl ((List.prefix_append_right_inj front).1 early)
  constructor
  · exact carries fun more split => (same more split).1
  · exact carries fun more split => (same more split).2

theorem infix_append_congr {needle front first second : List Char}
    (starts : ∀ before tail, front = before ++ tail → tail ≠ [] →
      (needle <+: tail ++ first ↔ needle <+: tail ++ second))
    (behind : needle <:+: first ↔ needle <:+: second) :
    needle <:+: front ++ first ↔ needle <:+: front ++ second := by
  induction front with
  | nil => exact behind
  | cons c rest ih =>
      have here := starts [] (c :: rest) rfl (List.cons_ne_nil c rest)
      have later := ih fun before tail split => starts (c :: before) tail (congrArg (c :: ·) split)
      rw [List.cons_append, List.cons_append, List.infix_cons_iff, List.infix_cons_iff, later]
      exact or_congr_left here

/-- What begins in the characters in front goes on in both lower-case forms, or in none. -/
theorem prefix_lowerBehind_iff {done needle before : List Char}
    (closed : ¬ HasOpenSigma (done.reverse ++ needle)) (matched : done <+: lowerBefore before)
    (text : List Char) : needle <+: lowerBehind before text ↔ needle <+: lowerEach text := by
  induction text generalizing done needle before with
  | nil => rfl
  | cons c rest ih =>
      rw [lowerBehind_cons, lowerEach_cons]
      by_cases final : c = 'Σ' ∧ endsWord before rest
      · obtain ⟨rfl, ends⟩ := final
        rw [if_pos ⟨rfl, ends⟩, lowerChar_sigma]
        cases needle with
        | nil => exact iff_of_true List.nil_prefix List.nil_prefix
        | cons d more =>
            -- A sigma of the needle would be open here, in whichever form it is.
            have stuck {lowered : List Char} (sigma : d = 'σ' ∨ d = 'ς')
                (within : more <+: lowered) (same : leadsToCased lowered = leadsToCased rest) :
                False := by
              apply closed
              refine ⟨done.reverse, d, more, rfl, sigma, ?_⟩
              rw [List.reverse_reverse]
              exact endsWord_of_occurrence ends matched within same
            constructor
            · intro early
              obtain ⟨same, within⟩ := List.cons_prefix_cons.1 early
              exact (stuck (.inr same) within (leadsToCased_lowerBehind _ rest)).elim
            · intro early
              obtain ⟨same, within⟩ := List.cons_prefix_cons.1 early
              exact (stuck (.inl same) within (leadsToCased_lowerEach rest)).elim
      · rw [if_neg final]
        apply prefix_append_congr
        rintro more rfl
        have matched' : (lowerChar c).reverse ++ done <+: lowerBefore (c :: before) :=
          (List.prefix_append_right_inj _).2 matched
        apply ih _ matched'
        rwa [List.reverse_append, List.reverse_reverse, List.append_assoc]

/-- A text without open sigmas occurs in both lower-case forms of a text, or in none. -/
theorem infix_lowerBehind_iff {needle : List Char} (closed : ¬ HasOpenSigma needle)
    (before text : List Char) :
    needle <:+: lowerBehind before text ↔ needle <:+: lowerEach text := by
  induction text generalizing before with
  | nil => rfl
  | cons c rest ih =>
      have start : ¬ HasOpenSigma (List.reverse [] ++ needle) := closed
      have nothing : [] <+: lowerBefore before := List.nil_prefix
      have whole := prefix_lowerBehind_iff start nothing (c :: rest)
      rw [lowerBehind_cons, lowerEach_cons] at whole ⊢
      by_cases final : c = 'Σ' ∧ endsWord before rest
      · rw [if_pos final, final.1, lowerChar_sigma, List.singleton_append, List.singleton_append]
          at whole ⊢
        rw [List.infix_cons_iff, List.infix_cons_iff, ih]
        exact or_congr_left whole
      · rw [if_neg final]
        apply infix_append_congr _ (ih (c :: before))
        intro front tail split _
        apply prefix_append_congr
        rintro more rfl
        have matched : tail.reverse <+: lowerBefore (c :: before) := by
          have : lowerBefore (c :: before) = (lowerChar c).reverse ++ lowerBefore before := rfl
          rw [this, split, List.reverse_append, List.append_assoc]
          exact List.prefix_append _ _
        apply prefix_lowerBehind_iff _ matched
        rwa [List.reverse_reverse]

end Text

end SerialDialogue
