import SerialDialogue.Text.Lowercase
import SerialDialogue.Text.Recent

/-!
# Lower-cased text

What lower-casing gives is lower-case: lowering it again changes nothing.  The two ways to
lower a text differ at the capital sigmas that end a word and nowhere else, and never in
the number of bytes.
-/

namespace SerialDialogue

namespace Text

/-! ## Lower-case characters -/

namespace CaseRun

/-- What one run makes of its characters is no character of the other one: the two lie
apart, or the one keeps to the gaps of the other. -/
def apart (run other : CaseRun) : Bool :=
  Nat.blt (run.target + (run.last - run.first)) other.first || Nat.blt other.last run.target ||
    ((Nat.beq run.step 2 || Nat.beq run.first run.last) && Nat.beq other.step 2 &&
      Nat.beq ((run.target + other.first) % 2) 1)

theorem not_covers_lower {run other : CaseRun} (apart : run.apart other) {n : Nat}
    (covers : run.covers n) : ¬ other.covers (run.lower n) := by
  intro covers'
  rw [lower] at covers'
  simp only [CaseRun.apart, CaseRun.covers, Bool.or_eq_true, Bool.and_eq_true, Nat.blt_eq,
    Nat.beq_eq, beq_iff_eq, decide_eq_true_eq] at apart covers covers'
  rcases apart with (far | far) | ⟨⟨stepped | single, gaps⟩, odd⟩
  · omega
  · omega
  · rw [stepped] at covers
    rw [gaps] at covers'
    omega
  · rw [gaps] at covers'
    omega

end CaseRun

theorem apart_lowercaseRuns {run other : CaseRun} (member : run ∈ lowercaseRuns)
    (member' : other ∈ lowercaseRuns) : run.apart other := by
  have all : (lowercaseRuns.all fun run => lowercaseRuns.all fun other => run.apart other) =
      true := by
    decide +kernel
  exact List.all_eq_true.1 (List.all_eq_true.1 all run member) other member'

theorem isValidChar_reach : ∀ run ∈ lowercaseRuns, run.target + (run.last - run.first) < 0xD800 ∨
    0xE000 ≤ run.target ∧ run.target + (run.last - run.first) < 0x110000 := by
  decide +kernel

/-- One run is for the letters of ASCII, and the others are not for ASCII. -/
theorem eq_or_le_of_mem_lowercaseRuns :
    ∀ run ∈ lowercaseRuns, run = ⟨0x41, 0x5A, 1, 0x61⟩ ∨ 0x80 ≤ run.first := by
  decide +kernel

theorem toNat_toLower_of_ascii : ∀ n < 0x80, (Char.ofNat n).toLower.toNat < 0x80 ∧
    ¬ (0x41 ≤ (Char.ofNat n).toLower.toNat ∧ (Char.ofNat n).toLower.toNat ≤ 0x5A) := by
  decide +kernel

/-- The character has no lower-case form but itself. -/
def IsLower (c : Char) : Prop :=
  ∀ run ∈ lowercaseRuns, ¬ run.covers c.toNat

theorem all_not_covers_iff (c : Char) :
    (lowercaseRuns.all fun run => !run.covers c.toNat) = true ↔ IsLower c := by
  simp only [IsLower, List.all_eq_true, Bool.not_eq_true', Bool.not_eq_true]

instance : DecidablePred IsLower :=
  fun c => decidable_of_iff _ (all_not_covers_iff c)

theorem isLower_toLower {c : Char} (ascii : c.toNat < 0x80) : IsLower c.toLower := by
  have letters := toNat_toLower_of_ascii c.toNat ascii
  rw [Char.ofNat_toNat] at letters
  intro run member covers
  simp only [CaseRun.covers, Bool.and_eq_true, decide_eq_true_eq] at covers
  rcases eq_or_le_of_mem_lowercaseRuns run member with rfl | beyond
  · exact letters.2 covers.1
  · omega

theorem toNat_ofNat_lower {run : CaseRun} (member : run ∈ lowercaseRuns) {n : Nat}
    (covers : run.covers n) : (Char.ofNat (run.lower n)).toNat = run.lower n := by
  simp only [CaseRun.covers, Bool.and_eq_true, decide_eq_true_eq] at covers
  have valid : (run.lower n).isValidChar := by
    have reach := isValidChar_reach run member
    simp only [Nat.isValidChar, CaseRun.lower]
    omega
  rw [Char.ofNat, dif_pos valid]
  rfl

theorem isLower_of_mem_lowerChar {c d : Char} (member : d ∈ lowerChar c) : IsLower d := by
  unfold lowerChar at member
  split at member
  · rename_i ascii
    rw [List.mem_singleton.1 member]
    exact isLower_toLower ascii
  · split at member
    · have first : IsLower 'i' := by decide +kernel
      have second : IsLower (Char.ofNat 0x307) := by decide +kernel
      rcases List.mem_cons.1 member with rfl | member
      · exact first
      · exact List.mem_singleton.1 member ▸ second
    · split at member
      · rename_i run found
        rw [List.mem_singleton.1 member]
        have covers := List.find?_some found
        have among := List.mem_of_find?_eq_some found
        intro other among'
        rw [toNat_ofNat_lower among covers]
        exact CaseRun.not_covers_lower (apart_lowercaseRuns among among') covers
      · rename_i found
        rw [List.mem_singleton.1 member]
        exact List.find?_eq_none.1 found

theorem lowerChar_of_isLower {c : Char} (lower : IsLower c) : lowerChar c = [c] := by
  unfold lowerChar
  split
  · rename_i ascii
    have unlettered : ¬ (c.val ≥ 'A'.val ∧ c.val ≤ 'Z'.val) := by
      rintro ⟨above, below⟩
      refine lower ⟨0x41, 0x5A, 1, 0x61⟩ List.mem_cons_self ?_
      have above : 0x41 ≤ c.toNat := UInt32.le_iff_toNat_le.1 above
      have below : c.toNat ≤ 0x5A := UInt32.le_iff_toNat_le.1 below
      simp [CaseRun.covers, above, below, Nat.mod_one]
    have same : c.toLower = c := dif_neg unlettered
    rw [same]
  · split
    · rename_i dotted
      subst dotted
      exact absurd lower (by decide +kernel)
    · rw [List.find?_eq_none.2 lower]

theorem ne_sigma_of_isLower {c : Char} (lower : IsLower c) : c ≠ 'Σ' := by
  rintro rfl
  revert lower
  decide +kernel

theorem isLower_of_mem_lowerEach {text : List Char} {c : Char} (member : c ∈ lowerEach text) :
    IsLower c := by
  obtain ⟨_, _, lowered⟩ := List.mem_flatMap.1 member
  exact isLower_of_mem_lowerChar lowered

theorem sigma_not_mem_of_isLower {text : List Char} (lower : ∀ c ∈ text, IsLower c) :
    'Σ' ∉ text :=
  fun member => ne_sigma_of_isLower (lower 'Σ' member) rfl

theorem lowerEach_suffix {first second : List Char} (suffix : first <:+ second) :
    lowerEach first <:+ lowerEach second := by
  obtain ⟨front, rfl⟩ := suffix
  rw [lowerEach_append]
  exact List.suffix_append _ _

theorem lowerEach_replicate {c d : Char} (lowered : lowerChar c = [d]) (number : Nat) :
    lowerEach (List.replicate number c) = List.replicate number d := by
  induction number with
  | zero => rfl
  | succ number ih =>
      rw [List.replicate_succ, lowerEach_cons, lowered, ih]
      rfl

theorem lowerEach_of_isLower {text : List Char} (lower : ∀ c ∈ text, IsLower c) :
    lowerEach text = text := by
  induction text with
  | nil => rfl
  | cons c rest ih =>
      rw [lowerEach_cons, lowerChar_of_isLower (lower c (by simp)),
        ih fun d member => lower d (by simp [member])]
      rfl

theorem lowercase_of_isLower {s : String} (lower : ∀ c ∈ s.toList, IsLower c) :
    lowercase s = s := by
  rw [lowercase, lowerBehind_eq_lowerEach (sigma_not_mem_of_isLower lower),
    lowerEach_of_isLower lower, String.ofList_toList]

/-! ## Final sigmas -/

/-- A capital sigma of the text, which stands behind `before` (nearest character first),
ends a word. -/
def HasFinalSigma (before text : List Char) : Prop :=
  ∃ first second, text = first ++ 'Σ' :: second ∧ endsWord (first.reverse ++ before) second

theorem hasFinalSigma_cons (before rest : List Char) (c : Char) :
    HasFinalSigma before (c :: rest) ↔
      (c = 'Σ' ∧ endsWord before rest) ∨ HasFinalSigma (c :: before) rest := by
  constructor
  · rintro ⟨first, second, split, ends⟩
    cases first with
    | nil =>
        obtain ⟨rfl, rfl⟩ := List.cons.inj split
        exact .inl ⟨rfl, ends⟩
    | cons d first =>
        obtain ⟨rfl, rfl⟩ := List.cons.inj split
        exact .inr ⟨first, second, rfl, by simpa using ends⟩
  · rintro (⟨rfl, ends⟩ | ⟨first, second, rfl, ends⟩)
    · exact ⟨[], rest, rfl, ends⟩
    · exact ⟨c :: first, second, rfl, by simpa using ends⟩

theorem lowerChar_sigma : lowerChar 'Σ' = ['σ'] := by
  decide +kernel

theorem lowerBehind_cons (before rest : List Char) (c : Char) :
    lowerBehind before (c :: rest) =
      (if c = 'Σ' ∧ endsWord before rest then ['ς'] else lowerChar c) ++
        lowerBehind (c :: before) rest := by
  rw [lowerBehind]
  by_cases sigma : c = 'Σ'
  · subst sigma
    cases endsWord before rest <;> simp [lowerChar_sigma]
  · simp [sigma]

/-- The two ways to lower a text agree where no capital sigma ends a word, and only there. -/
theorem lowerBehind_eq_lowerEach_iff (before text : List Char) :
    lowerBehind before text = lowerEach text ↔ ¬ HasFinalSigma before text := by
  induction text generalizing before with
  | nil => simp [lowerBehind, HasFinalSigma]
  | cons c rest ih =>
      rw [lowerBehind_cons, lowerEach_cons, hasFinalSigma_cons, not_or, ← ih]
      split
      · rename_i final
        simp [final, lowerChar_sigma]
      · rename_i inside
        simp [inside]

/-! ## Bytes -/

/-- The bytes of a text. -/
def byteCount : List Char → Nat
  | [] => 0
  | c :: rest => c.utf8Size + byteCount rest

theorem byteCount_append (first second : List Char) :
    byteCount (first ++ second) = byteCount first + byteCount second := by
  induction first with
  | nil => simp [byteCount]
  | cons c rest ih => simp [byteCount, ih, Nat.add_assoc]

theorem byteCount_replicate (number : Nat) (c : Char) :
    byteCount (List.replicate number c) = number * c.utf8Size := by
  induction number with
  | zero => simp [byteCount]
  | succ number ih => rw [List.replicate_succ, byteCount, ih, Nat.succ_mul, Nat.add_comm]

theorem utf8ByteSize_ofList (text : List Char) :
    (String.ofList text).utf8ByteSize = byteCount text := by
  induction text with
  | nil => rfl
  | cons c rest ih =>
      rw [String.ofList_cons, String.utf8ByteSize_append, String.utf8ByteSize_singleton, ih]
      rfl

theorem utf8ByteSize_eq_byteCount (s : String) : s.utf8ByteSize = byteCount s.toList := by
  rw [← utf8ByteSize_ofList, String.ofList_toList]

theorem lowerChar_eq_or (c : Char) :
    (∃ d, lowerChar c = [d]) ∨ lowerChar c = ['i', Char.ofNat 0x307] := by
  unfold lowerChar
  split
  · exact .inl ⟨_, rfl⟩
  · split
    · exact .inr rfl
    · split <;> exact .inl ⟨_, rfl⟩

/-- A character has no more than four bytes, and its lower-case form has some. -/
theorem byteCount_le_lowerEach (text : List Char) :
    byteCount text ≤ 4 * byteCount (lowerEach text) := by
  induction text with
  | nil => exact Nat.le_refl 0
  | cons c rest ih =>
      have widest := c.utf8Size_le_four
      have positive : 0 < byteCount (lowerChar c) := by
        rcases lowerChar_eq_or c with ⟨d, single⟩ | double
        · rw [single]
          exact Nat.add_pos_left d.utf8Size_pos _
        · rw [double]
          decide
      rw [lowerEach_cons, byteCount_append, byteCount]
      omega

theorem byteCount_lowerBehind (before text : List Char) :
    byteCount (lowerBehind before text) = byteCount (lowerEach text) := by
  induction text generalizing before with
  | nil => rfl
  | cons c rest ih =>
      rw [lowerBehind_cons, lowerEach_cons, byteCount_append, byteCount_append, ih]
      split
      · rename_i final
        rw [final.1, lowerChar_sigma]
        rfl
      · rfl

theorem eq_of_suffix_of_byteCount_le {first second : List Char} (suffix : first <:+ second)
    (le : byteCount second ≤ byteCount first) : first = second := by
  obtain ⟨front, rfl⟩ := suffix
  cases front with
  | nil => rfl
  | cons c front =>
      have := c.utf8Size_pos
      rw [byteCount_append, byteCount] at le
      omega

theorem eq_of_suffix_of_byteCount_eq {first second text : List Char} (suffix : first <:+ text)
    (suffix' : second <:+ text) (same : byteCount first = byteCount second) :
    first = second := by
  rcases List.suffix_or_suffix_of_suffix suffix suffix' with shorter | shorter
  · exact eq_of_suffix_of_byteCount_le shorter (Nat.le_of_eq same.symm)
  · exact (eq_of_suffix_of_byteCount_le shorter (Nat.le_of_eq same)).symm

theorem byteCount_le_of_suffix {first second : List Char} (suffix : first <:+ second) :
    byteCount first ≤ byteCount second := by
  obtain ⟨front, rfl⟩ := suffix
  rw [byteCount_append]
  exact Nat.le_add_left _ _

theorem suffix_of_byteCount_le {first second text : List Char} (suffix : first <:+ text)
    (suffix' : second <:+ text) (fewer : byteCount first ≤ byteCount second) :
    first <:+ second := by
  rcases List.suffix_or_suffix_of_suffix suffix suffix' with shorter | longer
  · exact shorter
  · have same : second = first := eq_of_suffix_of_byteCount_le longer fewer
    exact same ▸ List.suffix_refl second

/-! ## The end of a text -/

/-- The end of a text, of at most `size` bytes. -/
def recentChars (size : Nat) (text : List Char) : List Char :=
  dropBytes (byteCount text - size) text

theorem toList_recentBytes (size : Nat) (s : String) :
    (recentBytes size s).toList = recentChars size s.toList := by
  rw [recentBytes_toList, recentChars, utf8ByteSize_eq_byteCount]

theorem byteCount_dropBytes_le (count : Nat) (text : List Char) :
    byteCount (dropBytes count text) ≤ byteCount text - count := by
  induction text generalizing count with
  | nil => simp [byteCount]
  | cons c rest ih =>
      cases count with
      | zero => simp
      | succ count =>
          have := ih (count + 1 - c.utf8Size)
          rw [dropBytes, byteCount]
          omega

theorem byteCount_recentChars_le (size : Nat) (text : List Char) :
    byteCount (recentChars size text) ≤ size := by
  have := byteCount_dropBytes_le (byteCount text - size) text
  rw [recentChars]
  omega

theorem suffix_dropBytes {front : List Char} {count : Nat} (fewer : count ≤ byteCount front)
    (ending : List Char) : ending <:+ dropBytes count (front ++ ending) := by
  induction front generalizing count with
  | nil =>
      rw [Nat.le_zero.1 fewer, dropBytes_zero]
      exact List.suffix_rfl
  | cons c rest ih =>
      cases count with
      | zero =>
          rw [dropBytes_zero]
          exact List.suffix_append _ _
      | succ count =>
          rw [byteCount] at fewer
          rw [List.cons_append, dropBytes]
          exact ih (by omega)

/-- No more is dropped than has to be dropped. -/
theorem suffix_recentChars {size : Nat} {ending text : List Char} (suffix : ending <:+ text)
    (fits : byteCount ending ≤ size) : ending <:+ recentChars size text := by
  obtain ⟨front, rfl⟩ := suffix
  refine suffix_dropBytes ?_ ending
  rw [byteCount_append]
  omega

/-- The end of a text is the ending that fits, but does not fit with one more character. -/
theorem recentChars_eq_iff {size : Nat} {ending text : List Char} (suffix : ending <:+ text) :
    recentChars size text = ending ↔ byteCount ending ≤ size ∧
      ∀ c, c :: ending <:+ text → size < byteCount (c :: ending) := by
  constructor
  · rintro rfl
    refine ⟨byteCount_recentChars_le size text, fun c longer => Nat.lt_of_not_le fun fits => ?_⟩
    have := (suffix_recentChars longer fits).length_le
    rw [List.length_cons] at this
    omega
  · rintro ⟨fits, full⟩
    obtain ⟨front, split⟩ := suffix_recentChars suffix fits
    rcases List.eq_nil_or_concat front with rfl | ⟨front, c, rfl⟩
    · exact split.symm
    · rw [List.concat_append] at split
      have longer : c :: ending <:+ recentChars size text := ⟨front, split⟩
      have exceeds := full c (longer.trans (dropBytes_suffix _ text))
      have := byteCount_le_of_suffix longer
      have := byteCount_recentChars_le size text
      omega

/-- The end of a text has all bytes that were asked for except perhaps three, or it is the whole
text. -/
theorem recentChars_eq_or_le (size : Nat) (text : List Char) :
    recentChars size text = text ∨ size ≤ byteCount (recentChars size text) + 3 := by
  have suffix : recentChars size text <:+ text := dropBytes_suffix _ text
  have ⟨front, split⟩ := suffix
  rcases List.eq_nil_or_concat front with rfl | ⟨front, c, rfl⟩
  · exact .inl split
  · right
    rw [List.concat_append] at split
    have exceeds := ((recentChars_eq_iff suffix).1 rfl).2 c ⟨front, split⟩
    have width := c.utf8Size_le_four
    rw [byteCount] at exceeds
    omega

theorem recentChars_replicate (size number : Nat) (c : Char) :
    recentChars size (List.replicate number c) =
      List.replicate (min number (size / c.utf8Size)) c := by
  let kept := min number (size / c.utf8Size)
  have within : List.replicate kept c <:+ List.replicate number c := by
    refine List.suffix_replicate_iff.2 ⟨?_, by rw [List.length_replicate]⟩
    rw [List.length_replicate]
    exact Nat.min_le_left _ _
  refine (recentChars_eq_iff within).2 ⟨?_, fun d longer => ?_⟩
  · rw [byteCount_replicate]
    exact Nat.mul_le_of_le_div _ _ _ (Nat.min_le_right _ _)
  · obtain ⟨shorter, all⟩ := List.suffix_replicate_iff.1 longer
    rw [List.length_cons, List.length_replicate] at shorter all
    have everything : kept = size / c.utf8Size := by
      simp only [kept] at shorter ⊢
      omega
    rw [all, byteCount_replicate, everything, Nat.mul_comm]
    exact Nat.lt_mul_div_succ size c.utf8Size_pos

theorem dropBytes_append (front text : List Char) (count : Nat) :
    dropBytes (byteCount front + count) (front ++ text) = dropBytes count text := by
  induction front with
  | nil => rw [byteCount, Nat.zero_add, List.nil_append]
  | cons c rest ih =>
      have sizePositive := c.utf8Size_pos
      obtain ⟨more, positive⟩ : ∃ more, byteCount (c :: rest) + count = more + 1 :=
        Nat.exists_eq_add_one.2 (by rw [byteCount]; omega)
      have behind : more + 1 - c.utf8Size = byteCount rest + count := by
        rw [← positive, byteCount]
        omega
      rw [List.cons_append, positive, dropBytes, behind, ih]

/-- The end of a text is the end of every ending that is long enough. -/
theorem recentChars_of_suffix {size : Nat} {ending text : List Char} (suffix : ending <:+ text)
    (enough : size ≤ byteCount ending) : recentChars size ending = recentChars size text := by
  obtain ⟨front, rfl⟩ := suffix
  rw [recentChars, recentChars, byteCount_append, Nat.add_sub_assoc enough, dropBytes_append]

/-- A text that is cut again is cut as if it had not been cut before. -/
theorem recentChars_append {size : Nat} {front rest : List Char}
    (enough : 3 ≤ byteCount rest) :
    recentChars size (recentChars size front ++ rest) = recentChars size (front ++ rest) := by
  rcases recentChars_eq_or_le size front with uncut | long
  · rw [uncut]
  · refine recentChars_of_suffix (List.suffix_append_self_iff.2 (dropBytes_suffix _ front)) ?_
    rw [byteCount_append]
    omega

/-- The lower-case form of a character is as long as the character. -/
def KeepsSize (c : Char) : Prop :=
  ∃ d, lowerChar c = [d] ∧ d.utf8Size = c.utf8Size

theorem byteCount_lowerEach {text : List Char} (keeps : ∀ c ∈ text, KeepsSize c) :
    byteCount (lowerEach text) = byteCount text := by
  induction text with
  | nil => rfl
  | cons c rest ih =>
      obtain ⟨d, lowered, same⟩ := keeps c List.mem_cons_self
      have tail := ih fun e member => keeps e (List.mem_cons_of_mem _ member)
      rw [lowerEach_cons, lowered, byteCount_append, tail]
      simp [byteCount, same]

theorem dropBytes_lowerEach {text : List Char} (keeps : ∀ c ∈ text, KeepsSize c) (count : Nat) :
    dropBytes count (lowerEach text) = lowerEach (dropBytes count text) := by
  induction text generalizing count with
  | nil => simp
  | cons c rest ih =>
      obtain ⟨d, lowered, same⟩ := keeps c List.mem_cons_self
      cases count with
      | zero => simp
      | succ count =>
          rw [lowerEach_cons, lowered, List.singleton_append, dropBytes, dropBytes, same]
          exact ih (fun e member => keeps e (List.mem_cons_of_mem _ member)) _

/-- The ends of a text and of its lower-case form go together where no character changes its
size. -/
theorem recentChars_lowerEach {text : List Char} (keeps : ∀ c ∈ text, KeepsSize c)
    (size : Nat) : recentChars size (lowerEach text) = lowerEach (recentChars size text) := by
  rw [recentChars, recentChars, byteCount_lowerEach keeps]
  exact dropBytes_lowerEach keeps _

end Text

end SerialDialogue
