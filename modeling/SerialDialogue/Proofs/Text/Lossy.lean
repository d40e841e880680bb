import SerialDialogue.Proofs.Text.Encoding

/-!
# Lossy decoding

What decoding with replacement is can be told by the bytes of the characters alone: where a
character stands it is read, and where none stands one U+FFFD is read for the longest run of
bytes with which a character could begin, or for one byte if there is no such run.  `Lossy` says
so, it leaves no choice (`Lossy.unique`), and `decodeLossy` keeps to it (`lossy_decodeLossy`).
-/

namespace SerialDialogue

namespace Utf8

/-- The bytes are the first ones of some character. -/
def Begins (bytes : List UInt8) : Prop :=
  ∃ c, bytes <+: String.utf8EncodeChar c

/-- The bytes are the first ones of some character, but not all of them. -/
def Incomplete (bytes : List UInt8) : Prop :=
  ∃ c, bytes <+: String.utf8EncodeChar c ∧ bytes ≠ String.utf8EncodeChar c

/-- Where no character stands in front of the bytes, this is the part of them that is replaced
as one. -/
structure MaximalPart (part rest : List UInt8) : Prop where
  nonempty : part ≠ []
  invalid : ∀ c, ¬ String.utf8EncodeChar c <+: part ++ rest
  begins : Begins part ∨ part.length = 1
  longest : ∀ longer, longer <+: part ++ rest → Begins longer → longer.length ≤ part.length

/-- The text is what the bytes stand for, with one U+FFFD for each maximal invalid part. -/
inductive Lossy : List UInt8 → List Char → Prop
  | nil : Lossy [] []
  | char (c : Char) {rest : List UInt8} {text : List Char} :
      Lossy rest text → Lossy (String.utf8EncodeChar c ++ rest) (c :: text)
  | invalid {part rest : List UInt8} {text : List Char} :
      MaximalPart part rest → Lossy rest text → Lossy (part ++ rest) (replacement :: text)

theorem Incomplete.begins {bytes : List UInt8} (incomplete : Incomplete bytes) : Begins bytes :=
  incomplete.imp fun _ first => first.1

theorem Begins.of_prefix {bytes longer : List UInt8} (begins : Begins longer)
    (early : bytes <+: longer) : Begins bytes :=
  begins.imp fun _ first => early.trans first

theorem Incomplete.of_prefix {bytes longer : List UInt8} (incomplete : Incomplete longer)
    (early : bytes <+: longer) : Incomplete bytes := by
  obtain ⟨c, first, proper⟩ := incomplete
  refine ⟨c, early.trans first, fun whole => proper ?_⟩
  exact first.eq_of_length_le (whole ▸ early.length_le)

theorem incomplete_nil : Incomplete [] :=
  ⟨'a', List.nil_prefix, String.utf8EncodeChar_ne_nil.symm⟩

theorem Incomplete.length_le {bytes : List UInt8} (incomplete : Incomplete bytes) :
    bytes.length ≤ 3 := by
  obtain ⟨c, first, proper⟩ := incomplete
  have shorter : bytes.length < (String.utf8EncodeChar c).length :=
    Nat.lt_of_le_of_ne first.length_le fun same => proper (first.eq_of_length same)
  have width := c.utf8Size_le_four
  rw [String.length_utf8EncodeChar] at shorter
  omega

/-! ## Full shapes are characters -/

section Characters

variable {a b c d : UInt8}

theorem toNat_ofNat {v : Nat} (valid : v.isValidChar) : (Char.ofNat v).val.toNat = v := by
  rw [Char.ofNat, dif_pos valid]
  rfl

theorem ofNat_eq {n : Nat} (same : n = a.toNat) : UInt8.ofNat n = a := by
  rw [same, UInt8.ofNat_toNat]

theorem utf8EncodeChar_scalar_one (a' : a.toNat ≤ 0x7F) :
    String.utf8EncodeChar (scalar [a]) = [a] := by
  have value : (Char.ofNat a.toNat).val.toNat = a.toNat :=
    toNat_ofNat (.inl (by omega))
  simp only [scalar, List.length_nil, List.foldl_nil, String.utf8EncodeChar, value]
  rw [if_pos a', UInt8.ofNat_toNat]

theorem utf8EncodeChar_scalar_two (a' : 0xC2 ≤ a.toNat ∧ a.toNat ≤ 0xDF)
    (b' : 0x80 ≤ b.toNat ∧ b.toNat ≤ 0xBF) :
    String.utf8EncodeChar (scalar [a, b]) = [a, b] := by
  have value := @toNat_ofNat (a.toNat % 32 * 64 + b.toNat % 64) (.inl (by omega))
  simp only [scalar, List.length_cons, List.length_nil, List.foldl, String.utf8EncodeChar, value]
  rw [if_neg (by omega), if_pos (by omega), ofNat_eq (a := a) (by omega),
    ofNat_eq (a := b) (by omega)]

/-- The second byte keeps clear of what has a shorter form and of the surrogates. -/
theorem utf8EncodeChar_scalar_three (a' : 0xE0 ≤ a.toNat ∧ a.toNat ≤ 0xEF)
    (b' : 0x80 ≤ b.toNat ∧ b.toNat ≤ 0xBF) (c' : 0x80 ≤ c.toNat ∧ c.toNat ≤ 0xBF)
    (long : a.toNat = 0xE0 → 0xA0 ≤ b.toNat) (valid : a.toNat = 0xED → b.toNat ≤ 0x9F) :
    String.utf8EncodeChar (scalar [a, b, c]) = [a, b, c] := by
  have value := @toNat_ofNat ((a.toNat % 16 * 64 + b.toNat % 64) * 64 + c.toNat % 64)
    (by simp only [Nat.isValidChar]; omega)
  simp only [scalar, List.length_cons, List.length_nil, List.foldl, String.utf8EncodeChar, value]
  rw [if_neg (by omega), if_neg (by omega), if_pos (by omega), ofNat_eq (a := a) (by omega),
    ofNat_eq (a := b) (by omega), ofNat_eq (a := c) (by omega)]

/-- The second byte keeps clear of what has a shorter form and of what is no character. -/
theorem utf8EncodeChar_scalar_four (a' : 0xF0 ≤ a.toNat ∧ a.toNat ≤ 0xF4)
    (b' : 0x80 ≤ b.toNat ∧ b.toNat ≤ 0xBF) (c' : 0x80 ≤ c.toNat ∧ c.toNat ≤ 0xBF)
    (d' : 0x80 ≤ d.toNat ∧ d.toNat ≤ 0xBF) (long : a.toNat = 0xF0 → 0x90 ≤ b.toNat)
    (valid : a.toNat = 0xF4 → b.toNat ≤ 0x8F) :
    String.utf8EncodeChar (scalar [a, b, c, d]) = [a, b, c, d] := by
  have value := @toNat_ofNat
    (((a.toNat % 8 * 64 + b.toNat % 64) * 64 + c.toNat % 64) * 64 + d.toNat % 64)
    (by simp only [Nat.isValidChar]; omega)
  simp only [scalar, List.length_cons, List.length_nil, List.foldl, String.utf8EncodeChar, value]
  rw [if_neg (by omega), if_neg (by omega), if_neg (by omega), ofNat_eq (a := a) (by omega),
    ofNat_eq (a := b) (by omega), ofNat_eq (a := c) (by omega), ofNat_eq (a := d) (by omega)]

end Characters

theorem forall₂_of_fits {shape : List ByteRange} {bytes : List UInt8} (fitting : fits shape bytes)
    (fills : bytes.length = shape.length) :
    List.Forall₂ (fun range byte => range.low.toNat ≤ byte.toNat ∧ byte.toNat ≤ range.high.toNat)
      shape bytes := by
  induction shape generalizing bytes with
  | nil =>
      rw [List.length_eq_zero_iff.1 fills]
      exact .nil
  | cons range ranges ih =>
      cases bytes with
      | nil => cases fills
      | cons byte bytes =>
          simp only [fits, ByteRange.contains, Bool.and_eq_true, decide_eq_true_eq,
            UInt8.le_iff_toNat_le] at fitting
          exact .cons fitting.1 (ih fitting.2 (Nat.succ.inj fills))

/-- Bytes that fill a shape are those of the character that they are read as. -/
theorem utf8EncodeChar_scalar {bytes : List UInt8} (filled : Filled bytes) :
    String.utf8EncodeChar (scalar bytes) = bytes := by
  obtain ⟨shape, member, fitting, fills⟩ := filled
  have within := forall₂_of_fits fitting fills
  simp only [shapes, List.mem_cons, List.not_mem_nil, or_false] at member
  rcases member with rfl | rfl | rfl | rfl | rfl | rfl | rfl | rfl | rfl
  · obtain _ | ⟨a', _ | _⟩ := within
    exact utf8EncodeChar_scalar_one a'.2
  · obtain _ | ⟨a', _ | ⟨b', _ | _⟩⟩ := within
    exact utf8EncodeChar_scalar_two a' b'
  -- Four shapes of three bytes, and then three of four bytes.
  iterate 4
    · obtain _ | ⟨a', _ | ⟨b', _ | ⟨c', _ | _⟩⟩⟩ := within
      simp only [continuation, UInt8.reduceToNat] at a' b' c'
      exact utf8EncodeChar_scalar_three (by omega) (by omega) c' (by omega) (by omega)
  iterate 3
    · obtain _ | ⟨a', _ | ⟨b', _ | ⟨c', _ | ⟨d', _ | _⟩⟩⟩⟩ := within
      simp only [continuation, UInt8.reduceToNat] at a' b' c' d'
      exact utf8EncodeChar_scalar_four (by omega) (by omega) c' d' (by omega) (by omega)

/-! ## Shapes and the bytes that begin characters -/

theorem low_le_high_of_mem_shapes :
    ∀ shape ∈ shapes, ∀ range ∈ shape, range.low ≤ range.high := by
  decide +kernel

theorem exists_fits_append {shape : List ByteRange} (bounded : ∀ range ∈ shape,
    range.low ≤ range.high) {bytes : List UInt8} (fitting : fits shape bytes) :
    ∃ more, fits shape (bytes ++ more) ∧ (bytes ++ more).length = shape.length := by
  induction shape generalizing bytes with
  | nil =>
      cases bytes with
      | nil => exact ⟨[], rfl, rfl⟩
      | cons byte bytes => cases fitting
  | cons range ranges ih =>
      have bounded' : ∀ range ∈ ranges, range.low ≤ range.high :=
        fun other member => bounded other (List.mem_cons_of_mem range member)
      cases bytes with
      | nil =>
          obtain ⟨more, fitting, fills⟩ := ih bounded' (fits.eq_1 ranges)
          refine ⟨range.low :: more, ?_, congrArg (· + 1) fills⟩
          have least : range.contains range.low := by
            simp [ByteRange.contains, bounded range List.mem_cons_self]
          simpa [fits, least] using fitting
      | cons byte bytes =>
          simp only [fits, Bool.and_eq_true] at fitting
          obtain ⟨more, fits', fills⟩ := ih bounded' fitting.2
          exact ⟨more, by simpa [fits, fitting.1] using fits', congrArg (· + 1) fills⟩

/-- The bytes of a character are first bytes of a shape, and the other way round. -/
theorem begins_iff_exists_fits {bytes : List UInt8} :
    Begins bytes ↔ ∃ shape ∈ shapes, fits shape bytes := by
  constructor
  · rintro ⟨c, more, whole⟩
    obtain ⟨shape, member, fitting, -⟩ := filled_utf8EncodeChar c
    rw [← whole] at fitting
    exact ⟨shape, member, fits_of_append fitting⟩
  · rintro ⟨shape, member, fitting⟩
    obtain ⟨more, fits', fills⟩ :=
      exists_fits_append (low_le_high_of_mem_shapes shape member) fitting
    refine ⟨scalar (bytes ++ more), more, ?_⟩
    exact (utf8EncodeChar_scalar ⟨shape, member, fits', fills⟩).symm

theorem classify_of_not_begins {bytes : List UInt8} (broken : ¬ Begins bytes) :
    classify bytes = .broken := by
  have noneFits : shapes.find? (fits · bytes) = none := by
    rw [List.find?_eq_none]
    exact fun shape member fitting => broken (begins_iff_exists_fits.2 ⟨shape, member, fitting⟩)
  simp only [classify, noneFits]

theorem classify_of_incomplete {bytes : List UInt8} (nonempty : bytes ≠ [])
    (incomplete : Incomplete bytes) : classify bytes = .incomplete := by
  obtain ⟨c, first, proper⟩ := incomplete
  obtain ⟨shape, member, fitting, fills⟩ := filled_utf8EncodeChar c
  have shorter : bytes.length ≠ shape.length := by
    rw [← fills]
    exact fun same => proper (first.eq_of_length same)
  obtain ⟨more, whole⟩ := first
  rw [← whole] at fitting
  rw [classify_of_fits member nonempty (fits_of_append fitting), if_neg shorter]

/-! ## The first character of a sequence -/

theorem matched_le (ranges : List ByteRange) (bytes : List UInt8) :
    matched ranges bytes ≤ ranges.length ∧ matched ranges bytes ≤ bytes.length := by
  induction ranges generalizing bytes with
  | nil => simp [matched]
  | cons range ranges ih =>
      cases bytes with
      | nil => simp [matched]
      | cons byte bytes =>
          unfold matched
          split
          · exact ⟨Nat.succ_le_succ (ih bytes).1, Nat.succ_le_succ (ih bytes).2⟩
          · exact ⟨Nat.zero_le _, Nat.zero_le _⟩

theorem fits_take_matched (ranges : List ByteRange) (bytes : List UInt8) :
    fits ranges (bytes.take (matched ranges bytes)) := by
  induction ranges generalizing bytes with
  | nil => simp [matched, fits]
  | cons range ranges ih =>
      cases bytes with
      | nil => rfl
      | cons byte bytes =>
          unfold matched
          split
          · rename_i within
            simpa [fits, within] using ih bytes
          · rfl

theorem length_le_matched {ranges : List ByteRange} {more bytes : List UInt8}
    (fitting : fits ranges more) (early : more <+: bytes) : more.length ≤ matched ranges bytes := by
  induction more generalizing ranges bytes with
  | nil => exact Nat.zero_le _
  | cons byte more ih =>
      cases ranges with
      | nil => cases fitting
      | cons range ranges =>
          obtain ⟨behind, rfl⟩ := early
          simp only [fits, Bool.and_eq_true] at fitting
          rw [List.cons_append, matched, if_pos fitting.1]
          exact Nat.succ_le_succ (ih fitting.2 (List.prefix_append more behind))

theorem maximalPart_singleton {first : UInt8} (broken : ¬ Begins [first]) (rest : List UInt8) :
    MaximalPart [first] rest where
  nonempty := List.cons_ne_nil first []
  invalid c early := by
    refine broken ⟨c, ?_⟩
    have atLeastOne : [first].length ≤ (String.utf8EncodeChar c).length :=
      List.length_pos_iff.2 String.utf8EncodeChar_ne_nil
    exact List.prefix_of_prefix_length_le (List.prefix_append [first] rest) early atLeastOne
  begins := .inr rfl
  longest longer early begins := by
    cases longer with
    | nil => exact Nat.zero_le 1
    | cons other more =>
        obtain ⟨rfl, -⟩ := List.cons_prefix_cons.1 early
        exact absurd (begins.of_prefix (List.prefix_append [other] more)) broken

theorem fits_cons_take_matched {range : ByteRange} {ranges : List ByteRange} {first : UInt8}
    (fitting : fits (range :: ranges) [first]) (rest : List UInt8) :
    fits (range :: ranges) (first :: rest.take (matched ranges rest)) := by
  simp only [fits, Bool.and_eq_true] at fitting ⊢
  exact ⟨fitting.1, fits_take_matched ranges rest⟩

section Shape

variable {range : ByteRange} {ranges : List ByteRange} (member : range :: ranges ∈ shapes)
  {first : UInt8} (fitting : fits (range :: ranges) [first])

include member fitting

/-- A shape that begins with a byte begins with all that can stand behind that byte. -/
theorem eq_of_fits {shape : List ByteRange} (member' : shape ∈ shapes) {more : List UInt8}
    (fits' : fits shape (first :: more)) : shape = range :: ranges := by
  have early : fits shape [first] := @fits_of_append shape [first] more fits'
  exact Option.some.inj ((find?_shapes member' early).symm.trans (find?_shapes member fitting))

theorem fits_of_begins {more : List UInt8} (begins : Begins (first :: more)) :
    fits ranges more := by
  obtain ⟨shape, member', fits'⟩ := begins_iff_exists_fits.1 begins
  obtain rfl := eq_of_fits member fitting member' fits'
  simp only [fits, Bool.and_eq_true] at fits'
  exact fits'.2

theorem length_le_of_begins {more rest : List UInt8} (begins : Begins (first :: more))
    (early : more <+: rest) : more.length ≤ matched ranges rest :=
  length_le_matched (fits_of_begins member fitting begins) early

/-- A character that stands in front has all bytes of the shape. -/
theorem matched_of_early {rest : List UInt8} {c : Char}
    (early : String.utf8EncodeChar c <+: first :: rest) :
    matched ranges rest = ranges.length := by
  obtain ⟨shape, member', fits', fills⟩ := filled_utf8EncodeChar c
  cases bytes : String.utf8EncodeChar c with
  | nil => exact absurd bytes String.utf8EncodeChar_ne_nil
  | cons other more =>
      rw [bytes] at early fits' fills
      obtain ⟨rfl, within⟩ := List.cons_prefix_cons.1 early
      obtain rfl := eq_of_fits member fitting member' fits'
      have begins : Begins (other :: more) := ⟨c, bytes ▸ List.prefix_rfl⟩
      have enough := length_le_of_begins member fitting begins within
      have most := (matched_le ranges rest).1
      simp only [List.length_cons] at fills
      omega

/-- When the bytes of a shape are not complete, those that are there are one invalid part. -/
theorem maximalPart_of_short {rest : List UInt8} (short : matched ranges rest ≠ ranges.length) :
    MaximalPart (first :: rest.take (matched ranges rest)) (rest.drop (matched ranges rest)) where
  nonempty := List.cons_ne_nil _ _
  invalid c early := by
    rw [List.cons_append, List.take_append_drop] at early
    exact short (matched_of_early member fitting early)
  begins := .inl (begins_iff_exists_fits.2
    ⟨_, member, fits_cons_take_matched fitting rest⟩)
  longest longer early begins := by
    rw [List.cons_append, List.take_append_drop] at early
    cases longer with
    | nil => exact Nat.zero_le _
    | cons other more =>
        obtain ⟨rfl, within⟩ := List.cons_prefix_cons.1 early
        have fewer := length_le_of_begins member fitting begins within
        have present := within.length_le
        simp only [List.length_cons, List.length_take]
        omega

end Shape

/-- What is read first is a character that stands in front, or it replaces the maximal invalid
part there. -/
theorem leading_cut (first : UInt8) (rest : List UInt8) :
    let unit := leading first rest
    let part := first :: rest.take unit.2
    part = String.utf8EncodeChar unit.1 ∨
      unit.1 = replacement ∧ MaximalPart part (rest.drop unit.2) := by
  cases found : shapes.find? (fits · [first]) with
  | none =>
      have read : leading first rest = (replacement, 0) := by simp only [leading, found]
      rw [read]
      refine .inr ⟨rfl, maximalPart_singleton (fun begins => ?_) rest⟩
      obtain ⟨shape, member, fitting⟩ := begins_iff_exists_fits.1 begins
      exact List.find?_eq_none.1 found shape member fitting
  | some shape =>
      have member := List.mem_of_find?_eq_some found
      have fitting : fits shape [first] := List.find?_some (p := (fits · [first])) found
      cases shape with
      | nil => cases fitting
      | cons range ranges =>
          let count := matched ranges rest
          by_cases enough : count = ranges.length
          · have read : leading first rest = (scalar (first :: rest.take count), count) := by
              simp only [leading, found]
              exact if_pos enough
            rw [read]
            have present : count ≤ rest.length := (matched_le ranges rest).2
            have fills : (first :: rest.take count).length = (range :: ranges).length := by
              simp only [List.length_cons, List.length_take]
              omega
            have filled : Filled (first :: rest.take count) :=
              ⟨_, member, fits_cons_take_matched fitting rest, fills⟩
            exact .inl (utf8EncodeChar_scalar filled).symm
          · have read : leading first rest = (replacement, count) := by
              simp only [leading, found]
              exact if_neg enough
            rw [read]
            exact .inr ⟨rfl, maximalPart_of_short member fitting enough⟩

/-! ## Whole sequences -/

theorem decodeBehind_eq (done : List Char) (bytes : List UInt8) :
    decodeBehind done bytes = done.reverse ++ decodeLossy bytes := by
  induction length : bytes.length using Nat.strongRecOn generalizing done bytes with
  | ind count ih =>
      unfold decodeLossy
      cases bytes with
      | nil => simp [decodeBehind]
      | cons first rest =>
          have shorter : (rest.drop (leading first rest).2).length < count := by
            rw [← length, List.length_drop, List.length_cons]
            omega
          rw [decodeBehind, decodeBehind, ih _ shorter _ _ rfl, ih _ shorter [_] _ rfl]
          simp

theorem decodeLossy_cons (first : UInt8) (rest : List UInt8) :
    decodeLossy (first :: rest) =
      (leading first rest).1 :: decodeLossy (rest.drop (leading first rest).2) := by
  rw [decodeLossy, decodeBehind, decodeBehind_eq]
  rfl

/-- What is read of a whole sequence is what it stands for. -/
theorem lossy_decodeLossy (bytes : List UInt8) : Lossy bytes (decodeLossy bytes) := by
  induction length : bytes.length using Nat.strongRecOn generalizing bytes with
  | ind count ih =>
      cases bytes with
      | nil =>
          rw [decodeLossy, decodeBehind]
          exact .nil
      | cons first rest =>
          have shorter : (rest.drop (leading first rest).2).length < count := by
            rw [← length, List.length_drop, List.length_cons]
            omega
          have later := ih _ shorter _ rfl
          have whole : first :: rest = (first :: rest.take (leading first rest).2) ++
              rest.drop (leading first rest).2 := by
            rw [List.cons_append, List.take_append_drop]
          rw [decodeLossy_cons]
          rcases leading_cut first rest with character | ⟨replaced, part⟩
          · rw [whole, character]
            exact .char _ later
          · rw [whole, replaced]
            exact .invalid part later

theorem eq_of_utf8EncodeChar_append_eq {c d : Char} {rest rest' : List UInt8}
    (same : String.utf8EncodeChar c ++ rest = String.utf8EncodeChar d ++ rest') :
    c = d ∧ rest = rest' := by
  have read (c : Char) (rest : List UInt8) :
      ((Decoder.feed {} (String.utf8EncodeChar c ++ rest)).1).head? = some c := by
    rw [Decoder.feed_append, Decoder.feed_of_filled (filled_utf8EncodeChar c),
      scalar_utf8EncodeChar]
    rfl
  obtain rfl : c = d := by
    rw [← Option.some_inj, ← read c rest, ← read d rest', same]
  exact ⟨rfl, List.append_cancel_left same⟩

/-- The maximal invalid part in front is as long as it can be, so there is only one. -/
theorem MaximalPart.length_le {part rest part' rest' : List UInt8} (maximal : MaximalPart part rest)
    (maximal' : MaximalPart part' rest') (same : part ++ rest = part' ++ rest') :
    part.length ≤ part'.length := by
  rcases maximal.begins with begins | single
  · exact maximal'.longest part (same ▸ List.prefix_append part rest) begins
  · rw [single]
    exact List.length_pos_iff.2 maximal'.nonempty

theorem Lossy.unique {bytes : List UInt8} {text text' : List Char} (lossy : Lossy bytes text)
    (lossy' : Lossy bytes text') : text = text' := by
  induction lossy generalizing text' with
  | nil =>
      generalize whole : ([] : List UInt8) = bytes at lossy'
      cases lossy' with
      | nil => rfl
      | char c _ =>
          exact absurd (List.append_eq_nil_iff.1 whole.symm).1 String.utf8EncodeChar_ne_nil
      | invalid maximal _ =>
          exact absurd (List.append_eq_nil_iff.1 whole.symm).1 maximal.nonempty
  | @char c rest text later ih =>
      generalize whole : String.utf8EncodeChar c ++ rest = bytes at lossy'
      cases lossy' with
      | nil => exact absurd (List.append_eq_nil_iff.1 whole).1 String.utf8EncodeChar_ne_nil
      | char d later' =>
          obtain ⟨rfl, rfl⟩ := eq_of_utf8EncodeChar_append_eq whole
          rw [ih later']
      | invalid maximal _ =>
          exact absurd (whole ▸ List.prefix_append _ rest) (maximal.invalid c)
  | @invalid part rest text maximal later ih =>
      generalize whole : part ++ rest = bytes at lossy'
      cases lossy' with
      | nil => exact absurd (List.append_eq_nil_iff.1 whole).1 maximal.nonempty
      | @char d rest' _ _ =>
          exact absurd (whole.symm ▸ List.prefix_append _ rest') (maximal.invalid d)
      | invalid maximal' later' =>
          have width := Nat.le_antisymm (maximal.length_le maximal' whole)
            (maximal'.length_le maximal whole.symm)
          obtain ⟨-, rfl⟩ := List.append_inj whole width
          rw [ih later']

theorem lossy_iff {bytes : List UInt8} {text : List Char} :
    Lossy bytes text ↔ text = decodeLossy bytes :=
  ⟨fun lossy => lossy.unique (lossy_decodeLossy bytes), fun same => same ▸ lossy_decodeLossy bytes⟩

end Utf8

end SerialDialogue
