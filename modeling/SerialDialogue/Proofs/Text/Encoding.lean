import Mathlib.Data.List.Forall2
import SerialDialogue.Proofs.Utf8

/-!
# Well-formed bytes

The decoder reads the bytes of a text as that text.  The bytes of a character fill one of the
shapes from end to end, and no other shape begins with the first of them, so that nothing is
taken for broken on the way.
-/

namespace SerialDialogue

namespace Utf8

/-! ## Shapes -/

/-- No byte is the first one of both shapes. -/
def apart : List ByteRange → List ByteRange → Bool
  | range :: _, other :: _ => range.high < other.low || other.high < range.low
  | _, _ => true

theorem eq_or_apart_of_mem_shapes :
    ∀ shape ∈ shapes, ∀ other ∈ shapes, shape = other ∨ apart shape other := by
  decide +kernel

theorem not_fits_of_apart {shape other : List ByteRange} (liesApart : apart shape other)
    {first : UInt8} {rest rest' : List UInt8} (nonempty : shape ≠ []) (nonempty' : other ≠ [])
    (fitting : fits shape (first :: rest)) : ¬ fits other (first :: rest') := by
  match shape, other, nonempty, nonempty' with
  | range :: ranges, range' :: ranges', _, _ =>
      intro fits'
      simp only [fits, ByteRange.contains, Bool.and_eq_true, decide_eq_true_eq,
        UInt8.le_iff_toNat_le] at fitting fits'
      simp only [apart, Bool.or_eq_true, decide_eq_true_eq, UInt8.lt_iff_toNat_lt] at liesApart
      omega

theorem ne_nil_of_mem_shapes : ∀ shape ∈ shapes, shape ≠ [] := by
  decide +kernel

/-- Bytes that fill the beginning of a shape fill that of no other one. -/
theorem find?_shapes {shape : List ByteRange} (member : shape ∈ shapes) {first : UInt8}
    {rest : List UInt8} (fitting : fits shape (first :: rest)) :
    shapes.find? (fits · (first :: rest)) = some shape := by
  cases found : shapes.find? (fits · (first :: rest)) with
  | none => exact absurd fitting (List.find?_eq_none.1 found shape member)
  | some other =>
      have member' := List.mem_of_find?_eq_some found
      have fits' : fits other (first :: rest) :=
        List.find?_some (p := (fits · (first :: rest))) found
      rcases eq_or_apart_of_mem_shapes shape member other member' with rfl | liesApart
      · rfl
      · exact absurd fits' (not_fits_of_apart liesApart (ne_nil_of_mem_shapes _ member)
          (ne_nil_of_mem_shapes _ member') fitting)

theorem classify_of_fits {shape : List ByteRange} (member : shape ∈ shapes) {bytes : List UInt8}
    (nonempty : bytes ≠ []) (fitting : fits shape bytes) :
    classify bytes =
      if bytes.length = shape.length then .complete (scalar bytes) else .incomplete := by
  cases bytes with
  | nil => exact absurd rfl nonempty
  | cons first rest => simp only [classify, find?_shapes member fitting]

theorem fits_of_append {shape : List ByteRange} {front bytes : List UInt8}
    (fitting : fits shape (front ++ bytes)) : fits shape front := by
  induction front generalizing shape with
  | nil => cases shape <;> rfl
  | cons first front ih =>
      cases shape with
      | nil => cases fitting
      | cons range ranges =>
          simp only [List.cons_append, fits, Bool.and_eq_true] at fitting ⊢
          exact ⟨fitting.1, ih fitting.2⟩

/-- Behind the first bytes of a shape the others complete it. -/
theorem foldl_push_of_fits {shape : List ByteRange} (member : shape ∈ shapes)
    {pending bytes : List UInt8} (nonempty : bytes ≠ [])
    (fitting : fits shape (pending ++ bytes))
    (fills : (pending ++ bytes).length = shape.length) :
    bytes.foldl Decoder.push ([], pending) = ([scalar (pending ++ bytes)], []) := by
  induction bytes generalizing pending with
  | nil => exact absurd rfl nonempty
  | cons byte rest ih =>
      rw [List.append_cons] at fitting fills ⊢
      have nonempty' : pending ++ [byte] ≠ [] := by simp
      have early := classify_of_fits member nonempty' (fits_of_append fitting)
      cases rest with
      | nil =>
          rw [List.append_nil] at fills ⊢
          rw [if_pos fills] at early
          simp [Decoder.push, Decoder.step, early]
      | cons next rest =>
          have short : (pending ++ [byte]).length ≠ shape.length := by
            simp only [List.length_append, List.length_cons] at fills ⊢
            omega
          rw [if_neg short] at early
          have pushed : Decoder.push ([], pending) byte = ([], pending ++ [byte]) := by
            simp [Decoder.push, Decoder.step, early]
          rw [List.foldl_cons, pushed]
          exact ih (by simp) fitting fills

/-! ## Characters -/

/-- The bytes fill a shape from end to end. -/
def Filled (bytes : List UInt8) : Prop :=
  ∃ shape ∈ shapes, fits shape bytes ∧ bytes.length = shape.length

theorem Filled.of_forall₂ (shape : List ByteRange) (member : shape ∈ shapes) {bytes : List UInt8}
    (within : List.Forall₂ (fun range byte => range.contains byte) shape bytes) :
    Filled bytes := by
  refine ⟨shape, member, ?_, within.length_eq.symm⟩
  clear member
  induction within with
  | nil => rfl
  | cons first _ ih => simp [fits, first, ih]

theorem contains_ofNat {low high : UInt8} {n : Nat} (above : low.toNat ≤ n)
    (below : n ≤ high.toNat) : (ByteRange.mk low high).contains (UInt8.ofNat n) := by
  have same : (UInt8.ofNat n).toNat = n :=
    UInt8.toNat_ofNat_of_lt' (Nat.lt_of_le_of_lt below high.toNat_lt)
  simp [ByteRange.contains, UInt8.le_iff_toNat_le, same, above, below]

theorem contains_continuation (n : Nat) :
    continuation.contains (UInt8.ofNat (n % 64 + 128)) :=
  contains_ofNat (by simp) (by simp; omega)

section Characters

variable {v : Nat}

theorem filled_two (above : 0x80 ≤ v) (below : v < 0x800) :
    Filled [UInt8.ofNat (v / 64 % 32 + 192), UInt8.ofNat (v % 64 + 128)] :=
  .of_forall₂ [⟨0xC2, 0xDF⟩, continuation] (by decide) <|
    .cons (contains_ofNat (by simp; omega) (by simp; omega)) <|
    .cons (contains_continuation v) .nil

/-- The bytes of a character above `0x7FF`; the surrogates are none. -/
theorem filled_three (above : 0x800 ≤ v) (below : v < 0x10000)
    (valid : v < 0xD800 ∨ 0xDFFF < v) :
    Filled [UInt8.ofNat (v / 4096 % 16 + 224), UInt8.ofNat (v / 64 % 64 + 128),
      UInt8.ofNat (v % 64 + 128)] := by
  have filled (first second : ByteRange) (member : [first, second, continuation] ∈ shapes)
      (within : first.contains (UInt8.ofNat (v / 4096 % 16 + 224)))
      (within' : second.contains (UInt8.ofNat (v / 64 % 64 + 128))) :=
    Filled.of_forall₂ _ member (.cons within (.cons within' (.cons (contains_continuation v) .nil)))
  have rows : v < 0x1000 ∨ (0x1000 ≤ v ∧ v < 0xD000) ∨ (0xD000 ≤ v ∧ v < 0xD800) ∨ 0xE000 ≤ v := by
    omega
  rcases rows with first | middle | last | behind
  · exact filled ⟨0xE0, 0xE0⟩ ⟨0xA0, 0xBF⟩ (by decide)
      (contains_ofNat (by simp) (by simp; omega)) (contains_ofNat (by simp; omega) (by simp; omega))
  · exact filled ⟨0xE1, 0xEC⟩ continuation (by decide)
      (contains_ofNat (by simp; omega) (by simp; omega)) (contains_continuation (v / 64))
  · exact filled ⟨0xED, 0xED⟩ ⟨0x80, 0x9F⟩ (by decide)
      (contains_ofNat (by simp; omega) (by simp; omega)) (contains_ofNat (by simp) (by simp; omega))
  · exact filled ⟨0xEE, 0xEF⟩ continuation (by decide)
      (contains_ofNat (by simp; omega) (by simp; omega)) (contains_continuation (v / 64))

theorem filled_four (above : 0x10000 ≤ v) (below : v < 0x110000) :
    Filled [UInt8.ofNat (v / 262144 % 8 + 240), UInt8.ofNat (v / 4096 % 64 + 128),
      UInt8.ofNat (v / 64 % 64 + 128), UInt8.ofNat (v % 64 + 128)] := by
  have filled (first second : ByteRange)
      (member : [first, second, continuation, continuation] ∈ shapes)
      (within : first.contains (UInt8.ofNat (v / 262144 % 8 + 240)))
      (within' : second.contains (UInt8.ofNat (v / 4096 % 64 + 128))) :=
    Filled.of_forall₂ _ member <| .cons within <| .cons within' <|
      .cons (contains_continuation (v / 64)) <| .cons (contains_continuation v) .nil
  have rows : v < 0x40000 ∨ (0x40000 ≤ v ∧ v < 0x100000) ∨ 0x100000 ≤ v := by omega
  rcases rows with first | middle | last
  · exact filled ⟨0xF0, 0xF0⟩ ⟨0x90, 0xBF⟩ (by decide)
      (contains_ofNat (by simp) (by simp; omega)) (contains_ofNat (by simp; omega) (by simp; omega))
  · exact filled ⟨0xF1, 0xF3⟩ continuation (by decide)
      (contains_ofNat (by simp; omega) (by simp; omega)) (contains_continuation (v / 4096))
  · exact filled ⟨0xF4, 0xF4⟩ ⟨0x80, 0x8F⟩ (by decide)
      (contains_ofNat (by simp; omega) (by simp; omega)) (contains_ofNat (by simp) (by simp; omega))

end Characters

theorem filled_utf8EncodeChar (c : Char) : Filled (String.utf8EncodeChar c) := by
  have valid : c.val.toNat < 0xD800 ∨ 0xDFFF < c.val.toNat ∧ c.val.toNat < 0x110000 := c.valid
  fun_cases String.utf8EncodeChar c with
  | case1 v one =>
      exact .of_forall₂ [⟨0x00, 0x7F⟩] (by decide) (.cons (contains_ofNat (Nat.zero_le v) one) .nil)
  | case2 v beyond two => exact filled_two (by omega) (by omega)
  | case3 v beyond beyond' three => exact filled_three (by omega) (by omega) (by omega)
  | case4 v beyond beyond' beyond'' => exact filled_four (by omega) (by omega)

theorem toNat_ofNat_add {n base : Nat} (small : n + base < 256) :
    (UInt8.ofNat (n + base)).toNat = n + base :=
  UInt8.toNat_ofNat_of_lt' small

theorem scalar_utf8EncodeChar (c : Char) : scalar (String.utf8EncodeChar c) = c := by
  have valid : c.val.toNat < 0xD800 ∨ 0xDFFF < c.val.toNat ∧ c.val.toNat < 0x110000 := c.valid
  suffices ∃ n, scalar (String.utf8EncodeChar c) = Char.ofNat n ∧ n = c.val.toNat by
    obtain ⟨n, same, value⟩ := this
    rw [same, value]
    exact Char.ofNat_toNat c
  fun_cases String.utf8EncodeChar c with
  | case1 v one =>
      exact ⟨_, rfl, UInt8.toNat_ofNat_of_lt' (Nat.lt_of_le_of_lt one (by decide))⟩
  | case2 v beyond two =>
      refine ⟨_, rfl, ?_⟩
      simp only [List.foldl, List.length_cons, List.length_nil]
      rw [toNat_ofNat_add (by omega), toNat_ofNat_add (by omega)]
      omega
  | case3 v beyond beyond' three =>
      refine ⟨_, rfl, ?_⟩
      simp only [List.foldl, List.length_cons, List.length_nil]
      rw [toNat_ofNat_add (by omega), toNat_ofNat_add (by omega), toNat_ofNat_add (by omega)]
      omega
  | case4 v beyond beyond' beyond'' =>
      refine ⟨_, rfl, ?_⟩
      simp only [List.foldl, List.length_cons, List.length_nil]
      rw [toNat_ofNat_add (by omega), toNat_ofNat_add (by omega), toNat_ofNat_add (by omega),
        toNat_ofNat_add (by omega)]
      omega

namespace Decoder

theorem feed_of_filled {bytes : List UInt8} (filled : Filled bytes) :
    feed {} bytes = ([scalar bytes], {}) := by
  obtain ⟨shape, member, fitting, fills⟩ := filled
  have nonempty : bytes ≠ [] := by
    rintro rfl
    exact ne_nil_of_mem_shapes shape member (List.length_eq_zero_iff.1 fills.symm)
  have folded : bytes.foldl push ([], []) = ([scalar bytes], []) :=
    foldl_push_of_fits member nonempty fitting fills
  rw [feed, folded]
  rfl

/-- The bytes of a text are read as the text, and nothing stays pending. -/
theorem feed_flatMap_utf8EncodeChar (text : List Char) :
    feed {} (text.flatMap String.utf8EncodeChar) = (text, {}) := by
  induction text with
  | nil => rfl
  | cons c rest ih =>
      rw [List.flatMap_cons, feed_append, feed_of_filled (filled_utf8EncodeChar c), ih,
        scalar_utf8EncodeChar]
      rfl

end Decoder

theorem toList_data_toUTF8 (s : String) :
    s.toUTF8.data.toList = s.toList.flatMap String.utf8EncodeChar := by
  rw [String.toUTF8, ← String.utf8Encode_toList, List.utf8Encode]
  exact List.toList_data_toByteArray

end Utf8

end SerialDialogue
