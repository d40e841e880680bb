import SerialDialogue.Proofs.Pattern
import SerialDialogue.Proofs.Text.Encoding

/-!
# The bytes of framed texts

A text is framed by ASCII characters, each of which is a single byte, and no other character has a
byte of ASCII.  So the framing of a text is read off its first and its last byte, and what is
between these two bytes is a text again: a framed text that is cut behind its first byte and in
front of its last one is not cut inside a character.
-/

namespace SerialDialogue

namespace Utf8

open String (utf8EncodeChar)

variable {c : Char}

theorem utf8EncodeChar_of_ascii (ascii : c.toNat < 0x80) :
    utf8EncodeChar c = [UInt8.ofNat c.toNat] := by
  simp [utf8EncodeChar, Nat.le_of_lt_succ ascii]

/-- The bytes of a character that is not ASCII are several, and none of them is ASCII. -/
theorem utf8EncodeChar_of_not_ascii (other : ¬ c.toNat < 0x80) :
    2 ≤ (utf8EncodeChar c).length ∧ ∀ byte ∈ utf8EncodeChar c, ¬ byte < 0x80 := by
  have high {n : Nat} (above : 0x80 ≤ n) (below : n < 256) : ¬ UInt8.ofNat n < 0x80 := by
    rw [UInt8.lt_iff_toNat_lt, UInt8.toNat_ofNat_of_lt' below]
    exact Nat.not_lt.2 above
  have value : c.toNat = c.val.toNat := rfl
  fun_cases utf8EncodeChar c with
  | case1 v one => omega
  | case2 v beyond two =>
      refine ⟨by simp, ?_⟩
      simp only [List.forall_mem_cons]
      exact ⟨high (by omega) (by omega), high (by omega) (by omega), List.forall_mem_nil _⟩
  | case3 v beyond beyond' three =>
      refine ⟨by simp, ?_⟩
      simp only [List.forall_mem_cons]
      exact ⟨high (by omega) (by omega), high (by omega) (by omega), high (by omega) (by omega),
        List.forall_mem_nil _⟩
  | case4 v beyond beyond' beyond'' =>
      refine ⟨by simp, ?_⟩
      simp only [List.forall_mem_cons]
      exact ⟨high (by omega) (by omega), high (by omega) (by omega), high (by omega) (by omega),
        high (by omega) (by omega), List.forall_mem_nil _⟩

/-- A byte of a character is ASCII just in case the character is, and then it is the character. -/
theorem lt_iff_of_mem_utf8EncodeChar {byte : UInt8} (inside : byte ∈ utf8EncodeChar c) :
    (byte < 0x80 ↔ c.toNat < 0x80) ∧ (c.toNat < 0x80 → Char.ofUInt8 byte = c) := by
  by_cases ascii : c.toNat < 0x80
  · rw [utf8EncodeChar_of_ascii ascii, List.mem_singleton] at inside
    have value : byte.toNat = c.toNat := by
      rw [inside, UInt8.toNat_ofNat_of_lt' (Nat.lt_trans ascii (by decide))]
    refine ⟨iff_of_true ?_ ascii, fun _ => Char.toNat_inj.1 ?_⟩
    · rw [UInt8.lt_iff_toNat_lt, value]
      exact ascii
    · exact value
  · exact ⟨iff_of_false ((utf8EncodeChar_of_not_ascii ascii).2 byte inside) ascii,
      fun ascii' => absurd ascii' ascii⟩

end Utf8

namespace Text

open Utf8

/-- The bytes of a text of several characters are several.  They begin with a byte of the first
character and end with one of the last. -/
theorem exists_ends (first last : Char) (inner : List Char) :
    let bytes := (first :: (inner ++ [last])).flatMap String.utf8EncodeChar
    2 ≤ bytes.length ∧
      (∃ byte ∈ String.utf8EncodeChar first, bytes.head? = some byte) ∧
      ∃ byte ∈ String.utf8EncodeChar last, bytes.getLast? = some byte := by
  intro bytes
  have nonempty : String.utf8EncodeChar first ≠ [] := String.utf8EncodeChar_ne_nil
  have nonempty' : String.utf8EncodeChar last ≠ [] := String.utf8EncodeChar_ne_nil
  have whole : bytes = String.utf8EncodeChar first ++
      (inner.flatMap String.utf8EncodeChar ++ String.utf8EncodeChar last) := by
    simp [bytes]
  refine ⟨?_, ⟨_, List.head_mem nonempty, ?_⟩, _, List.getLast_mem nonempty', ?_⟩
  · have := List.length_pos_iff.2 nonempty
    have := List.length_pos_iff.2 nonempty'
    rw [whole, List.length_append, List.length_append]
    omega
  · rw [whole, List.head?_append_of_ne_nil _ nonempty, List.head?_eq_some_head]
  · rw [whole, ← List.append_assoc, List.getLast?_append_of_ne_nil _ nonempty',
      List.getLast?_eq_some_getLast]

theorem extract_middle (before inside after : ByteArray) :
    (before ++ (inside ++ after)).extract before.size (before.size + inside.size) = inside := by
  have behind := ByteArray.extract_append_size_add (a := before) (b := inside ++ after) (i := 0)
    (j := inside.size)
  rw [Nat.add_zero] at behind
  exact behind.trans (ByteArray.extract_append_eq_left rfl)

/-- A text can be cut wherever one text ends and another begins. -/
theorem exists_extract_eq (before inside after : String) :
    ∃ start stop : (before ++ (inside ++ after)).Pos,
      start.offset.byteIdx = before.utf8ByteSize ∧
        stop.offset.byteIdx = before.utf8ByteSize + inside.utf8ByteSize ∧ start ≤ stop ∧
        (before ++ (inside ++ after)).extract start stop = inside := by
  have startValid : String.Pos.Raw.IsValid (before ++ (inside ++ after)) before.rawEndPos :=
    String.Pos.Raw.isValid_iff_exists_append.2 ⟨before, inside ++ after, rfl, rfl⟩
  have stopValid : String.Pos.Raw.IsValid (before ++ (inside ++ after))
      (before ++ inside).rawEndPos :=
    String.Pos.Raw.isValid_iff_exists_append.2
      ⟨before ++ inside, after, (String.append_assoc ..).symm, rfl⟩
  refine ⟨⟨_, startValid⟩, ⟨_, stopValid⟩, rfl, String.utf8ByteSize_append, ?_, ?_⟩
  · simp [String.Pos.le_iff, String.Pos.Raw.le_iff]
  · have first : before.rawEndPos.byteIdx = before.toByteArray.size := rfl
    have second : (before ++ inside).rawEndPos.byteIdx =
        before.toByteArray.size + inside.toByteArray.size := String.utf8ByteSize_append
    rw [← String.toByteArray_inj, String.toByteArray_extract, first, second,
      String.toByteArray_append, String.toByteArray_append]
    exact extract_middle _ _ _

/-- How a text is framed is read off its bytes.  There is no framing in fewer than two bytes.  A
text whose first and last bytes are ASCII can be cut behind the one and in front of the other, and
is framed by these two characters; every other text is bare. -/
structure FramedByBytes (raw : String) (bytes : List UInt8) : Prop where
  short : framing raw.toList = .short ↔ bytes.length < 2
  bare : framing raw.toList = .bare ↔ 2 ≤ bytes.length ∧
    ((∃ byte ∈ bytes.head?, ¬ byte < 0x80) ∨ ∃ byte ∈ bytes.getLast?, ¬ byte < 0x80)
  framed : 2 ≤ bytes.length →
    ∀ byte ∈ bytes.head?, byte < 0x80 → ∀ byte' ∈ bytes.getLast?, byte' < 0x80 →
      ∃ start stop : raw.Pos, start.offset.byteIdx = 1 ∧
        stop.offset.byteIdx + 1 = bytes.length ∧ start ≤ stop ∧
        framing raw.toList =
          .framed (Char.ofUInt8 byte) (raw.extract start stop).toList (Char.ofUInt8 byte')

namespace FramedByBytes

variable {raw : String} {bytes : List UInt8}

theorem of_short (few : bytes.length < 2) (short : framing raw.toList = .short) :
    FramedByBytes raw bytes where
  short := iff_of_true short few
  bare := iff_of_false (by simp [short]) fun several => Nat.not_le.2 few several.1
  framed several := absurd several (Nat.not_le.2 few)

theorem of_bare (several : 2 ≤ bytes.length) (bare : framing raw.toList = .bare)
    (other : (∃ byte ∈ bytes.head?, ¬ byte < 0x80) ∨ ∃ byte ∈ bytes.getLast?, ¬ byte < 0x80) :
    FramedByBytes raw bytes where
  short := iff_of_false (by simp [bare]) (Nat.not_lt.2 several)
  bare := iff_of_true bare ⟨several, other⟩
  framed _ byte first low byte' last low' := by
    rcases other with ⟨byte, first', high⟩ | ⟨byte, last', high⟩
    · exact absurd (Option.some.inj (first.symm.trans first') ▸ low) high
    · exact absurd (Option.some.inj (last.symm.trans last') ▸ low') high

theorem of_ascii {first last : Char} {inner : List Char} {byte byte' : UInt8}
    (whole : raw.toList = first :: (inner ++ [last])) (size : bytes.length = raw.utf8ByteSize)
    (several : 2 ≤ bytes.length) (head : bytes.head? = some byte)
    (lastEqual : bytes.getLast? = some byte') (inside : byte ∈ String.utf8EncodeChar first)
    (inside' : byte' ∈ String.utf8EncodeChar last) (ascii : first.toNat < 0x80)
    (ascii' : last.toNat < 0x80) : FramedByBytes raw bytes := by
  obtain ⟨low, same⟩ := lt_iff_of_mem_utf8EncodeChar inside
  obtain ⟨low', same'⟩ := lt_iff_of_mem_utf8EncodeChar inside'
  have framed : framing raw.toList = .framed first inner last := by
    rw [whole, framing_concat, if_pos ⟨ascii, ascii'⟩]
  have split : raw = .singleton first ++ (.ofList inner ++ .singleton last) := by
    rw [← String.toList_inj, whole]
    simp
  have single {c : Char} (ascii : c.toNat < 0x80) : (String.singleton c).utf8ByteSize = 1 := by
    rw [String.utf8ByteSize_singleton, Char.utf8Size_eq_one_iff]
    exact UInt32.le_iff_toNat_le.2 (Nat.le_of_lt_succ ascii)
  refine ⟨iff_of_false (by simp [framed]) (Nat.not_lt.2 several),
    iff_of_false (by simp [framed]) ?_, ?_⟩
  · simp [head, lastEqual, low.2 ascii, low'.2 ascii']
  · intro _ other isHead _ other' isLast _
    obtain rfl := Option.some.inj (head.symm.trans isHead)
    obtain rfl := Option.some.inj (lastEqual.symm.trans isLast)
    rw [framed, same ascii, same' ascii', size]
    subst split
    obtain ⟨start, stop, begins, ends, ordered, between⟩ :=
      exists_extract_eq (.singleton first) (.ofList inner) (.singleton last)
    refine ⟨start, stop, begins.trans (single ascii), ?_, ordered, ?_⟩
    · rw [ends, String.utf8ByteSize_append, String.utf8ByteSize_append, single ascii',
        Nat.add_assoc]
    · rw [between, String.toList_ofList]

end FramedByBytes

theorem framedByBytes (raw : String) : FramedByBytes raw raw.toUTF8.data.toList := by
  have size : raw.toUTF8.data.toList.length = raw.utf8ByteSize := rfl
  have encoded := toList_data_toUTF8 raw
  generalize raw.toUTF8.data.toList = bytes at size encoded
  subst encoded
  cases text : raw.toList with
  | nil => exact .of_short (Nat.zero_lt_succ 1) (by rw [text]; rfl)
  | cons first rest =>
      rcases List.eq_nil_or_concat rest with rfl | ⟨inner, last, rfl⟩
      · -- A single character has a single byte if it is ASCII, and else no byte of ASCII.
        rw [List.flatMap_singleton]
        by_cases ascii : first.toNat < 0x80
        · refine .of_short ?_ (by simp [text, framing, ascii])
          rw [utf8EncodeChar_of_ascii ascii]
          exact Nat.lt_succ_self 1
        · obtain ⟨several, high⟩ := utf8EncodeChar_of_not_ascii ascii
          have nonempty : String.utf8EncodeChar first ≠ [] := String.utf8EncodeChar_ne_nil
          refine .of_bare several (by simp [text, framing, ascii]) (.inl ?_)
          exact ⟨_, List.head?_eq_some_head nonempty, high _ (List.head_mem nonempty)⟩
      · rw [List.concat_eq_append] at text ⊢
        rw [text] at size
        obtain ⟨several, ⟨byte, inside, head⟩, byte', inside', lastEqual⟩ :=
          exists_ends first last inner
        by_cases ascii : first.toNat < 0x80 ∧ last.toNat < 0x80
        · exact .of_ascii text size several head lastEqual inside inside' ascii.1 ascii.2
        · refine .of_bare several (by rw [text, framing_concat, if_neg ascii]) ?_
          rw [← (lt_iff_of_mem_utf8EncodeChar inside).1,
            ← (lt_iff_of_mem_utf8EncodeChar inside').1, not_and_or] at ascii
          exact ascii.imp (fun high => ⟨byte, head, high⟩) fun high => ⟨byte', lastEqual, high⟩

end Text

end SerialDialogue
