import SerialDialogue.Proofs.Text.Lossy

/-!
# Decoding in pieces

A decoder holds back the bytes of a character that is not complete, and reads them again with
the bytes that come later.  So the text that it makes does not depend on where a stream is cut,
and together with one U+FFFD for what is held back in the end it is the lossy decoding of the
whole stream.
-/

namespace SerialDialogue

namespace Utf8

namespace Decoder

/-- Read one piece after another. -/
def feedAll (decoder : Decoder) : List (List UInt8) → List Char × Decoder
  | [] => ([], decoder)
  | piece :: later =>
      let read := decoder.feed piece
      let further := read.2.feedAll later
      (read.1 ++ further.1, further.2)

/-- What stands for the bytes that are held back, if nothing comes behind them. -/
def unfinished (decoder : Decoder) : List Char :=
  if decoder.pending = [] then [] else [replacement]

theorem unfinished_eq_nil {decoder : Decoder} :
    decoder.unfinished = [] ↔ decoder.pending = [] := by
  simp [unfinished]

@[simp]
theorem feed_nil (decoder : Decoder) : decoder.feed [] = ([], decoder) :=
  rfl

theorem feedAll_eq (decoder : Decoder) (pieces : List (List UInt8)) :
    decoder.feedAll pieces = decoder.feed pieces.flatten := by
  induction pieces generalizing decoder with
  | nil => rfl
  | cons piece later ih => rw [feedAll, ih, List.flatten_cons, feed_append]

/-! ## What is held back -/

theorem feed_of_incomplete {bytes : List UInt8} (incomplete : Incomplete bytes) :
    feed {} bytes = ([], ⟨bytes⟩) := by
  suffices held : ∀ pending, Incomplete (pending ++ bytes) →
      bytes.foldl push ([], pending) = ([], pending ++ bytes) by
    rw [feed, held [] incomplete]
    rfl
  clear incomplete
  intro pending incomplete
  induction bytes generalizing pending with
  | nil => rw [List.foldl_nil, List.append_nil]
  | cons byte rest ih =>
      rw [List.append_cons] at incomplete ⊢
      have nonempty : pending ++ [byte] ≠ [] := by simp
      have begun : Incomplete (pending ++ [byte]) :=
        incomplete.of_prefix (List.prefix_append _ rest)
      have pushed : push ([], pending) byte = ([], pending ++ [byte]) := by
        simp [push, step, classify_of_incomplete nonempty begun]
      rw [List.foldl_cons, pushed]
      exact ih (pending ++ [byte]) incomplete

/-- A decoder reads what it held back and what comes behind as if they had never been apart. -/
theorem feed_append_pending {decoder : Decoder} (incomplete : Incomplete decoder.pending)
    (bytes : List UInt8) : decoder.feed bytes = feed {} (decoder.pending ++ bytes) := by
  rw [feed_append, feed_of_incomplete incomplete, List.nil_append]

/-- A byte that cannot follow what is held back ends an invalid part, and is read afresh. -/
theorem feed_singleton_of_not_begins {pending : List UInt8} (nonempty : pending ≠ []) {byte : UInt8}
    (broken : ¬ Begins (pending ++ [byte])) :
    feed ⟨pending⟩ [byte] =
      (replacement :: (feed {} [byte]).1, (feed {} [byte]).2) := by
  have stepped : step pending byte =
      (replacement :: (step [] byte).1, (step [] byte).2) := by
    have afresh : start byte = step [] byte := by
      unfold start step
      rw [List.nil_append]
      split <;> simp_all
    rw [step, classify_of_not_begins broken, afresh]
    simp [nonempty]
  simp [feed, push, stepped]

theorem feed_of_not_begins {byte : UInt8} (broken : ¬ Begins [byte]) :
    feed {} [byte] = ([replacement], {}) := by
  simp [feed, push, step, classify_of_not_begins broken]

end Decoder

/-! ## Invalid parts -/

namespace MaximalPart

variable {part rest : List UInt8}

theorem incomplete (maximal : MaximalPart part rest) (begins : Begins part) : Incomplete part := by
  obtain ⟨c, first⟩ := begins
  refine ⟨c, first, fun whole => maximal.invalid c ?_⟩
  exact whole ▸ List.prefix_append part rest

theorem not_begins {next : UInt8} (maximal : MaximalPart part (next :: rest)) :
    ¬ Begins (part ++ [next]) := by
  intro begins
  have early : part ++ [next] <+: part ++ next :: rest :=
    (List.prefix_append_right_inj part).2 (List.prefix_append [next] rest)
  have shorter := maximal.longest _ early begins
  rw [List.length_append, List.length_singleton] at shorter
  omega

theorem exists_eq_singleton (maximal : MaximalPart part rest) (broken : ¬ Begins part) :
    ∃ byte, part = [byte] := by
  rcases maximal.begins with begins | single
  · exact absurd begins broken
  · exact List.length_eq_one_iff.1 single

end MaximalPart

namespace Decoder

/-- A byte that cannot follow what is held back is read as if nothing were held back. -/
theorem feed_cons_of_not_begins {pending : List UInt8} (nonempty : pending ≠ []) {next : UInt8}
    (broken : ¬ Begins (pending ++ [next])) (rest : List UInt8) :
    feed ⟨pending⟩ (next :: rest) =
      (replacement :: (feed {} (next :: rest)).1, (feed {} (next :: rest)).2) := by
  rw [← List.singleton_append, feed_append, feed_append,
    feed_singleton_of_not_begins nonempty broken]
  rfl

/-- What is read, and one U+FFFD for what is held back, is what the bytes stand for.  What is
held back is the beginning of a character, and stands at their end. -/
theorem feed_of_lossy {bytes : List UInt8} {text : List Char} (lossy : Lossy bytes text) :
    text = (feed {} bytes).1 ++ (feed {} bytes).2.unfinished ∧
      Incomplete (feed {} bytes).2.pending ∧ (feed {} bytes).2.pending <:+ bytes := by
  induction lossy with
  | nil => exact ⟨rfl, incomplete_nil, List.suffix_rfl⟩
  | char c _ ih =>
      obtain ⟨decoded, incomplete, last⟩ := ih
      rw [feed_append, feed_of_filled (filled_utf8EncodeChar c), scalar_utf8EncodeChar]
      exact ⟨congrArg (c :: ·) decoded, incomplete, last.trans (List.suffix_append _ _)⟩
  | @invalid part rest text maximal later ih =>
      obtain ⟨decoded, incomplete, last⟩ := ih
      have last' := last.trans (List.suffix_append part rest)
      by_cases begins : Begins part
      · have held := maximal.incomplete begins
        rw [feed_append, feed_of_incomplete held]
        cases rest with
        | nil =>
            obtain rfl : text = [] := later.unique .nil
            rw [List.append_nil, feed_nil]
            refine ⟨?_, held, List.suffix_rfl⟩
            simp [unfinished, maximal.nonempty]
        | cons next rest =>
            rw [feed_cons_of_not_begins maximal.nonempty maximal.not_begins]
            exact ⟨congrArg (replacement :: ·) decoded, incomplete, last'⟩
      · obtain ⟨byte, rfl⟩ := maximal.exists_eq_singleton begins
        rw [feed_append, feed_of_not_begins begins]
        exact ⟨congrArg (replacement :: ·) decoded, incomplete, last'⟩

/-- What is read of a whole stream is its lossy decoding, but for what is held back. -/
theorem decodeLossy_eq (bytes : List UInt8) :
    decodeLossy bytes = (feed {} bytes).1 ++ (feed {} bytes).2.unfinished :=
  (feed_of_lossy (lossy_decodeLossy bytes)).1

theorem incomplete_feed (bytes : List UInt8) : Incomplete (feed {} bytes).2.pending :=
  (feed_of_lossy (lossy_decodeLossy bytes)).2.1

/-- A stream may be cut anywhere.  Its pieces, empty ones too, are read as the whole that they
make; what is held back in the end are the first bytes of a character but not all of them, at
most three, and they are read again with whatever comes behind.  The text, with one U+FFFD for
what is held back, is what the stream stands for and nothing else is; of the bytes of a text it
is that text, and nothing is held back. -/
theorem feedAll_pieces (pieces : List (List UInt8)) :
    let stream := pieces.flatten
    let read := feedAll {} pieces
    read = feed {} stream ∧
      (∃ c, read.2.pending <+: String.utf8EncodeChar c ∧
        read.2.pending ≠ String.utf8EncodeChar c) ∧
      read.2.pending.length ≤ 3 ∧
      (∀ more, read.2.feed more = feed {} (read.2.pending ++ more)) ∧
      (∀ text, Lossy stream text ↔ text = read.1 ++ read.2.unfinished) ∧
      decodeLossy stream = read.1 ++ read.2.unfinished ∧
      ∀ text, stream = text.flatMap String.utf8EncodeChar → read = (text, {}) := by
  intro stream read
  have whole : read = feed {} stream := feedAll_eq {} pieces
  have decoded := decodeLossy_eq stream
  have incomplete := incomplete_feed stream
  rw [← whole] at decoded incomplete
  refine ⟨whole, incomplete, incomplete.length_le, feed_append_pending incomplete, ?_, decoded, ?_⟩
  · intro text
    rw [← decoded]
    exact lossy_iff
  · intro text encoded
    rw [whole, encoded, feed_flatMap_utf8EncodeChar]

/-! ## Streams that end within a character -/

/-- The first byte of a character is none of the further bytes of any. -/
theorem lead_apart : ∀ shape ∈ shapes, ∀ range ∈ shape.tail, ∀ other ∈ shapes,
    ∀ lead ∈ other.head?, range.high < lead.low ∨ lead.high < range.low := by
  decide +kernel

theorem exists_contains_of_fits {ranges : List ByteRange} {bytes : List UInt8} {byte : UInt8}
    (fitting : fits ranges (bytes ++ [byte])) : ∃ range ∈ ranges, range.contains byte := by
  induction bytes generalizing ranges with
  | nil =>
      cases ranges with
      | nil => cases fitting
      | cons range ranges =>
          simp only [List.nil_append, fits, Bool.and_eq_true] at fitting
          exact ⟨range, List.mem_cons_self, fitting.1⟩
  | cons first bytes ih =>
      cases ranges with
      | nil => cases fitting
      | cons range ranges =>
          simp only [List.cons_append, fits, Bool.and_eq_true] at fitting
          obtain ⟨other, member, within⟩ := ih fitting.2
          exact ⟨other, List.mem_cons_of_mem range member, within⟩

theorem not_begins_append {pending : List UInt8} (nonempty : pending ≠ []) {byte : UInt8}
    (lead : Begins [byte]) : ¬ Begins (pending ++ [byte]) := by
  intro begins
  obtain ⟨shape, member, fitting⟩ := begins_iff_exists_fits.1 begins
  obtain ⟨other, member', fits'⟩ := begins_iff_exists_fits.1 lead
  cases pending with
  | nil => exact nonempty rfl
  | cons first pending =>
      cases shape with
      | nil => cases fitting
      | cons range ranges =>
          cases other with
          | nil => cases fits'
          | cons range' ranges' =>
              simp only [List.cons_append, fits, Bool.and_eq_true] at fitting fits'
              obtain ⟨further, among, within⟩ := exists_contains_of_fits fitting.2
              have liesApart := lead_apart _ member further among _ member' range' rfl
              have within' := fits'.1
              simp only [ByteRange.contains, Bool.and_eq_true, decide_eq_true_eq,
                UInt8.le_iff_toNat_le] at within within'
              simp only [UInt8.lt_iff_toNat_lt] at liesApart
              omega

/-- Whatever was held back before, an incomplete character at the end is held back then. -/
theorem pending_feed_of_incomplete (decoder : Decoder) {tail : List UInt8} (nonempty : tail ≠ [])
    (incomplete : Incomplete tail) : (decoder.feed tail).2.pending = tail := by
  obtain ⟨pending⟩ := decoder
  by_cases nothing : pending = []
  · rw [nothing, feed_of_incomplete incomplete]
  · cases tail with
    | nil => exact absurd rfl nonempty
    | cons next rest =>
        have lead : Begins [next] := incomplete.begins.of_prefix (List.prefix_append [next] rest)
        rw [feed_cons_of_not_begins nothing (not_begins_append nothing lead),
          feed_of_incomplete incomplete]

/-- Nothing is held back of a stream just in case it does not end within a character. -/
theorem pending_eq_nil_iff (bytes : List UInt8) :
    (feed {} bytes).2.pending = [] ↔
      ∀ tail, tail <:+ bytes → tail ≠ [] → ¬ Incomplete tail := by
  obtain ⟨-, incomplete, last⟩ := feed_of_lossy (lossy_decodeLossy bytes)
  constructor
  · rintro nothing tail ⟨front, rfl⟩ nonempty within
    rw [feed_append, pending_feed_of_incomplete _ nonempty within] at nothing
    exact nonempty nothing
  · intro whole
    exact Classical.byContradiction fun nonempty => whole _ last nonempty incomplete

end Decoder

end Utf8

end SerialDialogue
