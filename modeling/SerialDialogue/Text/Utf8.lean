/-!
# UTF-8 with replacement

Two readings of a byte stream that may hold invalid UTF-8.  `decodeLossy` reads a
whole sequence at once; a `Decoder` reads it piece by piece and holds back the
bytes of a character that is not complete yet.  Both replace every maximal invalid
part by one U+FFFD, and both rest on the table of well-formed byte sequences.
-/

namespace SerialDialogue

namespace Utf8

/-- A closed range of byte values. -/
structure ByteRange where
  low : UInt8
  high : UInt8
  deriving Repr, DecidableEq

def ByteRange.contains (range : ByteRange) (byte : UInt8) : Bool :=
  range.low ≤ byte && byte ≤ range.high

/-- Any continuation byte. -/
def continuation : ByteRange := ⟨0x80, 0xBF⟩

/-- The well-formed byte sequences, one row per shape.  No two rows share a first
byte. -/
def shapes : List (List ByteRange) :=
  [ [⟨0x00, 0x7F⟩],
    [⟨0xC2, 0xDF⟩, continuation],
    [⟨0xE0, 0xE0⟩, ⟨0xA0, 0xBF⟩, continuation],
    [⟨0xE1, 0xEC⟩, continuation, continuation],
    [⟨0xED, 0xED⟩, ⟨0x80, 0x9F⟩, continuation],
    [⟨0xEE, 0xEF⟩, continuation, continuation],
    [⟨0xF0, 0xF0⟩, ⟨0x90, 0xBF⟩, continuation, continuation],
    [⟨0xF1, 0xF3⟩, continuation, continuation, continuation],
    [⟨0xF4, 0xF4⟩, ⟨0x80, 0x8F⟩, continuation, continuation] ]

/-- The bytes fill the beginning of a shape, place by place. -/
def fits : List ByteRange → List UInt8 → Bool
  | _, [] => true
  | [], _ :: _ => false
  | range :: ranges, byte :: bytes => range.contains byte && fits ranges bytes

/-- What stands for an invalid part. -/
def replacement : Char := Char.ofNat 0xFFFD

/-- The scalar value that a complete sequence encodes: the low bits of the first
byte, then six bits of each further one. -/
def scalar : List UInt8 → Char
  | [] => replacement
  | first :: more =>
      let low :=
        match more.length with
        | 0 => first.toNat
        | 1 => first.toNat % 0x20
        | 2 => first.toNat % 0x10
        | _ => first.toNat % 0x08
      Char.ofNat (more.foldl (fun value byte => value * 0x40 + byte.toNat % 0x40) low)

/-- What a run of bytes is on its own. -/
inductive Progress where
  | complete (c : Char)
  | incomplete
  | broken
  deriving Repr, DecidableEq

/-- Complete if the bytes fill a shape, incomplete if they fill the beginning of
one, broken otherwise. -/
def classify (bytes : List UInt8) : Progress :=
  match shapes.find? (fits · bytes) with
  | none => .broken
  | some shape => if bytes.length = shape.length then .complete (scalar bytes) else .incomplete

/-! ## Piece by piece -/

/-- A decoder between two pieces: the bytes of a character that is not complete. -/
structure Decoder where
  pending : List UInt8 := []
  deriving Repr, DecidableEq

namespace Decoder

/-- Read one byte when nothing is pending. -/
def start (byte : UInt8) : List Char × List UInt8 :=
  match classify [byte] with
  | .complete c => ([c], [])
  | .incomplete => ([], [byte])
  | .broken => ([replacement], [])

/-- Read one byte behind the pending ones.  A byte that cannot continue them ends
an invalid part and is read afresh. -/
def step (pending : List UInt8) (byte : UInt8) : List Char × List UInt8 :=
  match classify (pending ++ [byte]) with
  | .complete c => ([c], [])
  | .incomplete => ([], pending ++ [byte])
  | .broken =>
      if pending.isEmpty then
        ([replacement], [])
      else
        let afresh := start byte
        (replacement :: afresh.1, afresh.2)

/-- Read one byte behind `state`: the characters so far, newest first, and the
pending bytes. -/
def push (state : List Char × List UInt8) (byte : UInt8) : List Char × List UInt8 :=
  let read := step state.2 byte
  (read.1.reverse ++ state.1, read.2)

/-- Read one piece: the characters it completes, in order, and the decoder for the
next piece. -/
def feed (decoder : Decoder) (bytes : List UInt8) : List Char × Decoder :=
  let state := bytes.foldl push ([], decoder.pending)
  (state.1.reverse, ⟨state.2⟩)

end Decoder

/-! ## All at once -/

/-- How many of the bytes continue a sequence whose remaining places are `ranges`. -/
def matched : List ByteRange → List UInt8 → Nat
  | range :: ranges, byte :: bytes =>
      if range.contains byte then matched ranges bytes + 1 else 0
  | _, _ => 0

/-- The first character of `first :: rest`, and how many bytes of `rest` belong to it. -/
def leading (first : UInt8) (rest : List UInt8) : Char × Nat :=
  match shapes.find? (fits · [first]) with
  | none => (replacement, 0)
  | some shape =>
      let count := matched shape.tail rest
      if count = shape.tail.length then
        (scalar (first :: rest.take count), count)
      else
        (replacement, count)

/-- The characters of a byte sequence behind those already read (newest first). -/
def decodeBehind (done : List Char) (bytes : List UInt8) : List Char :=
  match bytes with
  | [] => done.reverse
  | first :: rest =>
      let unit := leading first rest
      decodeBehind (unit.1 :: done) (rest.drop unit.2)
termination_by bytes.length
decreasing_by
  rw [List.length_drop, List.length_cons]
  omega

/-- The characters of a byte sequence, every maximal invalid part as one U+FFFD. -/
def decodeLossy (bytes : List UInt8) : List Char :=
  decodeBehind [] bytes

end Utf8

end SerialDialogue
