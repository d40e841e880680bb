import SerialDialogue.Proofs.Engine.Chronicle
import SerialDialogue.Proofs.Text.Lines
import SerialDialogue.Proofs.Text.Resumption
import SerialDialogue.Transcript

/-!
# Receptions

A device sends pieces of bytes and then closes the stream.  Whatever an engine is doing
meanwhile, it reads these pieces and nothing else, so that the characters that come in are those
of the bytes.  The same bytes can be kept in a file and replayed.  Both readings agree unless the
stream ends within a character: the decoder of the channel holds its bytes back for ever, where
the reading of a file ends with U+FFFD.
-/

namespace SerialDialogue

def Transcript.text (transcript : Transcript) : List Char :=
  ['\n'].intercalate (transcript.lines.map String.toList)

@[simp]
theorem Transcript.text_ofText (text : List Char) : (ofText text).text = text := by
  have lines : (ofText text).lines.map String.toList = Text.pieces '\n' text := by
    simp [Transcript.lines, ofText, Function.comp_def]
  rw [Transcript.text, lines, Text.intercalate_pieces]

/-! ## Streams -/

/-- Pieces of bytes at their times, and then the end of the stream. -/
def broadcast (pieces : List (Nat × List UInt8)) (closing : Nat) : List Arrival :=
  pieces.map (fun piece => ⟨piece.1, .bytes piece.2⟩) ++ [⟨closing, .close⟩]

/-- The device sends the pieces, closes the stream, and replies to nothing. -/
structure Device.Sends (device : Device) (pieces : List (Nat × List UInt8)) (closing : Nat) :
    Prop where
  feed : device.feed = broadcast pieces closing
  inOrder : (broadcast pieces closing).Pairwise fun first second => first.time ≤ second.time
  silent : ∀ earlier sending replies,
    device.receive earlier sending = .accepted replies → replies = []

/-- The device that sends the pieces, and takes every text without a reply. -/
def Device.broadcasting (pieces : List (Nat × List UInt8)) (closing : Nat) : Device where
  feed := broadcast pieces closing
  receive _ _ := .accepted []

theorem Device.Sends.broadcasting {pieces : List (Nat × List UInt8)} {closing : Nat}
    (inOrder : (broadcast pieces closing).Pairwise fun first second => first.time ≤ second.time) :
    (Device.broadcasting pieces closing).Sends pieces closing := by
  refine ⟨rfl, inOrder, fun _ _ replies accepted => ?_⟩
  exact (Reception.accepted.inj accepted).symm

theorem broadcast_suffix (passed left : List (Nat × List UInt8)) (closing : Nat) :
    broadcast left closing <:+ broadcast (passed ++ left) closing := by
  refine ⟨passed.map fun piece => ⟨piece.1, .bytes piece.2⟩, ?_⟩
  rw [broadcast, broadcast, List.map_append, List.append_assoc]

theorem Device.Sends.time_le {device : Device} {pieces : List (Nat × List UInt8)} {closing : Nat}
    (sends : device.Sends pieces closing) {arrival : Arrival}
    (member : arrival ∈ broadcast pieces closing) : arrival.time ≤ closing := by
  rcases List.mem_append.1 member with early | last
  · exact (List.pairwise_append.1 sends.inOrder).2.2 arrival early _ (List.mem_singleton_self _)
  · exact List.mem_singleton.1 last ▸ Nat.le_refl closing

/-- Of a stream the first pieces are read, up to one that comes later, or all of it is read. -/
theorem Channel.readFrom_broadcast (channel : Channel) (now : Nat)
    (pieces : List (Nat × List UInt8)) (closing : Nat) :
    let reading := channel.readFrom now (broadcast pieces closing)
    (∃ later, pieces = reading.pieces ++ later ∧
        reading.channel.coming = broadcast later closing ∧
        reading.channel.closed = channel.closed ∧
        ∃ arrival ∈ broadcast later closing, now < arrival.time) ∨
      reading.pieces = pieces ∧ reading.channel.coming = [] ∧ reading.channel.closed = true := by
  induction pieces generalizing channel with
  | nil =>
      simp only [broadcast, List.map_nil, List.nil_append, readFrom]
      split
      · exact .inr ⟨rfl, rfl, rfl⟩
      · rename_i later
        exact .inl ⟨[], rfl, rfl, rfl, _, List.mem_singleton_self _, Nat.not_le.1 later⟩
  | cons piece pieces ih =>
      simp only [broadcast, List.map_cons, List.cons_append, readFrom]
      split
      · rcases ih { channel with decoder := (channel.decoder.feed piece.2).2 } with
          ⟨later, read, coming, closed, late⟩ | ⟨read, coming, closed⟩
        · exact .inl ⟨later, congrArg (piece :: ·) read, coming, closed, late⟩
        · exact .inr ⟨congrArg (piece :: ·) read, coming, closed⟩
      · rename_i later
        exact .inl ⟨piece :: pieces, rfl, rfl, rfl, _, List.mem_cons_self, Nat.not_le.1 later⟩

namespace Engine

/-- The bytes that were read from the device. -/
def bytesRead (engine : Engine) : List UInt8 :=
  (reportedMoves engine.past).flatMap Move.bytes

/-- The characters that came in: those that were taken, and then those that wait. -/
def received (engine : Engine) : List Char :=
  takenChars engine.past ++ engine.queue

theorem feed_bytesRead (device : Device) (turns : List Turn) :
    let engine := (ofDevice device).after turns
    Utf8.Decoder.feed {} engine.bytesRead = (engine.received, engine.channel.decoder) := by
  intro engine
  obtain ⟨news, moves, past, carried, replay⟩ :=
    progression_flowsTo.after (ofDevice device) turns
  obtain ⟨last, replayed, abreast⟩ := replay {} ⟨rfl, rfl, rfl⟩
  have all : reportedMoves engine.past = moves.filter Move.carries := by
    rw [carried]
    exact congrArg reportedMoves (past.trans (List.append_nil news))
  obtain ⟨received, pushed⟩ := Flow.passed_replay? replayed
  have bytes : last.received = engine.bytesRead := by
    rw [received, bytesRead, all, Move.flatMap_filter_carries Move.bytes_of_not_carries]
    rfl
  have chars : last.pushed = takenChars engine.past := by
    rw [pushed, takenChars, all, Move.flatMap_filter_carries Move.chars_of_not_carries]
    rfl
  have conserved := Flow.conserved_start.replay? replayed
  rwa [Flow.Conserved, bytes, chars, abreast.queue, abreast.decoder] at conserved

theorem Onward.bytesRead_eq {first second : Engine} (onward : Onward first second) :
    second.bytesRead = first.bytesRead ++
      told (fun event => event.moves.flatMap Move.bytes) (second.since first) := by
  rw [bytesRead, bytesRead, flatMap_reportedMoves, flatMap_reportedMoves, onward.told_past]

theorem bytesRead_note {event : Event} (silent : event.moves = []) (engine : Engine) :
    (engine.note event).bytesRead = engine.bytesRead := by
  rw [(engine.onward_note event).bytesRead_eq, told_since_note, silent]
  exact List.append_nil _

theorem bytesRead_readBy (engine : Engine) (time : Nat) :
    (engine.readBy time).bytesRead =
      engine.bytesRead ++ (engine.channel.read time).pieces.flatMap Prod.snd := by
  have bytes (content : List UInt8) :
      (Event.read content).moves.flatMap Move.bytes = content := List.append_nil content
  simp only [(engine.onward_readBy time).bytesRead_eq, told_since_readBy, bytes]

theorem bytesRead_hear (engine : Engine) (level : Level) (goal : Goal) :
    (engine.hear level goal).2.bytesRead = engine.bytesRead := by
  have pushed : ∀ text : List Char, (text.flatMap fun c => Move.bytes (.push c)) = [] :=
    fun _ => List.flatMap_eq_nil_iff.2 fun _ _ => rfl
  rw [(engine.onward_hear level goal).bytesRead_eq, told_moves_since_hear, pushed,
    List.append_nil]

/-! ## What has come and what is to come -/

/-- Of the pieces the engine has read the first few, and the others are to come; or it has read
them all, and the stream has ended. -/
inductive Awaits (device : Device) (pieces : List (Nat × List UInt8)) (closing : Nat)
    (engine : Engine) : Prop where
  | more (passed left : List (Nat × List UInt8)) (all : pieces = passed ++ left)
      (same : engine.channel.device = device)
      (read : engine.bytesRead = passed.flatMap Prod.snd)
      (coming : engine.channel.coming = broadcast left closing)
      (stillOpen : engine.channel.closed = false)
  | ended (same : engine.channel.device = device)
      (read : engine.bytesRead = pieces.flatMap Prod.snd)
      (coming : engine.channel.coming = [])
      (closed : engine.channel.closed = true)

namespace Awaits

variable {device : Device} {pieces : List (Nat × List UInt8)} {closing : Nat} {engine : Engine}

theorem of_eq {next : Engine} (awaits : engine.Awaits device pieces closing)
    (same : next.channel.device = engine.channel.device)
    (coming : next.channel.coming = engine.channel.coming)
    (closed : next.channel.closed = engine.channel.closed)
    (read : next.bytesRead = engine.bytesRead) : next.Awaits device pieces closing := by
  cases awaits with
  | more passed left all same' read' coming' stillOpen =>
      exact .more passed left all (same.trans same') (read.trans read') (coming.trans coming')
        (closed.trans stillOpen)
  | ended same' read' coming' closed' =>
      exact .ended (same.trans same') (read.trans read') (coming.trans coming')
        (closed.trans closed')

theorem device_eq (awaits : engine.Awaits device pieces closing) :
    engine.channel.device = device := by
  cases awaits with
  | more _ _ _ same => exact same
  | ended same => exact same

theorem bytesRead_prefix (awaits : engine.Awaits device pieces closing) :
    engine.bytesRead <+: pieces.flatMap Prod.snd := by
  cases awaits with
  | more passed left all _ read =>
      rw [read, all, List.flatMap_append]
      exact List.prefix_append _ _
  | ended _ read => exact read ▸ List.prefix_rfl

theorem bytesRead_eq (awaits : engine.Awaits device pieces closing)
    (ended : engine.channel.closed = true) : engine.bytesRead = pieces.flatMap Prod.snd := by
  cases awaits with
  | more _ _ _ _ _ _ stillOpen => exact nomatch ended.symm.trans stillOpen
  | ended _ read => exact read

theorem log (awaits : engine.Awaits device pieces closing) (entry : LogEntry) :
    (engine.log entry).Awaits device pieces closing :=
  awaits.of_eq rfl rfl rfl (bytesRead_note rfl engine)

theorem hear (awaits : engine.Awaits device pieces closing) (level : Level) (goal : Goal) :
    (engine.hear level goal).2.Awaits device pieces closing :=
  awaits.of_eq rfl rfl rfl (engine.bytesRead_hear level goal)

theorem passTo (awaits : engine.Awaits device pieces closing) (time : Nat) :
    (engine.passTo time).Awaits device pieces closing :=
  awaits.of_eq rfl rfl rfl rfl

theorem readBy (awaits : engine.Awaits device pieces closing) (time : Nat) :
    (engine.readBy time).Awaits device pieces closing := by
  have read := engine.bytesRead_readBy time
  have kept : (engine.readBy time).channel.device = engine.channel.device :=
    engine.channel.device_readFrom time _
  cases awaits with
  | more passed left all same read' coming stillOpen =>
      have reading := engine.channel.readFrom_broadcast time left closing
      rw [← coming] at reading
      rcases reading with ⟨later, split, coming', closed, -⟩ | ⟨split, coming', closed⟩
      · refine .more (passed ++ (engine.channel.read time).pieces) later ?_ (kept.trans same) ?_
          coming' (closed.trans stillOpen)
        · rw [all, split, List.append_assoc]
          rfl
        · rw [read, read', List.flatMap_append]
      · refine .ended (kept.trans same) ?_ coming' closed
        rw [read, read', all, List.flatMap_append, ← split]
        rfl
  | ended same read' coming closed =>
      have reading : engine.channel.read time = { channel := engine.channel } := by
        rw [Channel.read, coming, Channel.readFrom, ← coming]
      rw [reading] at read
      refine .ended (kept.trans same) (read.trans (by simpa using read')) ?_ ?_
      · rw [Engine.readBy, reading]
        exact coming
      · rw [Engine.readBy, reading]
        exact closed

theorem listen (awaits : engine.Awaits device pieces closing) (level : Level) (goal : Goal)
    (deadline bound : Option Nat) :
    (engine.listen level goal deadline bound).2.Awaits device pieces closing := by
  fun_induction Engine.listen engine level goal deadline bound with
  | case1 engine goal heard reached => exact awaits.hear level goal
  | case2 engine goal heard left goalLeft time wake ih =>
      exact ih ((awaits.hear level goal).readBy time)
  | case3 engine goal heard left goalLeft time wake => exact (awaits.hear level goal).passTo time
  | case4 engine goal heard left goalLeft time wake => exact (awaits.hear level goal).passTo time
  | case5 engine goal heard left goalLeft wake => exact awaits.hear level goal

theorem stall (awaits : engine.Awaits device pieces closing) (limits : Limits) :
    (engine.stall limits).2.Awaits device pieces closing := by
  unfold Engine.stall
  split <;> exact awaits.readBy _

theorem send (awaits : engine.Awaits device pieces closing)
    (sends : device.Sends pieces closing) (limits : Limits) (text : String) :
    (engine.send limits text).2.Awaits device pieces closing := by
  have logged := awaits.log (.sent text)
  have sent : ((engine.log (.sent text)).noteSending text).Awaits device pieces closing :=
    logged.of_eq rfl rfl rfl rfl
  unfold Engine.send
  split
  · rename_i replies accepted
    rw [awaits.device_eq] at accepted
    obtain rfl := sends.silent _ _ _ accepted
    dsimp only
    rw [Channel.expectMore_nil]
    exact sent.of_eq rfl rfl rfl (bytesRead_note rfl _)
  · exact sent
  · exact sent
  · exact logged.stall limits

theorem expect (awaits : engine.Awaits device pieces closing) (limits : Limits) (raw : String)
    (pattern : Pattern) : (engine.expect limits raw pattern).2.Awaits device pieces closing := by
  rw [expect_eq]
  have listened := (awaits.log (.expecting raw)).listen .debug (engine.expected pattern)
    (momentAfter? engine.clock limits.receive) limits.bound
  generalize (engine.log (.expecting raw)).listen _ _ _ _ = heard at listened
  obtain ⟨heard, last⟩ := heard
  have forgotten : last.forget.Awaits device pieces closing := listened.of_eq rfl rfl rfl rfl
  cases heard with
  | reached => exact forgotten.log (.matched raw)
  | late => exact listened
  | cut => exact listened
  | stuck => exact listened

theorem monitor (awaits : engine.Awaits device pieces closing) (limits : Limits) (raw : String)
    (bound : Bound) : (engine.monitor limits raw bound).2.Awaits device pieces closing := by
  have opened : (engine.openMonitor raw bound).Awaits device pieces closing :=
    (awaits.log _).log bound.opening
  rw [monitor_eq]
  dsimp only
  split
  · exact opened.log _
  · have listened := opened.listen .info bound.goal
      (bound.deadline? (engine.openMonitor raw bound).clock) limits.bound
    generalize (engine.openMonitor raw bound).listen _ _ _ _ = heard at listened
    obtain ⟨heard, last⟩ := heard
    have forgotten : last.forgetText.Awaits device pieces closing := listened.of_eq rfl rfl rfl rfl
    cases heard with
    | reached => exact forgotten.log _
    | late => exact forgotten.log _
    | cut => exact listened
    | stuck => exact listened

theorem perform (awaits : engine.Awaits device pieces closing)
    (sends : device.Sends pieces closing) (limits : Limits) (step : Step) :
    (engine.perform limits step).2.Awaits device pieces closing := by
  cases step with
  | send raw => exact awaits.send sends limits (Step.payload raw)
  | expect raw pattern => exact awaits.expect limits raw pattern
  | monitor raw bound => exact awaits.monitor limits raw bound

theorem along {last : Engine} {deeds : List Deed} (awaits : engine.Awaits device pieces closing)
    (sends : device.Sends pieces closing) (chronicle : Chronicle engine deeds last) :
    last.Awaits device pieces closing := by
  induction chronicle with
  | still => exact awaits
  | said _ ih => exact ih (awaits.log _)
  | idled _ ih => exact ih (awaits.readBy _)
  | carried _ ih => exact ih (awaits.perform sends _ _)

end Awaits

theorem coming_ofDevice {device : Device} {pieces : List (Nat × List UInt8)} {closing : Nat}
    (sends : device.Sends pieces closing) :
    (ofDevice device).channel.coming = broadcast pieces closing := by
  rw [ofDevice_of_pairwise (sends.feed ▸ sends.inOrder)]
  exact sends.feed

/-- Before anything is done all of the stream is to come. -/
theorem awaits_ofDevice {device : Device} {pieces : List (Nat × List UInt8)} {closing : Nat}
    (sends : device.Sends pieces closing) : (ofDevice device).Awaits device pieces closing :=
  .more [] pieces rfl rfl rfl (coming_ofDevice sends) rfl

/-- Whatever is done meanwhile, the pieces are read in their order, and then the end. -/
theorem awaits_after {device : Device} {pieces : List (Nat × List UInt8)} {closing : Nat}
    (sends : device.Sends pieces closing) (turns : List Turn) :
    ((ofDevice device).after turns).Awaits device pieces closing := by
  obtain ⟨deeds, chronicle⟩ := (ofDevice device).chronicled_after turns
  exact (awaits_ofDevice sends).along sends chronicle

theorem Awaits.closed_idle {device : Device} {pieces : List (Nat × List UInt8)} {closing : Nat}
    {engine : Engine} (awaits : engine.Awaits device pieces closing)
    (sends : device.Sends pieces closing) : (engine.idle closing).channel.closed = true := by
  cases awaits with
  | ended _ _ coming closed =>
      rw [Engine.idle, Engine.readBy, Channel.read, coming]
      exact closed
  | more passed left all _ _ coming _ =>
      have reading := engine.channel.readFrom_broadcast (engine.clock + closing) left closing
      rw [← coming] at reading
      rcases reading with ⟨later, split, -, -, arrival, member, late⟩ | ⟨-, -, closed⟩
      · have known : arrival ∈ broadcast pieces closing := by
          rw [all, split, ← List.append_assoc]
          exact (broadcast_suffix _ later closing).mem member
        have := sends.time_le known
        omega
      · exact closed

/-- What a live session receives of a stream is the beginning of the text that the same bytes
have in a file, however they are cut into pieces and whatever is done meanwhile.  The stream
does end; then it has brought in the whole text but for one U+FFFD where it ends within a
character, so that both are the same just in case it does not. -/
theorem received_eq_captured_iff (device : Device) (pieces : List (Nat × List UInt8))
    (closing : Nat) (sends : device.Sends pieces closing) (turns : List Turn) :
    let engine := (ofDevice device).after turns
    let stream := pieces.flatMap Prod.snd
    let captured := (Transcript.ofBytes ⟨stream.toArray⟩).text
    engine.received <+: captured ∧ (engine.idle closing).channel.closed = true ∧
      (engine.channel.closed = true →
        captured = engine.received ++ engine.channel.decoder.unfinished ∧
          (engine.received = captured ↔
            ∀ tail, tail <:+ stream → tail ≠ [] → ¬ Utf8.Incomplete tail)) := by
  intro engine stream captured
  have awaits := awaits_after sends turns
  have read : Utf8.Decoder.feed {} engine.bytesRead = (engine.received, engine.channel.decoder) :=
    feed_bytesRead device turns
  have whole : captured =
      (Utf8.Decoder.feed {} stream).1 ++ (Utf8.Decoder.feed {} stream).2.unfinished :=
    (Transcript.text_ofText _).trans (Utf8.Decoder.decodeLossy_eq stream)
  refine ⟨?_, awaits.closed_idle sends, fun ended => ?_⟩
  · have begun : (Utf8.Decoder.feed {} engine.bytesRead).1 <+:
        (Utf8.Decoder.feed {} stream).1 := by
      obtain ⟨left, split⟩ : engine.bytesRead <+: stream := awaits.bytesRead_prefix
      rw [← split, Utf8.Decoder.feed_append]
      exact List.prefix_append _ _
    rw [read] at begun
    exact whole ▸ begun.trans (List.prefix_append _ _)
  · have all : engine.bytesRead = stream := awaits.bytesRead_eq ended
    rw [all] at read
    rw [read] at whole
    refine ⟨whole, ?_⟩
    have held : engine.received = captured ↔ (Utf8.Decoder.feed {} stream).2.pending = [] := by
      rw [whole, read, List.self_eq_append_right, Utf8.Decoder.unfinished_eq_nil]
    exact held.trans (Utf8.Decoder.pending_eq_nil_iff stream)

/-- A character may come in two pieces. -/
theorem received_eq_captured_split :
    let pieces : List (Nat × List UInt8) := [(0, [0x61, 0xC3]), (5, [0xA9])]
    let device := Device.broadcasting pieces 10
    device.Sends pieces 10 ∧
      ((ofDevice device).after [.idle 10]).received =
        (Transcript.ofBytes ⟨#[0x61, 0xC3, 0xA9]⟩).text := by
  intro pieces device
  have sends : device.Sends pieces 10 := .broadcasting (by decide)
  have closed := (received_eq_captured_iff device pieces 10 sends []).2.1
  have ended := (received_eq_captured_iff device pieces 10 sends [.idle 10]).2.2 closed
  exact ⟨sends, ended.2.2 ((Utf8.Decoder.pending_eq_nil_iff _).1 (by decide +kernel))⟩

/-- Where a stream ends within a character, the file ends with U+FFFD, and a live session hears
nothing of it. -/
theorem received_ne_captured :
    let pieces : List (Nat × List UInt8) := [(0, [0x61, 0xC3])]
    let device := Device.broadcasting pieces 10
    let engine := (ofDevice device).after [.idle 10]
    let captured := (Transcript.ofBytes ⟨#[0x61, 0xC3]⟩).text
    device.Sends pieces 10 ∧ engine.channel.closed = true ∧
      engine.received = ['a'] ∧ captured = ['a', '\uFFFD'] ∧ engine.received ≠ captured := by
  intro pieces device engine
  have sends : device.Sends pieces 10 := .broadcasting (by decide)
  have read : engine = Engine.after _ [.idle 10] :=
    congrArg (Engine.after · [.idle 10]) (ofDevice_of_pairwise sends.inOrder)
  rw [read]
  exact ⟨sends, by decide +kernel, by decide +kernel, by decide +kernel, by decide +kernel⟩

end Engine

end SerialDialogue
