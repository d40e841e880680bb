import SerialDialogue.Proofs.Engine.Chronicle
import SerialDialogue.Proofs.Engine.Waiting
import SerialDialogue.Proofs.Replay
import SerialDialogue.Proofs.Session.Cap
import SerialDialogue.Proofs.Text.Encoding
import SerialDialogue.Proofs.Text.Lines
import SerialDialogue.Transcript

/-!
# Rehearsals

A script of sends and expects that succeeds against a text succeeds with a device that delivers
the text.  The replay tests whole lines, and the engine tests the text after every character, so
that it has its match at the end of the line at the latest.  What the engine has taken is
therefore never more than the lines behind the cursor of the replay.
-/

namespace SerialDialogue

/-! ## Scripts and devices -/

/-- A substring pattern is short enough to be found surely. -/
def Pattern.IsShort (pattern : Pattern) : Prop :=
  ∀ needle, pattern.matcher = .substring needle → needle.utf8ByteSize ≤ Session.longestNeedle

/-- A send, or an expect whose pattern does not match the empty line and is short enough. -/
inductive Step.Rehearsable : Step → Prop where
  | send (raw : String) : Rehearsable (.send raw)
  | expect (raw : String) {pattern : Pattern} : pattern.matchesLine "" = false →
      pattern.IsShort → Rehearsable (.expect raw pattern)

/-- A text comes in at once, in pieces of any size, and nothing behind it. -/
def Recital (arrivals : List Arrival) (text : List Char) : Prop :=
  ∃ (contents : List (List UInt8)) (closing : List Arrival),
    arrivals = contents.map (⟨0, .bytes ·⟩) ++ closing ∧
      contents.flatten = text.flatMap String.utf8EncodeChar ∧
        ∀ arrival ∈ closing, ∀ content, arrival.delivery ≠ .bytes content

theorem Recital.text_readFrom {arrivals : List Arrival} {text : List Char}
    (recital : Recital arrivals text) {channel : Channel} (fresh : channel.decoder = {}) :
    (channel.readFrom 0 arrivals).text = text := by
  obtain ⟨contents, closing, rfl, flat, silent⟩ := recital
  have read : (channel.readFrom 0 (contents.map (⟨0, .bytes ·⟩) ++ closing)).text =
      (channel.decoder.feed contents.flatten).1 := by
    clear flat fresh
    induction contents generalizing channel with
    | nil =>
        cases closing with
        | nil => rfl
        | cons arrival later =>
            have notBytes := silent arrival List.mem_cons_self
            rw [List.map_nil, List.nil_append, Channel.readFrom]
            split
            · split
              · rename_i content same
                exact absurd same (notBytes content)
              · rfl
              · rfl
            · rfl
    | cons content later ih =>
        rw [List.map_cons, List.cons_append, Channel.readFrom, if_pos (Nat.le_refl 0)]
        simp only [ih, List.flatten_cons, Utf8.Decoder.feed_append]
  rw [read, flat, fresh, Utf8.Decoder.feed_flatMap_utf8EncodeChar]

/-- The device delivers the text at once and then at most the end of the stream.  It takes
whatever is sent to it, without a reply. -/
structure Device.Recites (device : Device) (text : String) : Prop where
  feed : ∃ (contents : List (List UInt8)) (closing : Option Arrival),
    device.feed = contents.map (⟨0, .bytes ·⟩) ++ closing.toList ∧
      contents.flatten = text.toUTF8.data.toList ∧
        ∀ arrival ∈ closing, ∀ content, arrival.delivery ≠ .bytes content
  accepts : ∀ earlier sending, device.receive earlier sending = .accepted []

theorem Device.Recites.recital {device : Device} {text : String}
    (recites : device.Recites text) : Recital (Channel.ofDevice device).coming text.toList := by
  obtain ⟨contents, closing, feed, flat, silent⟩ := recites.feed
  refine ⟨contents, closing.toList, ?_, flat.trans (Utf8.toList_data_toUTF8 text),
    fun arrival member => silent arrival (Option.mem_toList.1 member)⟩
  rw [Channel.ofDevice, feed]
  refine List.mergeSort_of_pairwise (List.pairwise_append.2 ⟨?_, ?_, ?_⟩)
  · exact List.pairwise_map.2 (List.pairwise_of_forall fun _ _ => rfl)
  · cases closing <;> simp
  · intro first member second _
    obtain ⟨content, -, rfl⟩ := List.mem_map.1 member
    simp

/-! ## Matches at the latest -/

namespace Session

theorem line_pushAll_marked {session : Session} (begins : session.line = "")
    (pieces : List (List Char)) {front line : List Char}
    (behind : front <:+ Text.marked '\n' pieces) (inLine : '\n' ∉ line) :
    (session.pushAll (front ++ line)).line = String.ofList line := by
  have fresh : (session.pushAll front).line = "" := by
    rcases List.eq_nil_or_concat front with rfl | ⟨before, c, rfl⟩
    · exact begins
    · rw [List.concat_eq_append] at behind ⊢
      have newline : c = '\n' := by
        rcases Text.marked_eq_nil_or '\n' pieces with nothing | ⟨ahead, whole⟩
        · rw [nothing] at behind
          simp at behind
        · rw [whole] at behind
          obtain ⟨more, same⟩ := behind
          rw [← List.append_assoc] at same
          exact (List.append_inj' same rfl).2 |> List.singleton_inj.1
      rw [pushAll_concat, line_push, if_pos newline]
  rw [← String.toList_inj, pushAll_append, line_pushAll inLine, fresh]
  simp

/-- Where a line matches, the characters up to its end do, and perhaps fewer of them. -/
theorem exists_shortest_of_matchesLine {session : Session} (fresh : session.forget = session)
    {pattern : Pattern} (short : pattern.IsShort) {pieces : List (List Char)}
    {front : List Char} (behind : front <:+ Text.marked '\n' pieces) {hit : String}
    (inLine : '\n' ∉ hit.toList) (noSigma : 'Σ' ∉ hit.toList) (nonempty : hit.toList ≠ [])
    (found : pattern.matchesLine hit) :
    ∃ taken, taken <+: front ++ hit.toList ∧ Shortest (session.MatchesBehind pattern) taken := by
  have nonempty' : front ++ hit.toList ≠ [] := fun nothing =>
    nonempty (List.append_eq_nil_iff.1 nothing).2
  by_cases other : pattern.kind = .substring
  · unfold Pattern.kind at other
    cases looksFor : pattern.matcher with
    | substring needle =>
        have occurs := (Pattern.matchesLine_iff_of_substring looksFor noSigma).1 found
        have passes : needle.toList <:+: Text.lowerEach (front ++ hit.toList) := by
          rw [Text.lowerEach_append]
          exact occurs.trans (List.suffix_append _ _).isInfix
        obtain ⟨taken, within, shortest⟩ := @Shortest.exists_of_test
          (fun taken => needle.toList <:+: Text.lowerEach taken) _ nonempty' passes
        refine ⟨taken, within, ?_⟩
        rw [← fresh]
        exact (session.forget.shortest_matchesBehind_iff looksFor (short needle looksFor)
          taken).2 shortest
    | lineStart text => simp [looksFor] at other
    | regex regex => simp [looksFor] at other
  · have begins : session.line = "" := by
      rw [← fresh]
      rfl
    have line := line_pushAll_marked begins pieces behind inLine
    rw [String.ofList_toList] at line
    refine Shortest.exists_of_test nonempty' ?_
    rw [MatchesBehind, isMatch, line, ← Pattern.isMatch_of_ne_substring other hit]
    exact found

end Session

/-! ## The engine -/

namespace Engine

/-- The engine has just forgotten everything, no time has passed, and the rest of the text is in
its queue or still on the way. -/
structure Ready (engine : Engine) (rest : List Char) : Prop where
  clock : engine.clock = 0
  accepts : ∀ earlier sending,
    engine.channel.device.receive earlier sending = .accepted []
  fresh : engine.session.forget = engine.session
  source : engine.queue = rest ∨
    (engine.queue = [] ∧ engine.channel.decoder = {} ∧ Recital engine.channel.coming rest)

variable {engine : Engine} {rest taken later : List Char} {pattern : Pattern}

theorem ready_ofDevice {device : Device} {text : String} (recites : device.Recites text) :
    (ofDevice device).Ready text.toList where
  clock := rfl
  accepts := recites.accepts
  fresh := rfl
  source := .inr ⟨rfl, rfl, recites.recital⟩

theorem Ready.log (ready : engine.Ready rest) (entry : LogEntry) : (engine.log entry).Ready rest :=
  ⟨ready.clock, ready.accepts, ready.fresh, ready.source⟩

theorem Ready.send (ready : engine.Ready rest) (limits : Limits) (text : String) :
    (engine.send limits text).1 = .done ∧ (engine.send limits text).2.Ready rest ∧
      takenChars (engine.send limits text).2.past = takenChars engine.past := by
  simp only [Engine.send, ready.accepts, Channel.expectMore_nil]
  refine ⟨trivial, ⟨ready.clock, ready.accepts, ready.fresh, ready.source⟩, ?_⟩
  simp [noteSending, note, Engine.log, takenChars, reportedMoves, Event.moves]

theorem hear_of_shortest (queue : engine.queue = taken ++ later)
    (shortest : Shortest (engine.session.MatchesBehind pattern) taken) (level : Level) :
    (engine.hear level (engine.expected pattern)).1 = none ∧
      (engine.hear level (engine.expected pattern)).2.queue = later ∧
        takenChars (engine.hear level (engine.expected pattern)).2.past =
          takenChars engine.past ++ taken := by
  obtain ⟨heard, split, counted, -, sought⟩ :=
    engine.session.exists_take_found pattern engine.queue
  have within : taken <+: engine.queue := ⟨later, queue.symm⟩
  have reached : (engine.hear level (engine.expected pattern)).1 = none := by
    refine Classical.byContradiction fun left => ?_
    obtain ⟨-, nothing, unmet⟩ := sought.left left
    rw [nothing, List.append_nil] at split
    exact unmet taken (split ▸ within) shortest.1 shortest.2.1
  obtain rfl : heard = taken :=
    (sought.reached reached).unique shortest ⟨_, split.symm⟩ within
  refine ⟨reached, List.append_cancel_left (split.symm.trans queue), ?_⟩
  rw [(engine.onward_hear level _).takenChars_eq, takenSince_hear]
  exact congrArg _ counted

/-- What is not in the queue can be read at once. -/
theorem Ready.exists_reading (ready : engine.Ready rest) (waiting : engine.queue ≠ rest) :
    engine.queue = [] ∧ engine.channel.nextTime? = some 0 ∧
      (engine.channel.read 0).text = rest := by
  rcases ready.source with present | ⟨nothing, fresh, recital⟩
  · exact absurd present waiting
  · refine ⟨nothing, ?_, recital.text_readFrom fresh⟩
    obtain ⟨contents, closing, coming, flat, -⟩ := recital
    cases contents with
    | cons content contents => rw [Channel.nextTime?, coming]; rfl
    | nil =>
        have empty : rest = [] := by
          cases rest with
          | nil => rfl
          | cons c rest =>
              have := (List.append_eq_nil_iff.1 flat.symm).1
              exact absurd this String.utf8EncodeChar_ne_nil
        exact absurd (nothing.trans empty.symm) waiting

section Listen

variable (ready : engine.Ready rest) (level : Level) {deadline : Option Nat}
  (bound : Option Nat)

include ready

/-- When the text is still on the way, listening waits until all of it has come in. -/
theorem Ready.exists_listen (waiting : engine.queue ≠ rest) (pattern : Pattern)
    (inTime : comesBefore 0 deadline) :
    ∃ next : Engine, next.Ready rest ∧ next.queue = rest ∧ next.session = engine.session ∧
      takenChars next.past = takenChars engine.past ∧
        engine.listen level (engine.expected pattern) deadline bound =
          next.listen level (next.expected pattern) deadline bound := by
  obtain ⟨nothing, first, text⟩ := ready.exists_reading waiting
  obtain ⟨heard, empty, counted, pushed, sought⟩ :=
    engine.session.exists_take_found pattern engine.queue
  rw [nothing] at empty
  obtain ⟨rfl, -⟩ := List.append_eq_nil_iff.1 empty.symm
  let waited := (engine.hear level (engine.expected pattern)).2
  have session : (waited.readBy 0).session = engine.session := pushed
  have wake : waited.wake deadline bound = .arrival 0 := by
    have inTime' : comesBy 0 bound := by cases bound <;> simp
    have clock : waited.clock = 0 := ready.clock
    have first' : waited.channel.nextTime? = some 0 := first
    rw [Engine.wake, clock, first', nextWake_arrival, Nat.max_self,
      if_pos (Bool.and_eq_true_iff.2 ⟨inTime, inTime'⟩)]
  cases outcome : (engine.hear level (engine.expected pattern)).1 with
  | none => exact absurd rfl (sought.reached outcome).1
  | some left =>
      obtain ⟨rfl, drained⟩ := hear_eq_some outcome
      have queue : (waited.readBy 0).queue = rest := by
        rw [← text]
        exact congrArg (· ++ _) drained
      have silent : waited.takenSince engine = [] :=
        (engine.takenSince_hear level _).trans counted
      refine ⟨waited.readBy 0, ⟨congrArg (max · 0) ready.clock, fun earlier sending => ?_,
        session ▸ ready.fresh, .inl queue⟩, queue, session, ?_, ?_⟩
      · exact (congrArg (fun device : Device => device.receive earlier sending)
          (engine.channel.device_readFrom 0 _)).trans (ready.accepts earlier sending)
      · rw [(waited.onward_readBy 0).takenChars_eq, takenSince_readBy, List.append_nil,
          (engine.onward_hear level _).takenChars_eq, silent, List.append_nil]
      · rw [listen_of_left outcome, wake]
        rfl

theorem Ready.listen (split : rest = taken ++ later)
    (shortest : Shortest (engine.session.MatchesBehind pattern) taken)
    (inTime : comesBefore 0 deadline) :
    ∃ last, engine.listen level (engine.expected pattern) deadline bound = (.reached, last) ∧
      last.forget.Ready later ∧ takenChars last.past = takenChars engine.past ++ taken := by
  by_cases present : engine.queue = rest
  · obtain ⟨reached, queue, took⟩ := hear_of_shortest (present.trans split) shortest level
    exact ⟨_, listen_of_reached reached, ⟨ready.clock, ready.accepts, rfl, .inl queue⟩, took⟩
  · obtain ⟨next, ready', present', session, quiet, goesOn⟩ :=
      ready.exists_listen level bound present pattern inTime
    obtain ⟨reached, queue, took⟩ :=
      hear_of_shortest (present'.trans split) (session ▸ shortest) level
    exact ⟨_, goesOn.trans (listen_of_reached reached),
      ⟨ready'.clock, ready'.accepts, rfl, .inl queue⟩, quiet ▸ took⟩

end Listen

/-- An expect has its match with the first characters with which the pattern matches. -/
theorem Ready.expect (ready : engine.Ready rest) (split : rest = taken ++ later)
    (shortest : Shortest (engine.session.MatchesBehind pattern) taken) {limits : Limits}
    (positive : 0 < limits.receive.nanos) (raw : String) :
    let result := engine.expect limits raw pattern
    result.1 = .done ∧ result.2.Ready later ∧
      takenChars result.2.past = takenChars engine.past ++ taken := by
  have inTime : comesBefore 0 (momentAfter? engine.clock limits.receive) :=
    ready.clock ▸ comesBefore_momentAfter? engine.clock positive
  obtain ⟨last, listened, ready', took⟩ :=
    (ready.log (.expecting raw)).listen .debug limits.bound split shortest inTime
  have result : engine.expect limits raw pattern = (.done, last.forget.log (.matched raw)) := by
    rw [expect_eq, show (engine.log (.expecting raw)).listen .debug (engine.expected pattern) _ _ =
      _ from listened]
    rfl
  have took' : takenChars last.forget.past = takenChars engine.past ++ taken := by
    rw [← takenChars_log engine (.expecting raw)]
    exact took
  rw [result]
  exact ⟨rfl, ready'.log _, (takenChars_log _ _).trans took'⟩

end Engine

/-! ## The replay -/

theorem Step.exists_of_replayExpect {raw : String} {pattern : Pattern} {transcript : Transcript}
    (succeeded : (Step.replayExpect raw pattern transcript).failure = none) :
    ∃ missed hit later, transcript.ahead = missed ++ hit :: later ∧ pattern.matchesLine hit ∧
      (Step.replayExpect raw pattern transcript).transcript =
        (transcript.advance (missed ++ [hit]) later).record raw true := by
  rcases replayExpect_cases raw pattern transcript with
    ⟨missed, hit, later, ahead, -, hits, -, next⟩ | ⟨-, failed⟩
  · exact ⟨missed, hit, later, ahead, hits, next⟩
  · exact nomatch succeeded.symm.trans failed

/-- The engine and the replay have come equally far: all lines are those of the text, and the
engine has taken no more than those behind the cursor. -/
structure Alongside (text : List Char) (engine : Engine) (transcript : Transcript) : Prop where
  ready : ∃ rest, engine.Ready rest ∧ text = takenChars engine.past ++ rest
  lines : Text.pieces '\n' text = transcript.lines.map String.toList
  early : takenChars engine.past <+:
    Text.marked '\n' (transcript.passed.reverse.map String.toList)

namespace Alongside

variable {text : List Char} {engine : Engine} {transcript : Transcript}

section Hit

variable (alongside : Alongside text engine transcript) {missed later : List String}
  {hit : String} (ahead : transcript.ahead = missed ++ hit :: later)

include alongside ahead

theorem pieces_eq : Text.pieces '\n' text =
    (transcript.passed.reverse ++ missed).map String.toList ++
      hit.toList :: later.map String.toList := by
  simp [alongside.lines, Transcript.lines, ahead]

/-- The lines behind the cursor, once the lines up to the hit are read. -/
theorem intercalate_take_cursor :
    ['\n'].intercalate ((Text.pieces '\n' text).take
        (transcript.advance (missed ++ [hit]) later).cursor) =
      Text.marked '\n' ((transcript.passed.reverse ++ missed).map String.toList) ++
        hit.toList := by
  let passed := (transcript.passed.reverse ++ missed).map String.toList
  have count : (transcript.advance (missed ++ [hit]) later).cursor =
      (passed ++ [hit.toList]).length := by
    simp [Transcript.cursor, Transcript.advance, passed]
    omega
  have firstLines : (Text.pieces '\n' text).take (passed ++ [hit.toList]).length =
      passed ++ [hit.toList] :=
    (congrArg (List.take _) ((alongside.pieces_eq ahead).trans (List.append_cons ..))).trans
      List.take_left
  rw [count, firstLines, Text.intercalate_concat]

/-- Where a line matches, so do characters that the engine has not taken, the last of which is
in this line or comes before it. -/
theorem exists_shortest (noSigma : 'Σ' ∉ text) {pattern : Pattern}
    (notEmpty : pattern.matchesLine "" = false) (short : pattern.IsShort)
    (found : pattern.matchesLine hit) :
    ∃ taken rest, engine.Ready (taken ++ rest) ∧
      text = takenChars engine.past ++ taken ++ rest ∧
        Shortest (engine.session.MatchesBehind pattern) taken ∧
          takenChars engine.past ++ taken <+:
            Text.marked '\n' ((transcript.passed.reverse ++ missed).map String.toList) ++
              hit.toList := by
  obtain ⟨rest, ready, whole⟩ := alongside.ready
  have cut := alongside.pieces_eq ahead
  let passed := (transcript.passed.reverse ++ missed).map String.toList
  have upTo : Text.marked '\n' passed ++ hit.toList <+: text := Text.prefix_of_pieces_eq cut
  have noSigma' : 'Σ' ∉ hit.toList := fun member =>
    noSigma (upTo.subset (List.mem_append_right _ member))
  have among : hit.toList ∈ Text.pieces '\n' text := by simp [cut]
  have inLine : '\n' ∉ hit.toList := Text.not_mem_of_mem_pieces among
  have nonempty : hit.toList ≠ [] := by
    intro nothing
    rw [String.toList_eq_nil_iff.1 nothing, notEmpty] at found
    cases found
  -- What was not taken of the lines behind the cursor comes in front of the line that is hit.
  obtain ⟨front, split⟩ : takenChars engine.past <+: Text.marked '\n' passed := by
    refine alongside.early.trans ?_
    rw [show passed = _ from List.map_append, Text.marked_append]
    exact List.prefix_append _ _
  obtain ⟨taken, ⟨lag, within⟩, shortest⟩ := Session.exists_shortest_of_matchesLine ready.fresh
    short ⟨_, split⟩ inLine noSigma' nonempty found
  have reach : takenChars engine.past ++ taken ++ lag = Text.marked '\n' passed ++ hit.toList := by
    rw [List.append_assoc, within, ← List.append_assoc, split]
  obtain ⟨more, behind⟩ := upTo
  have same : rest = taken ++ (lag ++ more) := by
    rw [← reach, List.append_assoc, List.append_assoc, whole] at behind
    exact (List.append_cancel_left behind).symm
  exact ⟨taken, lag ++ more, same ▸ ready, by rw [whole, same, List.append_assoc], shortest,
    ⟨lag, reach⟩⟩

end Hit

/-- What succeeds in the replay succeeds with the engine, at the end of the line at the
latest. -/
theorem expect (alongside : Alongside text engine transcript) (noSigma : 'Σ' ∉ text)
    {raw : String} {pattern : Pattern} (notEmpty : pattern.matchesLine "" = false)
    (short : pattern.IsShort) {limits : Limits} (positive : 0 < limits.receive.nanos)
    (succeeded : (Step.replayExpect raw pattern transcript).failure = none) :
    let result := engine.expect limits raw pattern
    let replayed := (Step.replayExpect raw pattern transcript).transcript
    result.1 = .done ∧ Alongside text result.2 replayed ∧
      ∃ outcome, replayed.outcomes = transcript.outcomes ++ [outcome] ∧
        outcome.pattern = raw ∧ outcome.matched = true ∧
          takenChars result.2.past <+:
            ['\n'].intercalate ((Text.pieces '\n' text).take outcome.cursor) := by
  obtain ⟨missed, hit, later, ahead, found, replayed⟩ := Step.exists_of_replayExpect succeeded
  obtain ⟨taken, rest, ready, whole, shortest, early⟩ :=
    alongside.exists_shortest ahead noSigma notEmpty short found
  obtain ⟨done, ready', took⟩ := ready.expect rfl shortest positive raw
  rw [← took] at whole early
  refine ⟨done, ⟨⟨rest, ready', whole⟩, ?_, ?_⟩, ?_⟩
  · rw [alongside.lines, replayed]
    simp [Transcript.lines, Transcript.record, Transcript.advance, ahead]
  · have behind : ((transcript.advance (missed ++ [hit]) later).record raw true).passed.reverse =
        (transcript.passed.reverse ++ missed) ++ [hit] := by
      simp [Transcript.record, Transcript.advance]
    rw [replayed, behind, List.map_append, Text.marked_append, List.map_singleton,
      Text.marked_cons]
    exact early.trans ((List.prefix_append_right_inj _).2 (List.prefix_append _ _))
  · refine ⟨⟨raw, true, (transcript.advance (missed ++ [hit]) later).cursor⟩, ?_, rfl, rfl, ?_⟩
    · rw [replayed]
      rfl
    · rw [alongside.intercalate_take_cursor ahead]
      exact early

theorem send (alongside : Alongside text engine transcript) (limits : Limits) (raw : String) :
    (engine.send limits raw).1 = .done ∧ Alongside text (engine.send limits raw).2 transcript := by
  obtain ⟨rest, ready, whole⟩ := alongside.ready
  obtain ⟨done, ready', took⟩ := ready.send limits raw
  exact ⟨done, ⟨rest, ready', took ▸ whole⟩, alongside.lines, took ▸ alongside.early⟩

theorem log (alongside : Alongside text engine transcript) (entry : LogEntry) :
    Alongside text (engine.log entry) transcript := by
  obtain ⟨rest, ready, whole⟩ := alongside.ready
  have took := engine.takenChars_log entry
  exact ⟨⟨rest, ready.log entry, took ▸ whole⟩, alongside.lines, took ▸ alongside.early⟩

theorem start {device : Device} {text : String} (recites : device.Recites text) :
    Alongside text.toList (.ofDevice device) (.ofText text.toList) where
  ready := ⟨text.toList, Engine.ready_ofDevice recites, rfl⟩
  lines := by simp [Transcript.lines, Transcript.ofText, Function.comp_def]
  early := List.nil_prefix

end Alongside

/-! ## Rehearsed scripts -/

theorem Command.replayFrom_cons {index total : Nat} {transcript : Transcript} {command : Command}
    {later : List Command}
    (succeeded : (replayFrom index total transcript (command :: later)).failure = none) :
    let behind := replayFrom (index + 1) total (command.replay transcript).transcript later
    (command.replay transcript).failure = none ∧ behind.failure = none ∧
      (replayFrom index total transcript (command :: later)).transcript = behind.transcript := by
  cases outcome : (command.replay transcript).failure with
  | some source => exact nomatch succeeded.symm.trans (replayFrom_of_failed outcome ..)
  | none =>
      obtain ⟨failure, behind⟩ := replayFrom_of_done outcome index total later
      exact ⟨rfl, failure.symm.trans succeeded, behind⟩

theorem Command.of_replayAll_ok {commands : List Command} {transcript : Transcript}
    {outcomes : List Outcome} (succeeded : (replayAll commands transcript).result = .ok outcomes) :
    let replayed := replayFrom 0 commands.length transcript commands
    replayed.failure = none ∧ replayed.transcript.outcomes = outcomes := by
  simp only [replayAll, Replay.result] at succeeded
  cases failed : (replayFrom 0 commands.length transcript commands).failure with
  | some failure => simp [failed] at succeeded
  | none => simpa [failed] using succeeded

theorem Engine.exists_executeFrom_cons (engine : Engine) (limits : Limits) (index total : Nat)
    (command : Command) (later : List Command) :
    ∃ entry, ∀ next, (engine.log entry).performCommand limits command = (.done, next) →
      engine.executeFrom limits index total (command :: later) =
        next.executeFrom limits (index + 1) total later := by
  refine ⟨.info .engine ("Executing command " ++ toString (index + 1) ++ "/" ++ toString total ++
    ": " ++ command.text), fun next done => ?_⟩
  rw [executeFrom]
  simp only [done]

/-- The steps that were carried out are done, and every expect among them had its match by the
end of the line on which it had its match in the replay. -/
inductive Rehearsed (text : List Char) : List Deed → List Outcome → Prop where
  | over : Rehearsed text [] []
  | send {deed : Deed} {deeds : List Deed} {outcomes : List Outcome} {raw : String} :
      deed.step = .send raw → deed.ending = .done → Rehearsed text deeds outcomes →
        Rehearsed text (deed :: deeds) outcomes
  | expect {deed : Deed} {deeds : List Deed} {outcome : Outcome} {outcomes : List Outcome}
      {pattern : Pattern} :
      deed.step = .expect outcome.pattern pattern → deed.ending = .done →
        outcome.matched = true →
          takenChars deed.next.past <+:
            ['\n'].intercalate ((Text.pieces '\n' text).take outcome.cursor) →
              Rehearsed text deeds outcomes → Rehearsed text (deed :: deeds) (outcome :: outcomes)

/-- The steps of a script succeed one after another with the engine as they do in the replay. -/
theorem exists_rehearsed {text : List Char} (noSigma : 'Σ' ∉ text) {limits : Limits}
    (positive : 0 < limits.receive.nanos) (index total : Nat) (steps : List Step)
    (rehearsable : ∀ step ∈ steps, step.Rehearsable) {engine : Engine} {transcript : Transcript}
    (alongside : Alongside text engine transcript)
    (succeeded :
      (Command.replayFrom index total transcript (steps.map .step)).failure = none) :
    let result := engine.executeFrom limits index total (steps.map .step)
    let replayed := Command.replayFrom index total transcript (steps.map .step)
    result.1 = .done ∧ ∃ deeds outcomes, Chronicle engine deeds result.2 ∧
      deeds.map Deed.step = steps ∧
        replayed.transcript.outcomes = transcript.outcomes ++ outcomes ∧
          Rehearsed text deeds outcomes := by
  induction steps generalizing index engine transcript with
  | nil => exact ⟨rfl, [], [], .still engine, rfl, (List.append_nil _).symm, .over⟩
  | cons step later ih =>
      have rehearsableLater : ∀ step ∈ later, step.Rehearsable :=
        fun other member => rehearsable other (List.mem_cons_of_mem step member)
      obtain ⟨entry, goesOn⟩ := engine.exists_executeFrom_cons limits index total (.step step)
        (later.map .step)
      let deed : Deed := ⟨engine.log entry, limits, step⟩
      rw [List.map_cons] at succeeded ⊢
      dsimp only
      obtain ⟨first, behind, same⟩ := Command.replayFrom_cons succeeded
      cases rehearsable step List.mem_cons_self with
      | send raw =>
          obtain ⟨done, alongside⟩ := (alongside.log entry).send limits (Step.payload raw)
          obtain ⟨done', deeds, outcomes, chronicle, carried, recorded, rehearsed⟩ :=
            ih (index + 1) rehearsableLater alongside behind
          rw [goesOn deed.next (Prod.ext done rfl), same]
          exact ⟨done', deed :: deeds, outcomes, .said (.perform chronicle),
            congrArg (_ :: ·) carried, recorded, .send rfl done rehearsed⟩
      | @expect raw pattern notEmpty short =>
          obtain ⟨done, alongside, outcome, recorded, named, matched, early⟩ :=
            (alongside.log entry).expect noSigma notEmpty short positive first
          obtain ⟨done', deeds, outcomes, chronicle, carried, recorded', rehearsed⟩ :=
            ih (index + 1) rehearsableLater alongside behind
          rw [goesOn deed.next (Prod.ext done rfl), same]
          refine ⟨done', deed :: deeds, outcome :: outcomes, .said (.perform chronicle),
            congrArg (_ :: ·) carried, ?_, .expect (by rw [named]) done matched early rehearsed⟩
          exact recorded'.trans ((congrArg (· ++ outcomes) recorded).trans (List.append_assoc ..))

/-- A rehearsal carries over to the device.  A script of sends and expects that succeeds against
a text succeeds with a device that delivers the text at once and takes what is sent to it.
Every expect has its match by the end of the line on which it had its match in the replay. -/
theorem rehearsal_carries_over (text : String) (noSigma : 'Σ' ∉ text.toList) (steps : List Step)
    (rehearsable : ∀ step ∈ steps, step.Rehearsable) (outcomes : List Outcome)
    (succeeded :
      (Command.replayAll (steps.map .step) (.ofText text.toList)).result = .ok outcomes)
    (device : Device) (recites : device.Recites text) (timeouts : Timeouts)
    (positive : 0 < timeouts.receive.nanos) :
    let result := (Engine.ofDevice device).run timeouts (steps.map .step)
    result.1 = .done ∧ ∃ deeds, Chronicle (.ofDevice device) deeds result.2 ∧
      deeds.map Deed.step = steps ∧ Rehearsed text.toList deeds outcomes := by
  obtain ⟨replayed, same⟩ := Command.of_replayAll_ok succeeded
  have unmonitored : (steps.map Command.step).any Command.monitors = false := by
    rw [List.any_eq_false]
    intro command member
    obtain ⟨step, among, rfl⟩ := List.mem_map.1 member
    cases rehearsable step among <;> simp [Command.monitors, Step.monitors]
  have opened : (Engine.ofDevice device).openRun (steps.map .step) = .ofDevice device := by
    rw [Engine.openRun, unmonitored]
    rfl
  let limits : Limits := ⟨timeouts.receive,
    momentAfter? 0 (Engine.runLength timeouts (steps.map .step))⟩
  have positive' : 0 < limits.receive.nanos := positive
  obtain ⟨done, deeds, outcomes', chronicle, carried, recorded, rehearsed⟩ :=
    exists_rehearsed noSigma positive' 0 (steps.map Command.step).length steps rehearsable
      (.start recites) replayed
  obtain rfl : outcomes' = outcomes := recorded.symm.trans same
  dsimp only
  rw [Engine.run_eq, opened]
  refine ⟨?_, deeds, chronicle, carried, rehearsed⟩
  exact congrArg (Engine.scriptTimedOut timeouts _) done

/-- A greeting is sent, and a prompt is found on the second line. -/
theorem rehearsal_carries_over_prompt :
    let steps : List Step := [.send "'hi'", .expect "\"ok\"" ⟨"ok", .lineStart "ok"⟩]
    let device : Device :=
      { feed := [⟨0, .bytes "hi\nok".toUTF8.data.toList⟩], receive := fun _ _ => .accepted [] }
    (Command.replayAll (steps.map .step) (.ofText "hi\nok".toList)).result =
        .ok [⟨"\"ok\"", true, 2⟩] ∧
      ((Engine.ofDevice device).run ⟨.ofSeconds 1, .ofSeconds 1⟩ (steps.map .step)).1 = .done := by
  intro steps device
  have replayed : (Command.replayAll (steps.map .step) (.ofText "hi\nok".toList)).result =
      .ok [⟨"\"ok\"", true, 2⟩] := by
    decide +kernel
  have rehearsable : ∀ step ∈ steps, step.Rehearsable := by
    intro step member
    rcases List.mem_cons.1 member with rfl | member
    · exact .send _
    · obtain rfl := List.mem_singleton.1 member
      exact .expect _ (by decide +kernel) nofun
  have recites : device.Recites "hi\nok" :=
    ⟨⟨[_], none, rfl, List.flatten_singleton, nofun⟩, fun _ _ => rfl⟩
  exact ⟨replayed, (rehearsal_carries_over "hi\nok" (by decide +kernel) steps rehearsable _ replayed
    device recites _ (by decide)).1⟩

end SerialDialogue
