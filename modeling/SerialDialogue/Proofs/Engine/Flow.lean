import SerialDialogue.Proofs.Engine.Onward
import SerialDialogue.Proofs.Session.Take
import SerialDialogue.Proofs.Utf8

/-!
# The flow of characters

Characters come from the device as bytes, wait in the queue of the engine and are pushed
into its session.  `Flow` is that way on its own: every move along it takes one thing from
the front of one place to the end of the next one, so that nothing can get lost, come
twice or overtake.  Whatever is done with an engine, its characters move in this way.
-/

namespace SerialDialogue

/-- A change on the way of the characters. -/
inductive Move where
  /-- Bytes are read from the device. -/
  | read (content : List UInt8)
  /-- A character is pushed into the session. -/
  | push (c : Char)
  /-- The session forgets its text. -/
  | forgetText
  /-- The session forgets its text and its line. -/
  | forget
  deriving Repr, DecidableEq

/-- The characters on their way into a session, and what has passed so far. -/
structure Flow where
  /-- The bytes that were read. -/
  received : List UInt8 := []
  decoder : Utf8.Decoder := {}
  /-- The characters that were read and not yet pushed. -/
  queue : List Char := []
  /-- The characters that were ever pushed. -/
  pushed : List Char := []
  session : Session := {}

namespace Move

def bytes : Move → List UInt8
  | read content => content
  | _ => []

def chars : Move → List Char
  | push c => [c]
  | _ => []

/-- The move takes something along, and does not only forget. -/
def carries : Move → Bool
  | read _ => true
  | push _ => true
  | _ => false

theorem flatMap_filter_carries {α : Type} {part : Move → List α}
    (nothingCarried : ∀ move, ¬ move.carries → part move = []) (moves : List Move) :
    (moves.filter carries).flatMap part = moves.flatMap part := by
  induction moves with
  | nil => rfl
  | cons move later ih =>
      rw [List.filter_cons, List.flatMap_cons, ← ih]
      split
      · rfl
      · rename_i idle
        rw [nothingCarried move idle, List.nil_append]

theorem bytes_of_not_carries (move : Move) (idle : ¬ move.carries) : move.bytes = [] := by
  cases move <;> simp [carries, bytes] at idle ⊢

theorem chars_of_not_carries (move : Move) (idle : ¬ move.carries) : move.chars = [] := by
  cases move <;> simp [carries, chars] at idle ⊢

end Move

namespace Flow

/-- Bytes are read: their characters come behind those in the queue. -/
def read (flow : Flow) (content : List UInt8) : Flow :=
  { flow with
    received := flow.received ++ content
    decoder := (flow.decoder.feed content).2
    queue := flow.queue ++ (flow.decoder.feed content).1 }

/-- A character is pushed that others wait behind. -/
def push (flow : Flow) (c : Char) (rest : List Char) : Flow :=
  { flow with
    queue := rest
    pushed := flow.pushed ++ [c]
    session := (flow.session.push c).2 }

/-- Make one move.  Only the first character of the queue can be pushed. -/
def move? (flow : Flow) : Move → Option Flow
  | .read content => some (flow.read content)
  | .push c =>
      match flow.queue with
      | [] => none
      | first :: rest => if first = c then some (flow.push c rest) else none
  | .forgetText => some { flow with session := flow.session.forgetText }
  | .forget => some { flow with session := flow.session.forget }

theorem move?_push {flow next : Flow} {c : Char} (moves : flow.move? (.push c) = some next) :
    ∃ rest, flow.queue = c :: rest ∧ next = flow.push c rest := by
  unfold move? at moves
  dsimp only at moves
  split at moves
  · cases moves
  · rename_i first rest queue
    split at moves
    · rename_i same
      exact ⟨rest, same ▸ queue, (Option.some.inj moves).symm⟩
    · cases moves

def replay? (flow : Flow) : List Move → Option Flow
  | [] => some flow
  | move :: later => (flow.move? move).bind fun next => next.replay? later

/-- What was pushed and then what is in the queue is what the bytes read stand for. -/
def Conserved (flow : Flow) : Prop :=
  Utf8.Decoder.feed {} flow.received = (flow.pushed ++ flow.queue, flow.decoder)

theorem conserved_start : Conserved {} :=
  rfl

theorem Conserved.move? {flow next : Flow} {move : Move} (conserved : flow.Conserved)
    (moves : flow.move? move = some next) : next.Conserved := by
  cases move with
  | read content =>
      obtain rfl := Option.some.inj moves
      rw [Conserved, Flow.read, Utf8.Decoder.feed_append, conserved, List.append_assoc]
  | push c =>
      obtain ⟨rest, queue, rfl⟩ := move?_push moves
      rw [Conserved, push, conserved, queue, List.append_assoc, List.singleton_append]
  | forgetText =>
      obtain rfl := Option.some.inj moves
      exact conserved
  | forget =>
      obtain rfl := Option.some.inj moves
      exact conserved

theorem Conserved.replay? {flow next : Flow} {moves : List Move} (conserved : flow.Conserved)
    (replayed : flow.replay? moves = some next) : next.Conserved := by
  induction moves generalizing flow with
  | nil =>
      obtain rfl := Option.some.inj replayed
      exact conserved
  | cons move later ih =>
      obtain ⟨behind, moves, replayed⟩ := Option.bind_eq_some_iff.1 replayed
      exact ih (conserved.move? moves) replayed

theorem passed_move? {flow next : Flow} {move : Move} (moves : flow.move? move = some next) :
    next.received = flow.received ++ move.bytes ∧ next.pushed = flow.pushed ++ move.chars := by
  cases move with
  | read content =>
      obtain rfl := Option.some.inj moves
      exact ⟨rfl, (List.append_nil _).symm⟩
  | push c =>
      obtain ⟨rest, -, rfl⟩ := move?_push moves
      exact ⟨(List.append_nil _).symm, rfl⟩
  | forgetText =>
      obtain rfl := Option.some.inj moves
      exact ⟨(List.append_nil _).symm, (List.append_nil _).symm⟩
  | forget =>
      obtain rfl := Option.some.inj moves
      exact ⟨(List.append_nil _).symm, (List.append_nil _).symm⟩

theorem passed_replay? {flow last : Flow} {moves : List Move}
    (replayed : flow.replay? moves = some last) :
    last.received = flow.received ++ moves.flatMap Move.bytes ∧
      last.pushed = flow.pushed ++ moves.flatMap Move.chars := by
  induction moves generalizing flow with
  | nil =>
      obtain rfl := Option.some.inj replayed
      exact ⟨(List.append_nil _).symm, (List.append_nil _).symm⟩
  | cons move later ih =>
      obtain ⟨next, moved, replayed⟩ := Option.bind_eq_some_iff.1 replayed
      obtain ⟨received, pushed⟩ := passed_move? moved
      obtain ⟨received', pushed'⟩ := ih replayed
      rw [received', pushed', received, pushed, List.flatMap_cons, List.flatMap_cons,
        List.append_assoc, List.append_assoc]
      exact ⟨rfl, rfl⟩

theorem replay?_append (flow : Flow) (earlier later : List Move) :
    flow.replay? (earlier ++ later) =
      (flow.replay? earlier).bind fun next => next.replay? later := by
  induction earlier generalizing flow with
  | nil => rfl
  | cons move rest ih =>
      rw [List.cons_append, replay?, replay?, Option.bind_assoc]
      exact congrArg _ (funext ih)

theorem exists_replay?_of_prefix {flow last : Flow} {earlier moves : List Move}
    (replayed : flow.replay? moves = some last) (early : earlier <+: moves) :
    ∃ point, flow.replay? earlier = some point := by
  obtain ⟨later, rfl⟩ := early
  rw [replay?_append] at replayed
  obtain ⟨point, reached, -⟩ := Option.bind_eq_some_iff.1 replayed
  exact ⟨point, reached⟩

end Flow

/-- The moves that an event reports. -/
def Event.moves : Event → List Move
  | read content => [.read content]
  | took text => text.map .push
  | _ => []

/-- The moves that were reported, in their order. -/
def reportedMoves (past : List (Nat × Event)) : List Move :=
  past.reverse.flatMap fun happened => happened.2.moves

theorem reportedMoves_append (later earlier : List (Nat × Event)) :
    reportedMoves (later ++ earlier) = reportedMoves earlier ++ reportedMoves later :=
  told_append Event.moves later earlier

theorem flatMap_reportedMoves {α : Type} (carried : Move → List α) (past : List (Nat × Event)) :
    (reportedMoves past).flatMap carried = told (fun event => event.moves.flatMap carried) past :=
  List.flatMap_assoc

theorem Engine.told_moves_since_hear {α : Type} (carried : Move → List α) (engine : Engine)
    (level : Level) (goal : Goal) :
    told (fun event => event.moves.flatMap carried) ((engine.hear level goal).2.since engine) =
      (engine.queue.take (engine.session.take goal engine.queue).count).flatMap
        fun c => carried (.push c) := by
  have silent (lines : List String) : (lines.flatMap fun line =>
      (Event.logged (.received level .listener line)).moves.flatMap carried) = [] :=
    List.flatMap_eq_nil_iff.2 fun _ _ => rfl
  rw [told_since_hear, silent, List.append_nil, Event.moves, List.flatMap_map]

theorem Channel.decoder_expectMore (channel : Channel) (arrivals : List Arrival) :
    (channel.expectMore arrivals).decoder = channel.decoder := by
  unfold expectMore
  split <;> rfl

namespace Engine

/-- The flow has come to where the engine is. -/
structure Abreast (engine : Engine) (flow : Flow) : Prop where
  decoder : flow.decoder = engine.channel.decoder
  queue : flow.queue = engine.queue
  session : flow.session = engine.session

/-- The second engine came from the first one by moves of the flow, and reported those
that carried something. -/
def FlowsTo (first second : Engine) : Prop :=
  ∃ news moves, second.past = news ++ first.past ∧
    moves.filter Move.carries = reportedMoves news ∧
    ∀ flow, Abreast first flow → ∃ flow', flow.replay? moves = some flow' ∧ Abreast second flow'

namespace Abreast

variable {engine : Engine} {flow : Flow}

theorem readFrom {channel : Channel} (decoder : flow.decoder = channel.decoder) (now : Nat)
    (arrivals : List Arrival) :
    ∃ flow', flow.replay? ((channel.readFrom now arrivals).pieces.map fun piece =>
        .read piece.2) = some flow' ∧
      flow'.decoder = (channel.readFrom now arrivals).channel.decoder ∧
      flow'.queue = flow.queue ++ (channel.readFrom now arrivals).text ∧
      flow'.session = flow.session := by
  induction arrivals generalizing channel flow with
  | nil => exact ⟨flow, rfl, decoder, (List.append_nil _).symm, rfl⟩
  | cons arrival later ih =>
      unfold Channel.readFrom
      split
      · split
        · rename_i content _
          let behind : Channel := { channel with decoder := (channel.decoder.feed content).2 }
          have read : (flow.read content).decoder = behind.decoder := by
            rw [Flow.read, decoder]
          obtain ⟨flow', replayed, decoder', queue, session⟩ := ih read
          refine ⟨flow', replayed, decoder', ?_, session⟩
          rw [queue, Flow.read, decoder]
          exact List.append_assoc ..
        · exact ⟨flow, rfl, decoder, (List.append_nil _).symm, rfl⟩
        · exact ⟨flow, rfl, decoder, (List.append_nil _).symm, rfl⟩
      · exact ⟨flow, rfl, decoder, (List.append_nil _).symm, rfl⟩

theorem pushAll {before rest : List Char} (queue : flow.queue = before ++ rest) :
    ∃ flow', flow.replay? (before.map .push) = some flow' ∧ flow'.decoder = flow.decoder ∧
      flow'.queue = rest ∧ flow'.session = flow.session.pushAll before := by
  induction before generalizing flow with
  | nil => exact ⟨flow, rfl, rfl, queue, rfl⟩
  | cons c before ih =>
      have moved : flow.move? (.push c) = some (flow.push c (before ++ rest)) := by
        simp [Flow.move?, queue]
      rw [List.map_cons, Flow.replay?, moved]
      exact ih rfl

end Abreast

namespace FlowsTo

variable {first second third : Engine}

theorem refl (engine : Engine) : FlowsTo engine engine :=
  ⟨[], [], rfl, rfl, fun flow abreast => ⟨flow, rfl, abreast⟩⟩

theorem trans (earlier : FlowsTo first second) (later : FlowsTo second third) :
    FlowsTo first third := by
  obtain ⟨news, moves, past, carried, replay⟩ := earlier
  obtain ⟨news', moves', past', carried', replay'⟩ := later
  refine ⟨news' ++ news, moves ++ moves', by rw [past', past, List.append_assoc], ?_, ?_⟩
  · rw [List.filter_append, carried, carried', reportedMoves_append]
  · intro flow abreast
    obtain ⟨flow', replayed, abreast⟩ := replay flow abreast
    obtain ⟨flow'', replayed', abreast⟩ := replay' flow' abreast
    refine ⟨flow'', ?_, abreast⟩
    rw [Flow.replay?_append, replayed]
    exact replayed'

/-- An engine that has reported nothing about its characters has them where they were. -/
theorem of_note {event : Event} (silent : event.moves = []) (engine : Engine) :
    FlowsTo engine (engine.note event) := by
  refine ⟨[(engine.clock, event)], [], rfl, ?_, fun flow abreast => ⟨flow, rfl, ?_⟩⟩
  · simp [reportedMoves, silent]
  · exact ⟨abreast.decoder, abreast.queue, abreast.session⟩

theorem of_eq (past : second.past = first.past)
    (decoder : second.channel.decoder = first.channel.decoder)
    (queue : second.queue = first.queue) (session : second.session = first.session) :
    FlowsTo first second := by
  refine ⟨[], [], past, rfl, fun flow abreast => ⟨flow, rfl, ?_⟩⟩
  exact ⟨abreast.decoder.trans decoder.symm, abreast.queue.trans queue.symm,
    abreast.session.trans session.symm⟩

theorem readBy (engine : Engine) (time : Nat) : FlowsTo engine (engine.readBy time) := by
  refine ⟨_, (engine.channel.read time).pieces.map fun piece => .read piece.2, rfl, ?_, ?_⟩
  · rw [reportedMoves, List.reverse_reverse, List.flatMap_map, List.filter_eq_self.2]
    · exact List.map_eq_flatMap
    · intro move member
      obtain ⟨piece, _, rfl⟩ := List.mem_map.1 member
      rfl
  · intro flow abreast
    obtain ⟨flow', replayed, decoder, queue, session⟩ :=
      Abreast.readFrom abreast.decoder time engine.channel.coming
    refine ⟨flow', replayed, decoder, ?_, session.trans abreast.session⟩
    rw [queue, abreast.queue]
    rfl

theorem hear (engine : Engine) (level : Level) (goal : Goal) :
    FlowsTo engine (engine.hear level goal).2 := by
  obtain ⟨before, split, taken, pushed⟩ := engine.session.exists_take goal engine.queue
  refine ⟨_, before.map .push, rfl, ?_, fun flow abreast => ?_⟩
  · rw [List.filter_eq_self.2]
    · simp [reportedMoves, Function.comp_def, Event.moves, taken]
    · intro move member
      obtain ⟨c, _, rfl⟩ := List.mem_map.1 member
      rfl
  · obtain ⟨flow', replayed, decoder, queue, session⟩ :=
      Abreast.pushAll (abreast.queue.trans split)
    refine ⟨flow', replayed, decoder.trans abreast.decoder, queue, ?_⟩
    rw [session, abreast.session]
    exact pushed.symm

theorem forget (engine : Engine) : FlowsTo engine engine.forget := by
  refine ⟨[], [.forget], rfl, rfl, fun flow abreast => ⟨_, rfl, ?_⟩⟩
  exact ⟨abreast.decoder, abreast.queue, congrArg Session.forget abreast.session⟩

theorem forgetText (engine : Engine) : FlowsTo engine engine.forgetText := by
  refine ⟨[], [.forgetText], rfl, rfl, fun flow abreast => ⟨_, rfl, ?_⟩⟩
  exact ⟨abreast.decoder, abreast.queue, congrArg Session.forgetText abreast.session⟩

end FlowsTo

theorem progression_flowsTo : Progression FlowsTo where
  refl := .refl
  trans := .trans
  log engine _ := .of_note rfl engine
  wrote engine _ := .of_note rfl engine
  passTo _ _ := .of_eq rfl rfl rfl rfl
  readBy := .readBy
  hear := .hear
  forget := .forget
  forgetText := .forgetText
  noteSending _ _ := .of_eq rfl rfl rfl rfl
  expectMore engine replies := .of_eq rfl (engine.channel.decoder_expectMore replies) rfl rfl

/-- No character is lost, comes twice or overtakes another one, whatever is done with an
engine.  What it reported to have pushed, followed by its queue, is what the bytes stand
for that it reported to have read.  It has come to its state by moves of the flow, those
that it reported with nothing but forgetting between them, and the same holds at every point
on that way. -/
theorem characters_conserved (device : Device) (turns : List Turn) :
    let engine := (ofDevice device).after turns
    let reported := reportedMoves engine.past
    reported.flatMap Move.chars ++ engine.queue =
        (Utf8.Decoder.feed {} (reported.flatMap Move.bytes)).1 ∧
      ∃ moves last, moves.filter Move.carries = reported ∧
        Flow.replay? {} moves = some last ∧ engine.Abreast last ∧
        ∀ earlier, earlier <+: moves → ∃ point, Flow.replay? {} earlier = some point ∧
          point.pushed ++ point.queue = (Utf8.Decoder.feed {} point.received).1 := by
  intro engine reported
  obtain ⟨news, moves, past, carried, replay⟩ :=
    progression_flowsTo.after (ofDevice device) turns
  obtain ⟨last, replayed, abreast⟩ := replay {} ⟨rfl, rfl, rfl⟩
  have all : reportedMoves engine.past = reportedMoves news :=
    congrArg reportedMoves (past.trans (List.append_nil news))
  have conserved := Flow.conserved_start.replay? replayed
  obtain ⟨received, pushed⟩ := Flow.passed_replay? replayed
  refine ⟨?_, moves, last, carried.trans all.symm, replayed, abreast, ?_⟩
  · rw [← Move.flatMap_filter_carries Move.bytes_of_not_carries, carried, ← all] at received
    rw [← Move.flatMap_filter_carries Move.chars_of_not_carries, carried, ← all] at pushed
    rw [Flow.Conserved, received, pushed, abreast.queue] at conserved
    exact (congrArg Prod.fst conserved).symm
  · intro earlier early
    obtain ⟨point, reached⟩ := Flow.exists_replay?_of_prefix replayed early
    exact ⟨point, reached, (congrArg Prod.fst (Flow.conserved_start.replay? reached)).symm⟩

end Engine

end SerialDialogue
