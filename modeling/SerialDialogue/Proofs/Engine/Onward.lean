import SerialDialogue.Proofs.Engine.Progression

/-!
# Engines go onward

Whatever an engine carries out, its clock does not go back and its past only grows, by
events of the time between: `Engine.progression_onward`.  `Engine.since` reads off what was
added, and `told` what the events of it tell about some matter.
-/

namespace SerialDialogue

/-- What the events of a past tell, the earliest first. -/
def told {α : Type} (tells : Event → List α) (past : List (Nat × Event)) : List α :=
  past.reverse.flatMap fun happened => tells happened.2

section Told

variable {α : Type} (tells : Event → List α)

theorem told_append (later earlier : List (Nat × Event)) :
    told tells (later ++ earlier) = told tells earlier ++ told tells later := by
  rw [told, List.reverse_append, List.flatMap_append]
  rfl

theorem told_singleton (time : Nat) (event : Event) : told tells [(time, event)] = tells event :=
  List.append_nil _

theorem told_map (time : Nat) (events : List Event) :
    told tells (events.map (time, ·)) = events.reverse.flatMap tells := by
  rw [told, ← List.map_reverse, List.flatMap_map]

end Told

theorem Channel.le_of_mem_pieces_readFrom {channel : Channel} {now : Nat}
    {arrivals : List Arrival} {piece : Nat × List UInt8}
    (read : piece ∈ (channel.readFrom now arrivals).pieces) : piece.1 ≤ now := by
  induction arrivals generalizing channel with
  | nil => simp [readFrom] at read
  | cons arrival later ih =>
      unfold readFrom at read
      split at read
      · rename_i reached
        split at read
        · rcases List.mem_cons.1 read with rfl | further
          · exact reached
          · exact ih further
        · simp at read
        · simp at read
      · simp at read

theorem Channel.device_readFrom (channel : Channel) (now : Nat) (arrivals : List Arrival) :
    (channel.readFrom now arrivals).channel.device = channel.device := by
  induction arrivals generalizing channel with
  | nil => rfl
  | cons arrival later ih =>
      unfold readFrom
      split
      · split
        · exact ih _
        · rfl
        · rfl
      · rfl

@[simp]
theorem Channel.expectMore_nil (channel : Channel) : channel.expectMore [] = channel := by
  unfold expectMore
  split <;> rfl

namespace Engine

/-- What a device feeds in the order of its times is to come in just that order. -/
theorem ofDevice_of_pairwise {device : Device}
    (inOrder : device.feed.Pairwise fun first second => first.time ≤ second.time) :
    ofDevice device = { channel := { device := device, coming := device.feed } } := by
  have sorted : device.feed.mergeSort (fun first second => first.time ≤ second.time) =
      device.feed :=
    List.mergeSort_of_pairwise (inOrder.imp decide_eq_true)
  exact congrArg
    (fun coming : List Arrival => Engine.mk 0 ⟨device, [], coming, {}, false⟩ [] {} []) sorted

/-- The second engine is the first one at a later moment. -/
structure Onward (first second : Engine) : Prop where
  clock_le : first.clock ≤ second.clock
  past_eq : ∃ news, second.past = news ++ first.past ∧
    ∀ happened ∈ news, first.clock ≤ happened.1 ∧ happened.1 ≤ second.clock

/-- What happened to an engine since it was `start`, the latest first. -/
def since (engine start : Engine) : List (Nat × Event) :=
  engine.past.take (engine.past.length - start.past.length)

theorem since_eq {engine start : Engine} {news : List (Nat × Event)}
    (past : engine.past = news ++ start.past) : engine.since start = news := by
  simp [since, past]

theorem since_of_past_eq {engine start : Engine} (past : engine.past = start.past) :
    engine.since start = [] := by
  simp [since, past]

namespace Onward

variable {first second third : Engine}

theorem refl (engine : Engine) : Onward engine engine :=
  ⟨Nat.le_refl _, [], rfl, by simp⟩

theorem trans (earlier : Onward first second) (later : Onward second third) :
    Onward first third := by
  obtain ⟨before, news, past, times⟩ := earlier
  obtain ⟨after, news', past', times'⟩ := later
  refine ⟨Nat.le_trans before after, news' ++ news,
    by rw [past', past, List.append_assoc], ?_⟩
  intro happened member
  rcases List.mem_append.1 member with late | early
  · exact ⟨Nat.le_trans before (times' _ late).1, (times' _ late).2⟩
  · exact ⟨(times _ early).1, Nat.le_trans (times _ early).2 after⟩

theorem of_eq (clock : second.clock = first.clock) (past : second.past = first.past) :
    Onward first second :=
  ⟨Nat.le_of_eq clock.symm, [], by simp [past], by simp⟩

/-- What happened since then comes behind what happened before. -/
theorem since_trans (earlier : Onward first second) (later : Onward second third) :
    third.since first = third.since second ++ second.since first := by
  obtain ⟨-, news, past, -⟩ := earlier
  obtain ⟨-, news', past', -⟩ := later
  have both : third.past = (news' ++ news) ++ first.past := by
    rw [past', past, List.append_assoc]
  rw [since_eq past, since_eq past', since_eq both]

theorem told_since {α : Type} (tells : Event → List α) (earlier : Onward first second)
    (later : Onward second third) : told tells (third.since first) =
      told tells (second.since first) ++ told tells (third.since second) := by
  rw [earlier.since_trans later, told_append]

theorem told_past {α : Type} (tells : Event → List α) (onward : Onward first second) :
    told tells second.past = told tells first.past ++ told tells (second.since first) := by
  obtain ⟨-, news, past, -⟩ := onward
  rw [since_eq past, past, told_append]

theorem time_of_mem_since (onward : Onward first second) {happened : Nat × Event}
    (member : happened ∈ second.since first) :
    first.clock ≤ happened.1 ∧ happened.1 ≤ second.clock := by
  obtain ⟨-, news, past, times⟩ := onward
  exact times happened (since_eq past ▸ member)

end Onward

/-! ## Single changes -/

theorem onward_note (engine : Engine) (event : Event) : Onward engine (engine.note event) :=
  ⟨Nat.le_refl _, [(engine.clock, event)], rfl, by simp [note]⟩

theorem since_note (engine : Engine) (event : Event) :
    (engine.note event).since engine = [(engine.clock, event)] := by
  simp [since, note]

theorem onward_log (engine : Engine) (entry : LogEntry) : Onward engine (engine.log entry) :=
  engine.onward_note (.logged entry)

theorem onward_passTo (engine : Engine) (time : Nat) : Onward engine (engine.passTo time) :=
  ⟨Nat.le_max_left _ _, [], rfl, by simp⟩

theorem onward_readBy (engine : Engine) (time : Nat) : Onward engine (engine.readBy time) := by
  refine ⟨Nat.le_max_left _ _, _, rfl, ?_⟩
  intro happened member
  obtain ⟨piece, read, rfl⟩ := List.mem_map.1 (List.mem_reverse.1 member)
  have := Channel.le_of_mem_pieces_readFrom read
  simp only [readBy]
  omega

theorem onward_hear (engine : Engine) (level : Level) (goal : Goal) :
    Onward engine (engine.hear level goal).2 := by
  refine ⟨Nat.le_refl _, _, rfl, ?_⟩
  intro happened member
  obtain ⟨event, _, rfl⟩ := List.mem_map.1 member
  exact ⟨Nat.le_refl _, Nat.le_refl _⟩

theorem since_hear (engine : Engine) (level : Level) (goal : Goal) :
    (engine.hear level goal).2.since engine =
      ((engine.session.take goal engine.queue).lines.map
          (fun line => Event.logged (.received level .listener line)) ++
        [Event.took (engine.queue.take (engine.session.take goal engine.queue).count)]).map
          (engine.clock, ·) :=
  since_eq rfl

theorem told_since_note {α : Type} (tells : Event → List α) (engine : Engine) (event : Event) :
    told tells ((engine.note event).since engine) = tells event := by
  rw [since_note, told_singleton]

theorem told_since_readBy {α : Type} (tells : Event → List α) (engine : Engine) (time : Nat) :
    told tells ((engine.readBy time).since engine) =
      (engine.channel.read time).pieces.flatMap fun piece => tells (.read piece.2) := by
  rw [since_eq rfl, told, List.reverse_reverse, List.flatMap_map]

/-- What hearing tells: the characters were taken, and then the lines were shown. -/
theorem told_since_hear {α : Type} (tells : Event → List α) (engine : Engine) (level : Level)
    (goal : Goal) :
    let outcome := engine.session.take goal engine.queue
    told tells ((engine.hear level goal).2.since engine) =
      tells (.took (engine.queue.take outcome.count)) ++ outcome.lines.reverse.flatMap
        fun line => tells (.logged (.received level .listener line)) := by
  rw [since_hear, told_map, List.reverse_append, List.flatMap_append, List.reverse_singleton,
    List.flatMap_singleton, ← List.map_reverse, List.flatMap_map]

theorem progression_onward : Progression Onward where
  refl := .refl
  trans := .trans
  log := onward_log
  wrote engine text := engine.onward_note (.wrote text)
  passTo := onward_passTo
  readBy := onward_readBy
  hear := onward_hear
  forget _ := .of_eq rfl rfl
  forgetText _ := .of_eq rfl rfl
  noteSending _ _ := .of_eq rfl rfl
  expectMore _ _ := .of_eq rfl rfl

end Engine

end SerialDialogue
