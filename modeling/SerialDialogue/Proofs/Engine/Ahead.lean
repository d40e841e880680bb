import SerialDialogue.Proofs.Engine.Hearing
import SerialDialogue.Proofs.Engine.Waiting

/-!
# What lies ahead of an engine

The characters that an engine has not taken yet are those in its queue and those that are still to
come, each of them at its moment.  Listening takes them in this order.  Those that are due before
the deadline and by the bound are offered to the session, and whatever that comes to is what
listening comes to: `Engine.attended_listen`.  So the waits of an engine, and the pieces in which
its bytes come, do not matter for what it hears.
-/

namespace SerialDialogue

/-- Of items in order those that pass a test come in front, if whatever comes before one that
passes it passes it as well. -/
theorem filter_prefix_of_pairwise {α : Type} {relation : α → α → Prop} (test : α → Bool)
    (downward : ∀ first second, relation first second → test second → test first)
    {items : List α} (inOrder : items.Pairwise relation) : items.filter test <+: items := by
  induction items with
  | nil => exact List.prefix_rfl
  | cons item later ih =>
      obtain ⟨behind, rest⟩ := List.pairwise_cons.1 inOrder
      by_cases passes : test item
      · rw [List.filter_cons_of_pos passes]
        exact (List.cons_prefix_cons).2 ⟨rfl, ih rest⟩
      · have noneLater : (item :: later).filter test = [] := by
          rw [List.filter_eq_nil_iff]
          intro other member other_passes
          rcases List.mem_cons.1 member with rfl | further
          · exact passes other_passes
          · exact passes (downward item other (behind other further) other_passes)
        rw [noneLater]
        exact List.nil_prefix

theorem comesBy_of_le {first second : Nat} {limit : Option Nat} (le : first ≤ second)
    (inTime : comesBy second limit) : comesBy first limit := by
  cases limit with
  | none => rfl
  | some expiry =>
      rw [comesBy_some] at inTime ⊢
      omega

theorem comesBefore_of_le {first second : Nat} {limit : Option Nat} (le : first ≤ second)
    (before : comesBefore second limit) : comesBefore first limit := by
  cases limit with
  | none => rfl
  | some expiry =>
      rw [comesBefore_some] at before ⊢
      omega

namespace Channel

/-- The characters that arrivals bring to one who reads from `now` on, each with the moment at
which it is there.  Nothing overtakes what is in front of it, and behind the end of the stream
nothing comes. -/
def scheduleFrom (decoder : Utf8.Decoder) (now : Nat) : List Arrival → List (Nat × Char)
  | [] => []
  | arrival :: later =>
      match arrival.delivery with
      | .bytes content =>
          (decoder.feed content).1.map (max now arrival.time, ·) ++
            scheduleFrom (decoder.feed content).2 (max now arrival.time) later
      | .close | .failure => []

/-- The characters that are still to come, each with its moment. -/
def schedule (channel : Channel) (now : Nat) : List (Nat × Char) :=
  scheduleFrom channel.decoder now channel.coming

theorem le_of_mem_scheduleFrom {decoder : Utf8.Decoder} {now : Nat} {arrivals : List Arrival}
    {moment : Nat × Char} (member : moment ∈ scheduleFrom decoder now arrivals) :
    now ≤ moment.1 := by
  induction arrivals generalizing decoder now with
  | nil => cases member
  | cons arrival later ih =>
      unfold scheduleFrom at member
      split at member
      · rcases List.mem_append.1 member with here | behind
        · obtain ⟨c, -, rfl⟩ := List.mem_map.1 here
          exact Nat.le_max_left _ _
        · have := ih behind
          omega
      · cases member
      · cases member

theorem le_of_mem_schedule {channel : Channel} {now first : Nat} {moment : Nat × Char}
    (next : channel.nextTime? = some first) (member : moment ∈ channel.schedule now) :
    max now first ≤ moment.1 := by
  rw [schedule] at member
  cases coming : channel.coming with
  | nil => simp [nextTime?, coming] at next
  | cons arrival later =>
      obtain rfl : arrival.time = first := by simpa [nextTime?, coming] using next
      rw [coming] at member
      unfold scheduleFrom at member
      split at member
      · rcases List.mem_append.1 member with here | behind
        · obtain ⟨c, -, rfl⟩ := List.mem_map.1 here
          exact Nat.le_refl _
        · exact le_of_mem_scheduleFrom behind
      · cases member
      · cases member

theorem pairwise_scheduleFrom (decoder : Utf8.Decoder) (now : Nat) (arrivals : List Arrival) :
    (scheduleFrom decoder now arrivals).Pairwise fun first second => first.1 ≤ second.1 := by
  induction arrivals generalizing decoder now with
  | nil => exact .nil
  | cons arrival later ih =>
      unfold scheduleFrom
      split
      · refine List.pairwise_append.2 ⟨?_, ih _ _, ?_⟩
        · exact List.pairwise_map.2 (List.pairwise_of_forall fun _ _ => Nat.le_refl _)
        · intro first here second behind
          obtain ⟨c, -, rfl⟩ := List.mem_map.1 here
          exact le_of_mem_scheduleFrom behind
      · exact .nil
      · exact .nil

theorem pairwise_schedule (channel : Channel) (now : Nat) :
    (channel.schedule now).Pairwise fun first second => first.1 ≤ second.1 :=
  pairwise_scheduleFrom channel.decoder now channel.coming

/-- Who reads from a later moment on sees the same schedule, if nothing comes before it. -/
theorem schedule_of_le {channel : Channel} {now time : Nat} (later : now ≤ time)
    (noneBetween : ∀ first, channel.nextTime? = some first → time ≤ max now first) :
    channel.schedule now = channel.schedule time := by
  rw [schedule, schedule]
  cases coming : channel.coming with
  | nil => rfl
  | cons arrival rest =>
      have same : max now arrival.time = max time arrival.time := by
        have := noneBetween arrival.time (by simp [nextTime?, coming])
        omega
      rw [scheduleFrom, scheduleFrom, same]

/-- What is read at a moment is what is scheduled for it, and the others are still to come. -/
theorem scheduleFrom_readFrom (channel : Channel) (time : Nat) (arrivals : List Arrival) :
    scheduleFrom channel.decoder time arrivals =
      (channel.readFrom time arrivals).text.map (time, ·) ++
        (channel.readFrom time arrivals).channel.schedule time := by
  induction arrivals generalizing channel with
  | nil => rfl
  | cons arrival later ih =>
      unfold readFrom
      split
      · rename_i reached
        rw [scheduleFrom, Nat.max_eq_left reached]
        cases arrival.delivery with
        | bytes content =>
            have rest := ih { channel with decoder := (channel.decoder.feed content).2 }
            dsimp only at rest ⊢
            rw [rest, List.map_append, List.append_assoc]
        | close => rfl
        | failure => rfl
      · rfl

theorem schedule_read (channel : Channel) (time : Nat) :
    channel.schedule time =
      (channel.read time).text.map (time, ·) ++ (channel.read time).channel.schedule time :=
  channel.scheduleFrom_readFrom time channel.coming

end Channel

namespace Engine

/-- The characters that are not taken yet, each with the moment at which it is there. -/
def ahead (engine : Engine) : List (Nat × Char) :=
  engine.queue.map (engine.clock, ·) ++ engine.channel.schedule engine.clock

/-- The character is there before the deadline and by the bound. -/
def isDue (deadline bound : Option Nat) (moment : Nat × Char) : Bool :=
  comesBefore moment.1 deadline && comesBy moment.1 bound

/-- Those of them that are in the queue or come before the deadline and by the bound. -/
def due (engine : Engine) (deadline : Option Nat) (bound : Option Nat := none) :
    List (Nat × Char) :=
  engine.queue.map (engine.clock, ·) ++
    (engine.channel.schedule engine.clock).filter (isDue deadline bound)

/-- What comes of all the characters that are due. -/
def prospect (engine : Engine) (goal : Goal) (deadline bound : Option Nat) : Taken :=
  engine.session.take goal ((engine.due deadline bound).map Prod.snd)

theorem prospect_endless (engine : Engine) (deadline bound : Option Nat) :
    (engine.prospect .endless deadline bound).goal = some .endless :=
  engine.session.goal_takeBehind_endless [] 0 _

theorem due_none (engine : Engine) : engine.due none = engine.ahead := by
  have all : (engine.channel.schedule engine.clock).filter (isDue none none) =
      engine.channel.schedule engine.clock :=
    List.filter_eq_self.2 fun _ _ => rfl
  rw [due, ahead, all]

/-- What is due with a bound is due without it, and comes before the rest of it. -/
theorem due_prefix (engine : Engine) (deadline bound : Option Nat) :
    engine.due deadline bound <+: engine.due deadline := by
  have inOrder := (engine.channel.pairwise_schedule engine.clock).filter
    fun moment : Nat × Char => comesBefore moment.1 deadline
  have early := filter_prefix_of_pairwise (fun moment : Nat × Char => comesBy moment.1 bound)
    (fun _ _ before => comesBy_of_le before) inOrder
  rw [List.filter_filter] at early
  have both : (fun moment : Nat × Char => comesBy moment.1 bound && comesBefore moment.1 deadline) =
      isDue deadline bound :=
    funext fun moment => Bool.and_comm _ _
  have alone : (fun moment : Nat × Char => comesBefore moment.1 deadline) = isDue deadline none :=
    funext fun moment => (Bool.and_true _).symm
  rw [both, alone] at early
  exact (List.prefix_append_right_inj _).2 early

/-- Nothing is due later than a bound that does not come before the deadline. -/
theorem due_of_noLater (engine : Engine) {deadline bound : Option Nat}
    (noLater : NoLater deadline bound) : engine.due deadline bound = engine.due deadline := by
  have same : isDue deadline bound = isDue deadline none := by
    funext moment
    unfold isDue
    cases before : comesBefore moment.1 deadline with
    | false => rfl
    | true => exact noLater.comesBy (comesBy_of_comesBefore before)
  rw [due, same, due]

section Changes

variable {engine : Engine} {deadline bound : Option Nat} {time : Nat}

theorem ahead_hear (engine : Engine) (level : Level) (goal : Goal) :
    engine.ahead =
      (engine.queue.take (engine.session.take goal engine.queue).count).map (engine.clock, ·) ++
        (engine.hear level goal).2.ahead := by
  obtain ⟨taken, split, counted, -⟩ := engine.session.exists_take goal engine.queue
  have rest : (engine.hear level goal).2.ahead =
      (engine.session.take goal engine.queue).rest.map (engine.clock, ·) ++
        engine.channel.schedule engine.clock :=
    rfl
  rw [counted, rest, ← List.append_assoc, ← List.map_append, ← split, ahead]

/-- The channel of an engine that waits until something arrives has the same schedule before and
behind reading it. -/
theorem schedule_readBy (wake : engine.wake deadline bound = .arrival time) :
    engine.channel.schedule engine.clock =
      (engine.channel.read time).text.map (time, ·) ++
        (engine.readBy time).channel.schedule time := by
  obtain ⟨first, next, rfl, -⟩ := nextWake_eq_arrival_iff.1 wake
  have later : engine.clock ≤ max engine.clock first := Nat.le_max_left _ _
  have noneBetween : ∀ other, engine.channel.nextTime? = some other →
      max engine.clock first ≤ max engine.clock other := by
    intro other same
    obtain rfl : first = other := Option.some.inj (next.symm.trans same)
    exact Nat.le_refl _
  rw [Channel.schedule_of_le later noneBetween]
  exact engine.channel.schedule_read _

theorem clock_readBy (wake : engine.wake deadline bound = .arrival time) :
    (engine.readBy time).clock = time := by
  obtain ⟨first, -, rfl, -⟩ := nextWake_eq_arrival_iff.1 wake
  exact Nat.max_eq_right (Nat.le_max_left _ _)

theorem ahead_readBy (nothing : engine.queue = [])
    (wake : engine.wake deadline bound = .arrival time) :
    (engine.readBy time).ahead = engine.ahead := by
  have queue : (engine.readBy time).queue = (engine.channel.read time).text := by
    rw [readBy, nothing, List.nil_append]
  rw [ahead, ahead, nothing, clock_readBy wake, queue, schedule_readBy wake]
  rfl

theorem due_readBy (nothing : engine.queue = [])
    (wake : engine.wake deadline bound = .arrival time) :
    (engine.readBy time).due deadline bound = engine.due deadline bound := by
  have queue : (engine.readBy time).queue = (engine.channel.read time).text := by
    rw [readBy, nothing, List.nil_append]
  obtain ⟨-, -, -, before, inTime⟩ := nextWake_eq_arrival_iff.1 wake
  have all : ((engine.channel.read time).text.map (time, ·)).filter (isDue deadline bound) =
      (engine.channel.read time).text.map (time, ·) := by
    refine List.filter_eq_self.2 fun moment member => ?_
    obtain ⟨c, -, rfl⟩ := List.mem_map.1 member
    simp [isDue, before, inTime]
  rw [due, due, nothing, clock_readBy wake, queue, schedule_readBy wake, List.filter_append, all]
  rfl

/-- What a wait has not brought in is still ahead when it is over. -/
theorem ahead_passTo (nothing : engine.queue = [])
    (ends : (engine.wake deadline bound).moment? = some time) :
    (engine.passTo time).ahead = engine.ahead := by
  have noneBetween : ∀ first, engine.channel.nextTime? = some first →
      max engine.clock time ≤ max engine.clock first := by
    intro first next
    rw [wake, next] at ends
    exact le_of_moment_nextWake ends
  rw [ahead, ahead, nothing, Channel.schedule_of_le (Nat.le_max_left _ _) noneBetween,
    show (engine.passTo time).queue = [] from nothing]
  rfl

theorem due_of_no_arrival (nothing : engine.queue = [])
    (noArrival : ∀ time, engine.wake deadline bound ≠ .arrival time) :
    engine.due deadline bound = [] := by
  rw [due, nothing, List.map_nil, List.nil_append, List.filter_eq_nil_iff]
  intro moment member comes
  rw [isDue, Bool.and_eq_true] at comes
  cases next : engine.channel.nextTime? with
  | none =>
      have coming : engine.channel.coming = [] := by
        simpa [Channel.nextTime?] using next
      rw [Channel.schedule, coming] at member
      cases member
  | some first =>
      have late := Channel.le_of_mem_schedule next member
      refine noArrival (max engine.clock first)
        (nextWake_eq_arrival_iff.2 ⟨first, next, rfl, ?_, ?_⟩)
      · exact comesBefore_of_le late comes.1
      · exact comesBy_of_le late comes.2

end Changes

/-! ## Listening -/

/-- Listening that nothing has reached ends as the wait for nothing does. -/
def Idles (wake : Wake) (heard : Heard) (last : Engine) : Prop :=
  match wake with
  | .arrival _ => False
  | .deadline time => heard = .late ∧ last.clock = time
  | .bound time => heard = .cut ∧ last.clock = time
  | .never => heard = .stuck

/-- What comes of listening is what comes of the characters that are due: of these the first ones
are taken, and the others are still ahead.  If they reach the goal, listening is over with the
last one that is taken. -/
structure Attended (engine : Engine) (goal : Goal) (deadline bound : Option Nat) (heard : Heard)
    (last : Engine) : Prop where
  ahead : engine.ahead =
    (engine.due deadline bound).take (engine.prospect goal deadline bound).count ++ last.ahead
  taken : last.takenSince engine =
    ((engine.due deadline bound).map Prod.snd).take (engine.prospect goal deadline bound).count
  reached : (engine.prospect goal deadline bound).goal = none → heard = .reached ∧
    ∃ c, ((engine.due deadline bound).take
      (engine.prospect goal deadline bound).count).getLast? = some (last.clock, c)
  left : (engine.prospect goal deadline bound).goal ≠ none →
    Idles (nextWake engine.clock none deadline bound) heard last

section Listening

variable {engine : Engine} {level : Level} {goal left : Goal} {deadline bound : Option Nat}
  {time : Nat}

theorem map_snd_due (engine : Engine) (deadline bound : Option Nat) :
    (engine.due deadline bound).map Prod.snd = engine.queue ++
      ((engine.channel.schedule engine.clock).filter (isDue deadline bound)).map Prod.snd := by
  have queue : (engine.queue.map (engine.clock, ·)).map Prod.snd = engine.queue := by
    rw [List.map_map]
    exact List.map_id _
  rw [due, List.map_append, queue]

theorem attended_of_reached (reached : (engine.hear level goal).1 = none) :
    engine.Attended goal deadline bound .reached (engine.hear level goal).2 := by
  -- What is due begins with the queue, and nothing behind it matters any more.
  have here : (engine.session.take goal engine.queue).goal = none := reached
  have positive := Session.count_pos_of_reached here
  have enough := engine.session.count_take_le goal engine.queue
  obtain ⟨goalReached, counted⟩ : (engine.prospect goal deadline bound).goal = none ∧
      (engine.prospect goal deadline bound).count =
        (engine.session.take goal engine.queue).count := by
    rw [prospect, map_snd_due, Session.take_append_of_reached _ _ here]
    exact ⟨here, rfl⟩
  have first : (engine.due deadline bound).take (engine.session.take goal engine.queue).count =
      (engine.queue.take (engine.session.take goal engine.queue).count).map
        (engine.clock, ·) := by
    rw [due, List.take_append_of_le_length (by simpa using enough), List.map_take]
  have nonempty : engine.queue.take (engine.session.take goal engine.queue).count ≠ [] := by
    apply List.ne_nil_of_length_pos
    rw [List.length_take]
    omega
  refine ⟨?_, ?_, fun _ => ⟨rfl, ?_⟩, absurd goalReached⟩
  · rw [counted, first]
    exact engine.ahead_hear level goal
  · rw [counted, map_snd_due, List.take_append_of_le_length enough]
    exact engine.takenSince_hear level goal
  · rw [counted, first, List.getLast?_map, List.getLast?_eq_some_getLast nonempty]
    exact ⟨_, rfl⟩

/-- What is read already is taken as a whole where it does not reach the goal. -/
theorem hear_of_left (goalLeft : (engine.hear level goal).1 = some left) :
    (engine.hear level goal).2.queue = [] ∧
      (engine.hear level goal).2.takenSince engine = engine.queue ∧
      (engine.hear level goal).2.ahead = engine.channel.schedule engine.clock := by
  obtain ⟨nothing, counted⟩ := engine.session.takeBehind_of_left goal [] 0 engine.queue goalLeft
  have queue : (engine.hear level goal).2.queue = [] := nothing
  refine ⟨queue, ?_, ?_⟩
  · rw [takenSince_hear, Session.take, counted, Nat.zero_add, List.take_length]
  · rw [ahead, queue]
    rfl

theorem due_hear (nothing : (engine.hear level goal).2.queue = []) (deadline bound : Option Nat) :
    (engine.hear level goal).2.due deadline bound =
      (engine.channel.schedule engine.clock).filter (isDue deadline bound) := by
  rw [due, nothing]
  rfl

/-- Nothing that is read already reaches the goal, and nothing else is due. -/
theorem attended_of_idle {heard : Heard} {last : Engine}
    (goalLeft : (engine.hear level goal).1 = some left)
    (noArrival : ∀ time, (engine.hear level goal).2.wake deadline bound ≠ .arrival time)
    (same : last.ahead = (engine.hear level goal).2.ahead)
    (past : last.past = (engine.hear level goal).2.past)
    (idles : Idles (nextWake engine.clock none deadline bound) heard last) :
    engine.Attended goal deadline bound heard last := by
  obtain ⟨queue, taken, aheadEqual⟩ := hear_of_left goalLeft
  have nothing := due_of_no_arrival queue noArrival
  rw [due_hear queue] at nothing
  have whole : engine.due deadline bound = engine.queue.map (engine.clock, ·) := by
    rw [due, nothing, List.append_nil]
  have chars : (engine.due deadline bound).map Prod.snd = engine.queue := by
    rw [map_snd_due, nothing, List.map_nil, List.append_nil]
  obtain ⟨-, counted⟩ := engine.session.takeBehind_of_left goal [] 0 engine.queue goalLeft
  rw [Nat.zero_add] at counted
  have count : (engine.prospect goal deadline bound).count = engine.queue.length := by
    rw [prospect, chars]
    exact counted
  refine ⟨?_, ?_, fun reached => ?_, fun _ => idles⟩
  · rw [count, whole, same, aheadEqual, List.take_of_length_le (by simp), ahead]
  · rw [count, chars, List.take_length, ← taken]
    rw [takenSince, takenSince, since, since, past]
  · rw [prospect, chars] at reached
    cases reached.symm.trans goalLeft

theorem attended_of_wait {heard : Heard} (goalLeft : (engine.hear level goal).1 = some left)
    (ends : ((engine.hear level goal).2.wake deadline bound).moment? = some time)
    (idles : Idles ((engine.hear level goal).2.wake deadline bound) heard
      ((engine.hear level goal).2.passTo time)) :
    engine.Attended goal deadline bound heard ((engine.hear level goal).2.passTo time) := by
  have queue := (hear_of_left goalLeft).1
  have noArrival : ∀ other, (engine.hear level goal).2.wake deadline bound ≠ .arrival other := by
    intro other wake
    rw [wake] at ends
    cases ends
  have idle : nextWake engine.clock none deadline bound =
      (engine.hear level goal).2.wake deadline bound :=
    (nextWake_of_no_arrival noArrival).symm
  exact attended_of_idle goalLeft noArrival (ahead_passTo queue ends) rfl (idle ▸ idles)

theorem attended_of_arrival {heard : Heard} {last : Engine}
    (goalLeft : (engine.hear level goal).1 = some left)
    (wake : (engine.hear level goal).2.wake deadline bound = .arrival time)
    (onward : Onward ((engine.hear level goal).2.readBy time) last)
    (attended : ((engine.hear level goal).2.readBy time).Attended left deadline bound heard last) :
    engine.Attended goal deadline bound heard last := by
  -- The queue is taken as a whole; what is due behind it is due to the engine that has read on.
  let next := (engine.hear level goal).2.readBy time
  obtain ⟨queue, taken, aheadEqual⟩ := hear_of_left goalLeft
  have nextAhead : next.ahead = engine.channel.schedule engine.clock :=
    (ahead_readBy queue wake).trans aheadEqual
  have nextDue := (due_readBy queue wake).trans (due_hear queue deadline bound)
  have whole : engine.due deadline bound =
      engine.queue.map (engine.clock, ·) ++ next.due deadline bound := by
    rw [nextDue, due]
  have chars : (engine.due deadline bound).map Prod.snd =
      engine.queue ++ (next.due deadline bound).map Prod.snd := by
    rw [nextDue, map_snd_due]
  obtain ⟨goalEqual, counted⟩ := Session.take_append_of_left engine.queue
    ((next.due deadline bound).map Prod.snd) goalLeft
  rw [← chars] at goalEqual counted
  have goalSame : (engine.prospect goal deadline bound).goal =
      (next.prospect left deadline bound).goal := goalEqual
  have count : (engine.prospect goal deadline bound).count =
      engine.queue.length + (next.prospect left deadline bound).count := counted
  have first : (engine.due deadline bound).take (engine.prospect goal deadline bound).count =
      engine.queue.map (engine.clock, ·) ++
        (next.due deadline bound).take (next.prospect left deadline bound).count := by
    have length : engine.queue.length = (engine.queue.map (engine.clock, ·)).length := by simp
    rw [count, whole, length, List.take_length_add_append]
  refine ⟨?_, ?_, fun reached => ?_, fun unmet => ?_⟩
  · rw [first, List.append_assoc, ← attended.ahead, nextAhead, ahead]
  · have silent := (engine.hear level goal).2.takenSince_readBy time
    have read := (engine.hear level goal).2.onward_readBy time
    rw [count, chars, List.take_length_add_append, ← attended.taken, ← taken,
      (engine.onward_hear level goal).takenSince_trans (read.trans onward),
      read.takenSince_trans onward, silent, List.nil_append]
  · obtain ⟨heardReached, c, lastEqual⟩ := attended.reached (goalSame.symm.trans reached)
    refine ⟨heardReached, c, ?_⟩
    rw [first, List.getLast?_append, lastEqual]
    rfl
  · have idles := attended.left (goalSame ▸ unmet)
    have same : nextWake time none deadline bound = nextWake engine.clock none deadline bound :=
      nextWake_none_of_arrival wake
    rwa [clock_readBy wake, same] at idles

/-- Listening comes to what the characters that are due come to. -/
theorem attended_listen (engine : Engine) (level : Level) (goal : Goal)
    (deadline bound : Option Nat) :
    let result := engine.listen level goal deadline bound
    engine.Attended goal deadline bound result.1 result.2 := by
  intro result
  fun_induction listen engine level goal deadline bound with
  | case1 engine goal heard reached => exact attended_of_reached reached
  | case2 engine goal heard left goalLeft time wake ih =>
      exact attended_of_arrival goalLeft wake (progression_onward.listen _ _ _ _ _) ih
  | case3 engine goal heard left goalLeft time wake =>
      have ends : (heard.2.wake deadline bound).moment? = some time := by rw [wake]; rfl
      refine attended_of_wait goalLeft ends ?_
      have begun : heard.2.clock ≤ time := le_of_moment ends
      rw [show (engine.hear level goal).2.wake deadline bound = _ from wake]
      exact ⟨rfl, Nat.max_eq_right begun⟩
  | case4 engine goal heard left goalLeft time wake =>
      have ends : (heard.2.wake deadline bound).moment? = some time := by rw [wake]; rfl
      refine attended_of_wait goalLeft ends ?_
      have begun : heard.2.clock ≤ time := le_of_moment ends
      rw [show (engine.hear level goal).2.wake deadline bound = _ from wake]
      exact ⟨rfl, Nat.max_eq_right begun⟩
  | case5 engine goal heard left goalLeft wake =>
      have noArrival : ∀ time, heard.2.wake deadline bound ≠ .arrival time := by simp [wake]
      have idle : nextWake engine.clock none deadline bound = .never :=
        (nextWake_of_no_arrival noArrival).symm.trans wake
      refine attended_of_idle goalLeft noArrival rfl rfl ?_
      rw [idle]
      rfl

end Listening

/-! ## Without a bound -/

namespace Attended

variable {engine last : Engine} {goal : Goal} {deadline bound : Option Nat} {heard : Heard}

theorem whole (attended : engine.Attended goal deadline bound heard last)
    (left : (engine.prospect goal deadline bound).goal ≠ none) :
    engine.ahead = engine.due deadline bound ++ last.ahead ∧
      last.takenSince engine = (engine.due deadline bound).map Prod.snd := by
  obtain ⟨further, goalLeft⟩ := Option.ne_none_iff_exists'.1 left
  obtain ⟨-, counted⟩ := engine.session.takeBehind_of_left goal [] 0
    ((engine.due deadline bound).map Prod.snd) goalLeft
  have count : (engine.prospect goal deadline bound).count =
      (engine.due deadline bound).length := by
    rw [prospect, Session.take, counted, Nat.zero_add, List.length_map]
  have aheadEqual := attended.ahead
  have taken := attended.taken
  rw [count, List.take_length] at aheadEqual
  rw [count, List.take_of_length_le (by simp)] at taken
  exact ⟨aheadEqual, taken⟩

/-- A bound that does not cut the listening makes no difference to it. -/
theorem unbounded (attended : engine.Attended goal deadline bound heard last)
    (uncut : heard ≠ .cut) : engine.Attended goal deadline none heard last := by
  by_cases reached : (engine.prospect goal deadline bound).goal = none
  -- What would be due behind the bound comes behind the character that reaches the goal.
  · obtain ⟨more, split⟩ := engine.due_prefix deadline bound
    obtain ⟨goalReached, count⟩ : (engine.prospect goal deadline none).goal = none ∧
        (engine.prospect goal deadline none).count =
          (engine.prospect goal deadline bound).count := by
      rw [prospect, ← split, List.map_append, Session.take_append_of_reached _ _ reached]
      exact ⟨reached, rfl⟩
    have enough : (engine.prospect goal deadline bound).count ≤
        (engine.due deadline bound).length := by
      have := engine.session.count_take_le goal ((engine.due deadline bound).map Prod.snd)
      rwa [List.length_map] at this
    have first : (engine.due deadline).take (engine.prospect goal deadline none).count =
        (engine.due deadline bound).take (engine.prospect goal deadline bound).count := by
      rw [count, ← split, List.take_append_of_le_length enough]
    refine ⟨first ▸ attended.ahead, ?_, fun _ => first ▸ attended.reached reached,
      absurd goalReached⟩
    rw [← List.map_take, first, List.map_take]
    exact attended.taken
  · have idles := attended.left reached
    have notBound : ∀ time, nextWake engine.clock none deadline bound ≠ .bound time := by
      intro time wake
      rw [wake] at idles
      exact uncut idles.1
    obtain ⟨noLater, same⟩ := nextWake_none_of_ne_bound notBound
    have dueEqual := engine.due_of_noLater noLater
    have prospectEqual : engine.prospect goal deadline bound =
        engine.prospect goal deadline none := by
      rw [prospect, prospect, dueEqual]
    refine ⟨?_, ?_, fun goalReached => absurd (prospectEqual ▸ goalReached) reached,
      fun _ => same ▸ idles⟩
    · rw [← prospectEqual, ← dueEqual]
      exact attended.ahead
    · rw [← prospectEqual, ← dueEqual]
      exact attended.taken

end Attended

/-- Listening that nothing has reached goes on to the deadline, or for ever where there is none. -/
def Expires (deadline : Option Nat) (heard : Heard) (last : Engine) : Prop :=
  match deadline with
  | some late => heard = .late ∧ last.clock = late
  | none => heard = .stuck

/-- What comes of listening that no bound cuts, where these are the characters that it takes. -/
structure Heeded (engine : Engine) (goal : Goal) (deadline : Option Nat)
    (taken : List (Nat × Char)) (heard : Heard) (last : Engine) : Prop where
  ahead : engine.ahead = taken ++ last.ahead
  chars : last.takenSince engine = taken.map Prod.snd
  early : taken <+: engine.due deadline
  counted : taken.map Prod.snd =
    ((engine.due deadline).map Prod.snd).take (engine.prospect goal deadline none).count
  outcome : heard = .reached ∧ (engine.prospect goal deadline none).goal = none ∧
      (∃ c, taken.getLast? = some (last.clock, c)) ∨
    heard ≠ .reached ∧ (engine.prospect goal deadline none).goal ≠ none ∧
      taken = engine.due deadline ∧ Expires deadline heard last

theorem expires_of_idles {engine last : Engine} {deadline : Option Nat} {heard : Heard}
    (inTime : comesBy engine.clock deadline)
    (idles : Idles (nextWake engine.clock none deadline none) heard last) :
    heard ≠ .reached ∧ Expires deadline heard last := by
  cases deadline with
  | none =>
      obtain rfl : heard = .stuck := idles
      exact ⟨nofun, rfl⟩
  | some late =>
      obtain ⟨rfl, clock⟩ : heard = .late ∧ last.clock = max engine.clock late := idles
      refine ⟨nofun, rfl, clock.trans ?_⟩
      exact Nat.max_eq_right ((comesBy_some _ _).1 inTime)

theorem Attended.exists_heeded {engine last : Engine} {goal : Goal} {deadline bound : Option Nat}
    {heard : Heard} (attended : engine.Attended goal deadline bound heard last)
    (uncut : heard ≠ .cut) (inTime : comesBy engine.clock deadline) :
    ∃ taken, engine.Heeded goal deadline taken heard last := by
  have free := attended.unbounded uncut
  have counted := List.map_take (f := Prod.snd) (l := engine.due deadline)
    (i := (engine.prospect goal deadline none).count)
  by_cases reached : (engine.prospect goal deadline none).goal = none
  · obtain ⟨heardReached, lastEqual⟩ := free.reached reached
    exact ⟨_, free.ahead, free.taken.trans counted.symm, List.take_prefix _ _, counted,
      .inl ⟨heardReached, reached, lastEqual⟩⟩
  · obtain ⟨aheadEqual, taken⟩ := free.whole reached
    obtain ⟨unreached, expires⟩ := expires_of_idles inTime (free.left reached)
    exact ⟨_, aheadEqual, taken, List.prefix_rfl, taken.symm.trans free.taken,
      .inr ⟨unreached, reached, rfl, expires⟩⟩

/-- Listening that no bound cuts takes what is due, up to its goal. -/
theorem exists_heeded_listen (engine : Engine) (level : Level) (goal : Goal)
    {deadline : Option Nat} (bound : Option Nat) (inTime : comesBy engine.clock deadline) :
    let result := engine.listen level goal deadline bound
    result.1 ≠ .cut → ∃ taken, engine.Heeded goal deadline taken result.1 result.2 :=
  fun uncut => (engine.attended_listen level goal deadline bound).exists_heeded uncut inTime

end Engine

end SerialDialogue
