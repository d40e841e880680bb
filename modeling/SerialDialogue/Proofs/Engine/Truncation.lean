import SerialDialogue.Proofs.Engine.Onward
import SerialDialogue.Proofs.Engine.Waiting

/-!
# The bound of a run only truncates

A run under a bound is compared with the same commands carried out without one.  Up to
the bound both do the same; at the bound the one stops, and what it did until then is
what the other one did until then.  `Truncated` is that relation between two results, it
is kept when activities are put together, and it holds of the single steps, so it holds of
whole runs.
-/

namespace SerialDialogue

/-- A text was sent and taken, or characters were taken into the session. -/
def Event.isExchange : Event → Bool
  | wrote _ => true
  | took _ => true
  | _ => false

/-- The exchanges with the device among the things that happened. -/
def exchanges (past : List (Nat × Event)) : List (Nat × Event) :=
  past.filter fun happened => happened.2.isExchange

@[simp]
theorem exchanges_append (later earlier : List (Nat × Event)) :
    exchanges (later ++ earlier) = exchanges later ++ exchanges earlier :=
  List.filter_append ..

namespace Engine

/-- Two engines, which were the two others before, are in the same state and have had
the same exchanges with their devices since then. -/
structure Beside (start start' first second : Engine) : Prop where
  clock : first.clock = second.clock
  channel : first.channel = second.channel
  queue : first.queue = second.queue
  session : first.session = second.session
  onward : Onward start first
  onward' : Onward start' second
  exchanged : exchanges (first.since start) = exchanges (second.since start')

/-- Reading is no exchange yet: what was read is still to be taken. -/
theorem exchanges_since_readBy (engine : Engine) (time : Nat) :
    exchanges ((engine.readBy time).since engine) = [] := by
  rw [since_eq rfl, exchanges, List.filter_eq_nil_iff]
  intro happened member
  obtain ⟨piece, _, rfl⟩ := List.mem_map.1 (List.mem_reverse.1 member)
  simp [Event.isExchange]

namespace Beside

variable {start start' first second : Engine}

theorem refl (engine : Engine) : Beside engine engine engine engine :=
  ⟨rfl, rfl, rfl, rfl, .refl engine, .refl engine, rfl⟩

theorem trans {next next' : Engine} (beside : Beside start start' first second)
    (later : Beside first second next next') : Beside start start' next next' where
  clock := later.clock
  channel := later.channel
  queue := later.queue
  session := later.session
  onward := beside.onward.trans later.onward
  onward' := beside.onward'.trans later.onward'
  exchanged := by
    rw [beside.onward.since_trans later.onward, beside.onward'.since_trans later.onward',
      exchanges_append, exchanges_append, later.exchanged, beside.exchanged]

theorem note (beside : Beside start start' first second) (event : Event) :
    Beside start start' (first.note event) (second.note event) := by
  refine beside.trans ⟨beside.clock, beside.channel, beside.queue, beside.session,
    first.onward_note event, second.onward_note event, ?_⟩
  rw [since_note, since_note, beside.clock]

theorem log (beside : Beside start start' first second) (entry entry' : LogEntry) :
    Beside start start' (first.log entry) (second.log entry') := by
  refine beside.trans ⟨beside.clock, beside.channel, beside.queue, beside.session,
    first.onward_log entry, second.onward_log entry', ?_⟩
  rw [Engine.log, Engine.log, since_note, since_note]
  rfl

theorem withSession (beside : Beside start start' first second) (change : Session → Session) :
    Beside start start' { first with session := change first.session }
      { second with session := change second.session } := by
  refine beside.trans ⟨beside.clock, beside.channel, beside.queue,
    congrArg change beside.session, .of_eq rfl rfl, .of_eq rfl rfl, ?_⟩
  exact congrArg exchanges ((since_of_past_eq rfl).trans (since_of_past_eq rfl).symm)

theorem withChannel (beside : Beside start start' first second) (change : Channel → Channel) :
    Beside start start' { first with channel := change first.channel }
      { second with channel := change second.channel } := by
  refine beside.trans ⟨beside.clock, congrArg change beside.channel, beside.queue,
    beside.session, .of_eq rfl rfl, .of_eq rfl rfl, ?_⟩
  exact congrArg exchanges ((since_of_past_eq rfl).trans (since_of_past_eq rfl).symm)

theorem passTo (beside : Beside start start' first second) (time : Nat) :
    Beside start start' (first.passTo time) (second.passTo time) := by
  refine beside.trans ⟨congrArg (max · time) beside.clock, beside.channel, beside.queue,
    beside.session, first.onward_passTo time, second.onward_passTo time, ?_⟩
  exact congrArg exchanges ((since_of_past_eq rfl).trans (since_of_past_eq rfl).symm)

theorem readBy (beside : Beside start start' first second) (time : Nat) :
    Beside start start' (first.readBy time) (second.readBy time) := by
  refine beside.trans ⟨congrArg (max · time) beside.clock, ?_, ?_, beside.session,
    first.onward_readBy time, second.onward_readBy time, ?_⟩
  · simp only [Engine.readBy, beside.channel]
  · simp only [Engine.readBy, beside.channel, beside.queue]
  · rw [exchanges_since_readBy, exchanges_since_readBy]

theorem hear (beside : Beside start start' first second) (level : Level) (goal : Goal) :
    Beside start start' (first.hear level goal).2 (second.hear level goal).2 := by
  refine beside.trans ⟨beside.clock, beside.channel, ?_, ?_, first.onward_hear level goal,
    second.onward_hear level goal, ?_⟩
  · simp only [Engine.hear, beside.queue, beside.session]
  · simp only [Engine.hear, beside.queue, beside.session]
  · rw [since_hear, since_hear, beside.queue, beside.session, beside.clock]

theorem hear_goal (beside : Beside start start' first second) (level : Level) (goal : Goal) :
    (first.hear level goal).1 = (second.hear level goal).1 := by
  simp only [Engine.hear, beside.queue, beside.session]

end Beside

/-- What a bound makes of a result.  If the result is there by the bound it is the same
under the bound, and so is waiting for ever where there is no bound.  Otherwise the activity
is cut at the bound, after the exchanges that there were until then. -/
inductive Truncated {α : Type} (view : α → Ending) (bound : Option Nat)
    (start start' : Engine) (bounded free : α × Engine) : Prop where
  | whole (same : bounded.1 = free.1)
      (returns : bound = none ∧ view free.1 = .stuck ∨ (view free.1).returns)
      (inTime : comesBy free.2.clock bound)
      (beside : Beside start start' bounded.2 free.2) :
      Truncated view bound start start' bounded free
  | cut (expiry : Nat) (boundAt : bound = some expiry) (ended : view bounded.1 = .cut)
      (clock : bounded.2.clock = expiry)
      (beyond : (view free.1).returns → expiry < free.2.clock)
      (onward : Onward start' free.2)
      (exchanged : exchanges (bounded.2.since start) =
        (exchanges (free.2.since start')).filter fun happened => happened.1 ≤ expiry) :
      Truncated view bound start start' bounded free

/-- The first activity, under a bound, does what the second one does, until the bound. -/
def Truncates (bound : Option Nat) (start start' : Engine) (activity activity' : Activity) :
    Prop :=
  ∀ first second : Engine, Beside start start' first second → comesBy second.clock bound →
    Truncated id bound start start' (activity first) (activity' second)

theorem exchanges_filter_of_le {engine start : Engine} {time : Nat}
    (onward : Onward start engine) (inTime : engine.clock ≤ time) :
    (exchanges (engine.since start)).filter (fun happened => happened.1 ≤ time) =
      exchanges (engine.since start) := by
  rw [List.filter_eq_self]
  intro happened member
  have := (onward.time_of_mem_since ((List.mem_filter.1 member).1)).2
  simpa using Nat.le_trans this inTime

theorem exchanges_filter_eq_nil {engine later : Engine} {time : Nat}
    (after : Onward engine later) (overdue : time < engine.clock) :
    (exchanges (later.since engine)).filter (fun happened => happened.1 ≤ time) = [] := by
  rw [List.filter_eq_nil_iff]
  intro happened member
  have := (after.time_of_mem_since ((List.mem_filter.1 member).1)).1
  simpa using Nat.lt_of_lt_of_le overdue this

/-! ## Waits -/

variable {start start' first second : Engine} {bound : Option Nat} {α : Type}
  {view : α → Ending}

/-- One engine stops at the bound while the other one goes on, without an exchange until
the bound. -/
theorem truncated_of_stop {stopped free : Engine} {result result' : α} {expiry : Nat}
    (beside : Beside start start' first second) (inTime : second.clock ≤ expiry)
    (ended : view result = .cut) (stops : Onward first stopped) (clock : stopped.clock = expiry)
    (still : exchanges (stopped.since first) = [])
    (beyond : (view result').returns → expiry < free.clock) (goesOn : Onward second free)
    (late : (exchanges (free.since second)).filter (fun happened => happened.1 ≤ expiry) = []) :
    Truncated view (some expiry) start start' (result, stopped) (result', free) := by
  refine .cut expiry rfl ended clock beyond (beside.onward'.trans goesOn) ?_
  rw [beside.onward.since_trans stops, beside.onward'.since_trans goesOn, exchanges_append,
    exchanges_append, List.filter_append, still, late, beside.exchanged,
    exchanges_filter_of_le beside.onward' inTime]

theorem wake_under (deadline : Option Nat) (beside : Beside start start' first second)
    (inTime : comesBy second.clock bound) :
    first.wake deadline bound = (second.wake deadline none).under bound := by
  unfold wake
  rw [beside.clock, beside.channel]
  exact nextWake_under _ _ inTime

theorem truncated_passTo {free : Engine} {result result' : α} {expiry : Nat}
    (beside : Beside start start' first second) (inTime : second.clock ≤ expiry)
    (ended : view result = .cut) (beyond : (view result').returns → expiry < free.clock)
    (goesOn : Onward second free)
    (late : (exchanges (free.since second)).filter (fun happened => happened.1 ≤ expiry) = []) :
    Truncated view (some expiry) start start' (result, first.passTo expiry)
      (result', free) := by
  refine truncated_of_stop beside inTime ended (first.onward_passTo expiry) ?_ ?_ beyond goesOn
    late
  · rw [passTo, beside.clock]
    exact Nat.max_eq_right inTime
  · exact congrArg exchanges (since_of_past_eq rfl)

theorem truncated_listen (level : Level) (goal : Goal) (deadline : Option Nat)
    (beside : Beside start start' first second) (inTime : comesBy second.clock bound) :
    Truncated Heard.ending bound start start' (first.listen level goal deadline bound)
      (second.listen level goal deadline none) := by
  -- The induction is on the waits of the unbounded engine; the other one keeps beside it.
  revert first
  fun_induction listen second level goal deadline none with
  | case1 second goal _ reached =>
      intro first beside
      rw [listen_of_reached ((beside.hear_goal level goal).trans reached)]
      exact .whole rfl (.inr trivial) inTime (beside.hear level goal)
  | case2 second goal _ left goalLeft time wake ih =>
      intro first beside
      have heard := beside.hear level goal
      rw [listen_of_left ((beside.hear_goal level goal).trans goalLeft),
        wake_under deadline heard inTime, wake]
      by_cases reached : comesBy time bound
      · -- Both read the same and go on.
        rw [Wake.under_arrival reached]
        exact ih (comesBy_max inTime reached) (heard.readBy time)
      · -- The bound comes first; whatever the other engine does now, it does behind it.
        obtain ⟨expiry, rfl, overdue⟩ := exists_of_not_comesBy reached
        rw [Wake.under_arrival_of_lt overdue]
        have read := onward_readBy (second.hear level goal).2 time
        have further := progression_onward.listen ((second.hear level goal).2.readBy time) level
          left deadline none
        have reads : expiry < ((second.hear level goal).2.readBy time).clock :=
          Nat.lt_of_lt_of_le overdue (Nat.le_max_right _ _)
        refine truncated_passTo heard ((comesBy_some _ _).1 inTime) rfl
          (fun _ => Nat.lt_of_lt_of_le reads further.clock_le) (read.trans further) ?_
        rw [read.since_trans further, exchanges_append, exchanges_since_readBy, List.append_nil]
        exact exchanges_filter_eq_nil further reads
  | case3 second goal _ left goalLeft time wake =>
      intro first beside
      have heard := beside.hear level goal
      rw [listen_of_left ((beside.hear_goal level goal).trans goalLeft),
        wake_under deadline heard inTime, wake]
      by_cases reached : comesBy time bound
      · rw [Wake.under_deadline reached]
        exact .whole rfl (.inr trivial) (comesBy_max inTime reached) (heard.passTo time)
      · obtain ⟨expiry, rfl, overdue⟩ := exists_of_not_comesBy reached
        rw [Wake.under_deadline_of_lt overdue]
        refine truncated_passTo heard ((comesBy_some _ _).1 inTime) rfl
          (fun _ => Nat.lt_of_lt_of_le overdue (Nat.le_max_right _ _)) (onward_passTo _ time) ?_
        exact congrArg (fun past => (exchanges past).filter _) (since_of_past_eq rfl)
  | case4 second goal _ left goalLeft time wake =>
      exact absurd wake (nextWake_none_ne_bound _ time _ _)
  | case5 second goal _ left goalLeft wake =>
      intro first beside
      have heard := beside.hear level goal
      rw [listen_of_left ((beside.hear_goal level goal).trans goalLeft),
        wake_under deadline heard inTime, wake]
      cases bound with
      | none => exact .whole rfl (.inl ⟨rfl, rfl⟩) rfl heard
      | some expiry =>
          refine truncated_passTo heard ((comesBy_some _ _).1 inTime) rfl False.elim (.refl _) ?_
          exact congrArg (fun past => (exchanges past).filter _) (since_of_past_eq rfl)

/-! ## Steps -/

/-- A truncated result stays one when both sides go on in the same way.  Where the first
part does not return, nothing follows it. -/
theorem Truncated.bind {bounded free : α × Engine} (next next' : α → Activity)
    (truncated : Truncated view bound start start' bounded free)
    (stops : ∀ result, ¬ (view result).returns →
      next result = .finish (view result) ∧ next' result = .finish (view result))
    (onward : ∀ result, (next' result).Leads Onward)
    (goesOn : ∀ result, (view result).returns → ∀ first second : Engine,
      Beside start start' first second → comesBy second.clock bound →
        Truncated id bound start start' (next result first) (next' result second)) :
    Truncated id bound start start' (next bounded.1 bounded.2) (next' free.1 free.2) := by
  cases truncated with
  | whole same returns inTime beside =>
      rw [same]
      by_cases returned : (view free.1).returns
      · exact goesOn free.1 returned bounded.2 free.2 beside inTime
      · have unbounded := returns.resolve_right returned
        rw [(stops free.1 returned).1, (stops free.1 returned).2]
        exact .whole rfl (.inl unbounded) inTime beside
  | cut expiry boundAt ended clock beyond onward' exchanged =>
      have unreturned : ¬ (view bounded.1).returns := by
        rw [ended]
        exact id
      rw [(stops bounded.1 unreturned).1]
      have further := onward free.1 free.2
      by_cases returned : (view free.1).returns
      · have overdue := beyond returned
        refine .cut expiry boundAt ended clock
          (fun _ => Nat.lt_of_lt_of_le overdue further.clock_le) (onward'.trans further) ?_
        rw [onward'.since_trans further, exchanges_append, List.filter_append,
          exchanges_filter_eq_nil further overdue, List.nil_append]
        exact exchanged
      · rw [(stops free.1 returned).2]
        exact .cut expiry boundAt ended clock (fun returns => absurd returns returned) onward'
          exchanged

variable (receive : Duration)

theorem truncated_stall (beside : Beside start start' first second)
    (inTime : comesBy second.clock bound) :
    Truncated id bound start start' (first.stall ⟨receive, bound⟩)
      (second.stall ⟨receive, none⟩) := by
  unfold stall
  cases bound with
  | none =>
      dsimp only
      rw [beside.channel, beside.clock]
      exact .whole rfl (.inl ⟨rfl, rfl⟩) rfl (beside.readBy _)
  | some expiry =>
      refine truncated_of_stop beside ((comesBy_some _ _).1 inTime) rfl
        (first.onward_readBy expiry) ?_ (exchanges_since_readBy first expiry) False.elim
        (second.onward_readBy _) ?_
      · rw [readBy, beside.clock]
        exact Nat.max_eq_right ((comesBy_some _ _).1 inTime)
      · rw [exchanges_since_readBy]
        rfl

theorem Beside.noteSending (beside : Beside start start' first second) (text : String) :
    Beside start start' (first.noteSending text) (second.noteSending text) := by
  have sameSending : (⟨first.clock, text⟩ : Sending) = ⟨second.clock, text⟩ := by
    rw [beside.clock]
  unfold Engine.noteSending
  rw [sameSending]
  exact beside.withChannel fun channel => channel.note ⟨second.clock, text⟩

theorem truncated_send (beside : Beside start start' first second)
    (inTime : comesBy second.clock bound) (text : String) :
    Truncated id bound start start' (first.send ⟨receive, bound⟩ text)
      (second.send ⟨receive, none⟩ text) := by
  have sending := beside.log (.sent text) (.sent text)
  have sent := sending.noteSending text
  unfold send
  rw [beside.channel, beside.clock]
  dsimp only
  cases second.channel.device.receive second.channel.sendings ⟨second.clock, text⟩ with
  | accepted replies =>
      exact .whole rfl (.inr trivial) inTime
        ((sent.note (.wrote text)).withChannel fun channel => channel.expectMore replies)
  | refused reason => exact .whole rfl (.inr trivial) inTime sent
  | lost reason => exact .whole rfl (.inr trivial) inTime sent
  | stalled => exact truncated_stall receive sending inTime

theorem truncated_whenHeard {bounded free : Heard × Engine}
    {reached reached' late late' : Activity}
    (truncated : Truncated Heard.ending bound start start' bounded free)
    (onwardReached : reached'.Leads Onward) (onwardLate : late'.Leads Onward)
    (truncatedReached : Truncates bound start start' reached reached')
    (truncatedLate : Truncates bound start start' late late') :
    Truncated id bound start start' (whenHeard reached late bounded.1 bounded.2)
      (whenHeard reached' late' free.1 free.2) := by
  refine truncated.bind (whenHeard reached late) (whenHeard reached' late') ?_ ?_ ?_
  · intro heard noReturn
    exact ⟨whenHeard_of_not_returns noReturn, whenHeard_of_not_returns noReturn⟩
  · exact progression_onward.leads_whenHeard onwardReached onwardLate
  · intro heard returned first second beside inTime
    cases heard with
    | reached => exact truncatedReached first second beside inTime
    | late => exact truncatedLate first second beside inTime
    | cut => exact absurd returned id
    | stuck => exact absurd returned id

theorem Beside.forget (beside : Beside start start' first second) :
    Beside start start' first.forget second.forget :=
  beside.withSession Session.forget

theorem Beside.forgetText (beside : Beside start start' first second) :
    Beside start start' first.forgetText second.forgetText :=
  beside.withSession Session.forgetText

theorem truncated_expect (beside : Beside start start' first second)
    (inTime : comesBy second.clock bound) (raw : String) (pattern : Pattern) :
    Truncated id bound start start' (first.expect ⟨receive, bound⟩ raw pattern)
      (second.expect ⟨receive, none⟩ raw pattern) := by
  have listened := truncated_listen .debug (second.expected pattern)
    (momentAfter? second.clock receive) (beside.log (.expecting raw) (.expecting raw)) inTime
  have sameGoal : first.expected pattern = second.expected pattern := by
    rw [expected, expected, beside.session]
  rw [expect_eq, expect_eq, sameGoal, beside.clock]
  refine truncated_whenHeard listened ?_ ?_ ?_ ?_
  · exact fun engine => (progression_onward.forget engine).trans (onward_log _ _)
  · exact progression_onward.leads_finish _
  · intro first second beside inTime
    exact .whole rfl (.inr trivial) inTime (beside.forget.log _ _)
  · intro first second beside inTime
    exact .whole rfl (.inr trivial) inTime beside

theorem truncated_monitor (beside : Beside start start' first second)
    (inTime : comesBy second.clock bound) (raw : String) (span : Bound) :
    Truncated id bound start start' (first.monitor ⟨receive, bound⟩ raw span)
      (second.monitor ⟨receive, none⟩ raw span) := by
  have opened : Beside start start' (first.openMonitor raw span) (second.openMonitor raw span) :=
    (beside.log _ _).log _ _
  rw [monitor_eq, monitor_eq]
  dsimp only
  split
  · exact .whole rfl (.inr trivial) inTime (opened.log _ _)
  · have listened := truncated_listen .info span.goal
      (span.deadline? (second.openMonitor raw span).clock) opened inTime
    have ends := progression_onward.endMonitor (second.openMonitor raw span) span
    have truncated : Truncates bound start start' (endMonitor (first.openMonitor raw span) span)
        (endMonitor (second.openMonitor raw span) span) :=
      fun first second beside inTime =>
        .whole rfl (.inr trivial) inTime (beside.forgetText.log _ _)
    rw [opened.clock]
    exact truncated_whenHeard listened ends ends truncated truncated

/-- A step under a bound does what it does without one, until the bound. -/
theorem truncates_perform (step : Step) :
    Truncates bound start start' (fun engine => engine.perform ⟨receive, bound⟩ step)
      (fun engine => engine.perform ⟨receive, none⟩ step) := by
  intro first second beside inTime
  cases step with
  | send raw => exact truncated_send receive beside inTime (Step.payload raw)
  | expect raw pattern => exact truncated_expect receive beside inTime raw pattern
  | monitor raw span => exact truncated_monitor receive beside inTime raw span

/-! ## Command lists -/

theorem truncates_finish {ending : Ending} (returns : ending.returns) :
    Truncates bound start start' (.finish ending) (.finish ending) :=
  fun _ _ beside inTime => .whole rfl (.inr returns) inTime beside

/-- Activities put together truncate when their parts do. -/
theorem truncates_andThen {activity activity' done done' : Activity}
    {failed failed' : Failure → Activity} (onwardDone : done'.Leads Onward)
    (onwardFailed : ∀ failure, (failed' failure).Leads Onward)
    (truncates : Truncates bound start start' activity activity')
    (truncatesDone : Truncates bound start start' done done')
    (truncatesFailed : ∀ failure,
      Truncates bound start start' (failed failure) (failed' failure)) :
    Truncates bound start start' (activity.andThen done failed)
      (activity'.andThen done' failed') := by
  intro first second beside inTime
  rw [Activity.andThen_apply, Activity.andThen_apply]
  refine (truncates first second beside inTime).bind (Activity.behind done failed)
    (Activity.behind done' failed') ?_ ?_ ?_
  · intro ending noReturn
    exact ⟨Activity.behind_of_not_returns noReturn, Activity.behind_of_not_returns noReturn⟩
  · exact progression_onward.leads_behind onwardDone onwardFailed
  · intro ending returned first second beside inTime
    cases ending with
    | done => exact truncatesDone first second beside inTime
    | failed failure => exact truncatesFailed failure first second beside inTime
    | cut => exact absurd returned id
    | stuck => exact absurd returned id

theorem congruence_truncates (bound : Option Nat) (start start' : Engine) :
    Activity.Congruence fun activity activity' =>
      activity'.Leads Onward ∧ Truncates bound start start' activity activity' where
  finish returns := ⟨.refl, truncates_finish returns⟩
  saying entry _ _ related :=
    ⟨progression_onward.leads_saying entry related.1,
      fun _ _ beside inTime => related.2 _ _ (beside.log entry entry) inTime⟩
  andThen related relatedDone relatedFailed :=
    have onwardFailed failure := (relatedFailed failure).1
    ⟨progression_onward.leads_andThen related.1 relatedDone.1 onwardFailed,
      truncates_andThen relatedDone.1 onwardFailed related.2 relatedDone.2
        fun failure => (relatedFailed failure).2⟩

/-- Command lists under a bound do what they do without one, until the bound. -/
theorem truncates_execute (commands : List Command) :
    Truncates bound start start' (fun engine => engine.execute ⟨receive, bound⟩ commands)
      (fun engine => engine.execute ⟨receive, none⟩ commands) :=
  ((congruence_truncates bound start start').execute fun step _ =>
    ⟨fun engine => progression_onward.perform engine _ step, truncates_perform receive step⟩).2

/-! ## Runs -/

/-- What returns by the bound is returned under the bound. -/
theorem Truncated.of_inTime {bounded free : Ending × Engine} {expiry : Nat}
    (truncated : Truncated id (some expiry) start start' bounded free)
    (returns : free.1.returns) (inTime : free.2.clock ≤ expiry) :
    bounded.1 = free.1 ∧ Beside start start' bounded.2 free.2 := by
  cases truncated with
  | whole same _ _ beside => exact ⟨same, beside⟩
  | cut moment boundAt _ _ beyond =>
      cases boundAt
      exact absurd (beyond returns) (Nat.not_lt.2 inTime)

/-- What does not return by the bound is cut at the bound. -/
theorem Truncated.of_over {bounded free : Ending × Engine} {expiry : Nat}
    (truncated : Truncated id (some expiry) start start' bounded free)
    (overdue : ¬ (free.1.returns ∧ free.2.clock ≤ expiry)) :
    bounded.1 = .cut ∧ bounded.2.clock = expiry ∧
      exchanges (bounded.2.since start) =
        (exchanges (free.2.since start')).filter fun happened => happened.1 ≤ expiry := by
  cases truncated with
  | whole _ returns inTime _ =>
      rcases returns with ⟨unbounded, -⟩ | returns
      · cases unbounded
      · exact absurd ⟨returns, (comesBy_some _ _).1 inTime⟩ overdue
  | cut moment boundAt ended clock _ _ exchanged =>
      cases boundAt
      exact ⟨ended, clock, exchanged⟩

theorem Truncated.of_unbounded {bounded free : Ending × Engine}
    (truncated : Truncated id none start start' bounded free) :
    bounded.1 = free.1 ∧ free.1 ≠ .cut ∧ Beside start start' bounded.2 free.2 := by
  cases truncated with
  | whole same returns _ beside =>
      refine ⟨same, ?_, beside⟩
      rcases returns with ⟨-, stuck⟩ | returns
      · exact fun cut => Ending.noConfusion (cut.symm.trans stuck)
      · exact Ending.ne_cut_of_returns returns
  | cut moment boundAt => cases boundAt

theorem scriptTimedOut_of_ne_cut {timeouts : Timeouts} {extended : Bool} {ending : Ending}
    (uncut : ending ≠ .cut) : scriptTimedOut timeouts extended ending = ending := by
  cases ending with
  | done => rfl
  | failed failure => rfl
  | cut => exact absurd rfl uncut
  | stuck => rfl

theorem beside_openRun (engine : Engine) (commands : List Command) :
    Beside engine engine (engine.openRun commands) engine := by
  unfold openRun
  split
  · refine ⟨rfl, rfl, rfl, rfl, engine.onward_log _, .refl engine, ?_⟩
    rw [log, since_note, since_of_past_eq rfl]
    rfl
  · exact .refl engine

/-- The bound of a run only truncates.  A run is compared with the same commands carried
out without a bound.  What returns by the bound is returned by the run, from the same
state at the same time; what does not is timed out at the bound, after the exchanges that
there were until then.  A bound that the clock cannot tell changes nothing. -/
theorem run_truncates (engine : Engine) (timeouts : Timeouts) (commands : List Command) :
    let extended := commands.any Command.monitors
    let length :=
      if extended then timeouts.script.saturatingAdd indefiniteLength else timeouts.script
    let free := engine.execute ⟨timeouts.receive, none⟩ commands
    let bounded := engine.run timeouts commands
    (extended ↔ ∃ command ∈ commands, ∃ raw span, .monitor raw span ∈ command.steps) ∧
      (∀ expiry, momentAfter? engine.clock length = some expiry →
        expiry = engine.clock + length.ceilMillis ∧
        (free.1.returns ∧ free.2.clock ≤ expiry →
          bounded.1 = free.1 ∧ Beside engine engine bounded.2 free.2) ∧
        (¬ (free.1.returns ∧ free.2.clock ≤ expiry) →
          bounded.1 = .failed (.scriptTimeout timeouts.script extended) ∧
          bounded.2.clock = expiry ∧
          exchanges (bounded.2.since engine) =
            (exchanges (free.2.since engine)).filter fun happened => happened.1 ≤ expiry)) ∧
      (momentAfter? engine.clock length = none →
        bounded.1 = free.1 ∧ Beside engine engine bounded.2 free.2) := by
  intro extended length free bounded
  have truncated := truncates_execute timeouts.receive commands _ _
    (beside_openRun engine commands) (comesBy_momentAfter? engine.clock length)
  have run := run_eq engine timeouts commands
  refine ⟨?_, fun expiry told => ?_, fun untold => ?_⟩
  · simp only [extended, List.any_eq_true, Command.monitors_iff]
  · rw [runLength, told] at run
    rw [told] at truncated
    refine ⟨momentAfter?_eq told, fun inTime => ?_, fun overdue => ?_⟩
    · obtain ⟨same, beside⟩ := truncated.of_inTime inTime.1 inTime.2
      simp only [bounded, run, same]
      exact ⟨scriptTimedOut_of_ne_cut (Ending.ne_cut_of_returns inTime.1), beside⟩
    · obtain ⟨cut, clock, exchanged⟩ := truncated.of_over overdue
      simp only [bounded, run, cut]
      exact ⟨rfl, clock, exchanged⟩
  · rw [runLength, untold] at run
    rw [untold] at truncated
    obtain ⟨same, uncut, beside⟩ := truncated.of_unbounded
    simp only [bounded, run, same]
    exact ⟨scriptTimedOut_of_ne_cut uncut, beside⟩

end Engine

end SerialDialogue
