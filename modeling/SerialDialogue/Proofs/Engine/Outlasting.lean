import SerialDialogue.Proofs.Engine.Ahead
import SerialDialogue.Proofs.Engine.Chronicle
import SerialDialogue.Proofs.Engine.Execution

/-!
# Bare monitors and the bound of a run

A monitor without a bound of its own goes on for `indefiniteLength`, and the bound of a run with
monitors is extended by just as much.  A bare monitor that begins within the script timeout
therefore reaches its own end before the run is cut.  The bound may be too far away to be told,
or be lost where the sum saturates; then it never comes, and neither does anything that cuts the
monitor.
-/

namespace SerialDialogue

/-- What begins within some time is over no later than a bound that lies its length behind that
time. -/
theorem noLater_extended {begun now : Nat} {script length : Duration}
    (early : now * 1000000 ≤ begun * 1000000 + script.nanos) :
    NoLater (momentAfter? now length) (momentAfter? begun (script.saturatingAdd length)) := by
  refine noLater_momentAfter? fun inRange => ?_
  rw [Duration.saturatingAdd_nanos] at inRange ⊢
  -- Where the sum saturates, the clock could not tell the bound.
  have unsaturated : script.nanos + length.nanos ≤ 0x10000000000000000 * 1000000000 - 1 := by omega
  rw [Nat.min_eq_left unsaturated, ← Nat.add_assoc]
  exact Nat.add_le_add_right early _

namespace Engine

/-- Where the bound is not before the deadline, listening without a goal goes on to the deadline,
or for ever where there is none. -/
theorem listen_endless (engine : Engine) (level : Level) {deadline bound : Option Nat}
    (noLater : NoLater deadline bound) (inTime : comesBy engine.clock deadline) :
    ∃ last, engine.listen level .endless deadline bound =
        (deadline.elim .stuck fun _ => .late, last) ∧
      ∀ late, deadline = some late → last.clock = late := by
  have attended := engine.attended_listen level .endless deadline bound
  have idles := attended.left (by simp [prospect_endless])
  rw [nextWake_none_of_noLater noLater inTime] at idles
  cases deadline with
  | none => exact ⟨_, Prod.ext idles rfl, nofun⟩
  | some late =>
      obtain ⟨heard, clock⟩ := idles
      exact ⟨_, Prod.ext heard rfl, fun _ same => clock.trans (Option.some.inj same)⟩

/-- A bare monitor stops at its own end, if the bound is not before it; where that end cannot be
told it waits for ever. -/
theorem monitor_of_noLater (engine : Engine) {limits : Limits} (raw : String)
    (noLater : NoLater (momentAfter? engine.clock indefiniteLength) limits.bound) :
    ∃ last, engine.monitor limits raw .indefinite =
        ((momentAfter? engine.clock indefiniteLength).elim .stuck fun _ => .done, last) ∧
      ∀ moment, momentAfter? engine.clock indefiniteLength = some moment → last.clock = moment := by
  obtain ⟨last, listened, clock⟩ := (engine.openMonitor raw .indefinite).listen_endless .info
    noLater (comesBy_momentAfter? engine.clock indefiniteLength)
  have result : engine.monitor limits raw .indefinite =
      whenHeard (endMonitor (engine.openMonitor raw .indefinite) .indefinite)
        (endMonitor (engine.openMonitor raw .indefinite) .indefinite)
        ((momentAfter? engine.clock indefiniteLength).elim .stuck fun _ => .late) last := by
    have goal : Bound.indefinite.goal = .endless := rfl
    have deadline : Bound.indefinite.deadline? (engine.openMonitor raw .indefinite).clock =
        momentAfter? engine.clock indefiniteLength := rfl
    rw [monitor_eq]
    dsimp only
    rw [if_neg nofun, goal, deadline, listened]
  rw [result]
  cases told : momentAfter? engine.clock indefiniteLength with
  | none => exact ⟨last, rfl, nofun⟩
  | some moment => exact ⟨_, rfl, fun _ same => clock _ (told.trans same)⟩

end Engine

/-- The step, a bare monitor, goes on for its own length, and no bound comes before that is over.
Where the clock cannot tell the end of that length, the monitor waits for ever, and no bound ever
comes. -/
structure Deed.Outlasts (deed : Deed) : Prop where
  done : ∀ moment, momentAfter? deed.engine.clock indefiniteLength = some moment →
    deed.ending = .done ∧ deed.next.clock = moment ∧ comesBy moment deed.limits.bound
  stuck : momentAfter? deed.engine.clock indefiniteLength = none →
    deed.ending = .stuck ∧ deed.limits.bound = none

theorem Deed.outlasts_of_noLater {deed : Deed} {raw : String}
    (step : deed.step = .monitor raw .indefinite)
    (noLater : NoLater (momentAfter? deed.engine.clock indefiniteLength) deed.limits.bound) :
    deed.Outlasts := by
  obtain ⟨last, performed, clock⟩ := deed.engine.monitor_of_noLater raw noLater
  have result : (deed.ending, deed.next) =
      ((momentAfter? deed.engine.clock indefiniteLength).elim .stuck fun _ => .done, last) := by
    rw [← performed, Deed.ending, Deed.next, step]
    rfl
  obtain ⟨ended, next⟩ := Prod.mk.inj result
  refine ⟨fun moment told => ⟨?_, ?_, ?_⟩, fun untold => ⟨?_, noLater.eq_none untold⟩⟩
  · rw [ended, told, Option.elim_some]
  · rw [next]
    exact clock moment told
  · have own : comesBy moment (some moment) := (comesBy_some _ _).2 (Nat.le_refl moment)
    rw [← told] at own
    exact noLater.comesBy own
  · rw [ended, untold, Option.elim_none]

namespace Engine

/-- A run is timed out only when its commands were cut. -/
theorem executed_of_scriptTimeout {engine : Engine} {timeouts : Timeouts}
    {commands : List Command} {limit : Duration} {extended : Bool}
    (timedOut : (engine.run timeouts commands).1 = .failed (.scriptTimeout limit extended)) :
    (engine.executed timeouts commands).1 = .cut := by
  obtain ⟨accounts, -, -, sequenced⟩ := exists_ledger_executeFrom
    (engine.runLimits timeouts commands) (engine.openRun commands) 0 commands.length commands
  rw [fst_run] at timedOut
  cases ended : (engine.executed timeouts commands).1 with
  | done =>
      rw [ended] at timedOut
      cases timedOut
  | failed failure =>
      -- A command list blames one of its commands, never the time of its run.
      obtain ⟨ahead, text, source, blamed, -⟩ := sequenced.exists_place ended
      rw [ended, blamed] at timedOut
      cases timedOut
  | cut => rfl
  | stuck =>
      rw [ended] at timedOut
      cases timedOut

/-- The bound of a run spares the bare monitors that begin in time.  A run carries out steps under
its own limits, and where it is timed out, the last of them was cut.  That is none of the bare
monitors that began within the script timeout, wherever among the commands they stand: these reach
their own end, and the bound does not come before. -/
theorem run_spares_bare_monitors (engine : Engine) (timeouts : Timeouts)
    (commands : List Command) :
    (∃ deeds, engine.Recounts timeouts commands deeds) ∧
      ∀ deeds, engine.Recounts timeouts commands deeds →
        (∀ deed ∈ deeds, deed.limits = engine.runLimits timeouts commands) ∧
        (∀ limit extended,
          (engine.run timeouts commands).1 = .failed (.scriptTimeout limit extended) →
            ∃ before deed, deeds = before ++ [deed] ∧ deed.ending = .cut) ∧
        ∀ deed ∈ deeds, ∀ raw, deed.step = .monitor raw .indefinite →
          deed.engine.clock * 1000000 ≤ engine.clock * 1000000 + timeouts.script.nanos →
            deed.Outlasts := by
  refine ⟨engine.exists_recounts timeouts commands, fun deeds recounts => ⟨?_, ?_, ?_⟩⟩
  · exact fun deed member => recounts.limits_of_mem member
  · intro limit extended timedOut
    have cut := executed_of_scriptTimeout timedOut
    obtain ⟨before, deed, split, ended⟩ := Execution.exists_last recounts (by rw [cut]; exact id)
    exact ⟨before, deed, split, ended.trans cut⟩
  · intro deed member raw step inTime
    have monitors : commands.any Command.monitors := by
      obtain ⟨command, among, inside⟩ := List.mem_flatMap.1 (recounts.step_of_mem member)
      rw [step] at inside
      exact List.any_eq_true.2 ⟨command, among, command.monitors_iff.2 ⟨raw, .indefinite, inside⟩⟩
    have bound : deed.limits.bound =
        momentAfter? engine.clock (timeouts.script.saturatingAdd indefiniteLength) := by
      rw [recounts.limits_of_mem member, runLimits, runLength, if_pos monitors]
    refine deed.outlasts_of_noLater step ?_
    rw [bound]
    exact noLater_extended inTime

-- A silent device: the block falls back to its monitor just when the script timeout is over, and
-- the monitor is over just when the bound comes.
example :
    let device : Device := { feed := [], receive := fun _ _ => .accepted [] }
    let engine : Engine := { channel := { device := device, coming := [] } }
    let block : TryBlock := { name := "safely", script := "login", except := some "watch" }
    let result := engine.run ⟨.ofSeconds 5, .ofSeconds 5⟩
      [.attempt block [.expect "\"#\"" ⟨"#", .lineStart "#"⟩] (some [.monitor "" .indefinite])]
    result.2.clock = 86405000 ∧ result.1 ≠ .failed (.scriptTimeout (.ofSeconds 5) true) := by
  decide +kernel

end Engine

end SerialDialogue
