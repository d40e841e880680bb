import SerialDialogue.Proofs.Engine.Onward
import SerialDialogue.Proofs.Engine.Waiting

/-!
# Longer receive timeouts

The receive timeout gives every expect its deadline, and nothing else depends on it.  An expect
that has its match before one deadline has the same match before a later one: the waits until then
are the same.  Without try blocks no failure of an expect is made good, so a run that succeeds
never met a deadline, and more patience changes nothing about it.
-/

namespace SerialDialogue

namespace Engine

section Deadlines

variable {engine : Engine} {level : Level} {goal : Goal} {deadline deadline' bound : Option Nat}

theorem wake_arrival_of_noLater (noLater : NoLater deadline deadline') {time : Nat}
    (wake : engine.wake deadline bound = .arrival time) :
    engine.wake deadline' bound = .arrival time := by
  obtain ⟨first, arrives, arrivesAt, before, inTime⟩ := nextWake_eq_arrival_iff.1 wake
  exact nextWake_eq_arrival_iff.2 ⟨first, arrives, arrivesAt, noLater.comesBefore before, inTime⟩

/-- Listening that reaches its goal before a deadline does the same before a later one. -/
theorem listen_eq_of_noLater (noLater : NoLater deadline deadline')
    (reached : (engine.listen level goal deadline bound).1 = .reached) :
    engine.listen level goal deadline' bound = engine.listen level goal deadline bound := by
  fun_induction listen engine level goal deadline bound with
  | case1 engine goal heard met => exact listen_of_reached met
  | case2 engine goal heard left goalLeft time wake ih =>
      rw [listen_of_arrival goalLeft (wake_arrival_of_noLater noLater wake)]
      exact ih reached
  | case3 engine goal heard left goalLeft time wake => cases reached
  | case4 engine goal heard left goalLeft time wake => cases reached
  | case5 engine goal heard left goalLeft wake => cases reached

end Deadlines

theorem reached_of_expect_done {engine : Engine} {limits : Limits} {raw : String}
    {pattern : Pattern} (done : (engine.expect limits raw pattern).1 = .done) :
    ((engine.log (.expecting raw)).listen .debug (engine.expected pattern)
      (momentAfter? engine.clock limits.receive) limits.bound).1 = .reached := by
  rw [expect_eq] at done
  dsimp only at done
  generalize (engine.log (.expecting raw)).listen .debug (engine.expected pattern)
    (momentAfter? engine.clock limits.receive) limits.bound = result at done ⊢
  obtain ⟨heard, last⟩ := result
  cases heard with
  | reached => rfl
  | late => cases done
  | cut => cases done
  | stuck => cases done

section Timeouts

variable {receive receive' : Duration} (longer : receive.nanos ≤ receive'.nanos)
  {bound : Option Nat}

include longer

theorem expect_eq_of_longer {engine : Engine} {raw : String} {pattern : Pattern}
    (done : (engine.expect ⟨receive, bound⟩ raw pattern).1 = .done) :
    engine.expect ⟨receive', bound⟩ raw pattern = engine.expect ⟨receive, bound⟩ raw pattern := by
  have noLater : NoLater (momentAfter? engine.clock receive) (momentAfter? engine.clock receive') :=
    noLater_momentAfter? fun _ => Nat.add_le_add_left longer _
  have reached := reached_of_expect_done done
  rw [expect_eq, expect_eq]
  simp only [listen_eq_of_noLater noLater reached, reached, whenHeard]

theorem perform_eq_of_longer {engine : Engine} {step : Step}
    (done : (engine.perform ⟨receive, bound⟩ step).1 = .done) :
    engine.perform ⟨receive', bound⟩ step = engine.perform ⟨receive, bound⟩ step := by
  cases step with
  | send raw => rfl
  | expect raw pattern => exact expect_eq_of_longer longer done
  | monitor raw span => rfl

theorem executeFrom_eq_of_longer {engine : Engine} {steps : List Step} {index total : Nat}
    (done : (engine.executeFrom ⟨receive, bound⟩ index total (steps.map .step)).1 = .done) :
    engine.executeFrom ⟨receive', bound⟩ index total (steps.map .step) =
      engine.executeFrom ⟨receive, bound⟩ index total (steps.map .step) := by
  induction steps generalizing engine index with
  | nil => rfl
  | cons step later ih =>
      simp only [List.map_cons, executeFrom, performCommand] at done ⊢
      rcases performed : Engine.perform _ ⟨receive, bound⟩ step with ⟨_ | failure | _ | _, next⟩ <;>
        rw [performed] at done
      case done =>
        have same := perform_eq_of_longer longer (congrArg Prod.fst performed)
        rw [same, performed]
        exact ih done
      all_goals cases done

/-- A longer receive timeout never hurts.  A run without try blocks that succeeds is the same run,
with the same past, clock and session, under every longer receive timeout, be it too long for the
clock. -/
theorem run_eq_of_longer_receive (engine : Engine) (script : Duration) (steps : List Step)
    (done : (engine.run ⟨script, receive⟩ (steps.map .step)).1 = .done) :
    engine.run ⟨script, receive'⟩ (steps.map .step) =
      engine.run ⟨script, receive⟩ (steps.map .step) := by
  have executed := executed_of_run_done done
  have same : engine.executed ⟨script, receive'⟩ (steps.map .step) =
      engine.executed ⟨script, receive⟩ (steps.map .step) :=
    executeFrom_eq_of_longer longer executed
  have executed' : (engine.executed ⟨script, receive'⟩ (steps.map .step)).1 = .done := by
    rw [same, executed]
  rw [run_eq_executed executed', run_eq_executed executed, same]

end Timeouts

/-! ## A device that takes its time -/

namespace Slow

/-- A device that asks for a name after four seconds and is ready some seconds later. -/
def device : Device where
  feed := [⟨4000, .bytes "login: ".toUTF8.data.toList⟩, ⟨9500, .bytes "# ".toUTF8.data.toList⟩]
  receive _ _ := .accepted []

def start : Engine where
  channel := { device := device, coming := device.feed }

def steps : List Step :=
  [.expect "\"login:\"" ⟨"login:", .lineStart "login:"⟩, .send "'root'",
    .monitor "1s" (.duration (.ofSeconds 1)), .expect "\"#\"" ⟨"#", .lineStart "#"⟩]

/-- Five seconds are enough for every expect, and so is a time that the clock cannot tell. -/
theorem run_patiently :
    ofDevice device = start ∧ momentAfter? 0 .maximum = none ∧
      (start.run ⟨.ofSeconds 60, .ofSeconds 5⟩ (steps.map .step)).1 = .done ∧
        start.run ⟨.ofSeconds 60, .maximum⟩ (steps.map .step) =
          start.run ⟨.ofSeconds 60, .ofSeconds 5⟩ (steps.map .step) := by
  have done : (start.run ⟨.ofSeconds 60, .ofSeconds 5⟩ (steps.map .step)).1 = .done := by
    decide +kernel
  refine ⟨ofDevice_of_pairwise (by decide +kernel), by decide +kernel, done, ?_⟩
  exact run_eq_of_longer_receive (by decide +kernel) start (.ofSeconds 60) steps done

end Slow

end Engine

end SerialDialogue
