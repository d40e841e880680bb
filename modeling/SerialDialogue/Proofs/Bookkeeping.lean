import Mathlib.Data.List.Induction
import SerialDialogue.Proofs.Replay

/-!
# The books of replays

A replay moves the cursor of a transcript and records how its expects went.  Where the cursor
goes is said here without the replay: by the numbers of the lines that the patterns match.  From
this relation come the rules that hold of any number of replays on one transcript.
-/

namespace SerialDialogue

/-! ## Passages -/

/-- Steps that are replayed one after another, whatever their failures, take the cursor from one
line number to another one, and outcomes are recorded on the way.  Sends leave the cursor, monitors
put it a few lines further, and expects put it behind the first line from there on that matches, or
behind the last line where no line does. -/
inductive Passage (lines : List String) : Nat → List Step → List Outcome → Nat → Prop where
  | stay {cursor : Nat} : Passage lines cursor [] [] cursor
  | send {cursor finish : Nat} {steps : List Step} {outcomes : List Outcome} (raw : String) :
      Passage lines cursor steps outcomes finish →
        Passage lines cursor (.send raw :: steps) outcomes finish
  | monitor {cursor finish : Nat} {steps : List Step} {outcomes : List Outcome} (raw : String)
      (bound : Bound) :
      Passage lines (min (cursor + previewLines) lines.length) steps outcomes finish →
        Passage lines cursor (.monitor raw bound :: steps) outcomes finish
  | matched {cursor finish index : Nat} {steps : List Step} {outcomes : List Outcome}
      {raw : String} {pattern : Pattern} : pattern.FirstAt lines cursor index →
      Passage lines (index + 1) steps outcomes finish →
        Passage lines cursor (.expect raw pattern :: steps) (⟨raw, true, index + 1⟩ :: outcomes)
          finish
  | unmatched {cursor finish : Nat} {steps : List Step} {outcomes : List Outcome} {raw : String}
      {pattern : Pattern} : (∀ index, cursor ≤ index → ¬ pattern.MatchesAt lines index) →
      Passage lines lines.length steps outcomes finish →
        Passage lines cursor (.expect raw pattern :: steps) (⟨raw, false, lines.length⟩ :: outcomes)
          finish

namespace Passage

variable {lines : List String} {start middle finish : Nat} {steps later : List Step}
  {outcomes more : List Outcome}

theorem append (passage : Passage lines start steps outcomes middle)
    (further : Passage lines middle later more finish) :
    Passage lines start (steps ++ later) (outcomes ++ more) finish := by
  induction passage with
  | stay => exact further
  | send raw _ ih => exact .send raw (ih further)
  | monitor raw bound _ ih => exact .monitor raw bound (ih further)
  | matched first _ ih => exact .matched first (ih further)
  | unmatched nowhere _ ih => exact .unmatched nowhere (ih further)

theorem split (passage : Passage lines start (steps ++ later) outcomes finish) :
    ∃ before behind middle, outcomes = before ++ behind ∧
      Passage lines start steps before middle ∧ Passage lines middle later behind finish := by
  induction steps generalizing start outcomes with
  | nil => exact ⟨[], outcomes, start, rfl, .stay, passage⟩
  | cons step steps ih =>
      cases passage with
      | send raw rest =>
          obtain ⟨before, behind, middle, rfl, first, second⟩ := ih rest
          exact ⟨before, behind, middle, rfl, .send raw first, second⟩
      | monitor raw bound rest =>
          obtain ⟨before, behind, middle, rfl, first, second⟩ := ih rest
          exact ⟨before, behind, middle, rfl, .monitor raw bound first, second⟩
      | matched found rest =>
          obtain ⟨before, behind, middle, rfl, first, second⟩ := ih rest
          exact ⟨_ :: before, behind, middle, rfl, .matched found first, second⟩
      | unmatched nowhere rest =>
          obtain ⟨before, behind, middle, rfl, first, second⟩ := ih rest
          exact ⟨_ :: before, behind, middle, rfl, .unmatched nowhere first, second⟩

/-- The steps alone say where the cursor goes and what is recorded. -/
theorem unique {finish' : Nat} {outcomes' : List Outcome}
    (passage : Passage lines start steps outcomes finish)
    (passage' : Passage lines start steps outcomes' finish') :
    outcomes = outcomes' ∧ finish = finish' := by
  induction passage generalizing outcomes' with
  | stay =>
      cases passage'
      exact ⟨rfl, rfl⟩
  | send raw _ ih =>
      cases passage' with
      | send _ rest => exact ih rest
  | monitor raw bound _ ih =>
      cases passage' with
      | monitor _ _ rest => exact ih rest
  | matched first _ ih =>
      cases passage' with
      | matched first' rest =>
          obtain rfl := first.unique first'
          obtain ⟨rfl, rfl⟩ := ih rest
          exact ⟨rfl, rfl⟩
      | unmatched nowhere _ => exact absurd first.found (nowhere _ first.ahead)
  | unmatched nowhere _ ih =>
      cases passage' with
      | matched first _ => exact absurd first.found (nowhere _ first.ahead)
      | unmatched _ rest =>
          obtain ⟨rfl, rfl⟩ := ih rest
          exact ⟨rfl, rfl⟩

end Passage

/-! ## Orderly books -/

/-- The cursor has not gone back from the first outcome to the second one, and it has gone on if
the second one is a match. -/
def Outcome.Precedes (first second : Outcome) : Prop :=
  first.cursor ≤ second.cursor ∧ (second.matched = true → first.cursor < second.cursor)

/-- Outcomes that were recorded among so many lines while the cursor went from `start` to
`finish`. -/
structure Orderly (count start finish : Nat) (outcomes : List Outcome) : Prop where
  advances : start ≤ finish
  within : finish ≤ count
  behind : ∀ outcome ∈ outcomes,
    start ≤ outcome.cursor ∧ (outcome.matched = true → start < outcome.cursor)
  reached : ∀ outcome ∈ outcomes, outcome.cursor ≤ finish
  exhausted : ∀ outcome ∈ outcomes, outcome.matched = false → outcome.cursor = count
  inOrder : outcomes.Pairwise Outcome.Precedes

namespace Orderly

variable {count start middle finish : Nat} {outcomes more : List Outcome}

theorem nil (advances : start ≤ finish) (within : finish ≤ count) :
    Orderly count start finish [] :=
  ⟨advances, within, nofun, nofun, nofun, .nil⟩

theorem append (first : Orderly count start middle outcomes)
    (second : Orderly count middle finish more) :
    Orderly count start finish (outcomes ++ more) where
  advances := Nat.le_trans first.advances second.advances
  within := second.within
  behind := by
    have advances := first.advances
    intro outcome member
    rcases List.mem_append.1 member with before | after
    · exact first.behind outcome before
    · obtain ⟨reached, further⟩ := second.behind outcome after
      exact ⟨Nat.le_trans advances reached,
        fun found => Nat.lt_of_le_of_lt advances (further found)⟩
  reached := by
    intro outcome member
    rcases List.mem_append.1 member with before | after
    · exact Nat.le_trans (first.reached outcome before) second.advances
    · exact second.reached outcome after
  exhausted := by
    intro outcome member
    rcases List.mem_append.1 member with before | after
    · exact first.exhausted outcome before
    · exact second.exhausted outcome after
  inOrder := by
    refine List.pairwise_append.2 ⟨first.inOrder, second.inOrder, ?_⟩
    intro outcome member other member'
    have reached := first.reached outcome member
    obtain ⟨further, found⟩ := second.behind other member'
    exact ⟨Nat.le_trans reached further, fun matched => Nat.lt_of_le_of_lt reached (found matched)⟩

theorem singleton (outcome : Outcome) (advances : start ≤ outcome.cursor)
    (within : outcome.cursor ≤ count) (found : outcome.matched = true → start < outcome.cursor)
    (missed : outcome.matched = false → outcome.cursor = count) :
    Orderly count start outcome.cursor [outcome] where
  advances := advances
  within := within
  behind := by simpa using ⟨advances, found⟩
  reached := by simp
  exhausted := by simpa using missed
  inOrder := List.pairwise_singleton _ _

/-- Behind an expect without a match all expects are without one, and the cursor stays. -/
theorem stuck (orderly : Orderly count start finish outcomes) :
    outcomes.Pairwise fun first second => first.cursor ≤ second.cursor ∧
      (first.matched = false → second.matched = false ∧ second.cursor = first.cursor) := by
  refine orderly.inOrder.imp_of_mem ?_
  intro first second member member' precedes
  refine ⟨precedes.1, fun missed => ?_⟩
  have last := orderly.exhausted first member missed
  have within := Nat.le_trans (orderly.reached second member') orderly.within
  have reached := precedes.1
  refine ⟨?_, by omega⟩
  cases found : second.matched with
  | false => rfl
  | true =>
      have further := precedes.2 found
      omega

end Orderly

theorem Passage.orderly {lines : List String} {start finish : Nat} {steps : List Step}
    {outcomes : List Outcome} (passage : Passage lines start steps outcomes finish)
    (within : start ≤ lines.length) : Orderly lines.length start finish outcomes := by
  induction passage with
  | stay => exact .nil (Nat.le_refl _) within
  | send raw _ ih => exact ih within
  | @monitor cursor _ _ _ raw bound _ ih =>
      have shown : cursor ≤ min (cursor + previewLines) lines.length := by omega
      have further := ih (Nat.min_le_right _ _)
      exact Orderly.append (.nil shown (Nat.min_le_right _ _)) further
  | @matched cursor _ index _ _ raw pattern first _ ih =>
      have ahead := first.ahead
      have line := first.lt_length
      have here : Orderly lines.length cursor (index + 1) [⟨raw, true, index + 1⟩] :=
        Orderly.singleton ⟨raw, true, index + 1⟩ (by dsimp only; omega) line
          (fun _ => by dsimp only; omega) nofun
      exact here.append (ih line)
  | @unmatched cursor _ _ _ raw pattern nowhere _ ih =>
      have here : Orderly lines.length cursor lines.length [⟨raw, false, lines.length⟩] :=
        Orderly.singleton ⟨raw, false, lines.length⟩ within (Nat.le_refl _) nofun fun _ => rfl
      exact here.append (ih (Nat.le_refl _))

/-! ## Replayed steps -/

namespace Transcript

theorem lines_advance {transcript : Transcript} {read later : List String}
    (ahead : transcript.ahead = read ++ later) :
    (transcript.advance read later).lines = transcript.lines := by
  simp [lines, advance, ahead]

theorem cursor_advance (transcript : Transcript) (read later : List String) :
    (transcript.advance read later).cursor = transcript.cursor + read.length := by
  simp [cursor, advance]
  omega

theorem length_lines (transcript : Transcript) :
    transcript.lines.length = transcript.cursor + transcript.ahead.length := by
  simp [lines, cursor]

/-- The transcript behind steps that were replayed: its lines are the same ones, and the cursor and
the outcomes are as the passage says. -/
structure Follows (transcript : Transcript) (steps : List Step) (outcomes : List Outcome)
    (next : Transcript) : Prop where
  sameLines : next.lines = transcript.lines
  recorded : next.outcomes = transcript.outcomes ++ outcomes
  passage : Passage transcript.lines transcript.cursor steps outcomes next.cursor

namespace Follows

variable {transcript next last : Transcript} {steps later : List Step}
  {outcomes more : List Outcome}

theorem refl (transcript : Transcript) : transcript.Follows [] [] transcript :=
  ⟨rfl, (List.append_nil _).symm, .stay⟩

theorem trans (first : transcript.Follows steps outcomes next)
    (second : next.Follows later more last) :
    transcript.Follows (steps ++ later) (outcomes ++ more) last where
  sameLines := second.sameLines.trans first.sameLines
  recorded := by rw [second.recorded, first.recorded, List.append_assoc]
  passage := by
    have further := second.passage
    rw [first.sameLines] at further
    exact first.passage.append further

end Follows

end Transcript

namespace Step

variable {transcript : Transcript}

theorem transcript_replayExpect_unmatched {pattern : Pattern} (raw : String)
    (fails : ∀ line ∈ transcript.ahead, pattern.matchesLine line = false) :
    (replayExpect raw pattern transcript).transcript =
      (transcript.advance transcript.ahead []).record raw false := by
  have passes : ∀ line ∈ transcript.ahead, (!pattern.matchesLine line) = true := by
    intro line member
    simp [fails line member]
  have span : transcript.ahead.span (!pattern.matchesLine ·) = (transcript.ahead, []) := by
    rw [List.span_eq_takeWhile_dropWhile, List.takeWhile_eq_self_iff.2 passes,
      List.dropWhile_eq_nil_iff.2 passes]
  simp only [replayExpect, span]

theorem exists_follows_replayExpect (raw : String) (pattern : Pattern) (transcript : Transcript) :
    ∃ outcomes, transcript.Follows [.expect raw pattern] outcomes
      (replayExpect raw pattern transcript).transcript := by
  rcases replayExpect_cases raw pattern transcript with
    ⟨missed, hit, later, ahead, fails, hits, -, next⟩ | ⟨fails, -⟩
  · have whole : transcript.ahead = (missed ++ [hit]) ++ later := by simp [ahead]
    have cursor : (transcript.advance (missed ++ [hit]) later).cursor =
        transcript.cursor + missed.length + 1 := by
      rw [Transcript.cursor_advance, List.length_append, List.length_singleton, Nat.add_assoc]
    refine ⟨[⟨raw, true, transcript.cursor + missed.length + 1⟩], ?_, ?_, ?_⟩
    · rw [next]
      exact Transcript.lines_advance whole
    · rw [next, Transcript.record, cursor]
      rfl
    · have reached : (replayExpect raw pattern transcript).transcript.cursor =
          transcript.cursor + missed.length + 1 := by
        rw [next]
        exact cursor
      rw [reached]
      exact .matched (Transcript.firstAt_of_ahead ahead fails hits) .stay
  · have next := transcript_replayExpect_unmatched raw fails
    have cursor : (transcript.advance transcript.ahead []).cursor = transcript.lines.length := by
      rw [Transcript.cursor_advance, Transcript.length_lines]
    refine ⟨[⟨raw, false, transcript.lines.length⟩], ?_, ?_, ?_⟩
    · rw [next]
      exact Transcript.lines_advance (List.append_nil _).symm
    · rw [next, Transcript.record, cursor]
      rfl
    · have reached : (replayExpect raw pattern transcript).transcript.cursor =
          transcript.lines.length := by
        rw [next]
        exact cursor
      rw [reached]
      exact .unmatched (fun index => Transcript.not_matchesAt_of_ahead fails) .stay

theorem exists_follows_replay (step : Step) (transcript : Transcript) :
    ∃ outcomes, transcript.Follows [step] outcomes (step.replay transcript).transcript := by
  cases step with
  | send raw => exact ⟨[], rfl, (List.append_nil _).symm, .send raw .stay⟩
  | expect raw pattern => exact exists_follows_replayExpect raw pattern transcript
  | monitor raw bound =>
      have whole : transcript.ahead =
          transcript.ahead.take previewLines ++ transcript.ahead.drop previewLines :=
        (List.take_append_drop ..).symm
      refine ⟨[], Transcript.lines_advance whole, (List.append_nil _).symm, .monitor raw bound ?_⟩
      have reached : (replayMonitor raw transcript).transcript.cursor =
          min (transcript.cursor + previewLines) transcript.lines.length := by
        rw [replayMonitor, Transcript.cursor_advance, List.length_take, Transcript.length_lines]
        omega
      rw [replay, reached]
      exact .stay

theorem exists_follows_replayAllLeniently (steps : List Step) (transcript : Transcript) :
    ∃ outcomes, transcript.Follows steps outcomes (replayAllLeniently transcript steps).2 := by
  induction steps generalizing transcript with
  | nil => exact ⟨[], .refl transcript⟩
  | cons step later ih =>
      obtain ⟨outcomes, first⟩ := step.exists_follows_replay transcript
      obtain ⟨more, second⟩ := ih (step.replay transcript).transcript
      exact ⟨outcomes ++ more, first.trans second⟩

end Step

/-! ## Replayed commands -/

namespace Command

/-- The steps of a command that are replayed. -/
def rehearsed : Command → List Step
  | step instruction => [instruction]
  | attempt _ main _ => main

/-- The command is an expect by itself, and no line from the cursor on serves it. -/
def Misses (lines : List String) (cursor : Nat) (command : Command) : Prop :=
  ∃ raw pattern, command = .step (.expect raw pattern) ∧
    ∀ index, cursor ≤ index → ¬ pattern.MatchesAt lines index

theorem exists_follows_replay (command : Command) (transcript : Transcript) :
    ∃ outcomes,
      transcript.Follows command.rehearsed outcomes (command.replay transcript).transcript := by
  cases command with
  | step instruction => exact instruction.exists_follows_replay transcript
  | attempt block main fallback => exact Step.exists_follows_replayAllLeniently main transcript

/-- Only an expect by itself can fail, and it fails where no line serves it. -/
theorem failure_replay (command : Command) (transcript : Transcript) :
    ¬ command.Misses transcript.lines transcript.cursor ∧
        (command.replay transcript).failure = none ∨
      ∃ raw pattern, command = .step (.expect raw pattern) ∧
        command.Misses transcript.lines transcript.cursor ∧
          (command.replay transcript).failure = some (.patternNotFound raw) := by
  cases command with
  | attempt block main fallback => exact .inl ⟨nofun, rfl⟩
  | step instruction =>
      cases instruction with
      | send raw => exact .inl ⟨nofun, rfl⟩
      | monitor raw bound => exact .inl ⟨nofun, rfl⟩
      | expect raw pattern =>
          rcases Step.replayExpect_spec raw pattern transcript with
            ⟨index, first, done, -⟩ | ⟨nowhere, failed⟩
          · refine .inl ⟨?_, done⟩
            rintro ⟨_, _, ⟨⟩, nowhere⟩
            exact nowhere index first.ahead first.found
          · exact .inr ⟨raw, pattern, rfl, ⟨raw, pattern, rfl, nowhere⟩, failed⟩

end Command

/-- Once the commands before it are replayed, the command of this number is an expect by itself
that no line serves. -/
def MissedAt (lines : List String) (cursor : Nat) (commands : List Command) (place : Nat) : Prop :=
  ∃ command outcomes reached, commands[place]? = some command ∧
    Passage lines cursor ((commands.take place).flatMap Command.rehearsed) outcomes reached ∧
      command.Misses lines reached

section MissedAt

variable {lines : List String} {cursor reached place : Nat} {command : Command}
  {later : List Command} {outcomes : List Outcome}

theorem missedAt_zero :
    MissedAt lines cursor (command :: later) 0 ↔ command.Misses lines cursor := by
  constructor
  · rintro ⟨_, _, _, ⟨⟩, passage, misses⟩
    cases passage
    exact misses
  · intro misses
    exact ⟨command, [], cursor, rfl, .stay, misses⟩

theorem missedAt_succ (passage : Passage lines cursor command.rehearsed outcomes reached) :
    MissedAt lines cursor (command :: later) (place + 1) ↔ MissedAt lines reached later place := by
  constructor
  · rintro ⟨other, _, finish, there, whole, misses⟩
    obtain ⟨before, behind, middle, -, first, second⟩ := whole.split
    obtain ⟨-, rfl⟩ := first.unique passage
    exact ⟨other, behind, finish, there, second, misses⟩
  · rintro ⟨other, behind, finish, there, second, misses⟩
    exact ⟨other, outcomes ++ behind, finish, there, passage.append second, misses⟩

end MissedAt

/-- What a replay of commands that starts at the cursor comes to: it fails with the first expect by
itself that is missed and carries out nothing behind it, or it carries out everything where none is
missed. -/
inductive Concluded (lines : List String) (cursor index : Nat) (commands : List Command) :
    Option Failure → Nat → Prop where
  | whole : (∀ place, ¬ MissedAt lines cursor commands place) →
      Concluded lines cursor index commands none commands.length
  | stopped {place : Nat} {raw : String} {pattern : Pattern} :
      commands[place]? = some (.step (.expect raw pattern)) →
        MissedAt lines cursor commands place →
          (∀ sooner < place, ¬ MissedAt lines cursor commands sooner) →
            Concluded lines cursor index commands
              (some (.command (index + place) (Step.expect raw pattern).text
                (.patternNotFound raw)))
              (place + 1)

theorem Concluded.cons {lines : List String} {cursor reached index count : Nat} {command : Command}
    {later : List Command} {outcomes : List Outcome} {failure : Option Failure}
    (succeeds : ¬ command.Misses lines cursor)
    (passage : Passage lines cursor command.rehearsed outcomes reached)
    (concluded : Concluded lines reached (index + 1) later failure count) :
    Concluded lines cursor index (command :: later) failure (count + 1) := by
  cases concluded with
  | whole noneMissed =>
      refine .whole fun place => ?_
      cases place with
      | zero => exact fun missed => succeeds (missedAt_zero.1 missed)
      | succ place => exact fun missed => noneMissed place ((missedAt_succ passage).1 missed)
  | @stopped place raw pattern there missed least =>
      have same : index + 1 + place = index + (place + 1) := by omega
      rw [same]
      refine .stopped there ((missedAt_succ passage).2 missed) fun sooner early => ?_
      cases sooner with
      | zero => exact fun missed => succeeds (missedAt_zero.1 missed)
      | succ sooner =>
          have early' : sooner < place := by omega
          exact fun missed => least sooner early' ((missedAt_succ passage).1 missed)

namespace Command

theorem transcript_replayFrom_of_failed {command : Command} {transcript : Transcript}
    {source : Failure} (failed : (command.replay transcript).failure = some source)
    (index total : Nat) (later : List Command) :
    (replayFrom index total transcript (command :: later)).transcript =
      (command.replay transcript).transcript := by
  rw [replayFrom]
  simp only [failed]

theorem exists_concluded (index total : Nat) (commands : List Command) (transcript : Transcript) :
    let replayed := replayFrom index total transcript commands
    ∃ count outcomes,
      Concluded transcript.lines transcript.cursor index commands replayed.failure count ∧
        transcript.Follows ((commands.take count).flatMap rehearsed) outcomes
          replayed.transcript := by
  induction commands generalizing index transcript with
  | nil =>
      have nothing : ∀ place, ¬ MissedAt transcript.lines transcript.cursor [] place := by
        rintro place ⟨command, _, _, there, -⟩
        cases there
      exact ⟨0, [], .whole nothing, .refl transcript⟩
  | cons command later ih =>
      obtain ⟨outcomes, first⟩ := command.exists_follows_replay transcript
      rcases command.failure_replay transcript with
        ⟨succeeds, done⟩ | ⟨raw, pattern, rfl, misses, failed⟩
      · obtain ⟨failure, behind⟩ := replayFrom_of_done done index total later
        obtain ⟨count, more, concluded, second⟩ :=
          ih (index + 1) (command.replay transcript).transcript
        rw [first.sameLines] at concluded
        dsimp only
        rw [failure, behind]
        refine ⟨count + 1, outcomes ++ more, concluded.cons succeeds first.passage, ?_⟩
        rw [List.take_succ_cons, List.flatMap_cons]
        exact first.trans second
      · dsimp only
        rw [replayFrom_of_failed failed, transcript_replayFrom_of_failed failed]
        have here : (.step (.expect raw pattern) :: later : List Command)[0]? =
            some (.step (.expect raw pattern)) := rfl
        refine ⟨1, outcomes, .stopped here (missedAt_zero.2 misses) nofun, ?_⟩
        simpa [rehearsed] using first

/-- Commands behind the one with which a replay fails do not matter. -/
theorem replayFrom_eq_of_take {commands others : List Command} {index total place : Nat}
    {transcript : Transcript} {written : String} {source : Failure}
    (failed : (replayFrom index total transcript commands).failure =
      some (.command (index + place) written source))
    (same : others.take (place + 1) = commands.take (place + 1)) :
    replayFrom index total transcript others = replayFrom index total transcript commands := by
  induction commands generalizing others index place transcript with
  | nil => cases failed
  | cons command later ih =>
      obtain ⟨others', rfl, behind⟩ : ∃ others', others = command :: others' ∧
          others'.take place = later.take place := by
        cases others with
        | nil => cases same
        | cons other others' =>
            obtain ⟨rfl, behind⟩ := List.cons.inj same
            exact ⟨others', rfl, behind⟩
      cases outcome : (command.replay transcript).failure with
      | some source' => simp only [replayFrom, outcome]
      | none =>
          rw [(replayFrom_of_done outcome index total later).1] at failed
          -- The failure is further on, so there is a place behind this command.
          obtain ⟨count, -, concluded, -⟩ :=
            exists_concluded (index + 1) total later (command.replay transcript).transcript
          rw [failed] at concluded
          obtain ⟨further, rfl⟩ : ∃ further, place = further + 1 := by
            generalize failure : Failure.command (index + place) written source = failure'
              at concluded
            cases concluded with
            | @stopped further _ _ _ _ _ =>
                refine ⟨further, ?_⟩
                have numbers : index + place = index + 1 + further :=
                  (Failure.command.inj failure).1
                omega
          have there : index + (further + 1) = index + 1 + further := by omega
          rw [there] at failed
          simp only [replayFrom, outcome, ih failed behind]

/-- A command without what a try block does when its main script fails. -/
def withoutRecovery : Command → Command
  | step instruction => .step instruction
  | attempt block main _ => .attempt { block with except := none, retry := false } main none

theorem text_withoutRecovery (command : Command) : command.withoutRecovery.text = command.text := by
  cases command <;> rfl

theorem replay_withoutRecovery (command : Command) (transcript : Transcript) :
    command.withoutRecovery.replay transcript = command.replay transcript := by
  cases command <;> rfl

theorem replayFrom_withoutRecovery (index total : Nat) (commands : List Command)
    (transcript : Transcript) :
    replayFrom index total transcript (commands.map withoutRecovery) =
      replayFrom index total transcript commands := by
  induction commands generalizing index transcript with
  | nil => rfl
  | cons command later ih =>
      simp only [List.map_cons, replayFrom, text_withoutRecovery, replay_withoutRecovery, ih]

end Command

/-! ## Several replays -/

/-- The transcript behind several replays on it, whether they succeed or fail. -/
def Transcript.replayed (transcript : Transcript) (replays : List (List Command)) : Transcript :=
  replays.foldl (fun transcript commands => (Command.replayAll commands transcript).transcript)
    transcript

/-- What was recorded on a fresh transcript is in order, however often commands were replayed on
it. -/
theorem Transcript.orderly_replayed (text : List Char) (replays : List (List Command)) :
    let transcript := (ofText text).replayed replays
    transcript.lines = (ofText text).lines ∧
      Orderly transcript.lines.length 0 transcript.cursor transcript.outcomes := by
  induction replays using List.reverseRecOn with
  | nil => exact ⟨rfl, .nil (Nat.le_refl 0) (Nat.zero_le _)⟩
  | append_singleton replays commands ih =>
      obtain ⟨same, orderly⟩ := ih
      let before := (ofText text).replayed replays
      obtain ⟨count, outcomes, -, follows⟩ :=
        Command.exists_concluded 0 commands.length commands before
      have replayed : (ofText text).replayed (replays ++ [commands]) =
          (Command.replayFrom 0 commands.length before commands).transcript := by
        simp [Transcript.replayed, Command.replayAll, before]
      have further : Orderly before.lines.length before.cursor
          (Command.replayFrom 0 commands.length before commands).transcript.cursor outcomes :=
        follows.passage.orderly orderly.within
      dsimp only
      rw [replayed, follows.sameLines, follows.recorded]
      exact ⟨same, orderly.append further⟩

/-- What a replay does, behind any other replays on a fresh transcript.  The cursor does not go
back, nor past the lines.  The outcomes that were recorded stay, and those that are added are, with
the cursor, those of a passage: of all commands if every expect at top level is served, or else of
the commands up to the first that is not, with which the replay fails.  Behind an expect without a
match there are no more matches.  What a try block does when its main script fails does not
matter. -/
theorem replay_passage (text : List Char) (earlier : List (List Command))
    (commands : List Command) :
    let lines := (Text.pieces '\n' text).map String.ofList
    let before := (Transcript.ofText text).replayed earlier
    let replay := Command.replayAll commands before
    let next := replay.transcript
    (before.cursor ≤ next.cursor ∧ next.cursor ≤ lines.length) ∧
      (∃ count outcomes, next.outcomes = before.outcomes ++ outcomes ∧
        Passage lines before.cursor ((commands.take count).flatMap Command.rehearsed) outcomes
            next.cursor ∧
          ((∀ place, ¬ MissedAt lines before.cursor commands place) ∧ count = commands.length ∧
              replay.result = .ok next.outcomes ∨
            ∃ place raw pattern, commands[place]? = some (.step (.expect raw pattern)) ∧
              MissedAt lines before.cursor commands place ∧
                (∀ sooner < place, ¬ MissedAt lines before.cursor commands sooner) ∧
                  count = place + 1 ∧
                    replay.result = .error (.command place (Step.expect raw pattern).text
                      (.patternNotFound raw)) ∧
                    ∀ others, others.length = commands.length →
                      others.take (place + 1) = commands.take (place + 1) →
                        Command.replayAll others before = replay)) ∧
      (next.outcomes.Pairwise fun first second => first.cursor ≤ second.cursor ∧
        (first.matched = false → second.matched = false ∧ second.cursor = first.cursor)) ∧
      Command.replayAll (commands.map Command.withoutRecovery) before = replay := by
  intro lines before replay next
  obtain ⟨same, orderly⟩ := Transcript.orderly_replayed text earlier
  have whole : before.lines = lines := by
    rw [same]
    simp [Transcript.lines, Transcript.ofText, lines]
  obtain ⟨count, outcomes, concluded, follows⟩ :=
    Command.exists_concluded 0 commands.length commands before
  have further := follows.passage.orderly orderly.within
  rw [whole] at concluded further orderly
  have passage := follows.passage
  rw [whole] at passage
  refine ⟨⟨further.advances, further.within⟩, ⟨count, outcomes, follows.recorded, passage, ?_⟩, ?_,
    ?_⟩
  · have result : replay.result = replay.failure.elim (.ok next.outcomes) .error :=
      Replay.result_eq replay
    have failure : replay.failure =
        (Command.replayFrom 0 commands.length before commands).failure := rfl
    rw [← failure] at concluded
    generalize outcome : replay.failure = conclusion at concluded result
    cases concluded with
    | whole noneMissed => exact .inl ⟨noneMissed, rfl, result⟩
    | @stopped place raw pattern there missed least =>
        rw [failure] at outcome
        rw [Nat.zero_add] at result
        refine .inr ⟨place, raw, pattern, there, missed, least, rfl, result, ?_⟩
        intro others length same
        simp only [Command.replayAll, length, Command.replayFrom_eq_of_take outcome same, replay]
  · have recorded : next.outcomes = before.outcomes ++ outcomes := follows.recorded
    rw [recorded]
    exact (orderly.append further).stuck
  · simp only [Command.replayAll, List.length_map, Command.replayFrom_withoutRecovery, replay]

end SerialDialogue
