import Mathlib.Data.List.Forall2
import Mathlib.Data.List.TakeDrop
import Mathlib.Data.List.TakeWhile
import SerialDialogue.Transcript

/-!
# Greedy replays

A replay serves every expect with the first line behind the cursor that its pattern matches, and
never goes back.  Nothing is lost by that.  Where the expects can be served by any lines in their
order, they are served, and no choice of lines comes sooner than the replay at any of them; where
they cannot, the replay fails at the first expect with which they cannot.
-/

namespace SerialDialogue

/-! ## Choices of lines -/

/-- The pattern matches the line of this number. -/
def Pattern.MatchesAt (pattern : Pattern) (lines : List String) (index : Nat) : Prop :=
  ∃ line, lines[index]? = some line ∧ pattern.matchesLine line = true

/-- Line numbers from the cursor on, one behind the other, that serve the patterns one by one. -/
structure Serves (lines : List String) (cursor : Nat) (patterns : List Pattern)
    (indices : List Nat) : Prop where
  ahead : ∀ index ∈ indices, cursor ≤ index
  inOrder : indices.Pairwise (· < ·)
  found : List.Forall₂ (fun pattern index => pattern.MatchesAt lines index) patterns indices

/-- The patterns can be served by lines from the cursor on. -/
def Servable (lines : List String) (cursor : Nat) (patterns : List Pattern) : Prop :=
  ∃ indices, Serves lines cursor patterns indices

/-- The line is the first one from the cursor on that the pattern matches. -/
structure Pattern.FirstAt (pattern : Pattern) (lines : List String) (cursor index : Nat) :
    Prop where
  ahead : cursor ≤ index
  found : pattern.MatchesAt lines index
  least : ∀ other, cursor ≤ other → pattern.MatchesAt lines other → index ≤ other

variable {lines : List String} {cursor index : Nat} {pattern : Pattern} {patterns : List Pattern}
  {indices : List Nat}

theorem serves_nil (lines : List String) (cursor : Nat) : Serves lines cursor [] [] :=
  ⟨nofun, .nil, .nil⟩

theorem Serves.eq_nil (serves : Serves lines cursor [] indices) : indices = [] :=
  List.forall₂_nil_left_iff.1 serves.found

theorem serves_cons : Serves lines cursor (pattern :: patterns) (index :: indices) ↔
    cursor ≤ index ∧ pattern.MatchesAt lines index ∧ Serves lines (index + 1) patterns indices := by
  constructor
  · rintro ⟨ahead, inOrder, found⟩
    obtain ⟨first, inOrder⟩ := List.pairwise_cons.1 inOrder
    obtain ⟨here, found⟩ := List.forall₂_cons.1 found
    exact ⟨ahead index List.mem_cons_self, here, ⟨first, inOrder, found⟩⟩
  · rintro ⟨reached, here, ahead, inOrder, found⟩
    refine ⟨?_, List.pairwise_cons.2 ⟨ahead, inOrder⟩, .cons here found⟩
    intro other member
    rcases List.mem_cons.1 member with rfl | later
    · exact reached
    · exact Nat.le_trans reached (Nat.le_of_succ_le (ahead other later))

theorem Serves.exists_cons (serves : Serves lines cursor (pattern :: patterns) indices) :
    ∃ index later, indices = index :: later ∧ cursor ≤ index ∧ pattern.MatchesAt lines index ∧
      Serves lines (index + 1) patterns later := by
  obtain ⟨index, later, -, -, rfl⟩ := List.forall₂_cons_left_iff.1 serves.found
  exact ⟨index, later, rfl, serves_cons.1 serves⟩

theorem Serves.of_le {cursor' : Nat} (serves : Serves lines cursor' patterns indices)
    (sooner : cursor ≤ cursor') : Serves lines cursor patterns indices :=
  ⟨fun index member => Nat.le_trans sooner (serves.ahead index member), serves.inOrder,
    serves.found⟩

namespace Pattern.FirstAt

theorem unique {other : Nat} (first : pattern.FirstAt lines cursor index)
    (first' : pattern.FirstAt lines cursor other) : index = other := by
  apply Nat.le_antisymm
  · exact first.least other first'.ahead first'.found
  · exact first'.least index first.ahead first.found

theorem lt_length (first : pattern.FirstAt lines cursor index) : index < lines.length := by
  obtain ⟨line, here, -⟩ := first.found
  exact (List.getElem?_eq_some_iff.1 here).1

/-- Whatever serves the first pattern, the first line that it matches serves it as well, and
leaves no less to serve the others. -/
theorem serves_later (first : pattern.FirstAt lines cursor index)
    (serves : Serves lines cursor (pattern :: patterns) indices) :
    ∃ other later, indices = other :: later ∧ index ≤ other ∧
      Serves lines (index + 1) patterns later := by
  obtain ⟨other, later, rfl, reached, here, serves⟩ := serves.exists_cons
  have sooner := first.least other reached here
  exact ⟨other, later, rfl, sooner, serves.of_le (Nat.succ_le_succ sooner)⟩

theorem servable_cons (first : pattern.FirstAt lines cursor index) :
    Servable lines cursor (pattern :: patterns) ↔ Servable lines (index + 1) patterns := by
  constructor
  · rintro ⟨indices, serves⟩
    obtain ⟨other, later, -, -, serves⟩ := first.serves_later serves
    exact ⟨later, serves⟩
  · rintro ⟨later, serves⟩
    exact ⟨index :: later, serves_cons.2 ⟨first.ahead, first.found, serves⟩⟩

end Pattern.FirstAt

theorem not_servable_cons (nowhere : ∀ index, cursor ≤ index → ¬ pattern.MatchesAt lines index) :
    ¬ Servable lines cursor (pattern :: patterns) := by
  rintro ⟨indices, serves⟩
  obtain ⟨index, -, -, reached, here, -⟩ := serves.exists_cons
  exact nowhere index reached here

/-! ## One expect -/

/-- An expect reads up to the first line that its pattern matches, or through all lines if there
is none. -/
theorem Step.replayExpect_cases (raw : String) (pattern : Pattern) (transcript : Transcript) :
    (∃ missed hit later, transcript.ahead = missed ++ hit :: later ∧
        (∀ line ∈ missed, pattern.matchesLine line = false) ∧ pattern.matchesLine hit = true ∧
          (replayExpect raw pattern transcript).failure = none ∧
            (replayExpect raw pattern transcript).transcript =
              (transcript.advance (missed ++ [hit]) later).record raw true) ∨
      (∀ line ∈ transcript.ahead, pattern.matchesLine line = false) ∧
        (replayExpect raw pattern transcript).failure = some (.patternNotFound raw) := by
  rcases split : transcript.ahead.span (!pattern.matchesLine ·) with ⟨missed, rest⟩
  have both := (List.span_eq_takeWhile_dropWhile ..).symm.trans split
  obtain ⟨taken, left⟩ := Prod.mk.inj both
  have whole : transcript.ahead = missed ++ rest := by
    rw [← taken, ← left, List.takeWhile_append_dropWhile]
  have fails : ∀ line ∈ missed, pattern.matchesLine line = false := by
    intro line member
    rw [← taken] at member
    simpa using List.mem_takeWhile_imp member
  cases rest with
  | nil =>
      refine .inr ⟨fun line member => fails line ?_, ?_⟩
      · rwa [whole, List.append_nil] at member
      · simp only [replayExpect, split]
  | cons hit later =>
      have hits : pattern.matchesLine hit = true := by
        have nonempty : transcript.ahead.dropWhile (!pattern.matchesLine ·) ≠ [] := by
          rw [left]
          exact List.cons_ne_nil hit later
        simpa [left] using List.head_dropWhile_not (!pattern.matchesLine ·) nonempty
      refine .inl ⟨missed, hit, later, whole, fails, hits, ?_, ?_⟩
      · simp only [replayExpect, split]
      · simp only [replayExpect, split]

namespace Transcript

theorem getElem?_lines (transcript : Transcript) (count : Nat) :
    transcript.lines[transcript.cursor + count]? = transcript.ahead[count]? := by
  have behind : transcript.passed.reverse.length ≤ transcript.cursor + count := by
    rw [List.length_reverse]
    exact Nat.le_add_right _ _
  rw [lines, List.getElem?_append_right behind, List.length_reverse, cursor,
    Nat.add_sub_cancel_left]

variable {transcript : Transcript} {missed later : List String} {hit : String}

theorem firstAt_of_ahead (ahead : transcript.ahead = missed ++ hit :: later)
    (fails : ∀ line ∈ missed, pattern.matchesLine line = false)
    (hits : pattern.matchesLine hit = true) :
    pattern.FirstAt transcript.lines transcript.cursor (transcript.cursor + missed.length) where
  ahead := Nat.le_add_right _ _
  found := by
    refine ⟨hit, ?_, hits⟩
    rw [getElem?_lines, ahead, List.getElem?_append_right (Nat.le_refl _), Nat.sub_self]
    rfl
  least := by
    rintro other reached ⟨line, here, matching⟩
    obtain ⟨count, rfl⟩ := Nat.exists_eq_add_of_le reached
    refine Nat.add_le_add_left (Nat.le_of_not_lt fun early => ?_) _
    rw [getElem?_lines, ahead, List.getElem?_append_left early] at here
    rw [fails line (List.mem_of_getElem? here)] at matching
    cases matching

theorem not_matchesAt_of_ahead (fails : ∀ line ∈ transcript.ahead, pattern.matchesLine line = false)
    {index : Nat} (reached : transcript.cursor ≤ index) :
    ¬ pattern.MatchesAt transcript.lines index := by
  rintro ⟨line, here, matching⟩
  obtain ⟨count, rfl⟩ := Nat.exists_eq_add_of_le reached
  rw [getElem?_lines] at here
  rw [fails line (List.mem_of_getElem? here)] at matching
  cases matching

end Transcript

/-- The transcript behind an expect that was served by the line: no line is lost, the cursor is
behind that line, and this is recorded. -/
structure Transcript.ServedBy (transcript : Transcript) (raw : String) (index : Nat)
    (next : Transcript) : Prop where
  lines : next.lines = transcript.lines
  cursor : next.cursor = index + 1
  outcomes : next.outcomes = transcript.outcomes ++ [⟨raw, true, index + 1⟩]

/-- An expect is served by the first line that its pattern matches, and it fails if there is
none. -/
theorem Step.replayExpect_spec (raw : String) (pattern : Pattern) (transcript : Transcript) :
    (∃ index, pattern.FirstAt transcript.lines transcript.cursor index ∧
        (replayExpect raw pattern transcript).failure = none ∧
          transcript.ServedBy raw index (replayExpect raw pattern transcript).transcript) ∨
      (∀ index, transcript.cursor ≤ index → ¬ pattern.MatchesAt transcript.lines index) ∧
        (replayExpect raw pattern transcript).failure = some (.patternNotFound raw) := by
  rcases replayExpect_cases raw pattern transcript with
    ⟨missed, hit, later, ahead, fails, hits, succeeded, next⟩ | ⟨fails, failed⟩
  · refine .inl ⟨_, transcript.firstAt_of_ahead ahead fails hits, succeeded, ?_⟩
    have cursor : (transcript.advance (missed ++ [hit]) later).cursor =
        transcript.cursor + missed.length + 1 := by
      simp [Transcript.advance, Transcript.cursor]
      omega
    rw [next]
    refine ⟨?_, cursor, ?_⟩
    · simp [Transcript.lines, Transcript.record, Transcript.advance, ahead]
    · rw [Transcript.record, cursor]
      rfl
  · exact .inr ⟨fun index => Transcript.not_matchesAt_of_ahead fails, failed⟩

/-! ## Scripts -/

/-- What an expect waits for, as it was written and compiled. -/
def Step.expected? : Step → Option (String × Pattern)
  | expect raw pattern => some (raw, pattern)
  | _ => none

/-- What the expects among the steps wait for. -/
def expectations (steps : List Step) : List (String × Pattern) :=
  steps.filterMap Step.expected?

/-- The lines serve the expects among the steps, and no other lines serve any of them sooner. -/
structure ServesFirst (lines : List String) (cursor : Nat) (steps : List Step)
    (indices : List Nat) : Prop where
  serves : Serves lines cursor ((expectations steps).map Prod.snd) indices
  least : ∀ others, Serves lines cursor ((expectations steps).map Prod.snd) others →
    List.Forall₂ (· ≤ ·) indices others

/-- The step is the first one up to which the expects among the steps cannot be served. -/
def FailsFirst (lines : List String) (cursor : Nat) (steps : List Step) (place : Nat) : Prop :=
  ∀ count, Servable lines cursor ((expectations (steps.take count)).map Prod.snd) ↔ count ≤ place

/-- The outcomes of expects that were served by the lines. -/
def servedOutcomes (expects : List (String × Pattern)) (indices : List Nat) : List Outcome :=
  List.zipWith (fun expect index => ⟨expect.1, true, index + 1⟩) expects indices

variable {steps : List Step} {step : Step} {raw : String} {place : Nat}

theorem servesFirst_nil (lines : List String) (cursor : Nat) : ServesFirst lines cursor [] [] where
  serves := serves_nil lines cursor
  least others serves := by
    rw [serves.eq_nil]
    exact .nil

theorem ServesFirst.expect (first : pattern.FirstAt lines cursor index)
    (later : ServesFirst lines (index + 1) steps indices) (raw : String) :
    ServesFirst lines cursor (.expect raw pattern :: steps) (index :: indices) where
  serves := serves_cons.2 ⟨first.ahead, first.found, later.serves⟩
  least others serves := by
    obtain ⟨other, others, rfl, sooner, serves⟩ := first.serves_later serves
    exact .cons sooner (later.least others serves)

theorem FailsFirst.cons {cursor' : Nat} (fails : FailsFirst lines cursor' steps place)
    (same : ∀ count,
      Servable lines cursor ((expectations (step :: steps.take count)).map Prod.snd) ↔
        Servable lines cursor' ((expectations (steps.take count)).map Prod.snd)) :
    FailsFirst lines cursor (step :: steps) (place + 1) := by
  intro count
  cases count with
  | zero => exact ⟨fun _ => Nat.zero_le _, fun _ => ⟨[], serves_nil lines cursor⟩⟩
  | succ count =>
      rw [List.take_succ_cons, same, fails count]
      exact Nat.succ_le_succ_iff.symm

theorem failsFirst_zero (nowhere : ∀ index, cursor ≤ index → ¬ pattern.MatchesAt lines index)
    (raw : String) (steps : List Step) :
    FailsFirst lines cursor (.expect raw pattern :: steps) 0 := by
  intro count
  cases count with
  | zero => exact ⟨fun _ => Nat.zero_le _, fun _ => ⟨[], serves_nil lines cursor⟩⟩
  | succ count =>
      have never : ¬ Servable lines cursor
          ((expectations (.expect raw pattern :: steps.take count)).map Prod.snd) :=
        not_servable_cons nowhere
      exact ⟨fun servable => absurd servable never,
        fun few => absurd few (Nat.not_succ_le_zero count)⟩

namespace Command

variable {command : Command} {later : List Command} {transcript : Transcript}

theorem replayFrom_of_done (done : (command.replay transcript).failure = none)
    (index total : Nat) (later : List Command) :
    (replayFrom index total transcript (command :: later)).failure =
        (replayFrom (index + 1) total (command.replay transcript).transcript later).failure ∧
      (replayFrom index total transcript (command :: later)).transcript =
        (replayFrom (index + 1) total (command.replay transcript).transcript later).transcript := by
  rw [replayFrom]
  simp only [done, and_self]

theorem replayFrom_of_failed {source : Failure}
    (failed : (command.replay transcript).failure = some source) (index total : Nat)
    (later : List Command) :
    (replayFrom index total transcript (command :: later)).failure =
      some (.command index command.text source) := by
  rw [replayFrom]
  simp only [failed]

end Command

theorem Replay.result_eq (replay : Replay) :
    replay.result = replay.failure.elim (.ok replay.transcript.outcomes) .error := by
  unfold result
  cases replay.failure with
  | none => rfl
  | some failure => rfl

/-- What comes of a replay of steps, the first of which has the number `start`: all expects were
served with their first lines, or the first expect up to which they cannot be served failed. -/
inductive Replayed (transcript : Transcript) (steps : List Step) (start : Nat) :
    Option Failure → List Outcome → Prop where
  | served {indices : List Nat} :
      ServesFirst transcript.lines transcript.cursor steps indices →
        Replayed transcript steps start none
          (transcript.outcomes ++ servedOutcomes (expectations steps) indices)
  | failed {place : Nat} {raw : String} {pattern : Pattern} {outcomes : List Outcome} :
      steps[place]? = some (.expect raw pattern) →
        FailsFirst transcript.lines transcript.cursor steps place →
          Replayed transcript steps start
            (some (.command (start + place) (Step.expect raw pattern).text (.patternNotFound raw)))
            outcomes

namespace Replayed

variable {transcript next : Transcript} {start : Nat} {failure : Option Failure}
  {outcomes : List Outcome}

theorem send (replayed : Replayed transcript steps (start + 1) failure outcomes) (raw : String) :
    Replayed transcript (.send raw :: steps) start failure outcomes := by
  cases replayed with
  | served serves => exact .served ⟨serves.serves, serves.least⟩
  | @failed place _ _ _ there fails =>
      rw [Nat.add_assoc, Nat.add_comm 1 place]
      exact .failed there (fails.cons fun _ => Iff.rfl)

theorem expect (first : pattern.FirstAt transcript.lines transcript.cursor index)
    (served : transcript.ServedBy raw index next)
    (replayed : Replayed next steps (start + 1) failure outcomes) :
    Replayed transcript (.expect raw pattern :: steps) start failure outcomes := by
  cases replayed with
  | served serves =>
      rw [served.lines, served.cursor] at serves
      rw [served.outcomes, List.append_assoc]
      exact .served (serves.expect first raw)
  | @failed place _ _ _ there fails =>
      rw [served.lines, served.cursor] at fails
      rw [Nat.add_assoc, Nat.add_comm 1 place]
      exact .failed there (fails.cons fun _ => first.servable_cons)

end Replayed

theorem replayFrom_steps (plain : ∀ step ∈ steps, ¬ step.monitors) (start total : Nat)
    (transcript : Transcript) :
    Replayed transcript steps start
      (Command.replayFrom start total transcript (steps.map .step)).failure
      (Command.replayFrom start total transcript (steps.map .step)).transcript.outcomes := by
  induction steps generalizing start transcript with
  | nil =>
      have nothing : Replayed transcript [] start none (transcript.outcomes ++ []) :=
        .served (servesFirst_nil transcript.lines transcript.cursor)
      rwa [List.append_nil] at nothing
  | cons step steps ih =>
      obtain ⟨here, others⟩ := List.forall_mem_cons.1 plain
      cases step with
      | monitor raw bound => exact absurd rfl here
      | send raw =>
          have done : ((Command.step (.send raw)).replay transcript).failure = none := rfl
          obtain ⟨failure, behind⟩ := Command.replayFrom_of_done done start total (steps.map .step)
          rw [List.map_cons, failure, behind]
          exact (ih others (start + 1) transcript).send raw
      | expect raw pattern =>
          rcases Step.replayExpect_spec raw pattern transcript with
            ⟨index, first, done, served⟩ | ⟨nowhere, failed⟩
          · have done : ((Command.step (.expect raw pattern)).replay transcript).failure = none :=
              done
            obtain ⟨failure, behind⟩ :=
              Command.replayFrom_of_done done start total (steps.map .step)
            rw [List.map_cons, failure, behind]
            exact .expect first served (ih others (start + 1) _)
          · have failed : ((Command.step (.expect raw pattern)).replay transcript).failure =
                some (.patternNotFound raw) := failed
            have there : (Step.expect raw pattern :: steps)[0]? = some (.expect raw pattern) := rfl
            rw [List.map_cons, Command.replayFrom_of_failed failed]
            exact .failed there (failsFirst_zero nowhere raw steps)

/-- A replay loses nothing by being greedy.  From wherever the cursor stands, sends and expects
succeed just in case some lines from there on serve the expects in their order.  Then the replay
has recorded such lines, by the cursor behind each, and none of them could come sooner.  If the
replay fails, it names the first expect up to which the expects cannot be served. -/
theorem replay_complete_minimal (steps : List Step) (plain : ∀ step ∈ steps, ¬ step.monitors)
    (transcript : Transcript) :
    let result := (Command.replayAll (steps.map .step) transcript).result
    ((∃ outcomes, result = .ok outcomes) ↔
        ∃ indices, Serves transcript.lines transcript.cursor
          ((expectations steps).map Prod.snd) indices) ∧
      (∀ outcomes, result = .ok outcomes →
        ∃ indices, ServesFirst transcript.lines transcript.cursor steps indices ∧
          outcomes = transcript.outcomes ++ servedOutcomes (expectations steps) indices) ∧
      ∀ failure, result = .error failure →
        ∃ place raw pattern, steps[place]? = some (.expect raw pattern) ∧
          failure = .command place (Step.expect raw pattern).text (.patternNotFound raw) ∧
            FailsFirst transcript.lines transcript.cursor steps place := by
  intro result
  let replay := Command.replayFrom 0 (steps.map Command.step).length transcript (steps.map .step)
  have replayed : Replayed transcript steps 0 replay.failure replay.transcript.outcomes :=
    replayFrom_steps plain 0 _ transcript
  have known : result = replay.failure.elim (.ok replay.transcript.outcomes) .error :=
    Replay.result_eq _
  clear_value result
  generalize replay.failure = failure, replay.transcript.outcomes = outcomes at replayed known
  subst known
  cases replayed with
  | @served indices serves =>
      refine ⟨⟨fun _ => ⟨indices, serves.serves⟩, fun _ => ⟨_, rfl⟩⟩, ?_, nofun⟩
      rintro _ ⟨⟩
      exact ⟨indices, serves, rfl⟩
  | @failed place raw pattern _ there fails =>
      refine ⟨⟨nofun, fun servable => ?_⟩, nofun, ?_⟩
      · have within : place < steps.length := (List.getElem?_eq_some_iff.1 there).1
        have whole := fails steps.length
        rw [List.take_length] at whole
        exact absurd (whole.1 servable) (Nat.not_le.2 within)
      · rintro _ ⟨⟩
        rw [Nat.zero_add]
        exact ⟨place, raw, pattern, there, rfl, fails⟩

/-- Both patterns match both lines that are left; the first of these serves the first expect. -/
theorem replay_overlapping :
    let steps : List Step := [.send "'hi'", .expect "\"a\"" ⟨"a", .lineStart "a"⟩,
      .expect "\"ab\"" ⟨"ab", .lineStart "ab"⟩]
    let transcript : Transcript := { passed := ["ab"], ahead := ["abc", "abc"] }
    (∀ step ∈ steps, ¬ step.monitors) ∧
      (Command.replayAll (steps.map .step) transcript).result =
        .ok [⟨"\"a\"", true, 2⟩, ⟨"\"ab\"", true, 3⟩] ∧
      ∃ indices, Serves transcript.lines transcript.cursor
        ((expectations steps).map Prod.snd) indices := by
  intro steps transcript
  have plain : ∀ step ∈ steps, ¬ step.monitors := by decide
  have replayed : (Command.replayAll (steps.map .step) transcript).result =
      .ok [⟨"\"a\"", true, 2⟩, ⟨"\"ab\"", true, 3⟩] := by
    decide +kernel
  exact ⟨plain, replayed, (replay_complete_minimal steps plain transcript).1.1 ⟨_, replayed⟩⟩

end SerialDialogue
