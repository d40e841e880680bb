import Mathlib.Data.List.Forall2
import SerialDialogue.Proofs.Book.Names

/-!
# Selections and what they compile to

Two passes lead from requested names to commands: the names are looked up, and then the scripts
of what was found are parsed.  Both stop at the first thing that is wrong.  In the first pass
that is an unknown name.  In the second one it can only be a script that does not parse, because
a book has every script that its entries refer to.
-/

namespace SerialDialogue

/-! ## Up to the first failure -/

section FirstFails

variable {α β γ δ : Type}

/-- The failure is that of the first value with which the step fails. -/
def FirstFails (step : α → Except Failure β) (values : List α) (failure : Failure) : Prop :=
  ∃ before value behind, values = before ++ value :: behind ∧
    (∀ other ∈ before, ∃ result, step other = .ok result) ∧ step value = .error failure

variable {step : α → Except Failure β} {failure : Failure}

theorem FirstFails.behind {first values : List α} (failed : FirstFails step values failure)
    (done : ∀ value ∈ first, ∃ result, step value = .ok result) :
    FirstFails step (first ++ values) failure := by
  obtain ⟨before, value, behind, rfl, ahead, fails⟩ := failed
  refine ⟨first ++ before, value, behind, (List.append_assoc ..).symm, ?_, fails⟩
  intro other member
  rcases List.mem_append.1 member with early | late
  · exact done other early
  · exact ahead other late

theorem FirstFails.append {values : List α} (failed : FirstFails step values failure)
    (later : List α) : FirstFails step (values ++ later) failure := by
  obtain ⟨before, value, behind, rfl, ahead, fails⟩ := failed
  exact ⟨before, value, behind ++ later, by simp, ahead, fails⟩

theorem FirstFails.flatMap {whole : γ → Except Failure δ} {parts : γ → List α} {values : List γ}
    (done : ∀ value result, whole value = .ok result →
      ∀ part ∈ parts value, ∃ result, step part = .ok result)
    (fails : ∀ value, whole value = .error failure → FirstFails step (parts value) failure)
    (failed : FirstFails whole values failure) :
    FirstFails step (values.flatMap parts) failure := by
  obtain ⟨before, value, behind, rfl, ahead, error⟩ := failed
  rw [List.flatMap_append, List.flatMap_cons]
  refine ((fails value error).append _).behind fun part member => ?_
  obtain ⟨other, early, inside⟩ := List.mem_flatMap.1 member
  obtain ⟨result, ok⟩ := ahead other early
  exact done other result ok part inside

theorem mapM_eq_ok_iff {values : List α} {results : List β} :
    values.mapM step = .ok results ↔
      List.Forall₂ (fun value result => step value = .ok result) values results := by
  induction values generalizing results with
  | nil =>
      rw [List.forall₂_nil_left_iff, List.mapM_nil]
      exact ⟨fun same => (Except.ok.inj same).symm, fun nothing => congrArg _ nothing.symm⟩
  | cons value later ih =>
      rw [List.mapM_cons, List.forall₂_cons_left_iff]
      constructor
      · intro ok
        cases first : step value with
        | error cause => rw [first] at ok; cases ok
        | ok result =>
            cases rest : later.mapM step with
            | error cause => rw [first, rest] at ok; cases ok
            | ok further =>
                rw [first, rest] at ok
                exact ⟨result, further, rfl, ih.1 rest, (Except.ok.inj ok).symm⟩
      · rintro ⟨result, further, first, rest, rfl⟩
        rw [first, ih.2 rest]
        rfl

theorem firstFails_of_mapM {values : List α} (error : values.mapM step = .error failure) :
    FirstFails step values failure := by
  induction values with
  | nil => cases error
  | cons value later ih =>
      rw [List.mapM_cons] at error
      cases first : step value with
      | error cause =>
          rw [first] at error
          cases error
          exact ⟨[], value, later, rfl, nofun, first⟩
      | ok result =>
          cases rest : later.mapM step with
          | error cause =>
              rw [first, rest] at error
              cases error
              have done : ∀ other ∈ [value], ∃ result, step other = .ok result := by simp [first]
              exact (ih rest).behind done
          | ok further => rw [first, rest] at error; cases error

theorem exists_mapM_iff {values : List α} :
    (∃ results, values.mapM step = .ok results) ↔
      ∀ value ∈ values, ∃ result, step value = .ok result := by
  constructor
  · rintro ⟨results, ok⟩
    induction mapM_eq_ok_iff.1 ok with
    | nil => nofun
    | cons first rest ih => exact List.forall_mem_cons.2 ⟨⟨_, first⟩, ih (mapM_eq_ok_iff.2 rest)⟩
  · intro done
    cases whole : values.mapM step with
    | ok results => exact ⟨results, rfl⟩
    | error cause =>
        obtain ⟨before, value, behind, rfl, -, error⟩ := firstFails_of_mapM whole
        obtain ⟨result, ok⟩ := done value (by simp)
        exact absurd (error.symm.trans ok) nofun

end FirstFails

/-- The names of the scripts that an entry needs, in the order in which they are parsed. -/
def Entry.reaches : Entry → List String
  | script named => [named.name]
  | attempt block => block.script :: block.fallbackName.toList

namespace Book

variable {book : Book} {requested : List String} {entries : List Entry} {entry : Entry}
  {name : String} {failure : Failure}

/-! ## Requested names -/

theorem lookUp_eq_ok_iff : book.lookUp name = .ok entry ↔ book.get? name = some entry := by
  unfold lookUp
  cases book.get? name <;> simp

theorem lookUp_eq_error_iff :
    book.lookUp name = .error failure ↔
      name ∉ book.names ∧ failure = .resolution (.unknownName name book.names) := by
  rw [← get?_eq_none_iff]
  unfold lookUp
  cases book.get? name <;> simp [eq_comm]

/-- What the requested names select, or what is wrong with them. -/
structure Selects (book : Book) (requested : List String) : Prop where
  /-- All the names have to be known. -/
  ok_iff : (∃ entries, book.resolve requested = .ok entries) ↔
    ∀ name ∈ requested, name ∈ book.names
  /-- There is an entry for every name, in the order of the names. -/
  inOrder : requested ≠ [] → ∀ entries, book.resolve requested = .ok entries →
    requested.map book.get? = entries.map some
  /-- Otherwise the first name that is not known is to blame. -/
  unknown : ∀ failure, book.resolve requested = .error failure →
    ∃ known name later, requested = known ++ name :: later ∧
      (∀ other ∈ known, other ∈ book.names) ∧ name ∉ book.names ∧
        failure = .resolution (.unknownName name book.names)

theorem resolve_of_ne_nil (named : requested ≠ []) :
    book.resolve requested = requested.mapM book.lookUp := by
  unfold resolve
  rw [if_neg (by simpa using named)]

theorem exists_lookUp_iff : (∃ entry, book.lookUp name = .ok entry) ↔ name ∈ book.names := by
  rw [← exists_get?_iff]
  exact exists_congr fun entry => lookUp_eq_ok_iff

theorem selects (book : Book) (requested : List String) : book.Selects requested := by
  by_cases named : requested = []
  · subst named
    exact ⟨⟨fun _ => nofun, fun _ => ⟨_, rfl⟩⟩, absurd rfl, nofun⟩
  · refine ⟨?_, fun _ entries ok => ?_, fun failure error => ?_⟩
    · rw [resolve_of_ne_nil named, exists_mapM_iff]
      simp only [exists_lookUp_iff]
    · rw [resolve_of_ne_nil named, mapM_eq_ok_iff] at ok
      simp only [lookUp_eq_ok_iff] at ok
      rw [← List.forall₂_eq_eq_eq, List.forall₂_map_left_iff, List.forall₂_map_right_iff]
      exact ok
    · rw [resolve_of_ne_nil named] at error
      obtain ⟨known, name, later, split, ahead, fails⟩ := firstFails_of_mapM error
      obtain ⟨unknown, same⟩ := lookUp_eq_error_iff.1 fails
      refine ⟨known, name, later, split, fun other member => ?_, unknown, same⟩
      exact exists_lookUp_iff.1 (ahead other member)

theorem exists_resolve_nil {config : Config} (made : ofConfig? config = .ok book) :
    ∃ first later, config.scripts = first :: later ∧
      book.resolve [] = .ok [.script { first with name := first.nameAt 0 }] := by
  obtain ⟨coherent, rfl⟩ := ofConfig?_eq_ok_iff.1 made
  cases scripts : config.scripts with
  | cons first later =>
      refine ⟨first, later, rfl, ?_⟩
      simp [resolve, default?, entriesOf, scripts, Entry.asScript?, nameScript_eq]
  | nil =>
      -- A try block without any script has nothing to run.
      have noNames : config.scriptNames = [] := by simp [Config.scriptNames, scripts]
      obtain ⟨block, member⟩ :=
        List.exists_mem_of_ne_nil _ (coherent.declared.resolve_left (absurd scripts))
      have dangling := coherent.main block member
      simp [noNames] at dangling

theorem mem_of_resolve {config : Config} (made : ofConfig? config = .ok book)
    (resolved : book.resolve requested = .ok entries) (member : entry ∈ entries) :
    entry ∈ book.entries := by
  by_cases named : requested = []
  · subst named
    obtain ⟨first, later, scripts, selected⟩ := exists_resolve_nil made
    obtain ⟨-, rfl⟩ := ofConfig?_eq_ok_iff.1 made
    obtain rfl := Except.ok.inj (resolved.symm.trans selected)
    obtain rfl := List.mem_singleton.1 member
    simp [entriesOf, scripts, nameScript_eq]
  · have same := (book.selects requested).inOrder named entries resolved
    have found : some entry ∈ requested.map book.get? := same ▸ List.mem_map_of_mem member
    obtain ⟨name, -, get⟩ := List.mem_map.1 found
    exact List.mem_of_find?_eq_some get

/-! ## Scripts that parse -/

/-- There is a script of this name, and these are its steps. -/
def Parses (book : Book) (name : String) (steps : List Step) : Prop :=
  ∃ script, book.script? name = some script ∧ Script.parse? script.body = .ok steps

/-- There is a script of this name, and it does not parse. -/
def Refuses (book : Book) (name : String) (cause : Failure) : Prop :=
  ∃ script, book.script? name = some script ∧ Script.parse? script.body = .error cause

theorem stepsOf_eq_ok_iff {steps : List Step} :
    book.stepsOf name = .ok steps ↔ book.Parses name steps := by
  unfold stepsOf Parses
  cases book.script? name with
  | none => simp
  | some script => cases parsed : Script.parse? script.body <;> simp [parsed, Except.mapError]

theorem exists_refuses_of_stepsOf (known : ∃ script, book.script? name = some script)
    (error : book.stepsOf name = .error failure) :
    ∃ cause, book.Refuses name cause ∧ failure = .script name cause := by
  obtain ⟨script, found⟩ := known
  unfold stepsOf at error
  rw [found] at error
  cases parsed : Script.parse? script.body with
  | ok steps => simp [parsed, Except.mapError] at error
  | error cause =>
      refine ⟨cause, ⟨script, found, parsed⟩, ?_⟩
      simpa [parsed, Except.mapError, eq_comm] using error

/-! ## Commands -/

/-- The commands that an entry stands for: those of a script, or one try block with the steps of
its main script and of the script to fall back to. -/
inductive Renders (book : Book) : Entry → List Command → Prop where
  | script {script : NamedScript} {steps : List Step} : book.Parses script.name steps →
      Renders book (.script script) (steps.map .step)
  | attempt {block : TryBlock} {main : List Step} : book.Parses block.script main →
      block.fallbackName = none → Renders book (.attempt block) [.attempt block main none]
  | fallback {block : TryBlock} {main other : List Step} {name : String} :
      book.Parses block.script main → block.fallbackName = some name → book.Parses name other →
        Renders book (.attempt block) [.attempt block main (some other)]

/-- What becomes of the entries of a selection. -/
structure Compiles (book : Book) (entries : List Entry) : Prop where
  /-- A script that was selected is the one of its name. -/
  own : ∀ script, .script script ∈ entries → book.script? script.name = some script
  /-- The entries refer to nothing but scripts. -/
  known : ∀ name ∈ entries.flatMap Entry.reaches, ∃ script, book.script? name = some script
  /-- All the scripts that they refer to have to parse. -/
  ok_iff : (∃ commands, book.compile entries = .ok commands) ↔
    ∀ name ∈ entries.flatMap Entry.reaches, ∃ steps, book.Parses name steps
  /-- The commands of the entries come one after another. -/
  inOrder : ∀ commands, book.compile entries = .ok commands →
    ∃ parts, List.Forall₂ book.Renders entries parts ∧ commands = parts.flatten
  /-- No try block is nested in another one. -/
  flat : ∀ commands, book.compile entries = .ok commands →
    ∀ block main fallback, .attempt block main fallback ∈ commands →
      ∀ step ∈ main ++ fallback.getD [], step.verb ∈ Verb.scripted
  /-- Otherwise the first script that does not parse is to blame. -/
  refused : ∀ failure, book.compile entries = .error failure →
    ∃ parsed name later cause, entries.flatMap Entry.reaches = parsed ++ name :: later ∧
      (∀ other ∈ parsed, ∃ steps, book.Parses other steps) ∧ book.Refuses name cause ∧
        failure = .script name cause

/-- The commands of an entry, or the first of its scripts that does not parse. -/
theorem commandsOf_cases (book : Book) (entry : Entry) :
    (∃ commands, book.commandsOf entry = .ok commands ∧ book.Renders entry commands) ∨
      ∃ failure, book.commandsOf entry = .error failure ∧
        FirstFails book.stepsOf entry.reaches failure := by
  cases entry with
  | script script =>
      rw [commandsOf]
      cases parsed : book.stepsOf script.name with
      | error cause => exact .inr ⟨cause, rfl, [], script.name, [], rfl, nofun, parsed⟩
      | ok steps => exact .inl ⟨_, rfl, .script (stepsOf_eq_ok_iff.1 parsed)⟩
  | attempt block =>
      rw [commandsOf]
      cases main : book.stepsOf block.script with
      | error cause => exact .inr ⟨cause, rfl, [], block.script, _, rfl, nofun, main⟩
      | ok steps =>
          have parsed := stepsOf_eq_ok_iff.1 main
          cases fallback : block.fallbackName with
          | none => exact .inl ⟨_, rfl, .attempt parsed fallback⟩
          | some name =>
              rw [Option.mapM_some]
              cases other : book.stepsOf name with
              | ok others =>
                  exact .inl ⟨_, rfl, .fallback parsed fallback (stepsOf_eq_ok_iff.1 other)⟩
              | error cause =>
                  refine .inr ⟨cause, rfl, [block.script], name, [], ?_, by simp [main], other⟩
                  simp [Entry.reaches, fallback]

theorem renders_of_commandsOf {commands : List Command}
    (ok : book.commandsOf entry = .ok commands) : book.Renders entry commands := by
  rcases book.commandsOf_cases entry with ⟨others, same, renders⟩ | ⟨failure, error, -⟩
  · obtain rfl := Except.ok.inj (same.symm.trans ok)
    exact renders
  · exact absurd (error.symm.trans ok) nofun

theorem firstFails_of_commandsOf (error : book.commandsOf entry = .error failure) :
    FirstFails book.stepsOf entry.reaches failure := by
  rcases book.commandsOf_cases entry with ⟨commands, ok, -⟩ | ⟨other, same, fails⟩
  · exact absurd (ok.symm.trans error) nofun
  · obtain rfl := Except.error.inj (same.symm.trans error)
    exact fails

theorem Renders.parses {commands : List Command} (renders : book.Renders entry commands) :
    ∀ name ∈ entry.reaches, ∃ steps, book.Parses name steps := by
  intro name member
  cases renders with
  | @script script steps parsed =>
      obtain rfl : name = script.name := by simpa [Entry.reaches] using member
      exact ⟨steps, parsed⟩
  | @attempt block main parsed nothing =>
      obtain rfl : name = block.script := by simpa [Entry.reaches, nothing] using member
      exact ⟨main, parsed⟩
  | @fallback block main other fallback parsed named others =>
      have either : name = block.script ∨ name = fallback := by
        simpa [Entry.reaches, named] using member
      rcases either with rfl | rfl
      · exact ⟨main, parsed⟩
      · exact ⟨other, others⟩

theorem compile_eq (book : Book) (entries : List Entry) :
    book.compile entries = (entries.mapM book.commandsOf).map List.flatten := by
  rw [compile]
  cases entries.mapM book.commandsOf <;> rfl

theorem firstFails_of_compile (error : book.compile entries = .error failure) :
    FirstFails book.stepsOf (entries.flatMap Entry.reaches) failure := by
  rw [compile_eq] at error
  cases parts : entries.mapM book.commandsOf with
  | ok commands => rw [parts] at error; cases error
  | error cause =>
      rw [parts] at error
      cases error
      refine .flatMap (fun entry commands ok name reached => ?_)
        (fun entry error => firstFails_of_commandsOf error) (firstFails_of_mapM parts)
      simpa only [stepsOf_eq_ok_iff] using (renders_of_commandsOf ok).parses name reached

theorem exists_parts_of_compile {commands : List Command}
    (ok : book.compile entries = .ok commands) :
    ∃ parts, List.Forall₂ book.Renders entries parts ∧ commands = parts.flatten := by
  rw [compile_eq] at ok
  cases parts : entries.mapM book.commandsOf with
  | error cause => rw [parts] at ok; cases ok
  | ok rendered =>
      rw [parts] at ok
      cases ok
      exact ⟨rendered, (mapM_eq_ok_iff.1 parts).imp fun _ _ => renders_of_commandsOf, rfl⟩

theorem parses_of_forall₂ {parts : List (List Command)}
    (renders : List.Forall₂ book.Renders entries parts) :
    ∀ name ∈ entries.flatMap Entry.reaches, ∃ steps, book.Parses name steps := by
  induction renders with
  | nil => nofun
  | cons first rest ih =>
      intro name member
      rw [List.flatMap_cons] at member
      rcases List.mem_append.1 member with early | late
      · exact first.parses name early
      · exact ih name late

theorem verb_mem_scripted (step : Step) : step.verb ∈ Verb.scripted := by
  cases step <;> simp [Step.verb, Verb.scripted]

/-- Entries that refer to scripts only compile unless one of these scripts does not parse. -/
theorem compiles_of_known
    (own : ∀ script, .script script ∈ entries → book.script? script.name = some script)
    (known : ∀ name ∈ entries.flatMap Entry.reaches, ∃ script, book.script? name = some script) :
    book.Compiles entries where
  own := own
  known := known
  ok_iff := by
    constructor
    · rintro ⟨commands, ok⟩
      obtain ⟨parts, renders, -⟩ := exists_parts_of_compile ok
      exact parses_of_forall₂ renders
    · intro parses
      cases compiled : book.compile entries with
      | ok commands => exact ⟨commands, rfl⟩
      | error failure =>
          obtain ⟨parsed, name, later, split, -, fails⟩ := firstFails_of_compile compiled
          obtain ⟨steps, parsed⟩ := parses name (by simp [split])
          exact absurd (fails.symm.trans (stepsOf_eq_ok_iff.2 parsed)) nofun
  inOrder _ ok := exists_parts_of_compile ok
  flat _ _ _ _ _ _ step _ := verb_mem_scripted step
  refused failure error := by
    obtain ⟨parsed, name, later, split, ahead, fails⟩ := firstFails_of_compile error
    obtain ⟨cause, refuses, same⟩ := exists_refuses_of_stepsOf (known name (by simp [split])) fails
    simp only [stepsOf_eq_ok_iff] at ahead
    exact ⟨parsed, name, later, cause, split, ahead, refuses, same⟩

section Made

variable {config : Config} (made : ofConfig? config = .ok book)

include made

theorem script?_of_mem {script : NamedScript} (member : .script script ∈ book.entries) :
    book.script? script.name = some script := by
  obtain ⟨coherent, rfl⟩ := ofConfig?_eq_ok_iff.1 made
  have distinct : (names ⟨entriesOf config⟩).Nodup := names_entriesOf config ▸ coherent.distinct
  exact script?_eq_some_iff.2 (get?_name_of_mem distinct member)

/-- The entries of a book refer to nothing but scripts. -/
theorem exists_script?_of_reaches (member : entry ∈ book.entries) :
    ∀ name ∈ entry.reaches, ∃ script, book.script? name = some script := by
  intro name reached
  cases entry with
  | script script =>
      obtain rfl : name = script.name := by simpa [Entry.reaches] using reached
      exact ⟨script, script?_of_mem made member⟩
  | attempt block =>
      obtain ⟨coherent, rfl⟩ := ofConfig?_eq_ok_iff.1 made
      have declared : block ∈ config.tries := by simpa [entriesOf] using member
      refine (exists_script?_iff coherent.distinct).2 ?_
      rcases List.mem_cons.1 reached with rfl | fallback
      · exact coherent.main block declared
      · obtain ⟨written, nonempty⟩ := fallbackName_eq_some_iff.1 (Option.mem_toList.1 fallback)
        exact coherent.fallback block declared name written nonempty

end Made

/-- Selecting names from a book and compiling what they select.  The entries come in the order of
the names, or else the first unknown name is reported; with no names the first script is selected.
What was selected compiles to the commands of its entries, one after another, with one try block
for each block that was named, or else the first script that does not parse is reported. -/
theorem compile_selection {config : Config} (made : ofConfig? config = .ok book)
    (requested : List String) :
    book.Selects requested ∧
      (∃ first later, config.scripts = first :: later ∧
        book.resolve [] = .ok [.script { first with name := first.nameAt 0 }]) ∧
      ∀ entries, book.resolve requested = .ok entries → book.Compiles entries := by
  refine ⟨book.selects requested, exists_resolve_nil made, fun entries resolved => ?_⟩
  refine compiles_of_known (fun script member => ?_) fun name reached => ?_
  · exact script?_of_mem made (mem_of_resolve made resolved member)
  · obtain ⟨entry, member, inside⟩ := List.mem_flatMap.1 reached
    exact exists_script?_of_reaches made (mem_of_resolve made resolved member) name inside

/-! ## A selection with repetitions -/

namespace Repeated

/-- Two scripts, the first of them without a name, and a block that tries it. -/
def config : Config where
  scripts := [{ body := "send 'root'\nexpect \"# \"" }, { name := "recover", body := "monitor 3" }]
  tries := [{ name := "safely", script := "script1", except := some "recover", retry := true }]

/-- What is named twice is selected twice, in its places. -/
theorem compile_repeated :
    let book : Book := ⟨entriesOf config⟩
    ofConfig? config = .ok book ∧ book.Selects ["safely", "recover", "safely"] ∧
      ∃ entries, book.resolve ["safely", "recover", "safely"] = .ok entries ∧
        entries.map Entry.name = ["safely", "recover", "safely"] ∧ book.Compiles entries := by
  intro book
  have made : ofConfig? config = .ok book := by decide +kernel
  obtain ⟨selects, -, compiles⟩ := compile_selection made ["safely", "recover", "safely"]
  obtain ⟨entries, resolved⟩ := selects.ok_iff.2 (by decide +kernel)
  have names : (book.resolve ["safely", "recover", "safely"]).map (List.map Entry.name) =
      .ok ["safely", "recover", "safely"] := by decide +kernel
  rw [resolved] at names
  exact ⟨made, selects, entries, resolved, Except.ok.inj names, compiles entries resolved⟩

end Repeated

end Book

end SerialDialogue
