import Mathlib.Data.List.Nodup
import SerialDialogue.Book

/-!
# What a book guarantees

A book can be made of a configuration exactly when the names that it declares, those that stand
for unnamed scripts included, are distinct, and when its try blocks refer to its scripts.  The
lookups of such a book find what was declared under a name: there is one entry of that name.
-/

namespace SerialDialogue

/-- The name by which the script at a place is selected; a script without a name goes by its
number among all the scripts. -/
def NamedScript.nameAt (script : NamedScript) (index : Nat) : String :=
  if script.name = "" then "script" ++ toString (index + 1) else script.name

namespace Config

def scriptNames (config : Config) : List String :=
  config.scripts.mapIdx fun index script => script.nameAt index

def blockNames (config : Config) : List String :=
  config.tries.map TryBlock.name

/-- What a configuration has to be for a book. -/
structure Coherent (config : Config) : Prop where
  /-- Every try block has a name. -/
  named : ∀ block ∈ config.tries, block.name ≠ ""
  /-- Something is declared. -/
  declared : config.scripts ≠ [] ∨ config.tries ≠ []
  /-- Every name stands for one thing. -/
  distinct : (config.scriptNames ++ config.blockNames).Nodup
  /-- Every try block has a script to run. -/
  main : ∀ block ∈ config.tries, block.script ∈ config.scriptNames
  /-- What a try block falls back to is a script; an empty name stands for nothing. -/
  fallback : ∀ block ∈ config.tries, ∀ name, block.except = some name → name ≠ "" →
    name ∈ config.scriptNames

end Config

namespace Book

/-! ## Looking up names -/

theorem firstRepeated?_eq_none_iff (seen names : List String) :
    firstRepeated? seen names = none ↔ names.Nodup ∧ ∀ name ∈ names, name ∉ seen := by
  induction names generalizing seen with
  | nil => simp [firstRepeated?]
  | cons name later ih =>
      rw [firstRepeated?]
      by_cases before : seen.contains name
      · have member : name ∈ seen := by simpa using before
        rw [if_pos before]
        simp [member]
      · have new : name ∉ seen := by simpa using before
        rw [if_neg before, ih, List.nodup_cons]
        constructor
        · rintro ⟨distinct, apart⟩
          refine ⟨⟨fun again => apart name again List.mem_cons_self, distinct⟩, ?_⟩
          intro other member
          rcases List.mem_cons.1 member with rfl | further
          · exact new
          · exact fun old => apart other further (List.mem_cons_of_mem name old)
        · rintro ⟨⟨once, distinct⟩, apart⟩
          refine ⟨distinct, fun other further old => ?_⟩
          rcases List.mem_cons.1 old with rfl | earlier
          · exact once further
          · exact apart other (List.mem_cons_of_mem name further) earlier

/-- The entry is the only one of the book with this name. -/
def IsOnly (book : Book) (name : String) (entry : Entry) : Prop :=
  ∃ before behind, book.entries = before ++ entry :: behind ∧ entry.name = name ∧
    ∀ other ∈ before ++ behind, other.name ≠ name

variable {book : Book} {name : String} {entry : Entry}

theorem exists_get?_iff : (∃ entry, book.get? name = some entry) ↔ name ∈ book.names := by
  rw [← Option.isSome_iff_exists, get?, List.find?_isSome, names]
  simp

theorem get?_eq_none_iff : book.get? name = none ↔ name ∉ book.names := by
  rw [← exists_get?_iff, ← Option.isSome_iff_exists, Option.not_isSome_iff_eq_none]

/-- In a book of distinct names a lookup finds the only entry of a name. -/
theorem get?_eq_some_iff (distinct : book.names.Nodup) :
    book.get? name = some entry ↔ book.IsOnly name entry := by
  rw [get?, List.find?_eq_some_iff_append, IsOnly]
  constructor
  · rintro ⟨named, before, behind, split, apart⟩
    have named : entry.name = name := by simpa using named
    refine ⟨before, behind, split, named, fun other member same => ?_⟩
    rcases List.mem_append.1 member with ahead | after
    · simpa [same] using apart other ahead
    · rw [names, split, List.map_append, List.map_cons] at distinct
      have once := (List.nodup_cons.1 (List.nodup_append.1 distinct).2.1).1
      exact once (named.trans same.symm ▸ List.mem_map_of_mem after)
  · rintro ⟨before, behind, split, named, apart⟩
    refine ⟨by simpa using named, before, behind, split, fun other ahead => ?_⟩
    simpa using apart other (List.mem_append_left behind ahead)

theorem script?_eq_some_iff {script : NamedScript} :
    book.script? name = some script ↔ book.get? name = some (.script script) := by
  rw [script?, Option.bind_eq_some_iff]
  constructor
  · rintro ⟨entry, found, same⟩
    cases entry with
    | script named => rwa [← Option.some.inj same]
    | attempt block => cases same
  · exact fun found => ⟨_, found, rfl⟩

theorem IsOnly.mem (only : book.IsOnly name entry) : entry ∈ book.entries := by
  obtain ⟨before, behind, split, -, -⟩ := only
  rw [split]
  exact List.mem_append_right before List.mem_cons_self

theorem get?_name_of_mem (distinct : book.names.Nodup) (member : entry ∈ book.entries) :
    book.get? entry.name = some entry := by
  obtain ⟨found, get⟩ := exists_get?_iff.2 (List.mem_map_of_mem member : entry.name ∈ book.names)
  have only := (get?_eq_some_iff distinct).1 get
  obtain ⟨before, behind, split, -, apart⟩ := only
  have placed : entry = found ∨ entry ∈ before ++ behind := by
    rw [split] at member
    simpa [or_left_comm] using member
  rcases placed with rfl | elsewhere
  · exact get
  · exact absurd rfl (apart entry elsewhere)

/-! ## Making a book -/

/-- A script stands in the book under the name by which it is selected, and is left as it is
otherwise. -/
theorem nameScript_eq (index : Nat) (script : NamedScript) :
    nameScript index script = { script with name := script.nameAt index } := by
  unfold nameScript NamedScript.nameAt
  split <;> rfl

section Making

variable {config : Config}

theorem entriesOf_eq (config : Config) :
    entriesOf config =
      config.scripts.mapIdx
          (fun index script => .script { script with name := script.nameAt index }) ++
        config.tries.map .attempt := by
  simp only [entriesOf, nameScript_eq]

theorem names_entriesOf (config : Config) :
    names ⟨entriesOf config⟩ = config.scriptNames ++ config.blockNames := by
  rw [names, entriesOf_eq, List.map_append, List.map_map, Config.scriptNames,
    List.mapIdx_eq_zipIdx_map, List.mapIdx_eq_zipIdx_map, List.map_map]
  rfl

theorem exists_script?_iff (distinct : (config.scriptNames ++ config.blockNames).Nodup) :
    (∃ script, script? ⟨entriesOf config⟩ name = some script) ↔ name ∈ config.scriptNames := by
  have distinctNames : (names ⟨entriesOf config⟩).Nodup := names_entriesOf config ▸ distinct
  have isScript {script : NamedScript} (member : .script script ∈ entriesOf config) :
      script.name ∈ config.scriptNames := by
    rw [entriesOf_eq] at member
    rcases List.mem_append.1 member with declared | block
    · obtain ⟨index, inside, same⟩ := List.mem_mapIdx.1 declared
      exact List.mem_mapIdx.2 ⟨index, inside, congrArg Entry.name same⟩
    · simp at block
  constructor
  · rintro ⟨script, found⟩
    have only := (get?_eq_some_iff distinctNames).1 (script?_eq_some_iff.1 found)
    obtain ⟨-, -, -, rfl, -⟩ := id only
    exact isScript only.mem
  · intro declared
    obtain ⟨index, inside, rfl⟩ := List.mem_mapIdx.1 declared
    let script := config.scripts[index]
    have member : .script { script with name := script.nameAt index } ∈ entriesOf config := by
      rw [entriesOf_eq]
      exact List.mem_append_left _ (List.mem_mapIdx.2 ⟨index, inside, rfl⟩)
    exact ⟨_, script?_eq_some_iff.2 (get?_name_of_mem distinctNames member)⟩

theorem danglingReference?_eq_none_iff {block : TryBlock} :
    book.danglingReference? block = none ↔
      (∃ script, book.script? block.script = some script) ∧
        ∀ name, block.fallbackName = some name → ∃ script, book.script? name = some script := by
  unfold danglingReference?
  cases main : book.script? block.script with
  | none => simp
  | some script =>
      cases block.fallbackName with
      | none => simp
      | some name => cases fallback : book.script? name <;> simp [fallback]

theorem fallbackName_eq_some_iff {block : TryBlock} :
    block.fallbackName = some name ↔ block.except = some name ∧ name ≠ "" := by
  rw [TryBlock.fallbackName, Option.filter_eq_some_iff]
  simp

/-- Nothing stands in the way of a book when the configuration is coherent. -/
theorem flaw?_eq_none_iff : flaw? config = none ↔ config.Coherent := by
  have nothing : (entriesOf config).isEmpty ↔ config.scripts = [] ∧ config.tries = [] := by
    simp [entriesOf]
  unfold flaw?
  dsimp only
  split
  · rename_i unnamed
    obtain ⟨block, member, noName⟩ := List.any_eq_true.1 unnamed
    exact ⟨nofun, fun coherent => absurd (of_decide_eq_true noName) (coherent.named block member)⟩
  · rename_i named
    have named (block : TryBlock) (member : block ∈ config.tries) : block.name ≠ "" :=
      fun noName => named (List.any_eq_true.2 ⟨block, member, decide_eq_true noName⟩)
    split
    · rename_i empty
      obtain ⟨noScripts, noBlocks⟩ := nothing.1 empty
      refine ⟨nofun, fun coherent => ?_⟩
      rcases coherent.declared with scripts | blocks
      · exact absurd noScripts scripts
      · exact absurd noBlocks blocks
    · rename_i declared
      have declared : config.scripts ≠ [] ∨ config.tries ≠ [] :=
        not_and_or.1 (mt nothing.2 declared)
      rw [names_entriesOf]
      split
      · rename_i repeated found
        refine ⟨nofun, fun coherent => ?_⟩
        have noRepetition := (firstRepeated?_eq_none_iff [] _).2 ⟨coherent.distinct, by simp⟩
        exact absurd (found.symm.trans noRepetition) nofun
      · rename_i unrepeated
        have distinct := ((firstRepeated?_eq_none_iff [] _).1 unrepeated).1
        rw [List.findSome?_eq_none_iff]
        simp only [danglingReference?_eq_none_iff, exists_script?_iff distinct,
          fallbackName_eq_some_iff, and_imp]
        constructor
        · exact fun sound => ⟨named, declared, distinct, fun block member => (sound block member).1,
            fun block member => (sound block member).2⟩
        · exact fun coherent block member =>
            ⟨coherent.main block member, coherent.fallback block member⟩

theorem ofConfig?_eq_ok_iff :
    ofConfig? config = .ok book ↔ config.Coherent ∧ book = ⟨entriesOf config⟩ := by
  rw [← flaw?_eq_none_iff, ofConfig?]
  cases flaw? config with
  | none => simp [eq_comm]
  | some cause => simp

end Making

/-- What a book guarantees.  It can be made of the coherent configurations, and of no other, for a
reason that has to do with names.  Then it has the declared scripts under their names and the try
blocks behind them; a name is found when it is listed, and it stands for the only entry of that
name; and it is found as a script when that entry is one. -/
theorem guarantees_of_config (config : Config) :
    ((∃ book, ofConfig? config = .ok book) ↔ config.Coherent) ∧
      (∀ failure, ofConfig? config = .error failure → ∃ cause, failure = .resolution cause) ∧
      ∀ book, ofConfig? config = .ok book →
        book.entries =
            config.scripts.mapIdx
                (fun index script => .script { script with name := script.nameAt index }) ++
              config.tries.map .attempt ∧
          book.names = config.scriptNames ++ config.blockNames ∧
          ∀ name,
            ((∃ entry, book.get? name = some entry) ↔ name ∈ book.names) ∧
            (∀ entry, book.get? name = some entry ↔ book.IsOnly name entry) ∧
            ∀ script, book.script? name = some script ↔ book.get? name = some (.script script) := by
  refine ⟨?_, fun failure failed => ?_, fun book made => ?_⟩
  · simp only [ofConfig?_eq_ok_iff, exists_and_left, exists_eq, and_true]
  · unfold ofConfig? at failed
    split at failed
    · rename_i cause _
      cases failed
      exact ⟨cause, rfl⟩
    · cases failed
  · obtain ⟨coherent, rfl⟩ := ofConfig?_eq_ok_iff.1 made
    have distinct : (names ⟨entriesOf config⟩).Nodup := names_entriesOf config ▸ coherent.distinct
    exact ⟨entriesOf_eq config, names_entriesOf config, fun name =>
      ⟨exists_get?_iff, fun entry => get?_eq_some_iff distinct, fun script => script?_eq_some_iff⟩⟩

end Book

end SerialDialogue
