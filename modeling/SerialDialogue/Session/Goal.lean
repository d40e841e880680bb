import SerialDialogue.Session.Basic

/-!
# Goals

What characters are taken for.  `Session.take` pushes one character after another until
a goal is reached: until a pattern matches, or until so many lines are complete.

A regular expression is not tested from the start of the line for every character; a
`Watch` keeps its place in the line.  `Watch.isMet_ofLine` says that this makes no
difference, and `Watch.push_ofLine` that a watch keeps up with the line in progress.
-/

namespace SerialDialogue

/-- A pattern that is tested after every character.  `scan` is where a regular
expression stands in the line in progress, so that the line is read only once. -/
structure Watch where
  pattern : Pattern
  scan : Regex.Scan := {}

namespace Watch

/-- Watch for a pattern where the line in progress has begun. -/
def ofLine (pattern : Pattern) (line : String) : Watch :=
  match pattern.matcher with
  | .regex regex => ⟨pattern, line.foldl (Regex.Scan.push regex.program) {}⟩
  | _ => ⟨pattern, {}⟩

/-- The watch with one more character taken; a newline begins another line. -/
def push (watch : Watch) (c : Char) : Watch :=
  match watch.pattern.matcher with
  | .regex regex =>
      { watch with scan := if c = '\n' then {} else watch.scan.push regex.program c }
  | _ => watch

def isMet (watch : Watch) (session : Session) : Bool :=
  match watch.pattern.matcher with
  | .regex regex => watch.scan.accepts regex.program
  | _ => session.isMatch watch.pattern

@[simp]
theorem pattern_ofLine (pattern : Pattern) (line : String) :
    (ofLine pattern line).pattern = pattern := by
  unfold ofLine
  split <;> rfl

theorem isMet_ofLine (pattern : Pattern) (session : Session) :
    (ofLine pattern session.line).isMet session = session.isMatch pattern := by
  unfold isMet Session.isMatch Pattern.matchesLowered Regex.isMatch
  rw [pattern_ofLine]
  cases matcher : pattern.matcher with
  | substring needle => rfl
  | lineStart text => rfl
  | regex regex => simp [ofLine, matcher]

theorem push_ofLine (pattern : Pattern) (line : String) {c : Char} (inLine : c ≠ '\n') :
    (ofLine pattern line).push c = ofLine pattern (line.push c) := by
  unfold ofLine push
  cases matcher : pattern.matcher with
  | substring needle => simp [matcher]
  | lineStart text => simp [matcher]
  | regex regex => simp [matcher, inLine, String.foldl_eq_foldl_toList]

/-- A watch begins another line behind a newline. -/
theorem push_ofLine_newline (pattern : Pattern) (line : String) :
    (ofLine pattern line).push '\n' = ofLine pattern "" := by
  unfold ofLine push
  cases matcher : pattern.matcher with
  | substring needle => simp [matcher]
  | lineStart text => simp [matcher]
  | regex regex => simp [matcher, String.foldl_eq_foldl_toList]

end Watch

/-- What characters are taken for. -/
inductive Goal where
  /-- Until the watched pattern matches. -/
  | found (watch : Watch)
  /-- Until so many more lines are complete. -/
  | counted (lines : Nat)
  /-- As long as there are any. -/
  | endless

namespace Goal

/-- The goal that is left once a character has been taken; none when it is reached.
`completed` says that the character completed a line. -/
def after (goal : Goal) (session : Session) (c : Char) (completed : Bool) : Option Goal :=
  match goal with
  | found watch =>
      let watch := watch.push c
      if watch.isMet session then none else some (found watch)
  | counted lines =>
      if completed then
        if lines ≤ 1 then none else some (counted (lines - 1))
      else
        some (counted lines)
  | endless => some endless

end Goal

/-- What comes of taking characters. -/
structure Taken where
  session : Session
  /-- What is left of the goal; none when it has been reached. -/
  goal : Option Goal
  /-- The lines that were completed, newest first. -/
  lines : List String
  /-- How many characters were taken. -/
  count : Nat
  /-- The characters that were left. -/
  rest : List Char

/-- Take characters until a goal is reached.  `lines` are completed already, newest
first, and `count` characters are taken already. -/
def Session.takeBehind (session : Session) (goal : Goal) (lines : List String) (count : Nat) :
    List Char → Taken
  | [] => ⟨session, some goal, lines, count, []⟩
  | c :: rest =>
      let (line, session) := session.push c
      let lines := line.toList ++ lines
      match goal.after session c line.isSome with
      | none => ⟨session, none, lines, count + 1, rest⟩
      | some goal => session.takeBehind goal lines (count + 1) rest

/-- Take characters until a goal is reached. -/
def Session.take (session : Session) (goal : Goal) (text : List Char) : Taken :=
  session.takeBehind goal [] 0 text

end SerialDialogue
