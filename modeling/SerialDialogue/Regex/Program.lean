import SerialDialogue.Regex.Expression

/-!
# Programs of regular expressions

An expression as a list of instructions over which a set of threads runs along the
text, one character at a time.  A repetition with counts is written out.
-/

namespace SerialDialogue

namespace Regex

open Unicode

/-! ## Instructions -/

/-- What a thread does: take a character of a set, test its position, go two ways at
once, or report a match. -/
inductive Instruction where
  | take (set : CharSet) (next : Nat)
  | test (look : Look) (next : Nat)
  | fork (first second : Nat)
  | done

/-- A program, and the place where its threads start. -/
structure Program where
  code : Array Instruction
  start : Nat

/-- The end of a program that is being written, from its last instruction to its
first: the instructions so far, and where to start for what they do. -/
abbrev Tail := Array Instruction × Nat

def Tail.push (tail : Tail) (instruction : Nat → Instruction) : Tail :=
  match tail with
  | (code, entry) =>
      let place := code.size
      (code.push (instruction entry), place)

def Tail.text (chars : List Char) (tail : Tail) : Tail :=
  chars.foldr (fun c tail => Tail.push tail (.take (.single c.toNat))) tail

def Tail.copies (write : Tail → Tail) : Nat → Tail → Tail
  | 0, tail => tail
  | count + 1, tail => Tail.copies write count (write tail)

/-- Put up to that many copies in front, each of them free to go on to `next`. -/
def Tail.options (write : Tail → Tail) (next : Nat) : Nat → Tail → Tail
  | 0, tail => tail
  | count + 1, tail =>
      Tail.options write next count ((write tail).push fun entry => .fork entry next)

/-- Put a loop in front, which repeats what is written and goes on at any time. -/
def Tail.loop (write : Tail → Tail) (tail : Tail) : Tail :=
  match tail with
  | (code, entry) =>
      let place := code.size
      match write (code.push .done, place) with
      | (code, body) => (code.setIfInBounds place (.fork body entry), place)

mutual

/-- Put the program of an expression in front. -/
def Expression.write (expression : Expression) (tail : Tail) : Tail :=
  match expression with
  | .empty => tail
  | .text chars => tail.text chars
  | .set chars => tail.push (.take chars)
  | .look place => tail.push (.test place)
  | .repetition least most body =>
      let behind :=
        match most with
        | none => Tail.loop (fun tail => body.write tail) tail
        | some most =>
            let entry := tail.2
            Tail.options (fun tail => body.write tail) entry (most - least) tail
      Tail.copies (fun tail => body.write tail) least behind
  | .capture body => body.write tail
  | .choice branches => Expression.writeChoice branches tail
  | .sequence items => Expression.writeSequence items tail

def Expression.writeSequence (items : List Expression) (tail : Tail) : Tail :=
  match items with
  | [] => tail
  | [last] => last.write tail
  | first :: others => first.write (Expression.writeSequence others tail)

/-- Put the programs of alternative expressions in front; all of them go on at the
same place. -/
def Expression.writeChoice (branches : List Expression) (tail : Tail) : Tail :=
  match branches with
  | [] => tail
  | [last] => last.write tail
  | first :: others =>
      let behind := tail.2
      match Expression.writeChoice others tail with
      | (code, entry) => (first.write (code, behind)).push fun here => .fork here entry

end

def Expression.program (expression : Expression) : Program :=
  let tail := expression.write (#[.done], 0)
  ⟨tail.1, tail.2⟩

end Regex

end SerialDialogue
