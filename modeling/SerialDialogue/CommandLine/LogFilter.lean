import SerialDialogue.CommandLine.Directive

/-!
# Log filters

Which entries of the log are shown.  A filter is a list of directives with commas
between them.  Of the directives that are about an entry the most specific one
decides, and of several such ones the last.
-/

namespace SerialDialogue

/-- A log filter. -/
structure LogFilter where
  directives : List Directive
  deriving Repr, DecidableEq

namespace LogFilter

def ordinary : LogFilter :=
  ⟨[{ threshold := .info }]⟩

/-- The filter of a text; `none` where a directive cannot be read. -/
def parse? (text : String) : Option LogFilter :=
  let written := (Text.pieces ',' text.toList).filter (!·.isEmpty)
  (written.mapM Directive.parse?).map LogFilter.mk

/-- The filter that was asked for.  Without one, or with one that cannot be read,
ordinary entries are shown. -/
def ofRequest (request : Option String) : LogFilter :=
  (request.bind parse?).getD ordinary

/-- The directive that decides on the entries of a part of the program. -/
def decisive? (filter : LogFilter) (speaker : Speaker) : Option Directive :=
  (filter.directives.filter (·.covers speaker)).foldl
    (fun best directive =>
      match best with
      | none => some directive
      | some chosen => if directive.isAsSpecific chosen then some directive else best)
    none

def shows (filter : LogFilter) (entry : LogEntry) : Bool :=
  (filter.decisive? entry.speaker).any fun directive => directive.threshold.shows entry.level

end LogFilter

end SerialDialogue
