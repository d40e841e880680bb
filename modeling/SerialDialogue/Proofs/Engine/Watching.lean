import SerialDialogue.Proofs.Engine.Following
import SerialDialogue.Proofs.Engine.Waiting
import SerialDialogue.Proofs.Pattern

/-!
# What a monitor has shown

A monitor shows the lines that its characters complete.  When it ends of its own, with its lines
or its time, the session forgets its text, and nothing of these lines can be matched any more.
A monitor that the bound of the run cuts leaves the session as it is: what it has shown is there
until a later step makes the session forget it.
-/

namespace SerialDialogue

/-! ## Sessions along a chronicle -/

namespace Session

/-- The characters were pushed into the first session, and it has become the second one.  What
was there before may have been forgotten on the way, but only if `forgot` holds. -/
structure Becomes (first : Session) (taken : List Char) (forgot : Prop) (last : Session) :
    Prop where
  inLine : first.InLine → last.InLine
  line : last.line.toList <:+ first.line.toList ++ taken
  remembers : ∀ stream, first.Remembers stream → last.Remembers (stream ++ taken)
  kept : ¬ forgot → last = first.pushAll taken

namespace Becomes

variable {first second third : Session} {taken taken' : List Char} {forgot forgot' : Prop}

theorem pushAll (session : Session) (taken : List Char) :
    session.Becomes taken False (session.pushAll taken) where
  inLine inLine := inLine.pushAll taken
  line := session.line_pushAll_suffix taken
  remembers _ remembers := remembers.pushAll taken
  kept _ := rfl

theorem trans (earlier : first.Becomes taken forgot second)
    (later : second.Becomes taken' forgot' third) :
    first.Becomes (taken ++ taken') (forgot ∨ forgot') third where
  inLine := later.inLine ∘ earlier.inLine
  line := by
    rw [← List.append_assoc]
    exact later.line.trans (List.suffix_append_self_iff.2 earlier.line)
  remembers stream remembers := by
    rw [← List.append_assoc]
    exact later.remembers _ (earlier.remembers stream remembers)
  kept neither := by
    obtain ⟨still, still'⟩ := not_or.1 neither
    rw [later.kept still', earlier.kept still, pushAll_append]

/-- Nothing but forgetting has happened behind it. -/
theorem forgets (becomes : first.Becomes taken False second)
    (forgot : third = second.forget ∨ third = second.forgetText) :
    first.Becomes taken True third := by
  rcases forgot with rfl | rfl
  · exact ⟨fun _ => List.not_mem_nil, List.nil_suffix,
      fun _ _ => ⟨List.nil_suffix, List.nil_suffix⟩, absurd trivial⟩
  · exact ⟨becomes.inLine, becomes.line, fun _ _ => ⟨List.nil_suffix, List.nil_suffix⟩,
      absurd trivial⟩

end Becomes

end Session

theorem Deed.becomes (deed : Deed) :
    deed.engine.session.Becomes deed.taken deed.Forgets deed.next.session := by
  have pushed : deed.engine.session.Becomes deed.taken False deed.heard := .pushAll _ _
  rcases deed.session_next with ⟨forgets, next⟩ | ⟨still, next⟩
  · exact eq_true forgets ▸ pushed.forgets next
  · rw [next, eq_false still]
    exact pushed

theorem Chronicle.becomes {first last : Engine} {deeds : List Deed}
    (chronicle : Chronicle first deeds last) :
    first.session.Becomes (deeds.flatMap Deed.taken) (∃ deed ∈ deeds, deed.Forgets)
      last.session := by
  induction chronicle with
  | still engine =>
      have nothing := Session.Becomes.pushAll engine.session []
      simpa using nothing
  | said _ ih => exact ih
  | idled _ ih => exact ih
  | @carried deed last deeds _ ih =>
      have both := deed.becomes.trans ih
      simpa using both

/-- Once a step has made the session forget its text, it remembers what is taken behind that step
and nothing else. -/
theorem Chronicle.remembers_of_forgets {watch : Deed} {between : List Deed} {last : Engine}
    (along : Chronicle watch.next between last)
    (forgotten : ∃ other ∈ watch :: between, other.Forgets) :
    last.session.Remembers (between.flatMap Deed.taken) := by
  obtain ⟨other, member, forgets⟩ := forgotten
  obtain ⟨front, rest, split, after⟩ :
      ∃ front rest, between = front ++ rest ∧ Chronicle other.next rest last := by
    rcases List.mem_cons.1 member with rfl | inside
    · exact ⟨[], between, rfl, along⟩
    · obtain ⟨front, rest, rfl⟩ := List.append_of_mem inside
      exact ⟨front ++ [other], rest, by simp, along.split.2⟩
  rw [split, List.flatMap_append]
  exact after.becomes.remembers _ (forgets.remembers _)

namespace Engine

/-- Lines that a monitor has shown and what a later step matches with.  The characters of a
monitor, behind the line in progress, are cut into the lines that it shows and the line in
progress behind them.  The line that a later step sees never reaches back to the lines shown, and
its text does not either, as soon as the monitor or a step behind it made the session forget its
text.  A monitor that ends of its own does so unless it has shown nothing.  Where it is cut and
nothing is forgotten behind it, the session of the later step is what the characters make of the
session that showed the lines. -/
theorem shown_lines_forgotten (device : Device) (turns : List Turn) :
    let last := (ofDevice device).after turns
    (∃ deeds, Chronicle (ofDevice device) deeds last) ∧
      ∀ deeds, Chronicle (ofDevice device) deeds last →
        ∀ earlier watch between deed later,
          deeds = earlier ++ watch :: (between ++ deed :: later) → watch.Monitors →
            let since := (between ++ [deed]).flatMap Deed.taken
            let progress := watch.next.session.line.toList
            (∃ lines,
              Text.pieces '\n' (watch.engine.session.line.toList ++ watch.taken) =
                  lines ++ [progress] ∧
                watch.shown = lines.map (fun line =>
                  .received .info .listener (Session.withoutTerminator (.ofList line))) ∧
                (watch.ending.returns → watch.Forgets ∨ lines = [])) ∧
              deed.heard.line.toList <:+ progress ++ since ∧
              ((∃ other ∈ watch :: between, other.Forgets) →
                deed.heard.text.toList <:+ since ∧
                  deed.heard.lowered.toList <:+ Text.lowerEach since) ∧
              ((∀ other ∈ watch :: between, ¬ other.Forgets) →
                deed.heard = watch.heard.pushAll since) := by
  intro last
  refine ⟨chronicled_after (ofDevice device) turns, fun deeds chronicle => ?_⟩
  rintro earlier watch between deed later rfl monitors since progress
  have watches := monitors.watches
  obtain ⟨before, behind⟩ := chronicle.split
  obtain ⟨along, -⟩ := behind.split
  have together : between.flatMap Deed.taken ++ deed.taken = since := by simp [since]
  have becomes := along.becomes.trans (.pushAll deed.engine.session deed.taken)
  rw [together] at becomes
  refine ⟨?_, becomes.line, fun forgotten => ?_, fun still => ?_⟩
  · have inLine := before.becomes.inLine List.not_mem_nil
    obtain ⟨lines, cut, completed⟩ := Session.exists_completed inLine watch.taken
    refine ⟨lines, ?_, ?_, fun returns => (watches.ended returns).imp_right fun nothing => ?_⟩
    · rw [cut, show progress = watch.heard.line.toList from congrArg String.toList watches.line]
      rfl
    · rw [watches.shown, completed, List.map_map]
      rfl
    · rw [nothing, Session.completed_nil] at completed
      exact List.map_eq_nil_iff.1 completed.symm
  · have remembers := (along.remembers_of_forgets forgotten).pushAll deed.taken
    rw [together] at remembers
    exact ⟨remembers.text, remembers.lowered⟩
  · obtain ⟨kept, keptBetween⟩ := List.forall_mem_cons.1 still
    have next : watch.next.session = watch.heard := by
      rcases watches.session with ⟨forgets, -⟩ | ⟨-, next⟩
      · exact absurd forgets kept
      · exact next
    rw [← next]
    refine becomes.kept ?_
    rintro (⟨other, member, forgets⟩ | impossible)
    · exact keptBetween other member forgets
    · exact impossible

/-! ## A monitor that is cut

A monitor for two lines sees one of them before its run is over.  The next run expects just that
line, and has its match when one more character comes in. -/

namespace CutShort

/-- A device that is ready at once, and says something more when a day has passed. -/
def device : Device where
  feed := [⟨0, .bytes "ready\n".toUTF8.data.toList⟩, ⟨86411000, .bytes "x".toUTF8.data.toList⟩]
  receive _ _ := .accepted []

def timeouts : Timeouts :=
  ⟨.ofSeconds 10, .ofSeconds 5⟩

def pattern : Pattern :=
  .ofSubstring "ready"

def start : Engine where
  channel := { device := device, coming := device.feed }

theorem ofDevice_device : ofDevice device = start :=
  ofDevice_of_pairwise (by decide +kernel)

def watch : Deed :=
  start.onlyDeed timeouts (.monitor "2" (.lines 2))

def opened : Engine :=
  watch.engine.openMonitor "2" (.lines 2)

def shown : Engine :=
  (((opened.hear .info (.counted 2)).2.readBy 0).hear .info (.counted 2)).2

theorem performed_watch :
    watch.engine.perform watch.limits watch.step = (.cut, shown.passTo 86410000) := by
  have bound : watch.limits.bound = some 86410000 := by decide +kernel
  have someLines : Bound.lines 2 ≠ .lines 0 := by simp
  refine monitor_of_cut someLines ?_
  rw [bound]
  have first : opened.listen .info (.counted 2) none (some 86410000) =
      ((opened.hear .info (.counted 2)).2.readBy 0).listen .info (.counted 2) none
        (some 86410000) :=
    listen_of_arrival rfl (by decide +kernel)
  have left : (((opened.hear .info (.counted 2)).2.readBy 0).hear .info (.counted 2)).1 =
      some (.counted 1) := by
    rfl
  exact first.trans (listen_of_bound left (by decide +kernel))

theorem next_watch : watch.next = shown.passTo 86410000 :=
  congrArg Prod.snd performed_watch

def deed : Deed :=
  watch.next.onlyDeed timeouts (.expect "'ready'" pattern)

def expecting : Engine :=
  deed.engine.log (.expecting "'ready'")

def late : Engine :=
  (expecting.hear .debug (expecting.expected pattern)).2.readBy 86411000

def matched : Engine :=
  (late.hear .debug (late.expected pattern)).2

theorem queue_late : late.queue = ['x'] := by
  rw [late, expecting, deed, next_watch]
  decide +kernel

theorem session_late : late.session = ⟨"ready\n", "ready\n", "", 1⟩ := by
  rw [late, expecting, deed, next_watch]
  decide +kernel

theorem matchesBehind_late : late.session.MatchesBehind pattern ['x'] := by
  have lowered : (late.session.pushAll ['x']).lowered = "ready\nx" := by
    rw [session_late]
    rfl
  have needle : Text.lowercase "ready" = "ready" := by
    rw [← String.toList_inj, Text.lowercase_toList]
    decide +kernel
  rw [Session.MatchesBehind, Session.isMatch, pattern, Pattern.matchesLowered_ofSubstring,
    lowered, needle, String.contains_string_iff]
  decide +kernel

theorem performed_deed :
    deed.engine.perform deed.limits deed.step =
      (.done, matched.forget.log (.matched "'ready'")) := by
  have deadline : momentAfter? deed.engine.clock deed.limits.receive = some 86415000 := by
    rw [deed, next_watch]
    decide +kernel
  have bound : deed.limits.bound = some 86420000 := by
    rw [deed, next_watch]
    decide +kernel
  refine expect_of_reached ?_
  rw [deadline, bound]
  have first : expecting.listen .debug (expecting.expected pattern) (some 86415000)
      (some 86420000) =
        late.listen .debug (late.expected pattern) (some 86415000) (some 86420000) := by
    refine listen_of_arrival ?_ ?_
    · rw [expecting, deed, next_watch]
      rfl
    · rw [expecting, deed, next_watch]
      decide +kernel
  exact first.trans
    (listen_of_reached (hear_singleton queue_late matchesBehind_late .debug).1)

theorem taken_deed : deed.taken = ['x'] := by
  have before : deed.engine.Followed .debug late :=
    (Followed.of_quiet (.expecting deed.engine _) rfl .debug).trans
      ((Followed.hear expecting .debug _).trans (.of_quiet (.readBy _ 86411000) rfl .debug))
  have heard : late.Followed .debug matched := .hear late .debug _
  have nothing : late.takenSince deed.engine = [] := by
    rw [late, expecting, deed, next_watch]
    decide +kernel
  have next : deed.next = matched.forget.log (.matched "'ready'") :=
    congrArg Prod.snd performed_deed
  have said : matched.Quiet deed.next := next ▸ .matched matched "'ready'"
  rw [(Deed.eq_of_followed (before.trans heard) said).1,
    before.onward.takenSince_trans heard.onward, nothing]
  exact (hear_singleton queue_late matchesBehind_late .debug).2

/-- A line that a monitor has shown can be matched later, if the bound of the run cut that
monitor. -/
theorem shown_line_matches :
    let turns : List Turn := [.run timeouts [.step (.monitor "2" (.lines 2))],
      .run timeouts [.step (.expect "'ready'" pattern)]]
    Pattern.compile? "'ready'" = .ok pattern ∧
      ∃ watch deed, Chronicle (ofDevice device) [watch, deed] ((ofDevice device).after turns) ∧
        watch.Monitors ∧ watch.shown = [.received .info .listener "ready"] ∧
          deed.Matches pattern ∧ deed.taken = ['x'] ∧ deed.heard.lowered = "ready\nx" := by
  intro turns
  have chronicle : Chronicle start [watch, deed] (start.after turns) := by
    have first := start.chronicle_run_only timeouts (.monitor "2" (.lines 2))
    have cut : (start.run timeouts [.step (.monitor "2" (.lines 2))]).2 = watch.next :=
      start.run_only timeouts _
    have second := watch.next.chronicle_run_only timeouts (.expect "'ready'" pattern)
    have both : start.after turns =
        (watch.next.run timeouts [.step (.expect "'ready'" pattern)]).2 := by
      rw [← cut]
      rfl
    rw [cut] at first
    rw [both]
    exact first.append second
  have shownEqual : watch.shown = [.received .info .listener "ready"] := by
    rw [Deed.shown, next_watch]
    decide +kernel
  have lowered : deed.heard.lowered = "ready\nx" := by
    rw [Deed.heard, taken_deed, deed, next_watch]
    decide +kernel
  rw [ofDevice_device]
  exact ⟨Pattern.compile?_quoted "ready", watch, deed, chronicle, ⟨"2", .lines 2, rfl⟩, shownEqual,
    ⟨congrArg Prod.fst performed_deed, "'ready'", rfl⟩, taken_deed, lowered⟩

end CutShort

end Engine

end SerialDialogue
