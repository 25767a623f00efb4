import ExtensionPublisher.Proofs.Wait.Bounds
import ExtensionPublisher.Proofs.Wait.Clock
import Mathlib.Data.List.Basic

/-!
# Successive waits share nothing

Waits in a row, on one source and one clock, leave nothing to each other but the replies that have not
been given. A wait goes as it would alone and from zero on the replies that are left, whatever the waits
in front of it have ended with and however many faults they have counted. Together the waits take the
replies in order and each of them once. So once every reply reports the same end of an operation, each
wait asks once and ends with that report: `successive_waits_share_nothing`.

A wait that is refused asks nothing. That is a wait with settings that cannot be carried out or for an
operation without a name, `refused_waits_ask_nothing`.
-/
namespace ExtensionPublisher

/-- What was asked, and what was given for it, in order. -/
abbrev Notes := List (String × Reply)

/-- The source that gives a sequence of replies in order, whatever is asked, and
keeps notes. The notes are its state, so they show afterwards what was asked. -/
def StatusSource.noting (replies : Nat → Reply) : StatusSource Notes := fun operation notes =>
  (replies notes.length, notes ++ [(operation, replies notes.length)])

/-- The notes on a number of queries for an operation. -/
def notesOn (replies : Nat → Reply) (operation : String) (taken count : Nat) : Notes :=
  (List.range' taken count).map fun index => (operation, replies index)

/-- The notes are of the first replies, each of them once and in order. -/
def HasTaken (replies : Nat → Reply) (notes : Notes) (count : Nat) : Prop :=
  notes.map (·.2) = (List.range count).map replies

namespace StatusSource

variable (replies : Nat → Reply) (operation : String) (notes : Notes)

/-- The notes behind a number of queries are those in front of them and one more for
each query. -/
theorem after_noting (count : Nat) :
    (noting replies).after operation notes count =
      notes ++ notesOn replies operation notes.length count := by
  induction count with
  | zero => simp [after, notesOn]
  | succ count inductionHypothesis =>
    rw [after, inductionHypothesis]
    simp [noting, notesOn, List.range'_1_concat]

/-- The replies that are left are those behind the ones noted. Nothing but the
number of notes matters. -/
theorem reply_noting :
    (noting replies).reply operation notes = fun index => replies (notes.length + index) := by
  funext index
  rw [reply, after_noting]
  simp [noting, notesOn]

end StatusSource

namespace WaitSettings

variable (settings : WaitSettings)

/-- A wait for an operation is carried out: the settings are accepted, and the operation has a name. -/
def Accepts (operation : String) : Prop :=
  settings.validate = .ok () ∧ Text.blank operation = false

/-- A wait that is not carried out ends at once as an invalid argument, and leaves
the source as it is. The reason depends on the settings and on the name alone. -/
theorem wait_of_not_accepts {operation : String} (refused : ¬settings.Accepts operation) :
    ∃ reason, ∀ {σ : Type} (deadline? : Option Nat) (query : StatusSource σ) (cancelAt : Option Nat)
      (source : σ), settings.wait deadline? query cancelAt operation source =
        ⟨.error (.invalidArgument reason), [], 0, false, source⟩ := by
  cases known : settings.schedule with
  | error fault =>
    have invalid : ∃ reason, fault = .invalidArgument reason := by
      unfold schedule at known
      repeat' split at known
      all_goals cases known
      · exact ⟨_, rfl⟩
      · exact ⟨_, rfl⟩
    obtain ⟨reason, rfl⟩ := invalid
    exact ⟨reason, fun deadline? query cancelAt source => by
      simp only [wait, waitCounting, known]⟩
  | ok schedule =>
    cases named : Text.blank operation with
    | true =>
      exact ⟨"operation id must not be empty", fun deadline? query cancelAt source => by
        simp only [wait, waitCounting, known, if_pos named]⟩
    | false => exact absurd ⟨by rw [validate, known]; rfl, named⟩ refused

/-- A wait that is called off by none of the queries, begun at zero on the replies
behind a number of them. It knows nothing of the waits that have taken those. -/
def standAlone (replies : Nat → Reply) (taken : Nat) (errand : Errand) : Run Nat :=
  settings.wait errand.deadline? (.ofReplies fun index => replies (taken + index)) none errand.operation 0

/-- The number of queries of runs. -/
def queriesOf {σ : Type} (runs : List (Nat × Run σ)) : Nat :=
  (runs.flatMap fun timed => timed.2.starts).length

/-- The queries of a run and of those behind it, one number added to the other. -/
theorem queries_of_cons {σ : Type} (timed : Nat × Run σ) (runs : List (Nat × Run σ)) :
    queriesOf (timed :: runs) = timed.2.starts.length + queriesOf runs := by
  simp [queriesOf]

/-- No run has more queries than all of them together, so one limit suffices for all
runs. -/
theorem starts_le_queries {σ : Type} {timed : Nat × Run σ} {runs : List (Nat × Run σ)}
    (member : timed ∈ runs) : timed.2.starts.length ≤ queriesOf runs := by
  have inside : timed.2.starts ∈ runs.map fun timed => timed.2.starts :=
    List.mem_map.mpr ⟨timed, member, rfl⟩
  exact (List.sublist_flatten_of_mem inside).length_le

end WaitSettings

/-- How a wait ends with its first query, by a report that the operation is over. -/
inductive OperationReport.Concludes (operation : String) (took : Nat) :
    OperationReport → Except Fault Completion → Prop where
  | succeeded : Concludes operation took .succeeded (.ok ⟨operation, 1, took⟩)
  | failed (code message : String) :
      Concludes operation took (.failed code message) (.error (.operationFailed operation code message))

open WaitSettings

/-- A run goes as if it were the first one on the replies behind those that were taken before, and takes
the next ones, for its own operation. -/
structure Run.IsOnItsOwn (settings : WaitSettings) (replies : Nat → Reply) (taken : Nat)
    (errand : Errand) (run : Run Notes) : Prop where
  result : run.result = (settings.standAlone replies taken errand).result
  starts : run.starts = (settings.standAlone replies taken errand).starts
  ended : run.ended = (settings.standAlone replies taken errand).ended
  given : HasTaken replies run.source (taken + run.starts.length)
  asked : ∀ note ∈ run.source.drop taken, note.1 = errand.operation

/-- So many replies are noted as have been taken, and the notes tell where the next
wait begins to read. -/
theorem length_of_taken {replies : Nat → Reply} {notes : Notes} {count : Nat}
    (taken : HasTaken replies notes count) : notes.length = count := by
  simpa using congrArg List.length taken

/-- Notes on the replies that come next are of the first replies again. This is what
one wait leaves for the next one. -/
theorem taken_append {replies : Nat → Reply} {notes : Notes} {count : Nat}
    (taken : HasTaken replies notes count) (operation : String) (more : Nat) :
    HasTaken replies (notes ++ notesOn replies operation count more) (count + more) := by
  unfold HasTaken at taken ⊢
  simp [taken, notesOn, List.range_eq_range', ← List.range'_append_1]

section

variable (settings : WaitSettings) {replies : Nat → Reply}
  (quiet : ∀ index, (replies index).calledOff = false)

include quiet

/-- A wait on the replies that are left goes as it would alone, and notes the ones
that it takes. Both waits follow one course, whose replies are the ones that are
left. -/
theorem wait_on_its_own (errand : Errand) (notes : Notes) :
    let run := settings.wait errand.deadline? (.noting replies) none errand.operation notes
    let alone := settings.standAlone replies notes.length errand
    (run.result = alone.result ∧ run.starts = alone.starts ∧ run.ended = alone.ended) ∧
      run.calledOff = false ∧
      run.source = notes ++ notesOn replies errand.operation notes.length run.starts.length := by
  intro run alone
  by_cases accepts : settings.Accepts errand.operation
  · obtain ⟨accepted, named⟩ := accepts
    have follows := settings.wait_follows accepted named errand.deadline? (.noting replies) none notes
    have others := settings.wait_follows accepted named errand.deadline?
      (.ofReplies fun index => replies (notes.length + index)) none 0
    have same : settings.course errand.deadline? (.noting replies) none errand.operation notes =
        settings.course errand.deadline? (.ofReplies fun index => replies (notes.length + index)) none
          errand.operation 0 := by
      rw [course, course, StatusSource.reply_noting, StatusSource.reply_of_replies]
    refine ⟨Course.alike_of_follows follows (same ▸ others), ?_, ?_⟩
    · apply Bool.eq_false_iff.mpr
      intro flagged
      obtain ⟨index, _, called⟩ := follows.calledOff.mp flagged
      simp [course, StatusSource.reply_noting, quiet] at called
    · rw [← StatusSource.after_noting]
      exact follows.source
  · obtain ⟨reason, refused⟩ := settings.wait_of_not_accepts accepts
    simp only [run, alone, standAlone, refused]
    simp [notesOn]

/-- A wait on the notes of what has been taken is on its own, and leaves such notes
behind. -/
theorem on_its_own_of_notes (errand : Errand) {notes : Notes} {count : Nat}
    (taken : HasTaken replies notes count) :
    (settings.wait errand.deadline? (.noting replies) none errand.operation notes).IsOnItsOwn settings
      replies count errand := by
  obtain ⟨⟨result, starts, ended⟩, _, noted⟩ := wait_on_its_own settings quiet errand notes
  rw [length_of_taken taken] at result starts ended noted
  refine ⟨result, starts, ended, noted ▸ taken_append taken _ _, ?_⟩
  rw [noted, List.drop_left' (length_of_taken taken)]
  intro note member
  obtain ⟨index, _, rfl⟩ := List.mem_map.mp member
  rfl

/-- Each wait of a row is the wait on the notes that the waits in front of it have
left. The induction is on the row, and what it carries along is that the notes are
of the first replies. -/
theorem each_on_notes (errands : List Errand) (clock : Nat) {notes : Notes} {count : Nat}
    (taken : HasTaken replies notes count) :
    let runs := settings.waitEach (.noting replies) none clock notes errands
    runs.length = errands.length ∧
      ∀ {front behind : List Errand} {errand : Errand} {earlier later : List (Nat × Run Notes)}
        {began : Nat} {run : Run Notes}, errands = front ++ errand :: behind →
        runs = earlier ++ (began, run) :: later → earlier.length = front.length →
        ∃ before, HasTaken replies before (count + queriesOf earlier) ∧
          run = settings.wait errand.deadline? (.noting replies) none errand.operation before := by
  induction errands generalizing clock notes count with
  | nil => exact ⟨rfl, fun errands => absurd errands (by simp)⟩
  | cons first rest inductionHypothesis =>
    intro runs
    obtain ⟨_, uncalled, noted⟩ := wait_on_its_own settings quiet first notes
    generalize ran : settings.wait first.deadline? (.noting replies) none first.operation notes = done
      at uncalled noted
    rw [length_of_taken taken] at noted
    have next := taken_append taken first.operation done.starts.length
    rw [← noted] at next
    obtain ⟨length, each⟩ := inductionHypothesis (clock + done.ended) next
    have same : runs = (clock, done) ::
        settings.waitEach (.noting replies) none (clock + done.ended) done.source rest := by
      simp only [runs, waitEach, Option.map_none, ran, uncalled, Bool.false_eq_true, if_false]
    refine ⟨by rw [same, List.length_cons, length, List.length_cons], ?_⟩
    intro front behind errand earlier later began run divided listed position
    rw [same] at listed
    cases front with
    | nil =>
      obtain rfl := List.length_eq_zero_iff.mp position
      obtain ⟨rfl, rfl⟩ := List.cons.inj divided
      obtain ⟨here, _⟩ := List.cons.inj listed
      obtain ⟨_, rfl⟩ := Prod.mk.inj here
      exact ⟨notes, taken, ran.symm⟩
    | cons passed front =>
      cases earlier with
      | nil => cases position
      | cons timed earlier =>
        obtain ⟨_, remaining⟩ := List.cons.inj divided
        obtain ⟨rfl, others⟩ := List.cons.inj listed
        obtain ⟨before, known, goes⟩ := each remaining others (Nat.succ.inj position)
        refine ⟨before, ?_, goes⟩
        rw [queries_of_cons, ← Nat.add_assoc]
        exact known

end

/-- A wait that meets a report on the end of the operation asks once. That report
settles its first query, which closes the wait. -/
theorem alone_of_concludes {settings : WaitSettings} {replies : Nat → Reply} {taken took : Nat}
    {errand : Errand} {report : OperationReport} {result : Except Fault Completion}
    (accepts : settings.Accepts errand.operation)
    (concludes : report.Concludes errand.operation took result)
    (next : replies taken = { result := .ok report, took := took }) :
    let alone := settings.standAlone replies taken errand
    alone.result = result ∧ alone.starts = [0] ∧ alone.ended = took := by
  intro alone
  obtain ⟨accepted, named⟩ := accepts
  have follows := settings.wait_follows accepted named errand.deadline?
    (.ofReplies fun index => replies (taken + index)) none 0
  generalize met : settings.course errand.deadline? (.ofReplies fun index => replies (taken + index)) none
    errand.operation 0 = course at follows
  have given : course.replies 0 = { result := .ok report, took := took } := by
    rw [← met]
    simp only [WaitSettings.course, StatusSource.reply_of_replies]
    exact next
  have arrives : course.replied 0 = took := by simp [Course.replied, Course.start, given]
  have starts : course.Starts 0 := by
    rw [Course.starts_zero_iff]
    rintro (⟨instant, cancelled, _⟩ | ⟨index, inside, _⟩)
    · rw [← met] at cancelled
      cases cancelled
    · exact absurd inside (Nat.not_lt_zero index)
  have settles : course.Settles 0 result := by
    have named : course.operation = errand.operation := met ▸ rfl
    cases concludes with
    | succeeded =>
      have settled : course.Settles 0 (.ok ⟨course.operation, 0 + 1, course.replied 0⟩) :=
        .succeeded (congrArg Reply.result given)
      rwa [named, arrives] at settled
    | failed code message =>
      exact named ▸ .failed (congrArg Reply.result given)
  have whole := Course.follows_unique follows (Course.follows_of_closes _ _ starts (.settled settles))
  rw [arrives] at whole
  refine ⟨congrArg Run.result whole, congrArg Run.starts whole, congrArg Run.ended whole⟩

/-! ## Rows of waits -/

/-- Successive waits share nothing, for all settings, errands and replies that call nothing off, and
whenever they begin. They are what one clock makes of them, on which each takes every difference from
the instant at which it began. Each wait goes as it would alone and from zero on the replies behind the
ones taken before, takes the next ones, in order and each once, and asks for its own operation. A wait
that is not carried out asks nothing and takes no time. Where, from some number of replies on, every
reply is the same report that an operation is over, each wait that is carried out from then on asks once
and ends with that report. -/
theorem successive_waits_share_nothing (settings : WaitSettings) {replies : Nat → Reply}
    (quiet : ∀ index, (replies index).calledOff = false) (clock : Nat) (errands : List Errand) :
    let runs := settings.waitEach (.noting replies) none clock [] errands
    (∃ enough, ∀ limit, enough ≤ limit →
      settings.waitEachOnClock (.noting replies) limit none clock [] errands =
        some (runs.map fun timed => (timed.1, timed.2.moved timed.1))) ∧
    runs.length = errands.length ∧
    ∀ {front behind : List Errand} {errand : Errand} {earlier later : List (Nat × Run Notes)}
      {began : Nat} {run : Run Notes}, errands = front ++ errand :: behind →
      runs = earlier ++ (began, run) :: later → earlier.length = front.length →
      run.IsOnItsOwn settings replies (queriesOf earlier) errand ∧
      (¬settings.Accepts errand.operation → run.starts = [] ∧ run.ended = 0 ∧
        ∃ reason, run.result = .error (.invalidArgument reason)) ∧
      ∀ {point took : Nat} {report : OperationReport} {result : Except Fault Completion},
        report.Concludes errand.operation took result →
        (∀ index, point ≤ index → replies index = { result := .ok report, took := took }) →
        point ≤ queriesOf earlier → settings.Accepts errand.operation →
        run.result = result ∧ run.starts = [0] ∧ run.ended = took := by
  intro runs
  have nothing : HasTaken replies [] 0 := rfl
  obtain ⟨length, each⟩ := each_on_notes settings quiet errands clock nothing
  refine ⟨?_, length, ?_⟩
  · refine ⟨queriesOf runs + 1, fun limit enough => ?_⟩
    apply settings.wait_each_on_clock
    intro timed member
    exact Nat.lt_of_le_of_lt (starts_le_queries member) enough
  · intro front behind errand earlier later began run divided listed position
    obtain ⟨before, taken, rfl⟩ := each divided listed position
    rw [Nat.zero_add] at taken
    have own := on_its_own_of_notes settings quiet errand taken
    refine ⟨own, ?_, ?_⟩
    · intro refuses
      obtain ⟨reason, refused⟩ := settings.wait_of_not_accepts refuses
      rw [refused]
      exact ⟨rfl, rfl, reason, rfl⟩
    · intro point took report result concludes steady reached accepts
      rw [own.result, own.starts, own.ended]
      exact alone_of_concludes accepts concludes (steady _ reached)

/-- Two transient faults, and from then on reports that the operation has succeeded. -/
def faultsThenDone (index : Nat) : Reply :=
  if index < 2 then { result := .error (.transportFailed "connection reset"), took := 1 }
  else { result := .ok .succeeded, took := 2 }

/-- Two faults are too many for one wait, but here the first wait has no time for the second one, and
the second wait does not count the first one. The third wait asks once. -/
theorem faults_of_two_waits_do_not_add_up :
    let settings : WaitSettings := { interval := 3, deadline := 7, failureBound := 2 }
    ∃ first second third,
      settings.waitEach (.noting faultsThenDone) none 0 []
        [⟨"op-1", some 0⟩, ⟨"op-2", none⟩, ⟨"op-3", none⟩] = [first, second, third] ∧
      second.2.IsOnItsOwn settings faultsThenDone 1 ⟨"op-2", none⟩ ∧
      second.2.result = .ok ⟨"op-2", 2, 6⟩ ∧
      third.2.result = .ok ⟨"op-3", 1, 2⟩ ∧ third.2.starts = [0] ∧ third.2.ended = 2 := by
  intro settings
  have quiet (index : Nat) : (faultsThenDone index).calledOff = false := by
    unfold faultsThenDone
    split <;> rfl
  have steady (index : Nat) (later : 2 ≤ index) :
      faultsThenDone index = { result := .ok .succeeded, took := 2 } := if_neg (by omega)
  obtain ⟨_, length, each⟩ := successive_waits_share_nothing settings quiet 0
    [⟨"op-1", some 0⟩, ⟨"op-2", none⟩, ⟨"op-3", none⟩]
  obtain ⟨first, second, third, same⟩ := List.length_eq_three.mp length
  have taken : ((settings.waitEach (.noting faultsThenDone) none 0 []
      [⟨"op-1", some 0⟩, ⟨"op-2", none⟩, ⟨"op-3", none⟩]).map fun timed => timed.2.starts.length) =
        [1, 2, 1] := by
    decide +kernel
  rw [same] at taken
  simp only [List.map_cons, List.map_nil, List.cons.injEq] at taken
  obtain ⟨asked, again, _⟩ := taken
  have own := (@each [⟨"op-1", some 0⟩] [⟨"op-3", none⟩] ⟨"op-2", none⟩ [first] [third] second.1
    second.2 rfl same rfl).1
  have once := (@each [⟨"op-1", some 0⟩, ⟨"op-2", none⟩] [] ⟨"op-3", none⟩ [first, second] [] third.1
    third.2 rfl same rfl).2.2 .succeeded steady (by simp [queriesOf, asked, again]) ⟨rfl, by decide⟩
  have counted : queriesOf [first] = 1 := by simp [queriesOf, asked]
  rw [counted] at own
  have succeeded : (settings.standAlone faultsThenDone 1 ⟨"op-2", none⟩).result = .ok ⟨"op-2", 2, 6⟩ := by
    decide +kernel
  exact ⟨first, second, third, same, own, own.result.trans succeeded, once⟩

/-- Every reply is that the operation has succeeded, and yet these waits ask nothing: the one is for an
operation without a name, and the other has settings without a pause. -/
theorem refused_waits_ask_nothing :
    let done : Nat → Reply := fun _ => { result := .ok .succeeded }
    (∃ run, WaitSettings.waitEach {} (.noting done) none 0 [] [⟨" ", none⟩] = [(0, run)] ∧
      run.starts = [] ∧ run.result = .error (.invalidArgument "operation id must not be empty")) ∧
    ∃ run, WaitSettings.waitEach { interval := 0 } (.noting done) none 0 [] [⟨"op-1", none⟩] = [(0, run)] ∧
      run.starts = [] ∧
      run.result = .error (.invalidArgument "poll interval must be greater than zero") :=
  ⟨⟨_, rfl, rfl, rfl⟩, ⟨_, rfl, rfl, rfl⟩⟩

end ExtensionPublisher
