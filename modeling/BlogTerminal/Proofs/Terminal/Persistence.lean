import BlogTerminal.Command.Session
import BlogTerminal.Proofs.Json
import BlogTerminal.Proofs.Terminal.Dispatch
import BlogTerminal.Proofs.Terminal.Session

/-!
The history over several page loads. A submitted line goes behind the history, and then the last
lines of the history are stored; a new page starts from what is stored. Since keeping the last lines
twice is keeping them once, the store always holds the last lines of the whole run, although no
terminal has ever seen all of it.
-/

namespace BlogTerminal

/-! ## Keeping a history

What is kept of a history are its last lines; keeping them again, with more lines behind, is the
same as keeping the last lines of everything.
-/

namespace History

/-- Lines that were dropped before cannot be among the last lines later on. -/
theorem kept_append (before after : List Text) :
    kept (kept before ++ after) = kept (before ++ after) := by
  have dropped : kept before ++ after = (before ++ after).drop (before.length - keptLimit) := by
    rw [kept, List.drop_append_of_le_length (by omega)]
  have lengths : (before.length - keptLimit) +
      ((kept before ++ after).length - keptLimit) = (before ++ after).length - keptLimit := by
    simp only [kept, List.length_append, List.length_drop]
    omega
  calc kept (kept before ++ after)
      = ((before ++ after).drop (before.length - keptLimit)).drop
          ((kept before ++ after).length - keptLimit) := congrArg (List.drop _) dropped
    _ = kept (before ++ after) := by rw [List.drop_drop, lengths, ← kept]

/-- Reading a stored history gives the lines that were kept of it. -/
theorem ofText_toText (history : List Text) : ofText? (toText history) = some (kept history) :=
  Json.texts_writeArray (kept history)

private theorem toText_compact (history : List Text) : Json.IsCompact (toText history) :=
  Json.writeArray_compact (kept history)

end History

/-! ## Page loads -/

section

variable {σ τ : Type} [Store σ] [Store τ]

/-! ### One operation -/

namespace Terminal

variable {terminal : Terminal σ τ} {line : Text} {step : Step σ τ}

/-- Without a line that is submitted, the history and the session store stay. -/
theorem performed_silent (performed : Performed terminal none step) :
    step.terminal.history = terminal.history ∧ step.terminal.session = terminal.session := by
  cases performed with
  | edited input cursor cycle => exact ⟨rfl, rfl⟩
  | followed url => exact ⟨rfl, rfl⟩
  | ran line input behind cursor cycle executed =>
    have frame := execute_framed { terminal with input, cursor, cycle } line
    rw [executed] at frame
    exact ⟨frame.history, frame.session⟩

/-- A line that is submitted goes behind the history, and the history is stored. -/
theorem performed_submitted (performed : Performed terminal (some line) step) :
    step.terminal.history = terminal.history ++ [line] ∧
      step.terminal.session = (Store.set terminal.session historyKey
        (History.toText (terminal.history ++ [line]))).store := by
  cases performed with
  | submitted line executed =>
    have frame := execute_framed { terminal with input := [], cursor := none, cycle := none } line
    rw [executed] at frame
    have history := frame.history
    have session := frame.session
    simp only [saveHistory, history, session, and_self]

end Terminal

/-! ### Runs -/

/-- What the session store holds after some lines have been submitted. -/
def Stored (session : σ) (lines : List Text) : Prop :=
  Store.get session Terminal.historyKey =
    .ok (if lines = [] then none else some (History.toText lines))

/-- The store and the history of the open page agree with the lines of the run. -/
structure Browsing.Recorded (browsing : Browsing σ τ) : Prop where
  stored : Stored browsing.visit.terminal.session (browsing.earlier ++ browsing.since)
  history : browsing.visit.terminal.history = History.kept browsing.earlier ++ browsing.since

/-- A new page starts from the last of the lines that were submitted before. -/
theorem storedHistory_of_stored {session : σ} {lines : List Text} (stored : Stored session lines) :
    Terminal.storedHistory session = History.kept lines := by
  rw [Terminal.storedHistory, stored]
  by_cases none : lines = []
  · rw [if_pos none, none]
    rfl
  · rw [if_neg none]
    simp only [History.ofText_toText, Option.getD_some]

private theorem Browsing.start_recorded (setup : Terminal.Setup σ τ)
    (fresh : Store.get setup.session Terminal.historyKey = .ok none) :
    (start setup).Recorded := by
  have stored : Stored setup.session [] := fresh
  exact ⟨stored, storedHistory_of_stored stored⟩

private theorem Browsing.load_recorded {browsing : Browsing σ τ} (opening : Opening)
    (recorded : browsing.Recorded) : (browsing.act (.load opening)).Recorded := by
  have stored := recorded.stored
  have restored := storedHistory_of_stored stored
  refine ⟨?_, ?_⟩
  · rw [← List.append_nil (browsing.earlier ++ browsing.since)] at stored
    exact stored
  · exact restored.trans (List.append_nil _).symm

private theorem Browsing.operate_recorded (reliable : Store.Reliable σ) {browsing : Browsing σ τ}
    (operation : Operation) (recorded : browsing.Recorded) :
    (browsing.act (.operate operation)).Recorded := by
  have performed := Terminal.perform_performed browsing.visit.terminal operation
  cases submitted : browsing.visit.terminal.submitted? operation with
  | none =>
    rw [submitted] at performed
    obtain ⟨history, session⟩ := Terminal.performed_silent performed
    have since : (browsing.act (.operate operation)).since = browsing.since := by
      simp only [act, submitted, Option.toList_none, List.append_nil]
    refine ⟨?_, ?_⟩
    · rw [since]
      exact session ▸ recorded.stored
    · rw [since]
      exact history.trans recorded.history
  | some line =>
    rw [submitted] at performed
    obtain ⟨history, session⟩ := Terminal.performed_submitted performed
    have since : (browsing.act (.operate operation)).since = browsing.since ++ [line] := by
      simp only [act, submitted, Option.toList_some]
    rw [recorded.history, List.append_assoc] at history session
    -- What is written are the last lines of the run, although the history of the page began with
    -- no more than the last lines of the pages before it.
    have written : History.toText (History.kept browsing.earlier ++ (browsing.since ++ [line])) =
        History.toText (browsing.earlier ++ (browsing.since ++ [line])) :=
      congrArg Json.writeArray (History.kept_append _ _)
    have spoken : browsing.earlier ++ (browsing.since ++ [line]) ≠ [] := by simp
    refine ⟨?_, ?_⟩
    · have stored : Stored (browsing.visit.terminal.perform operation).terminal.session
          (browsing.earlier ++ (browsing.since ++ [line])) := by
        rw [Stored, session, written, reliable.get_set, if_pos rfl, if_neg spoken]
      rw [since]
      exact stored
    · rw [since]
      exact history

/-- Over any run of page loads and operations on a store that never fails and holds no history at
first, the store holds nothing until a line has been submitted, and from then on compact JSON that
is read as the last fifty of all lines submitted in the run. The history of the open page is made of
the last fifty lines from before it was loaded and of all lines since, and only submitting a line
changes either of them. -/
theorem history_persists (reliable : Store.Reliable σ) (setup : Terminal.Setup σ τ)
    (fresh : Store.get setup.session Terminal.historyKey = .ok none) (actions : List Action) :
    let browsing := Browsing.run setup actions
    let terminal := browsing.visit.terminal
    let lines := browsing.earlier ++ browsing.since
    (lines = [] → Store.get terminal.session Terminal.historyKey = .ok none) ∧
      (lines ≠ [] → ∃ text, Store.get terminal.session Terminal.historyKey = .ok (some text) ∧
        Json.IsCompact text ∧
        History.ofText? text = some (lines.drop (lines.length - 50))) ∧
      terminal.history =
        browsing.earlier.drop (browsing.earlier.length - 50) ++ browsing.since ∧
      ∀ operation : Operation, ¬ operation.Submits →
        (terminal.perform operation).terminal.history = terminal.history ∧
          (terminal.perform operation).terminal.session = terminal.session := by
  intro browsing terminal lines
  have recorded : browsing.Recorded := by
    refine Browsing.run_invariant (Browsing.start_recorded setup fresh) ?_ actions
    intro browsing action recorded
    cases action with
    | load opening => exact Browsing.load_recorded opening recorded
    | operate operation => exact Browsing.operate_recorded reliable operation recorded
  have stored : Store.get terminal.session Terminal.historyKey =
      .ok (if lines = [] then none else some (History.toText lines)) := recorded.stored
  refine ⟨fun silent => ?_, fun spoken => ?_, recorded.history, fun operation silent => ?_⟩
  · rw [stored, if_pos silent]
  · rw [if_neg spoken] at stored
    exact ⟨_, stored, History.toText_compact lines, History.ofText_toText lines⟩
  · have performed := Terminal.perform_performed terminal operation
    rw [terminal.submitted_none silent] at performed
    exact Terminal.performed_silent performed

/-- Two lines, with a page load between them. -/
theorem history_persists_reloaded :
    let opening : Opening := ⟨[], {}, "~", true, ⟨⟨⟨1970, 1, 1⟩, 0, 0⟩, 0⟩⟩
    let browsing := Browsing.run (opening.setup (⟨[]⟩ : MemoryStore) (⟨[]⟩ : MemoryStore))
      [.operate (.enter "pwd"), .operate .submit, .load opening, .operate (.enter " date "),
       .operate (.press .enter)]
    browsing.visit.terminal.history = ["pwd".toList, "date".toList] ∧
      ∃ text, Store.get browsing.visit.terminal.session Terminal.historyKey = .ok (some text) ∧
        Json.IsCompact text ∧ History.ofText? text = some ["pwd".toList, "date".toList] := by
  intro opening browsing
  obtain ⟨_, stored, history, _⟩ := history_persists MemoryStore.reliable
    (opening.setup (⟨[]⟩ : MemoryStore) (⟨[]⟩ : MemoryStore)) rfl
    [.operate (.enter "pwd"), .operate .submit, .load opening, .operate (.enter " date "),
     .operate (.press .enter)]
  have earlier : browsing.earlier = ["pwd".toList] := by decide +kernel
  have since : browsing.since = ["date".toList] := by decide +kernel
  have lines : browsing.earlier ++ browsing.since = ["pwd".toList, "date".toList] := by
    rw [earlier, since]
    rfl
  refine ⟨?_, ?_⟩
  · rw [earlier, since] at history
    exact history
  · obtain ⟨text, held, compact, read⟩ := stored (by rw [lines]; exact List.cons_ne_nil _ _)
    rw [lines] at read
    exact ⟨text, held, compact, read⟩

end

end BlogTerminal
