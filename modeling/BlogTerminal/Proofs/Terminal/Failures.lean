import BlogTerminal.Proofs.Terminal.Session

/-!
Stores whose changes fail. A terminal never looks at its stores again once it has started, and never
at the outcome of a change. So every operation on it leads to the same as on the terminal without
its stores, and which changes fail cannot be told from a run before another page is loaded.
-/

namespace BlogTerminal

/-! ## Changes that fail -/

/-- A store whose changes fail by a pattern, which tells for each of the changes to come whether it
fails. -/
structure FitfulStore (σ : Type) where
  store : σ
  fails : Nat → Bool

namespace FitfulStore

variable {σ : Type}

/-- What a change leads to: the next one of the pattern either fails and changes nothing, or works
on the store inside. -/
def attempt (fitful : FitfulStore σ) (change : σ → Change σ) : Change (FitfulStore σ) :=
  let rest := fun call => fitful.fails (call + 1)
  if fitful.fails 0 then ⟨⟨fitful.store, rest⟩, some .io⟩
  else
    let inside := change fitful.store
    ⟨⟨inside.store, rest⟩, inside.error⟩

instance [Store σ] : Store (FitfulStore σ) where
  name := Store.name σ
  get fitful key := Store.get fitful.store key
  set fitful key value := fitful.attempt (Store.set · key value)
  remove fitful key := fitful.attempt (Store.remove · key)

end FitfulStore

/-- A store that keeps nothing: all of its calls fail. -/
structure NoStore where

instance : Store NoStore where
  name := "NoStorage"
  get _ _ := throw .io
  set store _ _ := ⟨store, some .io⟩
  remove store _ := ⟨store, some .io⟩

/-! ## What can be seen of a run -/

namespace Terminal

variable {σ τ : Type}

/-- What can be seen of a terminal, apart from the parts that never change. -/
structure View where
  path : Text
  input : Text
  history : List Text
  theme : Theme
  /-- The candidates that the Tab key goes through. -/
  cycle : Option Cycle
  /-- The position in the history that was recalled last. -/
  cursor : Option Nat
  /-- The candidates for the last word of any line. -/
  candidates : (command typed : Text) → (isFirst : Bool) → List Text

/-- What can be seen of a terminal. -/
def view (terminal : Terminal σ τ) : View where
  path := terminal.path
  input := terminal.input
  history := terminal.history
  theme := terminal.theme
  cycle := terminal.cycle
  cursor := terminal.cursor
  candidates := terminal.candidates

/-- What can be seen of an operation. -/
structure Sight where
  dispatch : Dispatch
  events : List Event
  behind : View

/-- What can be seen of a list of operations, step by step. -/
def sights [Store σ] [Store τ] (terminal : Terminal σ τ) : List Operation → List Sight
  | [] => []
  | operation :: rest =>
    let step := terminal.perform operation
    ⟨step.dispatch, step.events, step.terminal.view⟩ :: step.terminal.sights rest

/-! ## Without the stores -/

/-- The terminal without its stores. -/
def detached (terminal : Terminal σ τ) : Terminal NoStore NoStore :=
  { terminal with session := ⟨⟩, preferences := ⟨⟩ }

end Terminal

/-- The answer of an operation on the terminal without its stores. -/
def Step.detached {σ τ : Type} (step : Step σ τ) : Step NoStore NoStore :=
  { step with terminal := step.terminal.detached }

namespace Terminal

variable {σ τ : Type}

private theorem view_detached (terminal : Terminal σ τ) :
    terminal.detached.view = terminal.view := rfl

private theorem openingEvents_detached (terminal : Terminal σ τ) (skipListing : Bool) :
    terminal.detached.openingEvents skipListing = terminal.openingEvents skipListing := rfl

private theorem apply_detached [Store τ] (terminal : Terminal σ τ) (line : Text) (result : Result) :
    (terminal.apply line result).detached = terminal.detached.apply line result := by
  unfold apply
  split
  · rfl
  · split
    · rfl
    · split
      · rfl
      · cases result.theme <;> rfl

private theorem execute_detached [Store τ] (terminal : Terminal σ τ) (line : Text) :
    (terminal.execute line).detached = terminal.detached.execute line := by
  unfold execute
  extract_lets trimmed call
  by_cases blank : trimmed.isEmpty
  · rw [if_pos blank, if_pos blank]
    rfl
  · rw [if_neg blank, if_neg blank]
    by_cases listed : call.name = Builtin.history.command.name
    · rw [if_pos listed, if_pos listed]
      rfl
    · rw [if_neg listed, if_neg listed]
      exact apply_detached terminal trimmed (terminal.answer call)

private theorem activate_detached [Store τ] (terminal : Terminal σ τ) (element : Markup.Clickable) :
    (terminal.activate element).detached = terminal.detached.activate element := by
  unfold activate
  cases element.href with
  | some url => rfl
  | none =>
    have ran := execute_detached terminal element.command
    exact congrArg (fun step : Step NoStore NoStore =>
      { step with terminal := { step.terminal with input := [] } }) ran

private theorem recallOlder_detached (terminal : Terminal σ τ) :
    terminal.recallOlder.detached = terminal.detached.recallOlder := by
  unfold recallOlder
  by_cases empty : terminal.history.isEmpty
  · rw [if_pos empty]
    exact (if_pos empty).symm
  · rw [if_neg empty]
    exact (if_neg empty).symm

private theorem recallNewer_detached (terminal : Terminal σ τ) :
    terminal.recallNewer.detached = terminal.detached.recallNewer := by
  unfold recallNewer
  by_cases empty : terminal.history.isEmpty
  · rw [if_pos empty]
    exact (if_pos empty).symm
  · rw [if_neg empty]
    refine Eq.trans ?_ (if_neg empty).symm
    have same : newer? (terminal.detached.history.length - 1) terminal.detached.cursor =
        newer? (terminal.history.length - 1) terminal.cursor := rfl
    rw [same]
    cases newer? (terminal.history.length - 1) terminal.cursor <;> rfl

private theorem complete_detached (terminal : Terminal σ τ) :
    terminal.complete.detached = terminal.detached.complete := by
  have same : terminal.detached.nextCycle = terminal.nextCycle := rfl
  unfold complete
  rw [same]
  extract_lets cycle
  cases cycle.bind Cycle.current? <;> rfl

variable [Store σ] [Store τ]

private theorem submit_detached (terminal : Terminal σ τ) :
    terminal.submit.detached = terminal.detached.submit := by
  let ready := { terminal with input := [], cursor := none, cycle := none }
  let line := terminal.input.trim
  have ran : (ready.execute line).detached = ready.detached.execute line :=
    execute_detached ready line
  unfold submit
  by_cases blank : line.isEmpty
  · exact (congrArg Step.detached (if_pos blank)).trans (if_pos blank).symm
  · refine (congrArg Step.detached (if_neg blank)).trans (Eq.trans ?_ (if_neg blank).symm)
    -- What is saved of the history is not seen without the stores.
    exact congrArg (fun step : Step NoStore NoStore => { step with
      terminal := { step.terminal with history := step.terminal.history ++ [line] } }) ran

private theorem press_detached (terminal : Terminal σ τ) (key : Key) :
    (terminal.press key).detached = terminal.detached.press key := by
  cases key with
  | enter => exact submit_detached { terminal with cycle := none }
  | up => exact congrArg edit (recallOlder_detached { terminal with cycle := none })
  | down => exact congrArg edit (recallNewer_detached { terminal with cycle := none })
  | tab => exact congrArg edit (complete_detached terminal)
  | char c => rfl
  | backspace => rfl
  | clear => exact execute_detached { terminal with cycle := none } "clear"

/-- An operation leads to the same without the stores. -/
theorem perform_detached (terminal : Terminal σ τ) (operation : Operation) :
    (terminal.perform operation).detached = terminal.detached.perform operation := by
  cases operation with
  | press key => exact press_detached terminal key
  | enter input => rfl
  | submit => exact submit_detached terminal
  | execute line => exact execute_detached terminal line
  | activate element => exact activate_detached terminal element

/-- A run looks the same without the stores. -/
theorem sights_detached (terminal : Terminal σ τ) (operations : List Operation) :
    terminal.detached.sights operations = terminal.sights operations := by
  induction operations generalizing terminal with
  | nil => rfl
  | cons operation rest ih =>
    have same := perform_detached terminal operation
    have behind := ih (terminal.perform operation).terminal
    rw [sights, ← same, sights, ← behind]
    rfl

/-! ## Failing stores -/

/-- Which changes of the two stores fail. -/
structure Failures where
  session : Nat → Bool
  preferences : Nat → Bool

/-- The setup with changes of its stores failing. -/
def Setup.failing (setup : Setup σ τ) (failures : Failures) :
    Setup (FitfulStore σ) (FitfulStore τ) :=
  { setup with
    session := ⟨setup.session, failures.session⟩
    preferences := ⟨setup.preferences, failures.preferences⟩ }

/-- What will fail does not matter when the terminal is started. -/
theorem start_failing (setup : Setup σ τ) (failures : Failures) :
    (start (setup.failing failures)).detached = (start setup).detached := rfl

/-- Whichever changes of the stores fail, a terminal opens its page in the same way, and every list
of operations gives the same dispatches, asks the screen for the same in the same order, and leaves
the same path, input line, history, theme, candidates and cursor behind each of its steps. -/
theorem failures_unseen (setup : Setup σ τ) (one other : Failures) (operations : List Operation) :
    let first := start (setup.failing one)
    let second := start (setup.failing other)
    first.view = second.view ∧
      first.openingEvents setup.skipListing = second.openingEvents setup.skipListing ∧
      first.sights operations = second.sights operations := by
  intro first second
  have same : first.detached = second.detached :=
    (start_failing setup one).trans (start_failing setup other).symm
  refine ⟨?_, ?_, ?_⟩
  · rw [← view_detached, same, view_detached]
  · rw [← openingEvents_detached, same, openingEvents_detached]
  · rw [← sights_detached, same, sights_detached]

/-- Only the next page tells whether the history was saved. -/
example :
    let setup : Setup MemoryStore MemoryStore :=
      ⟨[], {}, "~", true, ⟨[]⟩, ⟨[]⟩, ⟨⟨⟨1970, 1, 1⟩, 0, 0⟩, 0⟩⟩
    let restored (fails : Bool) : List Text :=
      let terminal := start (setup.failing ⟨fun _ => fails, fun _ => false⟩)
      storedHistory (terminal.setInput "pwd").submit.terminal.session
    restored true = [] ∧ restored false = ["pwd".toList] := by
  decide +kernel

end Terminal

end BlogTerminal
