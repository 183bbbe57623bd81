import BlogTerminal.Proofs.Table
import BlogTerminal.Store
import BlogTerminal.Terminal.Basic
import BlogTerminal.Terminal.Run

/-!
Runs of a terminal. A page is opened with a terminal and an empty screen, and from then on every
operation gives the next terminal and shows its events. A reachable state is the end of some run, so
what holds of a new page and is kept by every operation holds in all of them. Loading another page
gives a new terminal and a new screen, and only the two stores go on.
-/

namespace BlogTerminal

/-- What can be done to a terminal from outside. -/
inductive Operation where
  | press (key : Key)
  /-- Put a text into the input line. -/
  | enter (input : Text)
  | submit
  | execute (line : Text)
  | activate (element : Markup.Clickable)

/-- The operations that can submit a line. -/
inductive Operation.Submits : Operation → Prop where
  | submit : Submits .submit
  | enter : Submits (.press .enter)

namespace Terminal

variable {σ τ : Type}

/-- The line that an operation submits, if it submits one. A blank input line is not submitted. -/
def submitted? (terminal : Terminal σ τ) : Operation → Option Text
  | .submit | .press .enter =>
    if terminal.input.trim.isEmpty then none else some terminal.input.trim
  | _ => none

/-- Operations that submit nothing have no line. -/
theorem submitted_none (terminal : Terminal σ τ) {operation : Operation}
    (silent : ¬ operation.Submits) : terminal.submitted? operation = none := by
  unfold submitted?
  split
  · exact absurd .submit silent
  · exact absurd .enter silent
  · rfl

/-! ## What the keys of the input line change -/

/-- Recalling an older line changes the input line and the cursor alone. -/
theorem recallOlder_frame (terminal : Terminal σ τ) :
    ∃ input cursor, terminal.recallOlder = { terminal with input, cursor } := by
  unfold recallOlder
  split
  · exact ⟨terminal.input, terminal.cursor, rfl⟩
  · exact ⟨_, _, rfl⟩

/-- Recalling a newer line changes the input line and the cursor alone. -/
theorem recallNewer_frame (terminal : Terminal σ τ) :
    ∃ input cursor, terminal.recallNewer = { terminal with input, cursor } := by
  unfold recallNewer
  split
  · exact ⟨terminal.input, terminal.cursor, rfl⟩
  · split
    · exact ⟨_, _, rfl⟩
    · exact ⟨terminal.input, terminal.cursor, rfl⟩

/-- Completing changes the input line and the cycle alone. -/
theorem complete_frame (terminal : Terminal σ τ) :
    ∃ input cycle, terminal.complete = { terminal with input, cycle } := by
  unfold complete
  extract_lets cycle
  split
  · exact ⟨_, cycle, rfl⟩
  · exact ⟨terminal.input, cycle, rfl⟩

/-! ## Operations -/

variable [Store σ] [Store τ]

/-- What an operation leads to. -/
def perform (terminal : Terminal σ τ) : Operation → Step σ τ
  | .press key => terminal.press key
  | .enter input => (terminal.setInput input).edit
  | .submit => terminal.submit
  | .execute line => terminal.execute line
  | .activate element => terminal.activate element

/-- The ways in which an operation can be dealt with, each with the line that is submitted by it.
Only the input line, the cursor and the candidates change without a command line being run or a link
being followed. -/
inductive Performed (terminal : Terminal σ τ) : Option Text → Step σ τ → Prop where
  | edited (input : Text) (cursor : Option Nat) (cycle : Option Cycle) :
      Performed terminal none ⟨{ terminal with input, cursor, cycle }, .ignored, []⟩
  | followed (url : Text) : Performed terminal none ⟨terminal, .navigated url, [.navigate url]⟩
  | ran (line input behind : Text) (cursor : Option Nat) (cycle : Option Cycle) {step : Step σ τ}
      (executed : { terminal with input, cursor, cycle }.execute line = step) :
      Performed terminal none { step with terminal := { step.terminal with input := behind } }
  | submitted (line : Text) {step : Step σ τ} (executed :
      { terminal with input := [], cursor := none, cycle := none }.execute line = step) :
      Performed terminal (some line) { step with
        terminal := { step.terminal with history := step.terminal.history ++ [line] }.saveHistory }

private theorem execute_performed (terminal : Terminal σ τ) (line : Text) (cycle : Option Cycle) :
    Performed terminal none ({ terminal with cycle }.execute line) :=
  .ran line terminal.input _ terminal.cursor cycle rfl

private theorem submit_performed (terminal : Terminal σ τ) (cycle : Option Cycle) :
    Performed terminal (terminal.submitted? .submit) { terminal with cycle }.submit := by
  unfold submit submitted?
  extract_lets line ready
  by_cases blank : terminal.input.trim.isEmpty
  · rw [if_pos blank, if_pos blank]
    exact .edited [] none none
  · rw [if_neg blank, if_neg blank]
    exact .submitted line rfl

private theorem activate_performed (terminal : Terminal σ τ) (element : Markup.Clickable) :
    Performed terminal none (terminal.activate element) := by
  unfold activate
  cases element.href with
  | some url => exact .followed url
  | none => exact .ran element.command terminal.input [] terminal.cursor terminal.cycle rfl

private theorem recallOlder_performed (terminal : Terminal σ τ) (cycle : Option Cycle) :
    Performed terminal none { terminal with cycle }.recallOlder.edit := by
  obtain ⟨input, cursor, same⟩ := recallOlder_frame { terminal with cycle }
  rw [same]
  exact .edited input cursor cycle

private theorem recallNewer_performed (terminal : Terminal σ τ) (cycle : Option Cycle) :
    Performed terminal none { terminal with cycle }.recallNewer.edit := by
  obtain ⟨input, cursor, same⟩ := recallNewer_frame { terminal with cycle }
  rw [same]
  exact .edited input cursor cycle

private theorem complete_performed (terminal : Terminal σ τ) :
    Performed terminal none terminal.complete.edit := by
  obtain ⟨input, cycle, same⟩ := complete_frame terminal
  rw [same]
  exact .edited input terminal.cursor cycle

/-- Every operation is dealt with in one of these ways. -/
theorem perform_performed (terminal : Terminal σ τ) (operation : Operation) :
    Performed terminal (terminal.submitted? operation) (terminal.perform operation) := by
  cases operation with
  | press key =>
    cases key with
    | enter => exact submit_performed terminal none
    | up => exact recallOlder_performed terminal none
    | down => exact recallNewer_performed terminal none
    | tab => exact complete_performed terminal
    | char c => exact .edited _ terminal.cursor none
    | backspace => exact .edited _ terminal.cursor none
    | clear => exact execute_performed terminal "clear" none
  | enter input => exact .edited input terminal.cursor none
  | submit => exact submit_performed terminal terminal.cycle
  | execute line => exact execute_performed terminal line terminal.cycle
  | activate element => exact activate_performed terminal element

end Terminal

/-! ## Pages -/

/-- A block on a screen was there before, or has been shown since. -/
theorem Screen.mem_blocks {screen : Screen} {events : List Event} {block : Block}
    (member : block ∈ (screen.applyAll events).blocks) :
    block ∈ screen.blocks ∨ Event.append block ∈ events := by
  induction events generalizing screen with
  | nil => exact .inl member
  | cons event rest ih =>
    rcases ih member with before | later
    · cases event with
      | append shown =>
        rcases List.mem_append.mp before with earlier | same
        · exact .inl earlier
        · rw [List.mem_singleton.mp same]
          exact .inr (.head _)
      | clear => exact absurd before List.not_mem_nil
      | navigate _ | goBack | scroll | applyTheme _ => exact .inl before
    · exact .inr (.tail _ later)

/-- An open page: its terminal, and the screen that the terminal is shown on. -/
structure Visit (σ τ : Type) where
  terminal : Terminal σ τ
  screen : Screen

namespace Visit

variable {σ τ : Type} [Store σ] [Store τ]

/-- A page that has just been opened. -/
def start (setup : Terminal.Setup σ τ) : Visit σ τ :=
  let terminal := Terminal.start setup
  ⟨terminal, Screen.applyAll {} (terminal.openingEvents setup.skipListing)⟩

/-- The page behind an operation. -/
def perform (visit : Visit σ τ) (operation : Operation) : Visit σ τ :=
  let step := visit.terminal.perform operation
  ⟨step.terminal, visit.screen.applyAll step.events⟩

/-- The page behind a list of operations on a new one. -/
def run (setup : Terminal.Setup σ τ) (operations : List Operation) : Visit σ τ :=
  operations.foldl perform (start setup)

/-- What holds of a new page and is kept by every operation holds in every reachable state. -/
theorem run_invariant {invariant : Visit σ τ → Prop} {setup : Terminal.Setup σ τ}
    (opened : invariant (start setup))
    (kept : ∀ visit operation, invariant visit → invariant (visit.perform operation))
    (operations : List Operation) : invariant (run setup operations) := by
  have from_state : ∀ visit, invariant visit → invariant (operations.foldl perform visit) := by
    induction operations with
    | nil => exact fun _ holds => holds
    | cons operation rest ih => exact fun visit holds => ih _ (kept visit operation holds)
  exact from_state _ opened

end Visit

/-! ## Page loads -/

/-- What a page is opened with besides the stores. -/
structure Opening where
  posts : List Post
  profile : Profile
  path : Text
  skipListing : Bool
  clock : Clock

/-- The page on the given stores. -/
def Opening.setup {σ τ : Type} (opening : Opening) (session : σ) (preferences : τ) :
    Terminal.Setup σ τ where
  posts := opening.posts
  profile := opening.profile
  path := opening.path
  skipListing := opening.skipListing
  session
  preferences
  clock := opening.clock

/-- A step of a run over several pages. -/
inductive Action where
  | load (opening : Opening)
  | operate (operation : Operation)

/-- Where a run over several pages stands: the open page, and the lines that were submitted in the
run, before the page was loaded and since. -/
structure Browsing (σ τ : Type) where
  visit : Visit σ τ
  earlier : List Text
  since : List Text

namespace Browsing

variable {σ τ : Type} [Store σ] [Store τ]

/-- The first page of a run. -/
def start (setup : Terminal.Setup σ τ) : Browsing σ τ := ⟨Visit.start setup, [], []⟩

/-- The run behind another step. -/
def act (browsing : Browsing σ τ) : Action → Browsing σ τ
  | .load opening =>
    let before := browsing.visit.terminal
    ⟨Visit.start (opening.setup before.session before.preferences),
      browsing.earlier ++ browsing.since, []⟩
  | .operate operation =>
    ⟨browsing.visit.perform operation, browsing.earlier,
      browsing.since ++ (browsing.visit.terminal.submitted? operation).toList⟩

/-- A run of steps behind a first page. -/
def run (setup : Terminal.Setup σ τ) (actions : List Action) : Browsing σ τ :=
  actions.foldl act (start setup)

/-- What holds of the first page and is kept by every step holds at the end of every run. -/
theorem run_invariant {invariant : Browsing σ τ → Prop} {setup : Terminal.Setup σ τ}
    (opened : invariant (start setup))
    (kept : ∀ browsing action, invariant browsing → invariant (browsing.act action))
    (actions : List Action) : invariant (run setup actions) := by
  have from_state : ∀ browsing, invariant browsing → invariant (actions.foldl act browsing) := by
    induction actions with
    | nil => exact fun _ holds => holds
    | cons action rest ih => exact fun browsing holds => ih _ (kept browsing action holds)
  exact from_state _ opened

end Browsing

/-! ## Stores that never fail

Such a store answers every call, and holds for each key what was last set unless it has been removed
since.
-/

/-- No call fails, and every change takes effect at its key and nowhere else. -/
structure Store.Reliable (σ : Type) [Store σ] : Prop where
  answers : ∀ (store : σ) key, ∃ value, Store.get store key = .ok value
  sets : ∀ (store : σ) key value, (Store.set store key value).error = none
  removes : ∀ (store : σ) key, (Store.remove store key).error = none
  get_set : ∀ (store : σ) key value other, Store.get (Store.set store key value).store other =
    if other = key then .ok (some value) else Store.get store other
  get_remove : ∀ (store : σ) key other, Store.get (Store.remove store key).store other =
    if other = key then .ok none else Store.get store other

/-- A store in memory never fails. -/
theorem MemoryStore.reliable : Store.Reliable MemoryStore where
  answers store key := ⟨store.entries.get? key, rfl⟩
  sets _ _ _ := rfl
  removes _ _ := rfl
  get_set store key value other := by
    have held := Table.get_insert store.entries key value other
    by_cases same : other = key
    · rw [if_pos same] at held ⊢
      exact congrArg Except.ok held
    · rw [if_neg same] at held ⊢
      exact congrArg Except.ok held
  get_remove store key other := by
    have held := Table.get_erase store.entries key other
    by_cases same : other = key
    · rw [if_pos same] at held ⊢
      exact congrArg Except.ok held
    · rw [if_neg same] at held ⊢
      exact congrArg Except.ok held

end BlogTerminal
