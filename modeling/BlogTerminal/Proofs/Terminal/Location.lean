import BlogTerminal.Proofs.Path.Resolve
import BlogTerminal.Proofs.Terminal.Clicks
import BlogTerminal.Proofs.Text.Pieces

/-!
A terminal stays where it was opened. Commands do ask for a prompt path, but either they leave the
page, and then it is not taken, or they are run at the root, whose one prompt path it is. So every
command line is shown with the path of the page, and a wiped screen shows the listing of the page
as a new screen does.
-/

namespace BlogTerminal

open Markup

namespace Terminal

variable {σ τ : Type} [Store τ]

/-! ## One command line -/

/-- The path of the root is written as its prompt path. -/
def Rooted (terminal : Terminal σ τ) : Prop :=
  Path.directory terminal.path = [] → terminal.path = "~".toList

private theorem apply_path (terminal : Terminal σ τ) (line : Text) {call : Call} {result : Result}
    (outcome : Outcome (terminal.context.withCall call) result) (rooted : terminal.Rooted) :
    (terminal.apply line result).terminal.path = terminal.path := by
  cases outcome with
  | shown body | failed body | left url body path | back | wiped | themed theme body => rfl
  | stayed root => exact (rooted root).symm

private theorem execute_path (terminal : Terminal σ τ) (line : Text) (rooted : terminal.Rooted) :
    (terminal.execute line).terminal.path = terminal.path := by
  rcases execute_cases terminal line with same | same | ⟨call, same⟩
  · rw [same]
  · rw [same]
  · rw [same]
    exact apply_path terminal _ (answer_outcome terminal call) rooted

/-- A wipe is one of the screen only: the listing of the page is shown again. -/
theorem execute_cleared (terminal : Terminal σ τ) (line : Text)
    (cleared : (terminal.execute line).dispatch = .cleared) :
    (terminal.execute line).events =
      [.append (terminal.echo line.trim), .clear, .append terminal.listing] := by
  rcases execute_cases terminal line with same | same | ⟨call, same⟩
  · simp [same] at cleared
  · simp [same] at cleared
  · rw [same] at cleared ⊢
    cases result : terminal.answer call with | mk body path navigate goBack clear error theme =>
    rw [result] at cleared
    cases goBack with
    | true => cases cleared
    | false =>
      cases navigate with
      | some url => cases cleared
      | none =>
        cases clear with
        | true => rfl
        | false => cases cleared

private theorem execute_prompt (terminal : Terminal σ τ) (line : Text) {prompt : PromptLine}
    (shown : Event.append (.prompt prompt) ∈ (terminal.execute line).events) :
    prompt.path = terminal.path := by
  rcases execute_block terminal line shown with same | same | same | ⟨call, same⟩
  · cases same
    rfl
  · cases same
  · cases same
  · cases same

private theorem execute_clear (terminal : Terminal σ τ) {line : Text} {arguments flags : List Text}
    (called : Calls line .clear arguments flags) :
    (terminal.execute line).dispatch = .cleared := by
  rw [execute_builtin terminal called (by decide)]
  rfl

/-! ## One operation -/

variable [Store σ] {terminal : Terminal σ τ} {submitted : Option Text} {step : Step σ τ}

/-- No operation changes the prompt path. -/
theorem performed_path (performed : Performed terminal submitted step) (rooted : terminal.Rooted) :
    step.terminal.path = terminal.path := by
  cases performed with
  | edited input cursor cycle => rfl
  | followed url => rfl
  | ran line input behind cursor cycle executed =>
    rw [← executed]
    exact execute_path { terminal with input, cursor, cycle } line rooted
  | submitted line executed =>
    rw [← executed]
    exact execute_path { terminal with input := [], cursor := none, cycle := none } line rooted

private theorem performed_prompt (performed : Performed terminal submitted step)
    {prompt : PromptLine}
    (shown : Event.append (.prompt prompt) ∈ step.events) : prompt.path = terminal.path := by
  cases performed with
  | edited input cursor cycle => exact absurd shown List.not_mem_nil
  | followed url => simp at shown
  | ran line input behind cursor cycle executed =>
    rw [← executed] at shown
    have here := execute_prompt _ line shown
    exact here
  | submitted line executed =>
    rw [← executed] at shown
    have here := execute_prompt _ line shown
    exact here

private theorem performed_cleared (performed : Performed terminal submitted step)
    (cleared : step.dispatch = .cleared) :
    ∃ echo, step.events = [.append echo, .clear, .append terminal.listing] := by
  cases performed with
  | edited input cursor cycle => cases cleared
  | followed url => cases cleared
  | ran line input behind cursor cycle executed =>
    rw [← executed] at cleared ⊢
    exact ⟨_, execute_cleared _ line cleared⟩
  | submitted line executed =>
    rw [← executed] at cleared ⊢
    exact ⟨_, execute_cleared _ line cleared⟩

/-- The operation runs the command that wipes the screen. -/
inductive Clears (terminal : Terminal σ τ) : Operation → Prop where
  | pressed : Clears terminal (.press .clear)
  | executed {line : Text} {arguments flags : List Text}
      (called : Calls line .clear arguments flags) : Clears terminal (.execute line)
  | clicked {line : Text} {arguments flags : List Text}
      (called : Calls line .clear arguments flags) : Clears terminal (.activate ⟨line, none⟩)
  | submitted {arguments flags : List Text}
      (called : Calls terminal.input .clear arguments flags) : Clears terminal .submit
  | entered {arguments flags : List Text}
      (called : Calls terminal.input .clear arguments flags) : Clears terminal (.press .enter)

private theorem submit_clear (terminal : Terminal σ τ) {arguments flags : List Text}
    (called : Calls terminal.input .clear arguments flags) :
    terminal.submit.dispatch = .cleared := by
  have again : Calls terminal.input.trim .clear arguments flags := by
    rw [Calls, Text.trim_trim]
    exact called
  have spoken : ¬ terminal.input.trim.isEmpty := by simpa using called.1
  rw [submit]
  simp only [if_neg spoken]
  exact execute_clear _ again

private theorem clears_cleared {operation : Operation} (clears : terminal.Clears operation) :
    (terminal.perform operation).dispatch = .cleared := by
  cases clears with
  | pressed =>
    have called : Calls "clear" .clear [] [] := by decide
    exact execute_clear _ called
  | executed called => exact execute_clear terminal called
  | clicked called => exact execute_clear terminal called
  | submitted called => exact submit_clear terminal called
  | entered called => exact submit_clear { terminal with cycle := none } called

end Terminal

/-! ## Runs -/

variable {σ τ : Type}

/-- The page is still the one it was opened as, and all its command lines say so. -/
structure Visit.Located (setup : Terminal.Setup σ τ) (visit : Visit σ τ) : Prop where
  posts : visit.terminal.posts = setup.posts
  path : visit.terminal.path = Path.prompt setup.path
  prompts : ∀ line, Block.prompt line ∈ visit.screen.blocks → line.path = Path.prompt setup.path

/-- Where a visit began, the path of the root is written as its prompt path. -/
theorem Visit.Located.rooted {setup : Terminal.Setup σ τ} {visit : Visit σ τ}
    (located : visit.Located setup) : visit.terminal.Rooted := by
  intro root
  rw [located.path] at root ⊢
  exact Path.prompt_root root

variable [Store σ] [Store τ]

private theorem Visit.start_blocks (setup : Terminal.Setup σ τ) :
    (Visit.start { setup with skipListing := false }).screen.blocks =
      [(Terminal.start setup).listing] := by
  simp only [Visit.start, Terminal.openingEvents]
  cases (Terminal.start { setup with skipListing := false }).theme.attribute? with
  | none => rfl
  | some name => rfl

private theorem Visit.start_located (setup : Terminal.Setup σ τ) :
    (Visit.start setup).Located setup := by
  refine ⟨rfl, rfl, fun line member => ?_⟩
  rcases Screen.mem_blocks member with before | shown
  · exact absurd before List.not_mem_nil
  · rw [Terminal.openingEvents, List.mem_append] at shown
    rcases shown with themed | listed
    · split at themed <;> simp at themed
    · split at listed <;> simp [Terminal.listing] at listed

/-- The listing that a visit is wiped to is the one that it began with. -/
theorem Visit.Located.listing {setup : Terminal.Setup σ τ} {visit : Visit σ τ}
    (located : visit.Located setup) : visit.terminal.listing = (Terminal.start setup).listing := by
  simp only [Terminal.listing, Listing.execute, Terminal.context, located.posts, located.path,
    Terminal.start]

private theorem Visit.perform_located {setup : Terminal.Setup σ τ} {visit : Visit σ τ}
    (operation : Operation) (located : visit.Located setup) :
    (visit.perform operation).Located setup := by
  have performed := Terminal.perform_performed visit.terminal operation
  refine ⟨(Terminal.performed_posts performed).trans located.posts,
    (Terminal.performed_path performed located.rooted).trans located.path,
    fun line member => ?_⟩
  rcases Screen.mem_blocks member with before | shown
  · exact located.prompts line before
  · exact (Terminal.performed_prompt performed shown).trans located.path

/-- A terminal never leaves the page it was opened on: its prompt path is that of the page in every
reachable state, every command line is shown with it, and however the screen is wiped, what stands
on it then is the one block that a new terminal on that page lists. -/
theorem path_constant (setup : Terminal.Setup σ τ) (operations : List Operation) :
    let visit := Visit.run setup operations
    let page := Path.prompt setup.path
    let listing := Block.output (Builtin.ls.execute (Terminal.start setup).context).body false
    visit.terminal.path = page ∧
      (∀ line, Block.prompt line ∈ visit.screen.blocks → line.path = page) ∧
      (Visit.start { setup with skipListing := false }).screen.blocks = [listing] ∧
      ∀ operation : Operation,
        (∀ line, Event.append (.prompt line) ∈ (visit.terminal.perform operation).events →
          line.path = page) ∧
        (visit.terminal.Clears operation →
          (visit.terminal.perform operation).dispatch = .cleared) ∧
        ((visit.terminal.perform operation).dispatch = .cleared →
          (visit.perform operation).screen.blocks = [listing]) := by
  intro visit page listing
  have located : visit.Located setup :=
    Visit.run_invariant (Visit.start_located setup)
      (fun _ operation => Visit.perform_located operation) operations
  refine ⟨located.path, located.prompts, Visit.start_blocks setup, fun operation => ?_⟩
  have performed := Terminal.perform_performed visit.terminal operation
  refine ⟨fun line shown => ?_, Terminal.clears_cleared, fun cleared => ?_⟩
  · exact (Terminal.performed_prompt performed shown).trans located.path
  · obtain ⟨echo, events⟩ := Terminal.performed_cleared performed cleared
    have shown : (visit.perform operation).screen.blocks = [visit.terminal.listing] := by
      simp only [Visit.perform, events]
      rfl
    rw [shown, located.listing]
    rfl

end BlogTerminal
