import BlogTerminal.Proofs.Command.Clicks
import BlogTerminal.Proofs.Command.Confinement
import BlogTerminal.Proofs.Markup.Links
import BlogTerminal.Proofs.Terminal.Dispatch
import BlogTerminal.Proofs.Terminal.Lines
import BlogTerminal.Proofs.Terminal.Session

/-!
What can be clicked on a screen. Every block that a terminal ever shows is confined, so an element
that is read back from the screen is a link into the collection or carries a fixed line, and
clicking it never fails. The invariant is about blocks as forests; that reading written markup back
gives the elements of the forest is a theorem about all markup.
-/

namespace BlogTerminal

section

open Markup

/-- The elements of a block are harmless. A command line that is shown again has none that can be
clicked. -/
def Block.Confined (posts : List Post) : Block → Prop
  | .prompt _ => True
  | .output body _ => BlogTerminal.Confined posts body

namespace Terminal

variable {σ τ : Type} {block : Block}

private theorem answer_confined (terminal : Terminal σ τ) (call : Call) :
    Confined terminal.posts (terminal.answer call).body := by
  unfold answer
  cases Builtin.registry.get? call.name with
  | none => exact explained_confined
  | some command => exact execute_confined command.action (terminal.context.withCall call)

private theorem listing_block_confined (terminal : Terminal σ τ) :
    terminal.listing.Confined terminal.posts :=
  listing_confined _ _ _

private theorem execute_shows_confined [Store τ] (terminal : Terminal σ τ) (line : Text)
    (shown : Event.append block ∈ (terminal.execute line).events) :
    block.Confined terminal.posts := by
  rcases execute_block terminal line shown with rfl | rfl | rfl | ⟨call, rfl⟩
  · trivial
  · exact listing_block_confined terminal
  · exact history_confined terminal.history
  · exact answer_confined terminal call

private theorem opening_shows_confined (terminal : Terminal σ τ) {skipListing : Bool}
    (shown : Event.append block ∈ terminal.openingEvents skipListing) :
    block.Confined terminal.posts := by
  rw [openingEvents, List.mem_append] at shown
  rcases shown with themed | listed
  · split at themed <;> simp at themed
  · split at listed
    · exact absurd listed List.not_mem_nil
    · cases List.mem_singleton.mp listed
      exact listing_block_confined terminal

variable [Store σ] [Store τ] {terminal : Terminal σ τ} {line : Option Text} {step : Step σ τ}

private theorem performed_shows_confined (performed : Performed terminal line step)
    (shown : Event.append block ∈ step.events) : block.Confined terminal.posts := by
  cases performed with
  | edited input cursor cycle => exact absurd shown List.not_mem_nil
  | followed url => simp at shown
  | ran line input behind cursor cycle executed =>
    rw [← executed] at shown
    have confined := execute_shows_confined _ line shown
    exact confined
  | submitted line executed =>
    rw [← executed] at shown
    have confined := execute_shows_confined _ line shown
    exact confined

/-- No operation changes the posts. -/
theorem performed_posts (performed : Performed terminal line step) :
    step.terminal.posts = terminal.posts := by
  cases performed with
  | edited input cursor cycle => rfl
  | followed url => rfl
  | ran line input behind cursor cycle executed =>
    rw [← executed]
    exact (execute_framed _ line).posts
  | submitted line executed =>
    rw [← executed]
    exact (execute_framed _ line).posts

end Terminal

variable {σ τ : Type} [Store σ] [Store τ] {element : Clickable}

/-- The terminal has the posts it was given, and all that its screen shows is confined. -/
structure Visit.Confined (posts : List Post) (visit : Visit σ τ) : Prop where
  given : visit.terminal.posts = posts
  blocks : ∀ block ∈ visit.screen.blocks, block.Confined posts

private theorem Visit.start_confined (setup : Terminal.Setup σ τ) :
    (Visit.start setup).Confined setup.posts := by
  refine ⟨rfl, fun block member => ?_⟩
  rcases Screen.mem_blocks member with before | shown
  · exact absurd before List.not_mem_nil
  · exact Terminal.opening_shows_confined _ shown

private theorem Visit.perform_confined {visit : Visit σ τ} (operation : Operation)
    (confined : visit.Confined posts) : (visit.perform operation).Confined posts := by
  have performed := Terminal.perform_performed visit.terminal operation
  refine ⟨(Terminal.performed_posts performed).trans confined.given, fun block member => ?_⟩
  rcases Screen.mem_blocks member with before | shown
  · exact confined.blocks block before
  · rw [← confined.given]
    exact Terminal.performed_shows_confined performed shown

/-- A harmless element that can be clicked is a link into the collection, or leads nowhere and
carries a fixed line. -/
theorem Harmless.clickable {head : Head} (harmless : Harmless posts head)
    (clicked : clickable? head.found = some element) :
    (∃ url, element.href = some url ∧ SiteUrl posts url) ∨
      (element.href = none ∧ element.command ∈ fixedLines) := by
  cases harmless with
  | bare tag =>
    rw [bare_not_clickable] at clicked
    cases clicked
  | styled tag plain =>
    rw [styled_not_clickable tag plain] at clicked
    cases clicked
  | @link url site more =>
    have given : url ≠ [] := by cases site <;> exact List.cons_ne_nil _ _
    exact .inl ⟨url, link_href given clicked, site⟩
  | button plain fixed =>
    rw [button_clickable plain] at clicked
    cases clicked
    exact .inr ⟨rfl, fixed⟩

private theorem Block.Confined.clickable {block : Block} (confined : block.Confined posts)
    (member : element ∈ block.clickables) :
    (∃ url, element.href = some url ∧ SiteUrl posts url) ∨
      (element.href = none ∧ element.command ∈ fixedLines) := by
  cases block with
  | prompt line => exact absurd member List.not_mem_nil
  | output body spaced =>
    rw [clickables, clickables_render] at member
    obtain ⟨head, inside, clicked⟩ := List.mem_filterMap.mp member
    exact (confined_heads.mp confined head inside).clickable clicked

/-- In every reachable state, whatever can be clicked is a link to a page of the collection, which
is where a click leads, or a button with a fixed line, which succeeds. -/
theorem clickables_safe (setup : Terminal.Setup σ τ) (operations : List Operation) :
    let visit := Visit.run setup operations
    ∀ element ∈ visit.screen.clickables,
      (∃ url, element.href = some url ∧ SiteUrl setup.posts url ∧
        (visit.terminal.activate element).dispatch = .navigated url) ∨
      (element.href = none ∧ element.command ∈ fixedLines ∧
        (visit.terminal.activate element).dispatch.Succeeds) := by
  intro visit element member
  have confined : visit.Confined setup.posts :=
    Visit.run_invariant (Visit.start_confined setup)
      (fun _ operation => Visit.perform_confined operation) operations
  obtain ⟨block, shown, inside⟩ := List.mem_flatMap.mp member
  rcases (confined.blocks block shown).clickable inside with ⟨url, leads, site⟩ | ⟨nowhere, fixed⟩
  · refine .inl ⟨url, leads, site, ?_⟩
    simp only [Terminal.activate, leads]
  · refine .inr ⟨nowhere, fixed, ?_⟩
    simp only [Terminal.activate, nowhere]
    exact Terminal.fixed_succeeds visit.terminal fixed

/-- On the page of a post, its listing is such a link. -/
theorem clickables_safe_post :
    let post : Post := ⟨"hello", "Hello", [], "2026-01-02", [], none, []⟩
    let visit := Visit.run ⟨[post], {}, "~/posts/hello", false, (⟨[]⟩ : MemoryStore),
      (⟨[]⟩ : MemoryStore), ⟨⟨⟨1970, 1, 1⟩, 0, 0⟩, 0⟩⟩ [.press (.char 'l'), .press .tab]
    let element : Clickable := ⟨"cat hello", some "/posts/hello"⟩
    element ∈ visit.screen.clickables ∧
      ((∃ url, element.href = some url ∧ SiteUrl [post] url ∧
        (visit.terminal.activate element).dispatch = .navigated url) ∨
      (element.href = none ∧ element.command ∈ fixedLines ∧
        (visit.terminal.activate element).dispatch.Succeeds)) := by
  intro post visit element
  have member : element ∈ visit.screen.clickables := by decide +kernel
  exact ⟨member, clickables_safe _ _ element member⟩

end

/-! ## The written screen

A whole screen is written as one forest, the blocks with line breaks between them, so what is read
back from it is what the blocks hold one after the other: no element begins in one block and ends in
another, and neither the echoed command lines nor the elements around an output add anything to
click.
-/

section

open Markup

/-- An echoed command line has nothing to click, whatever was typed and wherever. -/
theorem PromptLine.node_clicks (prompt : PromptLine) : prompt.node.gather Head.click? = [] := by
  simp (disch := exact unsigned (by decide)) only [node, div_clicks, styled_clicks, span_clicks,
    gather_cons, gather_nil, text_gather, List.append_nil]

/-- The element around an output adds nothing to click. -/
theorem Block.node_clicks (block : Block) : block.node.gather Head.click? = block.clickables := by
  cases block with
  | prompt line => exact line.node_clicks
  | output body spaced =>
    rw [clickables, clickables_gather, node]
    cases spaced with
    | false => exact div_clicks (unsigned (by decide))
    | true => exact div_clicks (unsigned (by decide))

/-- What is read from a block on its own is what can be clicked in it. -/
theorem Block.clickables_written (block : Block) :
    Markup.clickables block.written = block.clickables := by
  have alone : block.written = render [block.node] := (List.append_nil _).symm
  rw [alone, clickables_gather, gather_cons, block.node_clicks, gather_nil, List.append_nil]

/-- A screen is written as one forest. -/
theorem Screen.written_render (screen : Screen) :
    screen.written = render (joinLines (screen.blocks.map Block.node)) := by
  rw [render_joinLines, List.map_map]
  rfl

/-- What is read from a whole screen is what its blocks hold. -/
theorem Screen.clickables_written (screen : Screen) :
    Markup.clickables screen.written = screen.clickables := by
  rw [screen.written_render, clickables_gather, gather_joinLines, gather_map, clickables]
  exact congrArg (screen.blocks.flatMap ·) (funext Block.node_clicks)

/-- In every reachable state the elements that are read from the whole page are those that the
blocks hold, in order, and so are those that are read from a block with the markup around it. -/
theorem page_clickables {σ τ : Type} [Store σ] [Store τ] (setup : Terminal.Setup σ τ)
    (actions : List Action) :
    let screen := (Browsing.run setup actions).visit.screen
    Markup.clickables screen.written = screen.clickables ∧
      ∀ block ∈ screen.blocks, Markup.clickables block.written = block.clickables :=
  ⟨Screen.clickables_written _, fun block _ => block.clickables_written⟩

end

end BlogTerminal
