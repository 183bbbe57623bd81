import BlogTerminal.Command.Builtin
import BlogTerminal.Markup.Basic
import BlogTerminal.Markup.Reading
import BlogTerminal.Store

/-!
The state of a terminal on a page, and what its operations answer. A terminal shows nothing itself:
each operation answers the new state together with the events for the screen that it is on. What
outlives the page is kept in two stores, the session store and the preferences. A call of a store
that fails is only logged, and logging is no part of what is modelled here.
-/

namespace BlogTerminal

/-! ## Blocks

A terminal shows the command lines that were run, and their output.
-/

/-- A command line as it is shown above its output. -/
structure PromptLine where
  user : Text
  host : Text
  /-- The prompt path at which the command was run. -/
  path : Text
  line : Text
  deriving DecidableEq

namespace PromptLine

open Markup

/-- The command line as markup. -/
def node (prompt : PromptLine) : Node :=
  div "term-history-entry mb-1"
    [styled .span "term-prompt"
      [span "text-term-green" prompt.user, span "text-term-fg-dark" "@",
       span "text-term-purple" prompt.host, .text [' '], span "text-term-blue ml-1" prompt.path,
       .text [' '], span "text-term-cyan ml-1" "(main)", .text [' '], span "text-term-fg ml-1" "$"],
     .text [' '], span "text-term-green ml-2" prompt.line]

/-- The command line as plain text. -/
def plain (prompt : PromptLine) : Text :=
  prompt.user ++ "@" ++ prompt.host ++ " " ++ prompt.path ++ " (main) $ " ++ prompt.line

end PromptLine

/-- A unit of what the terminal shows. -/
inductive Block where
  | prompt (line : PromptLine)
  /-- The output of a command; the listing of a new page is set tighter. -/
  | output (body : List Markup.Node) (spaced : Bool)

namespace Block

open Markup

/-- The block as markup. -/
def node : Block → Node
  | prompt line => line.node
  | output body spaced => div (if spaced then "term-output mb-2" else "term-output mb-1") body

/-- The written form of the block. -/
def written (block : Block) : Text := block.node.render

/-- The block as plain text. -/
def plain : Block → Text
  | prompt line => line.plain
  | output body _ => Markup.plain (render body)

/-- The clickable elements of the block. -/
def clickables : Block → List Clickable
  | prompt _ => []
  | output body _ => Markup.clickables (render body)

end Block

/-! ## The state -/

/-- What a terminal asks of its screen. -/
inductive Event where
  /-- Show a block below the others. -/
  | append (block : Block)
  /-- Take all blocks away. -/
  | clear
  /-- Go to another page. -/
  | navigate (url : Text)
  /-- Go back to the page before. -/
  | goBack
  /-- Scroll to the last block. -/
  | scroll
  /-- Take a theme, or the default look. -/
  | applyTheme (theme : Option Text)

/-- How an operation was dealt with. -/
inductive Dispatch where
  /-- Nothing was run. -/
  | ignored
  | wentBack
  | navigated (url : Text)
  | cleared
  | displayed (error : Bool)
  deriving DecidableEq

/-- The candidates that the Tab key goes through. -/
structure Cycle where
  candidates : List Text
  /-- The position of the candidate in the input line. -/
  index : Nat
  deriving DecidableEq

/-- The candidate in the input line. -/
def Cycle.current? (cycle : Cycle) : Option Text := cycle.candidates[cycle.index]?

/-- A terminal on a page, with a session store of type `σ` and preferences of type `τ`. -/
structure Terminal (σ τ : Type) where
  posts : List Post
  profile : Profile
  /-- The prompt path of the page. -/
  path : Text
  /-- The lines that were submitted, oldest first. -/
  history : List Text
  /-- The position in the history that was recalled last. -/
  cursor : Option Nat
  input : Text
  cycle : Option Cycle
  theme : Theme
  session : σ
  preferences : τ
  clock : Clock

/-- The answer of an operation. -/
structure Step (σ τ : Type) where
  terminal : Terminal σ τ
  dispatch : Dispatch
  events : List Event

namespace Terminal

/-- The key under which the session store keeps the history. -/
def historyKey : Text := "terminal-history"

/-- The key under which the preferences keep the theme; the default theme is not kept. -/
def themeKey : Text := "terminal-theme"

variable {σ τ : Type}

/-- What commands see of the terminal. -/
def context (terminal : Terminal σ τ) : Context Builtin where
  registry := Builtin.registry
  posts := terminal.posts
  path := terminal.path
  profile := terminal.profile
  theme := terminal.theme.attribute?
  clock := terminal.clock

/-- The block that lists the page. -/
def listing (terminal : Terminal σ τ) : Block :=
  .output (Listing.execute terminal.context).body false

/-- The block that shows a command line. -/
def echo (terminal : Terminal σ τ) (line : Text) : Block :=
  .prompt ⟨terminal.profile.user, terminal.profile.host, terminal.path, line⟩

/-- The history that is kept in a session store; one that cannot be read is none. -/
def storedHistory [Store σ] (session : σ) : List Text :=
  match Store.get session historyKey with
  | .ok (some text) => (History.ofText? text).getD []
  | _ => []

/-- The theme that is kept in the preferences; one that cannot be read is the default. -/
def storedTheme [Store τ] (preferences : τ) : Theme :=
  match Store.get preferences themeKey with
  | .ok (some name) => (Theme.ofName? name).getD .default
  | _ => .default

/-- The terminal with its history in the session store. -/
def saveHistory [Store σ] (terminal : Terminal σ τ) : Terminal σ τ :=
  { terminal with
    session := (Store.set terminal.session historyKey (History.toText terminal.history)).store }

/-- The terminal with a theme, which is also in the preferences. -/
def setTheme [Store τ] (terminal : Terminal σ τ) (theme : Theme) : Terminal σ τ :=
  let saved := match theme.attribute? with
    | some name => Store.set terminal.preferences themeKey name
    | none => Store.remove terminal.preferences themeKey
  { terminal with theme, preferences := saved.store }

/-- What a terminal starts from. -/
structure Setup (σ τ : Type) where
  posts : List Post
  profile : Profile
  /-- The path of the page. -/
  path : Text
  /-- The page lists itself, so the terminal need not. -/
  skipListing : Bool
  session : σ
  preferences : τ
  clock : Clock

/-- The terminal on a new page. The history and the theme are restored from the stores. -/
def start [Store σ] [Store τ] (setup : Setup σ τ) : Terminal σ τ where
  posts := setup.posts
  profile := setup.profile
  path := Path.prompt setup.path
  history := storedHistory setup.session
  cursor := none
  input := []
  cycle := none
  theme := storedTheme setup.preferences
  session := setup.session
  preferences := setup.preferences
  clock := setup.clock

/-- The events of a terminal on a new page. -/
def openingEvents (terminal : Terminal σ τ) (skipListing : Bool) : List Event :=
  (match terminal.theme.attribute? with
    | some name => [.applyTheme (some name)]
    | none => []) ++
  if skipListing then [] else [.append terminal.listing]

end Terminal

/-! ## Screens

A screen that keeps everything a terminal asks of it.
-/

/-- What a screen shows and what it has been asked for. -/
structure Screen where
  blocks : List Block := []
  /-- The URLs to which the terminal went, oldest first. -/
  navigations : List Text := []
  /-- How often the terminal went back. -/
  backRequests : Nat := 0
  theme : Option Text := none
  /-- How often the terminal scrolled. -/
  scrolls : Nat := 0

namespace Screen

/-- The screen after an event. -/
def apply (screen : Screen) : Event → Screen
  | .append block => { screen with blocks := screen.blocks ++ [block] }
  | .clear => { screen with blocks := [] }
  | .navigate url => { screen with navigations := screen.navigations ++ [url] }
  | .goBack => { screen with backRequests := screen.backRequests + 1 }
  | .scroll => { screen with scrolls := screen.scrolls + 1 }
  | .applyTheme theme => { screen with theme }

/-- The screen after a list of events. -/
def applyAll (screen : Screen) (events : List Event) : Screen := events.foldl apply screen

/-- The written form of all blocks, with line feeds between them. -/
def written (screen : Screen) : Text := ['\n'].intercalate (screen.blocks.map Block.written)

/-- The clickable elements of all blocks, in order. -/
def clickables (screen : Screen) : List Markup.Clickable :=
  screen.blocks.flatMap Block.clickables

end Screen

end BlogTerminal
