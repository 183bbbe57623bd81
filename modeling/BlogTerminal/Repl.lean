import BlogTerminal.Command.Context
import BlogTerminal.Post
import BlogTerminal.Store
import BlogTerminal.Terminal.Run

/-!
The terminal on a line-oriented screen. Output is printed as plain text, and a page transition opens
a new terminal on the same stores. A line that starts with an exclamation mark speaks of the
clickable elements of the last output that had any: alone it lists them, and with a number it clicks
one of them.
-/

namespace BlogTerminal

/-! ## The environment

Variables say who the user is, and where the preferences are kept.
-/

/-- The variables of the program's environment; an unset variable is none. -/
structure Environment where
  user : Option Text := none
  host : Option Text := none
  /-- The directory of the preferences. -/
  stateDirectory : Option Text := none
  /-- The directory of the state of all programs. -/
  sharedStateDirectory : Option Text := none
  home : Option Text := none

namespace Environment

/-- The identity that is shown. -/
def profile (environment : Environment) : Profile :=
  let named : Profile := match environment.user with
    | some user => { user, home := "/home/" ++ user, blogDirectory := "/home/" ++ user ++ "/blog" }
    | none => {}
  { named with host := environment.host.getD named.host }

/-- The path of the directory of the preferences. -/
def preferencesPlace (environment : Environment) : Text :=
  match environment.stateDirectory, environment.sharedStateDirectory, environment.home with
  | some place, _, _ => place
  | none, some place, _ => Directory.inside place "blog-shell"
  | none, none, some home =>
    Directory.inside (Directory.inside home ".local/state") "blog-shell"
  | none, none, none => "blog-shell"

/-- The store of the preferences, when `directory` is what lies at its place. -/
def preferences (environment : Environment) (directory : Directory) : FileStore :=
  ⟨environment.preferencesPlace, "preferences.json", directory⟩

end Environment

/-! ## Lines -/

/-- The state between two lines of input. -/
structure Repl where
  terminal : Terminal MemoryStore FileStore
  /-- The clickable elements of the last output that had any. -/
  clickables : List Markup.Clickable
  /-- The URLs of the pages that were visited, the current one first. -/
  pages : List Text

namespace Repl

/-- The prompt path of the page at a URL; a URL outside the blog shows the root. -/
def pagePath (url : Text) : Text := ((Page.ofUrl? url).map Page.promptPath).getD "~"

/-- The text that is printed for an event. The command lines are not printed, since they have been
typed on the screen already. -/
def printed : Event → Text
  | .append (.output body spaced) => (Block.output body spaced).plain ++ "\n"
  | .clear => "\x1b[2J\x1b[H\n"
  | _ => []

/-- The clickable elements behind an event. -/
def clickablesAfter (clickables : List Markup.Clickable) : Event → List Markup.Clickable
  | .append block => if block.clickables.isEmpty then clickables else block.clickables
  | .clear => []
  | _ => clickables

/-- The state behind a list of events, and what is printed for them. -/
def present (repl : Repl) (events : List Event) : Repl × Text :=
  ({ repl with clickables := events.foldl clickablesAfter repl.clickables },
    events.flatMap printed)

/-- Opens a terminal on the current page, with the stores of the terminal before. -/
def openPage (repl : Repl) : Repl × Text :=
  let before := repl.terminal
  let terminal := Terminal.start
    { posts := before.posts, profile := before.profile,
      path := pagePath (repl.pages.head?.getD "/"), skipListing := false,
      session := before.session, preferences := before.preferences, clock := before.clock }
  { repl with terminal }.present (terminal.openingEvents false)

/-- The state at the start, and what is printed then. -/
def start (posts : List Post) (environment : Environment) (directory : Directory)
    (clock : Clock) : Repl × Text :=
  let terminal := Terminal.start
    { posts, profile := environment.profile, path := pagePath "/", skipListing := false,
      session := (⟨[]⟩ : MemoryStore), preferences := environment.preferences directory, clock }
  (⟨terminal, [], ["/"]⟩ : Repl).present (terminal.openingEvents false)

/-- The prompt before a line of input. -/
def prompt (repl : Repl) : Text :=
  let profile := repl.terminal.profile
  profile.user ++ "@" ++ profile.host ++ " " ++ repl.terminal.path ++ " (main) $ "

/-- The line of a clickable element in the list of them. -/
def clickableLine (index : Nat) (element : Markup.Clickable) : Text :=
  "  [" ++ Text.ofNat (index + 1) ++ "] " ++ element.command

/-- The list of the clickable elements. -/
def clickableList (repl : Repl) : Text :=
  ['\n'].intercalate (repl.clickables.mapIdx clickableLine)

/-- The number that a typed choice spells, in 64 bits; a plus sign may stand before it. -/
def choice? (typed : Text) : Option Nat :=
  (Text.toNat? (typed.dropStart "+")).filter (· < Nat.pow 2 64)

/-- The clickable element that a typed choice means; they are counted from one. -/
def chosen? (repl : Repl) (typed : Text) : Option Markup.Clickable :=
  match choice? typed with
  | some (index + 1) => repl.clickables[index]?
  | _ => none

/-- The pages behind a dispatch. The first page cannot be left backwards. -/
def pagesAfter (pages : List Text) : Dispatch → List Text
  | .navigated url => url :: pages
  | .wentBack => if pages.length > 1 then pages.tail else pages
  | _ => pages

/-- The dispatch leads to another page. -/
def leaves : Dispatch → Bool
  | .navigated _ | .wentBack => true
  | _ => false

/-- The state behind a step of the terminal, and what is printed for it. -/
def follow (repl : Repl) (step : Step MemoryStore FileStore) : Repl × Text :=
  let (shown, output) := { repl with terminal := step.terminal }.present step.events
  if leaves step.dispatch then
    let (next, opening) :=
      { shown with pages := pagesAfter shown.pages step.dispatch }.openPage
    (next, output ++ opening)
  else (shown, output)

/-- The state behind a line of input without blanks around it, and what is printed for it. -/
def enter (repl : Repl) (line : Text) : Repl × Text :=
  match line with
  | ['!'] => (repl, repl.clickableList ++ "\n")
  | '!' :: typed =>
    match repl.chosen? typed with
    | some element => repl.follow (repl.terminal.activate element)
    | none => (repl, line ++ ": no such link\n")
  | line => repl.follow (repl.terminal.setInput line).submit

/-- The state behind a list of lines, and all that is printed up to the next prompt. -/
def enterAll (repl : Repl) : List Text → Repl × Text
  | [] => (repl, repl.prompt)
  | line :: rest =>
    let (next, output) := repl.enter line.trim
    let (last, later) := next.enterAll rest
    (last, repl.prompt ++ output ++ later)

/-- The lines of a text. The end of the text ends its last line, unless that is empty. -/
def linesOf (input : Text) : List Text :=
  let lines := input.splitOn '\n'
  if lines.getLast? = some [] then lines.dropLast else lines

/-- What a run of the program leaves behind. -/
structure Ending where
  output : Text
  /-- The program ended without an error. -/
  success : Bool
  /-- The directory of the preferences. -/
  directory : Directory

/-- A run of the program on the content of the posts' file, if there is one, and an input. -/
def run (posts : Option Text) (environment : Environment) (directory : Directory)
    (clock : Clock) (input : Text) : Ending :=
  match posts.map Post.collectionOfText with
  | some (.ok posts) =>
    let (repl, opening) := start posts environment directory clock
    let (last, output) := repl.enterAll (linesOf input)
    ⟨opening ++ output, true, last.terminal.preferences.directory⟩
  | _ => ⟨[], false, directory⟩

end Repl

end BlogTerminal
