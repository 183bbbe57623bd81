import BlogTerminal.Command.Context
import BlogTerminal.Json
import BlogTerminal.Markup.Basic

/-!
Commands about the session itself: what was typed, what can be typed, how the terminal looks, and
who and where its user is.
-/

namespace BlogTerminal

/-! ## History

The history holds the lines that were submitted, oldest first. Its last lines are kept as JSON from
one page to the next, and fewer of them are listed.
-/

namespace History

open Markup

/-! ### Keeping -/

/-- The number of lines that are kept. -/
def keptLimit : Nat := 50

/-- The last lines of a history, as many as are kept. -/
def kept (history : List Text) : List Text := history.drop (history.length - keptLimit)

/-- The written form of a history. -/
def toText (history : List Text) : Text := Json.writeArray (kept history)

/-- The history that a text is the written form of. -/
def ofText? (text : Text) : Option (List Text) := (Json.Value.ofText? text).bind Json.Value.texts?

/-! ### Listing -/

/-- The number of lines that are listed. -/
def shownLimit : Nat := 20

/-- The hint that there is nothing to list. -/
def nothing : List Node := [hintLine "No commands in history"]

/-- A line with its number. -/
def entry (number : Nat) (line : Text) : Node :=
  row [span "text-term-fg-dark" ((Text.ofNat number).leftpad 4 ' '), .text "  ",
    span "text-term-fg" line]

/-- The last lines of a history, numbered from its start. -/
def listing (history : List Text) : List Node :=
  if history.isEmpty then nothing
  else
    let hidden := history.length - shownLimit
    let entries := (history.drop hidden).mapIdx fun index line => entry (hidden + index + 1) line
    [div "space-y-1" (onNewLines entries ++ [newline])]

end History

/-! ## Help

Help is an overview of all commands of the registry, or the details of one.
-/

namespace Manual

open Markup

variable {α : Type}

/-- The aliases of a command with commas between them. -/
def aliasList (command : Command α) : Text := ", ".toList.intercalate command.aliases

/-- The line of a command in the overview. -/
def entry (command : Command α) : Node :=
  let aliases : List Node :=
    if command.aliases.isEmpty then []
    else [.text [' '], span "text-term-fg-dark text-xs" ("(" ++ aliasList command ++ ")")]
  div "grid grid-cols-[120px_1fr] gap-2"
    [span "text-term-green" (command.usage.getD command.name),
     styled .span "text-term-fg-dark" (.text command.description :: aliases)]

/-- A tip on the use of a key or a command. -/
def tip (key purpose : Text) : Node :=
  row [.text "• Use ", span "text-term-yellow" key, .text (" " ++ purpose)]

/-- The tips below the overview. -/
def tips : Node :=
  div "text-term-fg-dark text-sm mt-4"
    (newline :: joinLines
      [row [.text "Tips:"],
       tip "help <command>" "for detailed help on a specific command",
       tip "Tab" "for auto-completion",
       tip "↑/↓" "to navigate command history",
       tip "Ctrl+L" "to clear screen",
       row [.text "• Click on any file/directory to interact with it"]] ++ [newline])

/-- All commands by name. -/
def overview (registry : Registry α) : List Node :=
  [div "space-y-4" (newline :: joinLines
    [div "text-term-cyan font-medium" [.text "Available Commands:"],
     div "space-y-2 text-sm" (newline :: joinLines (registry.list.map entry) ++ [newline]),
     tips] ++ [newline])]

/-- A labelled fact about a command. -/
def fact (label classes content : Text) : Node :=
  row [span "text-term-fg-dark" label, .text [' '], span classes content]

/-- All about one command. -/
def details (command : Command α) : List Node :=
  let usage := match command.usage with
    | some usage => [fact "Usage:" "text-term-green" usage]
    | none => []
  let aliases :=
    if command.aliases.isEmpty then []
    else [fact "Aliases:" "text-term-yellow" (aliasList command)]
  [div "space-y-2" (onNewLines
    (row [span "text-term-cyan font-medium" command.name, .text (" — " ++ command.description)] ::
      usage ++ aliases) ++ [newline])]

/-- The answer about the command called `name`, which is in lowercase. -/
def about (registry : Registry α) (name : Text) : Result :=
  match registry.get? name with
  | some command => { body := details command }
  | none =>
    .failed [errorLine ("help: no help for '" ++ name ++ "'"), newline,
      hintLine "Type 'help' for available commands."]

/-- The `help` command. -/
def execute (context : Context α) : Result :=
  match context.arguments with
  | [] => { body := overview context.registry }
  | name :: _ => about context.registry name.lower

/-- The candidates for an argument. -/
def complete (context : Context α) (typed : Text) : List Text := context.registry.completions typed

end Manual

/-! ## Appearance

A theme is chosen, or the active one is shown together with the themes to choose from.
-/

namespace Appearance

open Markup

variable {α : Type}

/-- The active theme and the themes to choose from. -/
def current (name : Text) : List Node :=
  let choices := Theme.all.map fun theme =>
    button "text-term-green cursor-pointer hover:underline" ("theme " ++ theme.name) theme.name
  [div "text-term-fg"
    [newline, .text "  ", row [.text "Current theme: ", span "text-term-yellow" name],
     newline, .text "  ", div "mt-2" [.text "Available themes:"],
     newline, .text "  ",
     div "flex flex-wrap gap-2 mt-1" (joinSpaced choices), newline]]

/-- The answer that takes a theme. -/
def switchTo (theme : Theme) : Result where
  body := [styled .span "text-term-green" [.prose ("Theme switched to '" ++ theme.name ++ "'")]]
  theme := some theme

/-- The answer for a name that no theme has. -/
def unknown (name : Text) : Result :=
  .failed
    [errorLine ("Theme '" ++ name ++ "' not found."), newline,
     div "text-term-fg-dark mt-1"
       [.text ("Available themes: " ++ ", ".toList.intercalate (Theme.all.map Theme.name))]]

/-- The `theme` command. -/
def execute (context : Context α) : Result :=
  match context.arguments with
  | [] => { body := current context.themeName }
  | typed :: _ =>
    match Theme.ofName? typed with
    | some theme => switchTo theme
    | none => unknown (Theme.wanted typed)

end Appearance

/-! ## Identity

Commands that show who and where the user is.
-/

namespace Identity

open Markup

variable {α : Type}

/-- The user and the host, the user in the given colour. -/
def userAtHost (profile : Profile) (classes : Text) : List Node :=
  [span classes profile.user, .text ['@'], span "text-term-purple" profile.host]

/-- The working directory of the context. -/
def workingDirectory (context : Context α) : Text :=
  context.profile.workingDirectory context.path

/-- The `pwd` command. -/
def pwd (context : Context α) : Result :=
  { body := [span "text-term-blue" (workingDirectory context)] }

/-- The `whoami` command. -/
def whoami (context : Context α) : Result :=
  { body := userAtHost context.profile "text-term-green" }

/-- What `echo` prints for its arguments. The name of a variable is replaced by its value when there
is nothing beside it. -/
def echoed (context : Context α) : Node :=
  let text := context.joinedArguments
  if text = "$USER" ∨ text = "$user" then span "text-term-green" context.profile.user
  else if text = "$PWD" ∨ text = "$pwd" then span "text-term-blue" (workingDirectory context)
  else if text = "$HOME" ∨ text = "$home" then span "text-term-blue" context.profile.home
  else if text = "$SHELL" ∨ text = "$shell" then span "text-term-fg" context.profile.shell
  else span "text-term-fg" text

/-- The `echo` command. -/
def echo (context : Context α) : Result := { body := [echoed context] }

/-- The `date` command. -/
def date (context : Context α) : Result :=
  { body := [span "text-term-yellow" context.clock.toText] }

/-- The picture beside the facts of the system. -/
def logo : Text :=
  "   ___       __\n  / _ \\___ _/ /\n / , _/ _ `/ /\n/_/|_|\\_,_/_/"

/-- A fact of the system. -/
def fact (label value : Text) : Node :=
  row [span "text-term-green" (label ++ ":"), .text [' '], span "text-term-fg" value]

/-- The facts of the system. -/
def facts (context : Context α) : List Node :=
  [fact "OS" "Blog Shell",
   fact "Host" context.profile.site,
   fact "Shell" context.profile.shell,
   fact "Theme" context.themeName,
   fact "Posts" (Text.ofNat context.posts.length),
   fact "Series" (Text.ofNat (Post.seriesNames context.posts).length),
   fact "Tags" (Text.ofNat (Post.allTags context.posts).length)]

/-- The `neofetch` command. -/
def neofetch (context : Context α) : Result :=
  let picture := styled .pre "text-term-cyan text-xs leading-tight" [.text logo]
  let table := div "text-sm space-y-1"
    (onNewLines
      (row (userAtHost context.profile "text-term-cyan") ::
        div "text-term-fg-dark" [.text "-----------"] :: facts context) ++ [newline])
  { body := [div "flex gap-6 items-start flex-wrap" (onNewLines [picture, table] ++ [newline])] }

end Identity

end BlogTerminal
