import BlogTerminal.Command.Directory
import BlogTerminal.Command.Posts
import BlogTerminal.Command.Session
import BlogTerminal.Command.TreeView

/-!
The commands of the terminal: their names, what they do, and how they complete their arguments.
-/

namespace BlogTerminal

/-- A command of the terminal. -/
inductive Builtin where
  | ls
  | cd
  | cat
  | grep
  | tree
  | find
  | help
  | theme
  | history
  | pwd
  | whoami
  | date
  | echo
  | clear
  | exit
  | superuser
  | rm
  | editor
  | neofetch
  deriving DecidableEq

namespace Builtin

open Markup

/-- All commands, in order of registration. -/
def all : List Builtin :=
  [ls, cd, cat, grep, tree, find, help, theme, history, pwd, whoami, date, echo, clear, exit,
   superuser, rm, editor, neofetch]

/-- The entry of a command in the registry. -/
def command (builtin : Builtin) : Command Builtin :=
  match builtin with
  | ls => ⟨"ls", [], "List directory contents", some "ls [-la] [path]", builtin⟩
  | cd => ⟨"cd", [], "Navigate to a post or section", some "cd <path>", builtin⟩
  | cat => ⟨"cat", [], "Preview a post's content", some "cat <file>", builtin⟩
  | grep =>
    ⟨"grep", [], "Search posts by title, description, or tags", some "grep [-i] <pattern>", builtin⟩
  | tree => ⟨"tree", [], "Show directory tree structure", some "tree [path]", builtin⟩
  | find => ⟨"find", [], "Find posts matching pattern", some "find <pattern>", builtin⟩
  | help => ⟨"help", ["man", "?"], "Show this help message", some "help [command]", builtin⟩
  | theme => ⟨"theme", [], "Switch terminal theme", some "theme [name]", builtin⟩
  | history => ⟨"history", [], "Show command history", none, builtin⟩
  | pwd => ⟨"pwd", [], "Print current directory", none, builtin⟩
  | whoami => ⟨"whoami", [], "Display current user", none, builtin⟩
  | date => ⟨"date", [], "Show current date and time", none, builtin⟩
  | echo => ⟨"echo", [], "Print text to terminal", some "echo <text>", builtin⟩
  | clear => ⟨"clear", [], "Clear the terminal", none, builtin⟩
  | exit => ⟨"exit", ["logout"], "Exit the terminal", none, builtin⟩
  | superuser => ⟨"sudo", [], "Run command as superuser", none, builtin⟩
  | rm => ⟨"rm", [], "Remove files", none, builtin⟩
  | editor => ⟨"vim", ["nano", "vi"], "Text editor", none, builtin⟩
  | neofetch => ⟨"neofetch", [], "Display system info", none, builtin⟩

/-- The registry of all commands. -/
def registry : Registry Builtin := .ofList (all.map command)

variable {α : Type}

/-- What a command answers in a context. -/
def execute (builtin : Builtin) (context : Context α) : Result :=
  match builtin with
  | ls => Listing.execute context
  | cd => Navigation.execute context
  | cat => Preview.execute context
  | grep => Grep.execute context
  | tree => TreeView.execute context
  | find => Find.execute context
  | help => Manual.execute context
  | theme => Appearance.execute context
  | history => { body := History.nothing }
  | pwd => Identity.pwd context
  | whoami => Identity.whoami context
  | date => Identity.date context
  | echo => Identity.echo context
  | clear => { clear := true }
  | exit => { body := [hintLine "Nice try! Refresh the page to start over."] }
  | superuser => .failure "Permission denied. Nice try though!"
  | rm => .failure "rm: cannot remove: Read-only file system"
  | editor => { body := [hintLine "Editor not available. Try reading with `cat` instead!"] }
  | neofetch => Identity.neofetch context

/-- The command has a completion of its own. -/
def completes : Builtin → Bool
  | ls | cd | cat | help => true
  | _ => false

/-- The candidates of a command that has a completion of its own. -/
def complete? (builtin : Builtin) (context : Context α) (typed : Text) : Option (List Text) :=
  match builtin with
  | ls => some (Listing.complete context typed)
  | cd => some (Navigation.complete context typed)
  | cat => some (Preview.complete context typed)
  | help => some (Manual.complete context typed)
  | _ => none

/-- How the commands without a completion of their own complete a path. -/
def paths : PathCompletion := ⟨["posts", "series", "tags"], false⟩

/-- The candidates for an argument, also of commands without a completion of their own. -/
def candidates (builtin : Builtin) (context : Context α) (typed : Text) : List Text :=
  match builtin.complete? context typed, builtin with
  | some candidates, _ => candidates
  | none, theme => Theme.completions typed
  | none, tree | none, find => paths.candidates context.posts context.path typed
  | none, grep =>
    if typed.isEmpty || CommandLine.isFlag typed then []
    else Completion.posts context.posts typed
  | none, _ => []

end Builtin

end BlogTerminal
