import BlogTerminal.Markup.Basic
import BlogTerminal.Path
import BlogTerminal.Post
import BlogTerminal.Text.Basic
import BlogTerminal.Text.Lowercase

/-!
What a command is given and what it answers. Commands change nothing themselves: they answer output
together with the changes that they ask for.
-/

namespace BlogTerminal

/-! ## Command lines

A line of input is a list of words, and the words make a call: the name of a command, its arguments
and its flags. Quotes of either kind keep blanks inside a word.
-/

namespace CommandLine

/-- A word in front of other words; a word with nothing in it is no word. -/
def addWord (word : Text) (words : List Text) : List Text :=
  if word.isEmpty then words else word :: words

/-- The rest of the word that is being read, and the words behind it; `quote` is the open quote, if
there is one. A quote that is never closed runs to the end of the line. -/
def split : (quote : Option Char) → (line : Text) → Text × List Text
  | _, [] => ([], [])
  | none, c :: rest =>
    if c = '"' ∨ c = '\'' then split (some c) rest
    else
      let (word, words) := split none rest
      if Text.isBlank c then ([], addWord word words) else (c :: word, words)
  | some quote, c :: rest =>
    if c = quote then split none rest
    else
      let (word, words) := split (some quote) rest
      (c :: word, words)

/-- The words of a line, without the quotes around them. -/
def words (line : Text) : List Text :=
  let (word, words) := split none line
  addWord word words

/-- The word is a flag. -/
def isFlag (word : Text) : Bool := "-".toList <+: word

/-- Some flag holds the letter `switch` behind its dashes. -/
def hasSwitch (flags : List Text) (switch : Char) : Bool :=
  flags.any fun flag => (flag.dropWhile (· == '-')).contains switch

end CommandLine

/-- A command line taken apart. -/
structure Call where
  /-- The first word, in lowercase. -/
  name : Text
  /-- The other words that are no flags, in order. -/
  arguments : List Text
  /-- The words that start with a dash, as typed. -/
  flags : List Text
  deriving DecidableEq

/-- The call that a line makes; a blank line calls the command with the empty name. -/
def Call.ofLine (line : Text) : Call :=
  match CommandLine.words line with
  | [] => ⟨[], [], []⟩
  | first :: rest =>
    ⟨first.lower, rest.filter (!CommandLine.isFlag ·), rest.filter CommandLine.isFlag⟩

/-! ## Themes -/

/-- A colour theme. -/
inductive Theme where
  | default
  | ubuntu
  | dracula
  | matrix
  deriving DecidableEq

namespace Theme

/-- All themes in listing order. -/
def all : List Theme := [default, ubuntu, dracula, matrix]

/-- The name of a theme. -/
def name : Theme → Text
  | default => "default"
  | ubuntu => "ubuntu"
  | dracula => "dracula"
  | matrix => "matrix"

/-- What a screen is told to look like; the default theme is no theme. -/
def attribute? : Theme → Option Text
  | default => none
  | theme => some theme.name

/-- The form in which a typed name is compared. -/
def wanted (text : Text) : Text := text.trim.lower

/-- The theme with a name, in any case and with blanks around it. -/
def ofName? (text : Text) : Option Theme := all.find? fun theme => theme.name = wanted text

/-- The names that begin with a typed text, in any case. -/
def completions (typed : Text) : List Text := (all.map name).filter (typed.lower <+: ·)

end Theme

/-! ## The profile

Who the terminal says its user is.
-/

/-- Who the terminal says is logged in, and where. -/
structure Profile where
  user : Text := "gal"
  host : Text := "blog"
  /-- The home directory. -/
  home : Text := "/home/gal"
  /-- The directory in which the blog lies. -/
  blogDirectory : Text := "/home/gal/blog"
  shell : Text := "bash"
  site : Text := "gal.sh"
  deriving DecidableEq

/-- The absolute directory of a prompt path. -/
def Profile.workingDirectory (profile : Profile) (path : Text) : Text :=
  let dir := Path.directory path
  if dir.isEmpty then profile.blogDirectory else profile.blogDirectory ++ "/" ++ dir

/-! ## The registry

A command is found by its name or by one of its aliases, in any case; a name goes before an alias.
Registering a name again replaces the command, while its aliases stay.
-/

/-- A named command. What it does is told by its action. -/
structure Command (α : Type) where
  name : Text
  aliases : List Text
  description : Text
  /-- How the command is typed, where that is more than its name. -/
  usage : Option Text
  action : α
  deriving DecidableEq

/-- A set of commands. -/
structure Registry (α : Type) where
  /-- The commands by lowercase name. -/
  commands : Table (Command α)
  /-- The lowercase name of a command by lowercase alias. -/
  aliases : Table Text

namespace Registry

variable {α : Type}

/-- The set of no commands. -/
def empty : Registry α := ⟨[], []⟩

/-- The set with a command added. -/
def register (registry : Registry α) (command : Command α) : Registry α :=
  let name := command.name.lower
  ⟨registry.commands.insert name command,
    command.aliases.foldl (fun aliases spelling => aliases.insert spelling.lower name)
      registry.aliases⟩

/-- The set of the commands of a list, registered in order. -/
def ofList (commands : List (Command α)) : Registry α := commands.foldl register empty

/-- The command with a name or an alias. -/
def get? (registry : Registry α) (name : Text) : Option (Command α) :=
  registry.commands.get? name.lower <|>
    (registry.aliases.get? name.lower).bind registry.commands.get?

/-- Some command has the name or alias. -/
def contains (registry : Registry α) (name : Text) : Bool := (registry.get? name).isSome

/-- The commands in ascending order of their names. -/
def list (registry : Registry α) : List (Command α) :=
  (registry.commands.map (·.2)).mergeSort fun a b => !decide (b.name < a.name)

/-- All names and aliases in ascending order. -/
def names (registry : Registry α) : List Text :=
  Text.sortedSet (registry.commands.names ++ registry.aliases.names)

/-- The names and aliases that begin with a typed text, in any case. -/
def completions (registry : Registry α) (typed : Text) : List Text :=
  registry.names.filter (typed.lower <+: ·)

end Registry

/-! ## Contexts and answers -/

/-- What a command sees of the terminal. -/
structure Context (α : Type) where
  registry : Registry α
  posts : List Post
  /-- The current prompt path. -/
  path : Text
  arguments : List Text := []
  flags : List Text := []
  profile : Profile := {}
  /-- The active theme; there is none for the default look. -/
  theme : Option Text := none
  clock : Clock := ⟨⟨⟨1970, 1, 1⟩, 0, 0⟩, 0⟩

namespace Context

variable {α : Type}

/-- The context with the arguments and flags of a call. -/
def withCall (context : Context α) (call : Call) : Context α :=
  { context with arguments := call.arguments, flags := call.flags }

/-- The arguments with one space between them. -/
def joinedArguments (context : Context α) : Text := [' '].intercalate context.arguments

/-- The name of the active theme. -/
def themeName (context : Context α) : Text := context.theme.getD Theme.default.name

end Context

/-- The answer of a command. -/
structure Result where
  /-- The output. -/
  body : List Markup.Node := []
  /-- The prompt path to take. -/
  path : Option Text := none
  /-- The URL to go to. -/
  navigate : Option Text := none
  /-- Go back to the page before. -/
  goBack : Bool := false
  /-- Wipe the screen. -/
  clear : Bool := false
  /-- The command failed. -/
  error : Bool := false
  /-- The theme to take. -/
  theme : Option Theme := none

namespace Result

/-- The answer of a command that failed. -/
def failed (body : List Markup.Node) : Result := { body, error := true }

/-- The answer of a command that failed, with the cause. -/
def failure (message : Text) : Result := failed [Markup.errorLine message]

end Result

/-! ## Completion of paths

What is offered depends on the directory that the typed text names, or on the current directory when
it names none.
-/

namespace Completion

/-- The candidate begins with what was typed, in any case. -/
def continues (typed candidate : Text) : Bool := typed.lower <+: candidate.lower

/-- The slugs of posts that continue what was typed, in ascending order. -/
def posts (collection : List Post) (typed : Text) : List Text :=
  Text.sorted ((collection.map (·.slug)).filter (continues typed))

/-- The distinct slugs of series that continue what was typed, in ascending order. -/
def series (collection : List Post) (typed : Text) : List Text :=
  Text.sortedSet ((collection.filterMap (·.seriesSlug)).filter (continues typed))

/-- The distinct slugs of tags that continue what was typed, in ascending order. -/
def tags (collection : List Post) (typed : Text) : List Text :=
  Text.sortedSet ((collection.flatMap fun post => post.tags.map slugOf).filter (continues typed))

/-- The directories that continue what was typed, each with a slash. -/
def directories (offered : List Text) (typed : Text) : List Text :=
  (offered.filter (continues typed)).map (· ++ "/")

/-- The candidates behind the directory `start`, when what was typed begins with it. -/
def behind? (start typed : Text) (candidates : Text → List Text) : Option (List Text) :=
  (typed.after? start).map fun rest => (candidates rest).map (start ++ ·)

end Completion

/-- How a command completes a path. -/
structure PathCompletion where
  /-- The directories offered at the root. -/
  directories : List Text
  /-- The slugs of posts are offered at the root too. -/
  postsAtRoot : Bool

/-- The candidates for a typed path at a prompt path. -/
def PathCompletion.candidates (completion : PathCompletion) (collection : List Post)
    (path typed : Text) : List Text :=
  if '/' ∈ typed then
    (Completion.behind? "series/" typed (Completion.series collection) <|>
      Completion.behind? "tags/" typed (Completion.tags collection) <|>
      Completion.behind? "posts/" typed (Completion.posts collection)).getD []
  else
    match Page.ofDirectory? (Path.directory path) with
    | some .posts => Completion.posts collection typed
    | some .series => Completion.series collection typed
    | some .tags => Completion.tags collection typed
    | some .root =>
      Completion.directories completion.directories typed ++
        (if completion.postsAtRoot then Completion.posts collection typed else [])
    | _ => []

end BlogTerminal
