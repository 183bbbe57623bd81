import BlogTerminal.Command.Context
import BlogTerminal.Path

/-!
Listing a directory, and going to one.
-/

namespace BlogTerminal

/-! ## Listing

Posts are files, series and tags are directories, and every entry can be clicked. The switch `l`
adds columns and nothing else.
-/

namespace Listing

open Markup

variable {α : Type}

/-- The line with the number of entries. -/
def total (count : Nat) (unit : Text) : Node :=
  div "text-term-fg-dark text-sm mb-2" [.text ("total " ++ Text.ofNat count ++ unit)]

/-- The permissions column. -/
def permissions (content : Text) : Node := span "term-ls-perms" content

/-- The head of a listing, and each entry on a line of its own. -/
def table (head : List Node) (entries : List Node) : List Node :=
  [div "term-ls" (head ++ onNewLines entries ++ [newline])]

/-- An entry of the root directory. -/
structure RootEntry where
  mode : Text
  line : Text
  name : Text
  size : Text

/-- The entries of the root directory. -/
def rootEntries (posts : List Post) : List RootEntry :=
  let files := Text.ofNat posts.length ++ " files"
  [⟨"drwxr-xr-x", "ls archives/", "archives/", files⟩,
   ⟨"drwxr-xr-x", "ls posts/", "posts/", files⟩,
   ⟨"-rwxr-xr-x", "cd search", "search", "interactive"⟩,
   ⟨"drwxr-xr-x", "ls series/", "series/",
    Text.ofNat (Post.seriesNames posts).length ++ " dirs"⟩,
   ⟨"drwxr-xr-x", "ls tags/", "tags/", Text.ofNat (Post.allTags posts).length ++ " items"⟩]

/-- The root directory. -/
def root (posts : List Post) (detailed : Bool) : List Node :=
  let entries := rootEntries posts
  if detailed then
    table [newline, total entries.length []] (entries.map fun entry =>
      div "term-ls-entry" (joinSpaced
        [permissions entry.mode,
         button "term-ls-name term-ls-dir cursor-pointer hover:text-term-cyan" entry.line
           entry.name,
         note entry.size]))
  else
    [div "flex flex-wrap gap-4" (joinLines (entries.map fun entry =>
      button "term-ls-dir cursor-pointer hover:text-term-cyan" entry.line entry.name))]

/-- The entry of a post. -/
def file (detailed : Bool) (post : Post) : Node :=
  let line := "cat " ++ post.slug
  if detailed then
    div "term-ls-entry" (joinSpaced
      [permissions "-rw-r--r--",
       commandLink post.url "term-ls-name hover:text-term-cyan" line post.fileName,
       span "term-ls-date" (Post.listedDate post.date)])
  else
    div "term-ls-entry-simple"
      [commandLink post.url "text-term-fg hover:text-term-cyan" line post.fileName]

/-- A directory of posts. -/
def files (posts : List Post) (detailed : Bool) : List Node :=
  table [total posts.length []] (posts.map (file detailed))

/-- A year as it is shown in the archives. -/
def yearName (year : Option Int) : Text :=
  match year with
  | some year => Text.ofInt year
  | none => "undated"

/-- The posts by year of publication. -/
def archives (posts : List Post) (detailed : Bool) : List Node :=
  table [total posts.length []] ((Post.byYear posts).flatMap fun (year, bucket) =>
    div "term-ls-dir mt-2"
      [.text (yearName year ++ "/ "), note ("(" ++ Text.ofNat bucket.length ++ " posts)")] ::
      bucket.map (file detailed))

/-- The search page. -/
def search (detailed : Bool) : List Node :=
  let name := button "term-ls-name cursor-pointer hover:text-term-cyan" "cd search" "search"
  if detailed then
    [div "term-ls-entry" (joinSpaced [permissions "-rwxr-xr-x", name, note "interactive"])]
  else [name]

/-- The entry of a series. -/
def seriesEntry (posts : List Post) (detailed : Bool) (name : Text) : Node :=
  let url := (Page.seriesItem (slugOf name)).url
  let line := "ls series/" ++ slugOf name
  if detailed then
    div "term-ls-entry" (joinSpaced
      [permissions "drwxr-xr-x",
       commandLink url "term-ls-name term-ls-dir hover:text-term-cyan" line (name ++ "/"),
       note (Text.ofNat (Post.inSeries posts name).length ++ " posts")])
  else row [commandLink url "term-ls-dir hover:text-term-cyan" line (name ++ "/")]

/-- The series directory. -/
def series (posts : List Post) (detailed : Bool) : List Node :=
  let names := Post.seriesNames posts
  table [total names.length []] (names.map (seriesEntry posts detailed))

/-- The entry of a tag that occurs `count` times. -/
def tagEntry (detailed : Bool) (tag : Text) (count : Nat) : Node :=
  let url := (Page.tagItem (slugOf tag)).url
  let line := "ls tags/" ++ slugOf tag
  if detailed then
    div "term-ls-entry" (joinSpaced
      [span "text-term-yellow w-8 text-right mr-4" ((Text.ofNat count).leftpad 3 ' '),
       commandLink url "text-term-green hover:text-term-cyan" line ("#" ++ tag)])
  else
    commandLink url "inline-block mr-3 mb-1 text-term-green hover:text-term-cyan" line ("#" ++ tag)

/-- The tags directory. -/
def tags (posts : List Post) (detailed : Bool) : List Node :=
  let counts := Post.tagsByCount posts
  table [total counts.length " tags"] (counts.map fun (tag, count) => tagEntry detailed tag count)

/-- The answer for a path that does not exist. -/
def notFound (path : Text) : Result :=
  .failure ("ls: cannot access '" ++ path ++ "': No such file or directory")

/-- The answer for a directory, asked for as `typed`. A directory outside the blog's tree can be
the bare slug of a series. -/
def answer (posts : List Post) (detailed : Bool) (typed dir : Text) : Result :=
  match Page.ofDirectory? dir with
  | some .root => { body := root posts detailed }
  | some .posts => { body := files (Post.inOrder .newestFirst posts) detailed }
  | some .archives => { body := archives posts detailed }
  | some .search => { body := search detailed }
  | some .series => { body := series posts detailed }
  | some .tags => { body := tags posts detailed }
  | some (.post slug) =>
    match Post.find? posts slug with
    | some post => { body := files [post] detailed }
    | none => notFound typed
  | some (.seriesItem name) =>
    match Post.findSeries? posts name with
    | some series => { body := files (Post.ofSeries posts series) detailed }
    | none => notFound ("series/" ++ name)
  | some (.tagItem name) =>
    match Post.findTag? posts name with
    | some tag => { body := files (Post.withTag posts tag) detailed }
    | none => notFound ("tags/" ++ name)
  | none =>
    match Post.findSeries? posts dir with
    | some series => { body := files (Post.ofSeries posts series) detailed }
    | none => notFound typed

/-- The `ls` command. -/
def execute (context : Context α) : Result :=
  let typed := context.arguments.head?.getD "."
  answer context.posts (CommandLine.hasSwitch context.flags 'l') typed
    (Path.resolve typed context.path)

/-- The flags that are offered. -/
def flags : List Text := ["-l", "-la"]

/-- How `ls` completes a path. -/
def paths : PathCompletion := ⟨Page.topLevel, false⟩

/-- The candidates for an argument or a flag. -/
def complete (context : Context α) (typed : Text) : List Text :=
  if CommandLine.isFlag typed then flags.filter (typed.lower <+: ·)
  else paths.candidates context.posts context.path typed

end Listing

/-! ## Going to a page

The command asks for a page transition and never changes the prompt path of the page it runs on; on
the page of a post, the parent directory is the page before.
-/

namespace Navigation

open Markup

variable {α : Type}

/-- The answer that goes to a page, with a note of it. -/
def goTo (url message : Text) : Result := { body := [hintLine message], navigate := some url }

/-- The answer that goes to the root. -/
def home : Result := { navigate := some "/", path := some "~" }

/-- The answer that goes to the parent directory. -/
def toParent (path : Text) : Result :=
  let dir := Path.directory path
  if dir.isEmpty then { path := some "~" }
  else
    match Page.ofDirectory? dir with
    | some (.post _) => { goBack := true }
    | _ =>
      let parent := Path.parent dir
      { navigate := some ("/" ++ parent), path := some (Path.prompt parent) }

/-- The answer that goes to a series. -/
def toSeries (name : Text) : Result :=
  goTo (Page.seriesItem (slugOf name)).url ("Navigating to series: " ++ name ++ "...")

/-- The answer for a path that does not exist. -/
def notFound (typed : Text) : Result :=
  .failure ("cd: no such file or directory: " ++ typed)

/-- The answer for a directory, asked for as `typed`. A directory outside the blog's tree can be
the bare slug of a series. -/
def toDirectory (posts : List Post) (typed dir : Text) : Result :=
  match Page.ofDirectory? dir with
  | some .root => home
  | some (.post _) => notFound typed
  | some (.seriesItem name) => ((Post.findSeries? posts name).map toSeries).getD (notFound typed)
  | some (.tagItem name) =>
    match Post.findTag? posts name with
    | some tag => goTo (Page.tagItem (slugOf tag)).url ("Navigating to tag: #" ++ tag ++ "...")
    | none => notFound typed
  | some page => goTo page.url ("Navigating to " ++ page.url ++ "...")
  | none => ((Post.findSeries? posts dir).map toSeries).getD (notFound typed)

/-- The slug of a post that a directory can stand for. -/
def slugIn (dir : Text) : Text := Page.withoutExtension (dir.dropStart "posts/")

/-- The answer for the argument `typed` at a prompt path. The slug of a post goes before a
directory of the same name. -/
def answer (posts : List Post) (typed path : Text) : Result :=
  let token := typed.dropEndWhile (· == '/')
  if token = "~" ∨ token = [] then home
  else if token = ".." then toParent path
  else
    let dir := Path.resolve token path
    match Post.find? posts (slugIn dir) with
    | some post => goTo post.url ("Opening " ++ post.title ++ "...")
    | none => toDirectory posts typed dir

/-- The `cd` command. -/
def execute (context : Context α) : Result :=
  answer context.posts (context.arguments.head?.getD "~") context.path

/-- How `cd` completes a path. -/
def paths : PathCompletion := ⟨["posts", "series", "tags"], true⟩

/-- The candidates for an argument. -/
def complete (context : Context α) (typed : Text) : List Text :=
  paths.candidates context.posts context.path typed

end Navigation

end BlogTerminal
