import BlogTerminal.Command.Context
import BlogTerminal.Command.Directory
import BlogTerminal.Text.Basic

/-!
Showing a directory as a tree. The entries are those of a listing, with the posts of each series
and of each year below it.
-/

namespace BlogTerminal

/-! ## Outlines

Outlines are trees with a label at each node. Written out, each node takes a line in front of the
lines of its children: a connector that says whether a sibling follows, and before it one bar or
blank for each node above, which says the same of that node.
-/

/-- A labelled tree. -/
inductive Outline (α : Type) where
  | node (label : α) (children : List (Outline α))

namespace Outline

variable {α : Type}

/-- A tree without children. -/
def leaf (label : α) : Outline α := .node label []

/-- The connector of a node. -/
def connector (isLast : Bool) : Text := if isLast then "└── " else "├── "

/-- What stands under the connector of a node. -/
def bar (isLast : Bool) : Text := if isLast then "    " else "│   "

mutual

/-- The lines of a node behind `indent`, each split into what leads to the label and the label. -/
def lines (indent : Text) (isLast : Bool) : Outline α → List (Text × α)
  | .node label children =>
    (indent ++ connector isLast, label) :: forestLines (indent ++ bar isLast) children

/-- The lines of siblings behind `indent`. -/
def forestLines (indent : Text) : List (Outline α) → List (Text × α)
  | [] => []
  | tree :: rest => lines indent rest.isEmpty tree ++ forestLines indent rest

end

end Outline

/-! ## Trees -/

namespace TreeView

open Markup

variable {α : Type}

/-- A tree whose labels are markup. -/
abbrev Entry := Outline (List Node)

/-- A line of a tree: what leads to the label, and the label. -/
def line (content : Text × List Node) : Node :=
  row (span "term-tree-branch" content.1 :: content.2)

/-- A whole tree: its root, the lines below it, and a summary. -/
def display (root : Text) (entries : List Entry) (summary : Text) : List Node :=
  [div "term-tree" (onNewLines
    ([div "text-term-blue font-medium" [.text root]] ++
      (Outline.forestLines [] entries).map line ++
      [div "text-term-fg-dark mt-2 text-sm" [.text summary]]) ++ [newline])]

/-- A count with the noun in the singular or plural. -/
def counted (count : Nat) (one many : Text) : Text :=
  Text.ofNat count ++ " " ++ if count = 1 then one else many

/-- The entry of a post. -/
def file (post : Post) : Entry :=
  .leaf [link post.url "term-tree-file hover:text-term-cyan" [.text (Post.fileNameOf post.title)]]

/-- A directory of posts. -/
def files (root : Text) (posts : List Post) : List Node :=
  display root (posts.map file) ("0 directories, " ++ counted posts.length "file" "files")

/-- The posts of a series. -/
def seriesPosts (posts : List Post) (name : Text) : List Node :=
  files (name ++ "/") (Post.ofSeries posts name)

/-- An entry of the root that is a directory. -/
def directory (name size : Text) : Entry :=
  .leaf
    [button "term-tree-dir cursor-pointer" ("tree " ++ name ++ "/") (name ++ "/"), .text [' '],
     note ("(" ++ size ++ ")")]

/-- The root directory. -/
def root (posts : List Post) : List Node :=
  let files := counted posts.length "file" "files"
  display "."
    [directory "archives" files,
     directory "posts" files,
     .leaf [button "term-tree-file cursor-pointer" "cd search" "search"],
     directory "series" (counted (Post.seriesNames posts).length "dir" "dirs"),
     directory "tags" (counted (Post.allTags posts).length "item" "items")]
    ("4 directories, " ++ files)

/-- A summary that counts directories and files. -/
def summary (directories files : Nat) : Text :=
  counted directories "directory" "directories" ++ ", " ++ counted files "file" "files"

/-- The entry of a series. -/
def seriesEntry (name : Text) (posts : List Post) : Entry :=
  .node
    [link (Page.seriesItem (slugOf name)).url "term-tree-dir hover:text-term-cyan"
      [.text (name ++ "/")]]
    ((Post.inOrder .oldestFirst posts).map file)

/-- The series directory. -/
def series (posts : List Post) : List Node :=
  let groups := Post.bySeries posts
  display "series/" (groups.map fun (name, posts) => seriesEntry name posts)
    (summary groups.length (groups.flatMap (·.2)).length)

/-- The entry of a tag that occurs `count` times. -/
def tagEntry (tag : Text) (count : Nat) : Entry :=
  .leaf
    [link (Page.tagItem (slugOf tag)).url "text-term-green hover:text-term-cyan"
      [.text ("#" ++ tag)], .text [' '], note ("(" ++ Text.ofNat count ++ ")")]

/-- The tags directory. -/
def tags (posts : List Post) : List Node :=
  let counts := Post.tagsByCount posts
  display "tags/" (counts.map fun (tag, count) => tagEntry tag count)
    ("0 directories, " ++ counted counts.length "tag" "tags")

/-- The entry of a year. -/
def yearEntry (year : Option Int) (posts : List Post) : Entry :=
  .node [span "term-tree-dir" (Listing.yearName year ++ "/")] (posts.map file)

/-- The posts by year of publication. -/
def archives (posts : List Post) : List Node :=
  let years := Post.byYear posts
  display "archives/" (years.map fun (year, posts) => yearEntry year posts)
    (summary years.length posts.length)

/-- The search page. -/
def search : List Node :=
  display "." [.leaf [span "term-tree-file" "search"]] "0 directories, 1 file"

/-- The answer for a path that does not exist. -/
def notFound (typed : Text) : Result := .failure ("tree: '" ++ typed ++ "' not found")

/-- The answer for a directory, asked for as `typed`. A directory outside the blog's tree can be
the bare slug of a series. -/
def answer (posts : List Post) (typed dir : Text) : Result :=
  match Page.ofDirectory? dir with
  | some .root => { body := root posts }
  | some .posts => { body := files "posts/" (Post.inOrder .newestFirst posts) }
  | some (.post slug) =>
    match Post.find? posts slug with
    | some post => { body := files "posts/" [post] }
    | none => notFound typed
  | some .series => { body := series posts }
  | some (.seriesItem name) =>
    match Post.findSeries? posts name with
    | some series => { body := seriesPosts posts series }
    | none => notFound typed
  | some .tags => { body := tags posts }
  | some (.tagItem name) =>
    match Post.findTag? posts name with
    | some tag => { body := files ("#" ++ tag ++ "/") (Post.withTag posts tag) }
    | none => notFound typed
  | some .archives => { body := archives posts }
  | some .search => { body := search }
  | none =>
    match Post.findSeries? posts dir with
    | some series => { body := seriesPosts posts series }
    | none => notFound typed

/-- The `tree` command. -/
def execute (context : Context α) : Result :=
  let typed := context.arguments.head?.getD "."
  answer context.posts typed (Path.resolve typed context.path)

end TreeView

end BlogTerminal
