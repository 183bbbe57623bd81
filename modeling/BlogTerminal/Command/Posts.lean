import BlogTerminal.Command.Context
import BlogTerminal.Markup.Highlight

/-!
Showing posts and searching them.
-/

namespace BlogTerminal

/-! ## Showing the start of a post

The post is named by its slug or by the file name made from its title, with or without the directory
and the ending.
-/

namespace Preview

open Markup

variable {α : Type}

/-- The number of characters of a body that are shown. -/
def excerptLimit : Nat := 300

/-- The start of a text, with dots behind it when there is more. -/
def excerpt (text : Text) : Text :=
  if text.length ≤ excerptLimit then text else text.take excerptLimit ++ "..."

/-- The line above and below a post. -/
def rule (classes : Text) : Node := div classes [span "text-term-fg-dark" "---"]

/-- A link to a tag. -/
def tagLink (tag : Text) : Node :=
  link (Page.tagItem (slugOf tag)).url "text-term-purple hover:text-term-cyan" [.text ("#" ++ tag)]

/-- The date of a post, and its series if there is one. -/
def facts (post : Post) : List Node :=
  span "text-term-yellow" (Post.listedDate post.date) ::
    match post.series with
    | some series => [span "text-term-fg-dark mx-2" "|", span "text-term-purple" series]
    | none => []

/-- The parts of a post that may be missing. -/
def details (post : Post) : List Node :=
  (if post.description.isEmpty then []
    else [styled .p "text-term-fg mb-3" [.text post.description]]) ++
  (if post.body.isEmpty then []
    else [div "text-term-fg-dark text-sm mb-3 whitespace-pre-wrap" [.text (excerpt post.body)]]) ++
  (if post.tags.isEmpty then []
    else [div "mb-3" (joinSpaced (post.tags.map tagLink))])

/-- A post with the start of its body. -/
def card (post : Post) : List Node :=
  let title := link post.url "text-term-cyan hover:text-term-blue text-lg font-medium"
    [.text post.title]
  [div "term-cat" (onNewLines
    ([rule "term-cat-header mb-2", div "term-cat-title mb-2" [title],
      div "term-cat-meta text-sm mb-3" (facts post)] ++
      details post ++
      [div "mt-3" [link post.url "term-link" [.text "[Read full post →]"]],
       rule "term-cat-footer mt-2"]) ++ [newline])]

/-- The post that an argument names. -/
def find? (posts : List Post) (requested : Text) : Option Post :=
  let name := (Page.withoutExtension (requested.dropStart "posts/")).lower
  posts.find? fun post =>
    post.slug.lower = name || Page.withoutExtension (Post.fileNameOf post.title) = name

/-- The `cat` command. -/
def execute (context : Context α) : Result :=
  match context.arguments with
  | [] => .failure "cat: missing file operand"
  | requested :: _ =>
    match find? context.posts requested with
    | some post => { body := card post }
    | none => .failure ("cat: " ++ requested ++ ": No such file or directory")

/-- The candidates for an argument. -/
def complete (context : Context α) (typed : Text) : List Text :=
  (Completion.behind? "posts/" typed (Completion.posts context.posts)).getD
    (Completion.posts context.posts typed)

end Preview

/-! ## Searching

`grep` shows where a pattern occurs, and ignores case only with the switch `i`; `find` always
ignores case and lists the file names. The words of a pattern are the arguments.
-/

section

open Markup

variable {α : Type}

namespace Grep

/-- A tag, marked when it contains the pattern. -/
def tag (ignoreCase : Bool) (pattern name : Text) : Node :=
  span (if Post.mentions ignoreCase pattern name then "term-grep-match" else "text-term-green")
    ("#" ++ name)

/-- A post that contains the pattern. -/
def entry (ignoreCase : Bool) (pattern : Text) (post : Post) : Node :=
  let title := link post.url "text-term-cyan hover:text-term-blue"
    (highlight ignoreCase pattern post.title)
  div "border-l-2 border-term-fg-dark pl-3" (onNewLines
    ([div "flex items-center gap-2 flex-wrap" [span "text-term-purple" "./posts/", title]] ++
      (if post.description.isEmpty then []
        else [div "text-term-fg-dark text-sm mt-1"
          (highlight ignoreCase pattern post.description)]) ++
      (if post.tags.isEmpty then []
        else [div "text-sm mt-1"
          (joinSpaced (post.tags.map (tag ignoreCase pattern)))])) ++ [newline])

/-- The line above the posts found. -/
def heading (count : Nat) (pattern : Text) : Node :=
  let noun : Text := if count = 1 then "match" else "matches"
  div "text-term-fg-dark text-sm mb-3"
    [.text (Text.ofNat count ++ " " ++ noun ++ " for "), .prose ['\''], .text pattern,
     .prose ['\'']]

/-- The posts found. -/
def found (ignoreCase : Bool) (pattern : Text) (posts : List Post) : List Node :=
  [heading posts.length pattern, newline,
   div "space-y-3" (onNewLines (posts.map (entry ignoreCase pattern)) ++ [newline])]

/-- The `grep` command. -/
def execute (context : Context α) : Result :=
  let pattern := context.joinedArguments
  let ignoreCase := CommandLine.hasSwitch context.flags 'i'
  if pattern.isEmpty then
    .failed [errorLine "grep: missing pattern", newline, hintLine "Usage: grep [-i] pattern"]
  else
    match Post.search ignoreCase pattern context.posts with
    | [] => .failure ("grep: no matches found for '" ++ pattern ++ "'")
    | posts => { body := found ignoreCase pattern posts }

end Grep

namespace Find

/-- A post that was found. -/
def entry (post : Post) : Node :=
  row [span "text-term-purple" "./posts/",
    link post.url "text-term-cyan hover:text-term-blue transition-colors"
      [.text (Post.fileNameOf post.title)]]

/-- The posts that were found. -/
def found (posts : List Post) : List Node :=
  [div "text-term-fg-dark text-sm mb-2" [.text (Text.ofNat posts.length ++ " file(s) found:")],
   newline, div "space-y-1" (onNewLines (posts.map entry) ++ [newline])]

/-- The `find` command. Without a pattern all posts are found, newest first. -/
def execute (context : Context α) : Result :=
  let pattern := context.joinedArguments
  if pattern.isEmpty then { body := found (Post.inOrder .newestFirst context.posts) }
  else
    match Post.search true pattern context.posts with
    | [] => .failure ("find: no matches for '" ++ pattern ++ "'")
    | posts => { body := found posts }

end Find

end

end BlogTerminal
