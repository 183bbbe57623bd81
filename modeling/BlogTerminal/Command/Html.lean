import BlogTerminal.Command.Builtin

/-!
The output of the commands as the text that they put together. Fixed markup stands here as it is
written, opening and closing tags alike, and each template says of every field whether it is
escaped. Counts, years, dates that could be read, the clock, the names of themes and the entries of
the root directory are put in as they are; everything else that comes from a post, from the profile,
from the command line or from the name of the active theme is escaped.
-/

namespace BlogTerminal

open Markup

variable {α : Type}

/-! ## Shared templates -/

namespace Markup

/-- A part that may be missing. -/
def partHtml (missing : Bool) (part : Text) : Text := if missing then [] else part

/-- The written items, each on a line of its own. -/
def onLines {β : Type} (write : β → Text) (items : List β) : Text :=
  items.flatMap fun item => "\n" ++ write item

/-- A red line with the cause of an error. -/
def errorHtml (message : Text) : Text :=
  "<span class=\"text-term-red\">" ++ escape message ++ "</span>"

/-- A dimmed line with a hint. -/
def hintHtml (message : Text) : Text :=
  "<span class=\"text-term-fg-dark\">" ++ escape message ++ "</span>"

/-- A written date in the form of listings; one that cannot be read is shown as written. -/
def dateHtml (date : Text) : Text :=
  match Moment.ofText? date with
  | some moment => moment.date.listed
  | none => escape date

end Markup

/-! ## What a directory shows -/

/-- What there is to show for a directory. -/
inductive Sight where
  | root
  | posts
  | archives
  | search
  | series
  | tags
  /-- A directory that is the page of a post. -/
  | file (post : Post)
  | ofSeries (name : Text)
  | withTag (name : Text)

/-- What there is to show for a directory. One outside the blog's tree can be the bare slug of a
series. -/
def Sight.ofDirectory? (posts : List Post) (dir : Text) : Option Sight :=
  match Page.ofDirectory? dir with
  | some .root => some root
  | some .posts => some .posts
  | some .archives => some archives
  | some .search => some search
  | some .series => some series
  | some .tags => some tags
  | some (.post slug) => (Post.find? posts slug).map file
  | some (.seriesItem name) => (Post.findSeries? posts name).map ofSeries
  | some (.tagItem name) => (Post.findTag? posts name).map withTag
  | none => (Post.findSeries? posts dir).map ofSeries

/-! ## Listings -/

namespace Listing

/-- The line with the number of entries. -/
def totalHtml (count : Nat) (unit : Text) : Text :=
  "<div class=\"text-term-fg-dark text-sm mb-2\">total " ++ Text.ofNat count ++ unit ++ "</div>"

/-- The name of an entry of the root directory. -/
def RootEntry.nameHtml (entry : RootEntry) : Text :=
  "<span class=\"term-ls-dir cursor-pointer hover:text-term-cyan\" data-cmd=\"" ++ entry.line ++
    "\">" ++ entry.name ++ "</span>"

/-- An entry of the root directory with its columns. -/
def RootEntry.html (entry : RootEntry) : Text :=
  "\n<div class=\"term-ls-entry\"><span class=\"term-ls-perms\">" ++ entry.mode ++
    "</span> <span class=\"term-ls-name term-ls-dir cursor-pointer hover:text-term-cyan\"" ++
    " data-cmd=\"" ++ entry.line ++ "\">" ++ entry.name ++
    "</span> <span class=\"text-term-fg-dark text-sm\">" ++ entry.size ++ "</span></div>"

/-- The root directory. -/
def rootHtml (posts : List Post) (detailed : Bool) : Text :=
  let entries := rootEntries posts
  if detailed then
    "<div class=\"term-ls\">\n<div class=\"text-term-fg-dark text-sm mb-2\">total " ++
      Text.ofNat entries.length ++ "</div>" ++ entries.flatMap RootEntry.html ++ "\n</div>"
  else
    "<div class=\"flex flex-wrap gap-4\">" ++
      ['\n'].intercalate (entries.map RootEntry.nameHtml) ++ "</div>"

/-- The entry of a post. -/
def fileHtml (detailed : Bool) (post : Post) : Text :=
  let slug := escape post.slug
  let name := escape post.fileName
  if detailed then
    "<div class=\"term-ls-entry\"><span class=\"term-ls-perms\">-rw-r--r--</span> " ++
      "<a href=\"/posts/" ++ slug ++ "\" class=\"term-ls-name hover:text-term-cyan\"" ++
      " data-cmd=\"cat " ++ slug ++ "\">" ++ name ++ "</a> <span class=\"term-ls-date\">" ++
      dateHtml post.date ++ "</span></div>"
  else
    "<div class=\"term-ls-entry-simple\"><a href=\"/posts/" ++ slug ++
      "\" class=\"text-term-fg hover:text-term-cyan\" data-cmd=\"cat " ++ slug ++ "\">" ++ name ++
      "</a></div>"

/-- The number of entries, and the entries on a line of their own each. -/
def tableHtml (count : Nat) (unit : Text) (entries : Text) : Text :=
  "<div class=\"term-ls\">" ++ totalHtml count unit ++ entries ++ "\n</div>"

/-- A directory of posts. -/
def filesHtml (posts : List Post) (detailed : Bool) : Text :=
  tableHtml posts.length [] (onLines (fileHtml detailed) posts)

/-- The posts of a year. -/
def yearHtml (detailed : Bool) (year : Option Int) (posts : List Post) : Text :=
  "\n<div class=\"term-ls-dir mt-2\">" ++ yearName year ++
    "/ <span class=\"text-term-fg-dark text-sm\">(" ++ Text.ofNat posts.length ++
    " posts)</span></div>" ++ onLines (fileHtml detailed) posts

/-- The posts by year of publication. -/
def archivesHtml (posts : List Post) (detailed : Bool) : Text :=
  tableHtml posts.length []
    ((Post.byYear posts).flatMap fun (year, bucket) => yearHtml detailed year bucket)

/-- The search page. -/
def searchHtml (detailed : Bool) : Text :=
  let name : Text :=
    "<span class=\"term-ls-name cursor-pointer hover:text-term-cyan\" data-cmd=\"cd search\">" ++
      "search</span>"
  if detailed then
    "<div class=\"term-ls-entry\"><span class=\"term-ls-perms\">-rwxr-xr-x</span> " ++ name ++
      " <span class=\"text-term-fg-dark text-sm\">interactive</span></div>"
  else name

/-- The entry of a series. -/
def seriesEntryHtml (posts : List Post) (detailed : Bool) (name : Text) : Text :=
  let slug := escape (slugOf name)
  let label := escape name
  if detailed then
    "<div class=\"term-ls-entry\"><span class=\"term-ls-perms\">drwxr-xr-x</span> " ++
      "<a href=\"/series/" ++ slug ++
      "\" class=\"term-ls-name term-ls-dir hover:text-term-cyan\" data-cmd=\"ls series/" ++ slug ++
      "\">" ++ label ++ "/</a> <span class=\"text-term-fg-dark text-sm\">" ++
      Text.ofNat (Post.inSeries posts name).length ++ " posts</span></div>"
  else
    "<div><a href=\"/series/" ++ slug ++
      "\" class=\"term-ls-dir hover:text-term-cyan\" data-cmd=\"ls series/" ++ slug ++ "\">" ++
      label ++ "/</a></div>"

/-- The series directory. -/
def seriesHtml (posts : List Post) (detailed : Bool) : Text :=
  let names := Post.seriesNames posts
  tableHtml names.length [] (onLines (seriesEntryHtml posts detailed) names)

/-- The entry of a tag that occurs `count` times. -/
def tagEntryHtml (detailed : Bool) (tag : Text) (count : Nat) : Text :=
  let slug := escape (slugOf tag)
  let label := escape tag
  if detailed then
    "<div class=\"term-ls-entry\"><span class=\"text-term-yellow w-8 text-right mr-4\">" ++
      (Text.ofNat count).leftpad 3 ' ' ++ "</span> <a href=\"/tags/" ++ slug ++
      "\" class=\"text-term-green hover:text-term-cyan\" data-cmd=\"ls tags/" ++ slug ++ "\">#" ++
      label ++ "</a></div>"
  else
    "<a href=\"/tags/" ++ slug ++
      "\" class=\"inline-block mr-3 mb-1 text-term-green hover:text-term-cyan\"" ++
      " data-cmd=\"ls tags/" ++ slug ++ "\">#" ++ label ++ "</a>"

/-- The tags directory. -/
def tagsHtml (posts : List Post) (detailed : Bool) : Text :=
  let counts := Post.tagsByCount posts
  tableHtml counts.length " tags"
    (onLines (fun (tag, count) => tagEntryHtml detailed tag count) counts)

/-- What a directory shows. -/
def sightHtml (posts : List Post) (detailed : Bool) : Sight → Text
  | .root => rootHtml posts detailed
  | .posts => filesHtml (Post.inOrder .newestFirst posts) detailed
  | .archives => archivesHtml posts detailed
  | .search => searchHtml detailed
  | .series => seriesHtml posts detailed
  | .tags => tagsHtml posts detailed
  | .file post => filesHtml [post] detailed
  | .ofSeries name => filesHtml (Post.ofSeries posts name) detailed
  | .withTag name => filesHtml (Post.withTag posts name) detailed

/-- The path that an error names: that of a series or a tag as it was resolved, and else what was
typed. -/
def missing (typed dir : Text) : Text :=
  match Page.ofDirectory? dir with
  | some (.seriesItem name) => "series/" ++ name
  | some (.tagItem name) => "tags/" ++ name
  | _ => typed

/-- The answer for a path that does not exist. -/
def notFoundHtml (path : Text) : Text :=
  errorHtml ("ls: cannot access '" ++ path ++ "': No such file or directory")

/-- The answer for a directory, asked for as `typed`. -/
def answerHtml (posts : List Post) (detailed : Bool) (typed dir : Text) : Text :=
  ((Sight.ofDirectory? posts dir).map (sightHtml posts detailed)).getD
    (notFoundHtml (missing typed dir))

/-- The output of `ls`. -/
def html (context : Context α) : Text :=
  let typed := context.arguments.head?.getD "."
  answerHtml context.posts (CommandLine.hasSwitch context.flags 'l') typed
    (Path.resolve typed context.path)

end Listing

/-! ## Trees -/

namespace TreeView

/-- A tree whose labels are written markup. -/
abbrev HtmlEntry := Outline Text

mutual

/-- The lines of a node behind `indent`, and those below it. -/
def nodeHtml (indent : Text) (isLast : Bool) : HtmlEntry → Text
  | .node label children =>
    "\n<div><span class=\"term-tree-branch\">" ++ indent ++ Outline.connector isLast ++ "</span>" ++
      label ++ "</div>" ++ nodesHtml (indent ++ Outline.bar isLast) children

/-- The lines of siblings behind `indent`, and those below them. -/
def nodesHtml (indent : Text) : List HtmlEntry → Text
  | [] => []
  | tree :: rest => nodeHtml indent rest.isEmpty tree ++ nodesHtml indent rest

end

/-- A whole tree. The root and the summary are written markup. -/
def displayHtml (root : Text) (entries : List HtmlEntry) (summary : Text) : Text :=
  "<div class=\"term-tree\">\n<div class=\"text-term-blue font-medium\">" ++ root ++ "</div>" ++
    nodesHtml [] entries ++ "\n<div class=\"text-term-fg-dark mt-2 text-sm\">" ++ summary ++
    "</div>\n</div>"

/-- The entry of a post. -/
def fileHtml (post : Post) : HtmlEntry :=
  .leaf ("<a href=\"/posts/" ++ escape post.slug ++
    "\" class=\"term-tree-file hover:text-term-cyan\">" ++ escape (Post.fileNameOf post.title) ++
    "</a>")

/-- A directory of posts. -/
def filesHtml (root : Text) (posts : List Post) : Text :=
  displayHtml root (posts.map fileHtml) ("0 directories, " ++ counted posts.length "file" "files")

/-- The posts of a series. -/
def seriesPostsHtml (posts : List Post) (name : Text) : Text :=
  filesHtml (escape name ++ "/") (Post.ofSeries posts name)

/-- An entry of the root that is a directory. -/
def directoryHtml (name size : Text) : HtmlEntry :=
  .leaf ("<span class=\"term-tree-dir cursor-pointer\" data-cmd=\"tree " ++ name ++ "/\">" ++
    name ++ "/</span> <span class=\"text-term-fg-dark text-sm\">(" ++ size ++ ")</span>")

/-- The root directory. -/
def rootHtml (posts : List Post) : Text :=
  let files := counted posts.length "file" "files"
  displayHtml "."
    [directoryHtml "archives" files,
     directoryHtml "posts" files,
     .leaf ("<span class=\"term-tree-file cursor-pointer\" data-cmd=\"cd search\">search" ++
       "</span>"),
     directoryHtml "series" (counted (Post.seriesNames posts).length "dir" "dirs"),
     directoryHtml "tags" (counted (Post.allTags posts).length "item" "items")]
    ("4 directories, " ++ files)

/-- The entry of a series. -/
def seriesEntryHtml (name : Text) (posts : List Post) : HtmlEntry :=
  .node
    ("<a href=\"/series/" ++ escape (slugOf name) ++
      "\" class=\"term-tree-dir hover:text-term-cyan\">" ++ escape name ++ "/</a>")
    ((Post.inOrder .oldestFirst posts).map fileHtml)

/-- The series directory. -/
def seriesHtml (posts : List Post) : Text :=
  let groups := Post.bySeries posts
  displayHtml "series/" (groups.map fun (name, posts) => seriesEntryHtml name posts)
    (summary groups.length (groups.flatMap (·.2)).length)

/-- The entry of a tag that occurs `count` times. -/
def tagEntryHtml (tag : Text) (count : Nat) : HtmlEntry :=
  .leaf ("<a href=\"/tags/" ++ escape (slugOf tag) ++
    "\" class=\"text-term-green hover:text-term-cyan\">#" ++ escape tag ++
    "</a> <span class=\"text-term-fg-dark text-sm\">(" ++ Text.ofNat count ++ ")</span>")

/-- The tags directory. -/
def tagsHtml (posts : List Post) : Text :=
  let counts := Post.tagsByCount posts
  displayHtml "tags/" (counts.map fun (tag, count) => tagEntryHtml tag count)
    ("0 directories, " ++ counted counts.length "tag" "tags")

/-- The entry of a year. -/
def yearEntryHtml (year : Option Int) (posts : List Post) : HtmlEntry :=
  .node ("<span class=\"term-tree-dir\">" ++ Listing.yearName year ++ "/</span>")
    (posts.map fileHtml)

/-- The posts by year of publication. -/
def archivesHtml (posts : List Post) : Text :=
  let years := Post.byYear posts
  displayHtml "archives/" (years.map fun (year, posts) => yearEntryHtml year posts)
    (summary years.length posts.length)

/-- The search page. -/
def searchHtml : Text :=
  displayHtml "." [.leaf "<span class=\"term-tree-file\">search</span>"] "0 directories, 1 file"

/-- What a directory shows. -/
def sightHtml (posts : List Post) : Sight → Text
  | .root => rootHtml posts
  | .posts => filesHtml "posts/" (Post.inOrder .newestFirst posts)
  | .archives => archivesHtml posts
  | .search => searchHtml
  | .series => seriesHtml posts
  | .tags => tagsHtml posts
  | .file post => filesHtml "posts/" [post]
  | .ofSeries name => seriesPostsHtml posts name
  | .withTag name => filesHtml ("#" ++ escape name ++ "/") (Post.withTag posts name)

/-- The answer for a path that does not exist. -/
def notFoundHtml (typed : Text) : Text := errorHtml ("tree: '" ++ typed ++ "' not found")

/-- The answer for a directory, asked for as `typed`. -/
def answerHtml (posts : List Post) (typed dir : Text) : Text :=
  ((Sight.ofDirectory? posts dir).map (sightHtml posts)).getD (notFoundHtml typed)

/-- The output of `tree`. -/
def html (context : Context α) : Text :=
  let typed := context.arguments.head?.getD "."
  answerHtml context.posts typed (Path.resolve typed context.path)

end TreeView

/-! ## Posts and searches -/

namespace Preview

/-- The series of a post. -/
def seriesHtml (series : Text) : Text :=
  "<span class=\"text-term-fg-dark mx-2\">|</span><span class=\"text-term-purple\">" ++
    escape series ++ "</span>"

/-- A link to a tag. -/
def tagHtml (tag : Text) : Text :=
  "<a href=\"/tags/" ++ escape (slugOf tag) ++
    "\" class=\"text-term-purple hover:text-term-cyan\">#" ++ escape tag ++ "</a>"

/-- The parts of a post that may be missing. -/
def detailsHtml (post : Post) : Text :=
  partHtml post.description.isEmpty
    ("\n<p class=\"text-term-fg mb-3\">" ++ escape post.description ++ "</p>") ++
  partHtml post.body.isEmpty
    ("\n<div class=\"text-term-fg-dark text-sm mb-3 whitespace-pre-wrap\">" ++
      escape (excerpt post.body) ++ "</div>") ++
  partHtml post.tags.isEmpty
    ("\n<div class=\"mb-3\">" ++ [' '].intercalate (post.tags.map tagHtml) ++ "</div>")

/-- A post with the start of its body. -/
def cardHtml (post : Post) : Text :=
  let slug := escape post.slug
  "<div class=\"term-cat\">\n<div class=\"term-cat-header mb-2\">" ++
    "<span class=\"text-term-fg-dark\">---</span></div>\n<div class=\"term-cat-title mb-2\">" ++
    "<a href=\"/posts/" ++ slug ++
    "\" class=\"text-term-cyan hover:text-term-blue text-lg font-medium\">" ++ escape post.title ++
    "</a></div>\n<div class=\"term-cat-meta text-sm mb-3\"><span class=\"text-term-yellow\">" ++
    dateHtml post.date ++ "</span>" ++
    (post.series.elim [] seriesHtml) ++ "</div>" ++ detailsHtml post ++
    "\n<div class=\"mt-3\"><a href=\"/posts/" ++ slug ++
    "\" class=\"term-link\">[Read full post →]</a></div>\n<div class=\"term-cat-footer mt-2\">" ++
    "<span class=\"text-term-fg-dark\">---</span></div>\n</div>"

/-- The output of `cat`. -/
def html (context : Context α) : Text :=
  match context.arguments with
  | [] => errorHtml "cat: missing file operand"
  | requested :: _ =>
    match find? context.posts requested with
    | some post => cardHtml post
    | none => errorHtml ("cat: " ++ requested ++ ": No such file or directory")

end Preview

namespace Grep

/-- A tag, marked when it contains the pattern. -/
def tagHtml (ignoreCase : Bool) (pattern name : Text) : Text :=
  let classes : Text :=
    if Post.mentions ignoreCase pattern name then "term-grep-match" else "text-term-green"
  "<span class=\"" ++ classes ++ "\">#" ++ escape name ++ "</span>"

/-- A post that contains the pattern. -/
def entryHtml (ignoreCase : Bool) (pattern : Text) (post : Post) : Text :=
  "<div class=\"border-l-2 border-term-fg-dark pl-3\">\n" ++
    "<div class=\"flex items-center gap-2 flex-wrap\">" ++
    "<span class=\"text-term-purple\">./posts/</span><a href=\"/posts/" ++ escape post.slug ++
    "\" class=\"text-term-cyan hover:text-term-blue\">" ++
    highlightHtml ignoreCase pattern post.title ++ "</a></div>" ++
    partHtml post.description.isEmpty ("\n<div class=\"text-term-fg-dark text-sm mt-1\">" ++
      highlightHtml ignoreCase pattern post.description ++ "</div>") ++
    partHtml post.tags.isEmpty ("\n<div class=\"text-sm mt-1\">" ++
      [' '].intercalate (post.tags.map (tagHtml ignoreCase pattern)) ++ "</div>") ++
    "\n</div>"

/-- The posts found. -/
def foundHtml (ignoreCase : Bool) (pattern : Text) (posts : List Post) : Text :=
  let ending : Text := if posts.length = 1 then "" else "es"
  "<div class=\"text-term-fg-dark text-sm mb-3\">" ++ Text.ofNat posts.length ++ " match" ++
    ending ++ " for '" ++ escape pattern ++ "'</div>\n<div class=\"space-y-3\">" ++
    onLines (entryHtml ignoreCase pattern) posts ++ "\n</div>"

/-- The output of `grep`. -/
def html (context : Context α) : Text :=
  let pattern := context.joinedArguments
  let ignoreCase := CommandLine.hasSwitch context.flags 'i'
  if pattern.isEmpty then
    errorHtml "grep: missing pattern" ++ "\n" ++ hintHtml "Usage: grep [-i] pattern"
  else
    match Post.search ignoreCase pattern context.posts with
    | [] => errorHtml ("grep: no matches found for '" ++ pattern ++ "'")
    | posts => foundHtml ignoreCase pattern posts

end Grep

namespace Find

/-- A post that was found, on a line of its own. -/
def entryHtml (post : Post) : Text :=
  "\n<div><span class=\"text-term-purple\">./posts/</span><a href=\"/posts/" ++ escape post.slug ++
    "\" class=\"text-term-cyan hover:text-term-blue transition-colors\">" ++
    escape (Post.fileNameOf post.title) ++ "</a></div>"

/-- The posts that were found. -/
def foundHtml (posts : List Post) : Text :=
  "<div class=\"text-term-fg-dark text-sm mb-2\">" ++ Text.ofNat posts.length ++
    " file(s) found:</div>\n<div class=\"space-y-1\">" ++ posts.flatMap entryHtml ++ "\n</div>"

/-- The output of `find`. -/
def html (context : Context α) : Text :=
  let pattern := context.joinedArguments
  if pattern.isEmpty then foundHtml (Post.inOrder .newestFirst context.posts)
  else
    match Post.search true pattern context.posts with
    | [] => errorHtml ("find: no matches for '" ++ pattern ++ "'")
    | posts => foundHtml posts

end Find

/-! ## Help -/

namespace Manual

/-- The line of a command in the overview. -/
def entryHtml (command : Command α) : Text :=
  let aliases := partHtml command.aliases.isEmpty
    (" <span class=\"text-term-fg-dark text-xs\">(" ++ escape (aliasList command) ++ ")</span>")
  "<div class=\"grid grid-cols-[120px_1fr] gap-2\"><span class=\"text-term-green\">" ++
    escape (command.usage.getD command.name) ++ "</span><span class=\"text-term-fg-dark\">" ++
    escape command.description ++ aliases ++ "</span></div>"

/-- The lines of the tips below the overview. -/
def tipLinesHtml : List Text :=
  ["<div>Tips:</div>",
   "<div>• Use <span class=\"text-term-yellow\">help &lt;command&gt;</span>" ++
     " for detailed help on a specific command</div>",
   "<div>• Use <span class=\"text-term-yellow\">Tab</span> for auto-completion</div>",
   "<div>• Use <span class=\"text-term-yellow\">↑/↓</span> to navigate command history</div>",
   "<div>• Use <span class=\"text-term-yellow\">Ctrl+L</span> to clear screen</div>",
   "<div>• Click on any file/directory to interact with it</div>"]

/-- The tips below the overview. -/
def tipsHtml : Text :=
  "<div class=\"text-term-fg-dark text-sm mt-4\">\n" ++ ['\n'].intercalate tipLinesHtml ++
    "\n</div>"

/-- All commands by name. -/
def overviewHtml (registry : Registry α) : Text :=
  "<div class=\"space-y-4\">\n<div class=\"text-term-cyan font-medium\">" ++
    "Available Commands:</div>\n<div class=\"space-y-2 text-sm\">\n" ++
    ['\n'].intercalate (registry.list.map entryHtml) ++ "\n</div>\n" ++ tipsHtml ++ "\n</div>"

/-- The usage of a command, on a line of its own. -/
def usageHtml (usage : Text) : Text :=
  "\n<div><span class=\"text-term-fg-dark\">Usage:</span> <span class=\"text-term-green\">" ++
    escape usage ++ "</span></div>"

/-- All about one command. -/
def detailsHtml (command : Command α) : Text :=
  "<div class=\"space-y-2\">\n<div><span class=\"text-term-cyan font-medium\">" ++
    escape command.name ++ "</span> — " ++ escape command.description ++ "</div>" ++
    command.usage.elim [] usageHtml ++
    partHtml command.aliases.isEmpty ("\n<div><span class=\"text-term-fg-dark\">Aliases:</span> " ++
      "<span class=\"text-term-yellow\">" ++ escape (aliasList command) ++ "</span></div>") ++
    "\n</div>"

/-- The answer about the command called `name`, which is in lowercase. -/
def aboutHtml (registry : Registry α) (name : Text) : Text :=
  match registry.get? name with
  | some command => detailsHtml command
  | none =>
    errorHtml ("help: no help for '" ++ name ++ "'") ++ "\n" ++
      hintHtml "Type 'help' for available commands."

/-- The output of `help`. -/
def html (context : Context α) : Text :=
  match context.arguments with
  | [] => overviewHtml context.registry
  | name :: _ => aboutHtml context.registry name.lower

end Manual

/-! ## Navigation -/

namespace Navigation

/-- The note on the way to a series. -/
def seriesHtml (name : Text) : Text := hintHtml ("Navigating to series: " ++ name ++ "...")

/-- The answer for a path that does not exist. -/
def notFoundHtml (typed : Text) : Text := errorHtml ("cd: no such file or directory: " ++ typed)

/-- The answer for a directory, asked for as `typed`. -/
def directoryHtml (posts : List Post) (typed dir : Text) : Text :=
  match Page.ofDirectory? dir with
  | some .root => []
  | some (.post _) => notFoundHtml typed
  | some (.seriesItem name) =>
    ((Post.findSeries? posts name).map seriesHtml).getD (notFoundHtml typed)
  | some (.tagItem name) =>
    match Post.findTag? posts name with
    | some tag => hintHtml ("Navigating to tag: #" ++ tag ++ "...")
    | none => notFoundHtml typed
  | some page => hintHtml ("Navigating to " ++ page.url ++ "...")
  | none => ((Post.findSeries? posts dir).map seriesHtml).getD (notFoundHtml typed)

/-- The answer for the argument `typed` at a prompt path. Nothing is shown on the way to the root or
to the parent. -/
def answerHtml (posts : List Post) (typed path : Text) : Text :=
  let token := typed.dropEndWhile (· == '/')
  if token = "~" ∨ token = [] then []
  else if token = ".." then []
  else
    let dir := Path.resolve token path
    match Post.find? posts (slugIn dir) with
    | some post => hintHtml ("Opening " ++ post.title ++ "...")
    | none => directoryHtml posts typed dir

/-- The output of `cd`. -/
def html (context : Context α) : Text :=
  answerHtml context.posts (context.arguments.head?.getD "~") context.path

end Navigation

/-! ## Themes and identity -/

namespace Appearance

/-- A theme to choose. -/
def choiceHtml (theme : Theme) : Text :=
  "<span class=\"text-term-green cursor-pointer hover:underline\" data-cmd=\"theme " ++
    theme.name ++ "\">" ++ theme.name ++ "</span>"

/-- The active theme and the themes to choose from. -/
def currentHtml (name : Text) : Text :=
  "<div class=\"text-term-fg\">\n  <div>Current theme: <span class=\"text-term-yellow\">" ++
    escape name ++ "</span></div>\n  <div class=\"mt-2\">Available themes:</div>\n" ++
    "  <div class=\"flex flex-wrap gap-2 mt-1\">" ++
    [' '].intercalate (Theme.all.map choiceHtml) ++ "</div>\n</div>"

/-- The note that a theme was taken. -/
def switchHtml (theme : Theme) : Text :=
  "<span class=\"text-term-green\">Theme switched to '" ++ theme.name ++ "'</span>"

/-- The answer for a name that no theme has. -/
def unknownHtml (name : Text) : Text :=
  errorHtml ("Theme '" ++ name ++ "' not found.") ++
    "\n<div class=\"text-term-fg-dark mt-1\">Available themes: " ++
    ", ".toList.intercalate (Theme.all.map Theme.name) ++ "</div>"

/-- The output of `theme`. -/
def html (context : Context α) : Text :=
  match context.arguments with
  | [] => currentHtml context.themeName
  | typed :: _ =>
    match Theme.ofName? typed with
    | some theme => switchHtml theme
    | none => unknownHtml (Theme.wanted typed)

end Appearance

namespace Identity

/-- A blue text. -/
def blueHtml (text : Text) : Text := "<span class=\"text-term-blue\">" ++ escape text ++ "</span>"

/-- The user and the host, the user in the given colour. -/
def userAtHostHtml (profile : Profile) (classes : Text) : Text :=
  "<span class=\"" ++ classes ++ "\">" ++ escape profile.user ++
    "</span>@<span class=\"text-term-purple\">" ++ escape profile.host ++ "</span>"

/-- What `echo` prints for its arguments. -/
def echoHtml (context : Context α) : Text :=
  let text := context.joinedArguments
  if text = "$USER" ∨ text = "$user" then
    "<span class=\"text-term-green\">" ++ escape context.profile.user ++ "</span>"
  else if text = "$PWD" ∨ text = "$pwd" then blueHtml (workingDirectory context)
  else if text = "$HOME" ∨ text = "$home" then blueHtml context.profile.home
  else if text = "$SHELL" ∨ text = "$shell" then
    "<span class=\"text-term-fg\">" ++ escape context.profile.shell ++ "</span>"
  else "<span class=\"text-term-fg\">" ++ escape text ++ "</span>"

/-- The reading of the clock. -/
def clockHtml (clock : Clock) : Text :=
  "<span class=\"text-term-yellow\">" ++ clock.toText ++ "</span>"

/-- A fact of the system. -/
def factHtml (label value : Text) : Text :=
  "<div><span class=\"text-term-green\">" ++ label ++ ":</span> <span class=\"text-term-fg\">" ++
    escape value ++ "</span></div>"

/-- The facts of the system beside its picture. -/
def systemHtml (context : Context α) : Text :=
  let rows := [factHtml "OS" "Blog Shell",
    factHtml "Host" context.profile.site,
    factHtml "Shell" context.profile.shell,
    factHtml "Theme" context.themeName,
    factHtml "Posts" (Text.ofNat context.posts.length),
    factHtml "Series" (Text.ofNat (Post.seriesNames context.posts).length),
    factHtml "Tags" (Text.ofNat (Post.allTags context.posts).length)]
  "<div class=\"flex gap-6 items-start flex-wrap\">\n" ++
    "<pre class=\"text-term-cyan text-xs leading-tight\">" ++ escape logo ++
    "</pre>\n<div class=\"text-sm space-y-1\">\n<div>" ++
    userAtHostHtml context.profile "text-term-cyan" ++
    "</div>\n<div class=\"text-term-fg-dark\">-----------</div>\n" ++ ['\n'].intercalate rows ++
    "\n</div>\n</div>"

end Identity

/-! ## All commands -/

namespace History

/-- The answer when there is nothing to list. -/
def nothingHtml : Text := hintHtml "No commands in history"

/-- A line with its number. -/
def entryHtml (number : Nat) (line : Text) : Text :=
  "\n<div><span class=\"text-term-fg-dark\">" ++ (Text.ofNat number).leftpad 4 ' ' ++
    "</span>  <span class=\"text-term-fg\">" ++ escape line ++ "</span></div>"

/-- The last lines of a history, numbered from its start. -/
def html (history : List Text) : Text :=
  if history.isEmpty then nothingHtml
  else
    let hidden := history.length - shownLimit
    let entries := (history.drop hidden).mapIdx fun index line =>
      entryHtml (hidden + index + 1) line
    "<div class=\"space-y-1\">" ++ entries.flatten ++ "\n</div>"

end History

namespace Builtin

/-- The output of a command in a context. -/
def html (builtin : Builtin) (context : Context α) : Text :=
  match builtin with
  | ls => Listing.html context
  | cd => Navigation.html context
  | cat => Preview.html context
  | grep => Grep.html context
  | tree => TreeView.html context
  | find => Find.html context
  | help => Manual.html context
  | theme => Appearance.html context
  | history => History.nothingHtml
  | pwd => Identity.blueHtml (Identity.workingDirectory context)
  | whoami => Identity.userAtHostHtml context.profile "text-term-green"
  | date => Identity.clockHtml context.clock
  | echo => Identity.echoHtml context
  | clear => []
  | exit => hintHtml "Nice try! Refresh the page to start over."
  | superuser => errorHtml "Permission denied. Nice try though!"
  | rm => errorHtml "rm: cannot remove: Read-only file system"
  | editor => hintHtml "Editor not available. Try reading with `cat` instead!"
  | neofetch => Identity.systemHtml context

end Builtin

/-- The output for a command that is not there. -/
def Call.unknownHtml (call : Call) : Text :=
  errorHtml ("command not found: " ++ call.name) ++ "\n" ++
    hintHtml "Type 'help' for available commands."

end BlogTerminal
