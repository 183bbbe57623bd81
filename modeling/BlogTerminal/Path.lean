import BlogTerminal.Text.Basic
import BlogTerminal.Text.Lowercase

/-!
The two written forms of a place in the blog. A prompt path starts with a tilde, `~` or
`~/series/learning-go`; a directory is the same place without the tilde and without outer slashes,
`series/learning-go`, and the empty text for the root.
-/

namespace BlogTerminal

namespace Path

/-- The non-empty segments of a path. -/
def segments (path : Text) : List Text := path.pieces (· == '/')

/-- The segments with single slashes between them. -/
def join (parts : List Text) : Text := ['/'].intercalate parts

/-- The directory that a prompt path shows. -/
def directory (prompt : Text) : Text := join (segments (prompt.dropStart "~"))

/-- The directory above `dir`; the root is above itself. -/
def parent (dir : Text) : Text := join (segments dir).dropLast

/-- The prompt path of a directory. -/
def prompt (dir : Text) : Text :=
  let inside := directory dir
  if inside.isEmpty then "~" else "~/" ++ inside

end Path

/-! ## Resolving a token

Resolving a path typed by the user against the current prompt path. Tokens that start with a dot
segment are walked from the current directory; every other token is taken from the root as typed,
so that a bare slug stays a bare slug.
-/

namespace Path

/-- The segments reached from `here` by one segment of a relative path. -/
def step (here : List Text) (segment : Text) : List Text :=
  if segment = [] ∨ segment = "." then here
  else if segment = ".." then here.dropLast
  else here ++ [segment]

/-- The directory reached from `start` by the segments of `relative`. -/
def walk (start relative : Text) : Text := join ((relative.splitOn '/').foldl step (segments start))

/-- The token is walked from the current directory. -/
def isRelative (token : Text) : Bool := "./".toList <+: token || "../".toList <+: token

/-- What the token denotes before the outer tildes and slashes are dropped. -/
def denoted (token current : Text) : Text :=
  if token = [] ∨ token = "." then current
  else if token = ".." then parent current
  else if token = "~" ∨ token = "/" then []
  else if isRelative token then walk current token
  else token

/-- The directory that `token` names when the prompt shows `current`. It never starts with a tilde
or a slash and never ends with a slash. -/
def resolve (token current : Text) : Text :=
  Text.dropEndWhile (· == '/')
    ((denoted token (directory current)).dropWhile fun c => c == '~' || c == '/')

end Path

/-! ## Pages

The pages of the blog. A page has a directory, a URL and a prompt path; reading a directory or a
URL gives the page back. The names of the fixed directories are read in any case, while the name
of a post, a series or a tag is kept as written.
-/

/-- A page of the blog. -/
inductive Page where
  | root
  | archives
  | search
  | posts
  | post (slug : Text)
  | series
  | seriesItem (name : Text)
  | tags
  | tagItem (name : Text)
  deriving DecidableEq

namespace Page

/-- The directories at the root, in listing order. -/
def topLevel : List Text := ["archives", "posts", "search", "series", "tags"]

/-- A file name without its `.md` ending. -/
def withoutExtension (name : Text) : Text := name.dropEnding ".md"

/-- The page below the fixed directory `first` at the segments `rest`. -/
def below? (first : Text) (rest : List Text) : Option Page :=
  match rest with
  | [] =>
    if first = "archives" then some archives
    else if first = "search" then some search
    else if first = "posts" then some posts
    else if first = "series" then some series
    else if first = "tags" then some tags
    else none
  | [name] =>
    if first = "posts" then some (post (withoutExtension name))
    else if first = "series" then some (seriesItem name)
    else if first = "tags" then some (tagItem name)
    else none
  | _ => none

/-- The page that a directory denotes. -/
def ofDirectory? (dir : Text) : Option Page :=
  match Path.segments (dir.dropWhile (· == '~')) with
  | [] => some root
  | first :: rest => below? first.lower rest

/-- The page at a URL of the site; a query and a fragment are ignored. -/
def ofUrl? (url : Text) : Option Page := ofDirectory? (url.takeWhile fun c => c != '?' && c != '#')

/-- The directory of a page. -/
def directory : Page → Text
  | root => []
  | archives => "archives"
  | search => "search"
  | posts => "posts"
  | post slug => "posts/" ++ slug
  | series => "series"
  | seriesItem name => "series/" ++ name
  | tags => "tags"
  | tagItem name => "tags/" ++ name

/-- The URL of a page. -/
def url (page : Page) : Text := '/' :: page.directory

/-- The prompt path of a page. -/
def promptPath (page : Page) : Text := Path.prompt page.directory

end Page

end BlogTerminal
