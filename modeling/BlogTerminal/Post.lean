import BlogTerminal.Date
import BlogTerminal.Json
import BlogTerminal.Text.Basic
import BlogTerminal.Text.Lowercase

/-!
Posts, and the names derived from them: slugs of series and tags, which are single path segments,
and file names made from titles.
-/

namespace BlogTerminal

/-- The slug of a series or tag: its lowercase words, separated by blanks or slashes, with dashes
between them. -/
def slugOf (name : Text) : Text :=
  ['-'].intercalate (name.lower.pieces fun c => Text.isBlank c || c == '/')

/-- A published post. -/
structure Post where
  slug : Text
  title : Text
  description : Text
  /-- The date of publication as written. -/
  date : Text
  tags : List Text
  series : Option Text
  body : Text
  deriving DecidableEq

namespace Post

/-- The moment of publication, if the date can be read. -/
def published (post : Post) : Option Moment := Moment.ofText? post.date

/-- The year of publication. -/
def year (post : Post) : Option Int := post.published.map (·.date.year)

/-- The URL of the post's page. -/
def url (post : Post) : Text := "/posts/" ++ post.slug

/-- The file name in listings. -/
def fileName (post : Post) : Text := post.slug ++ ".md"

/-- The slug of the series that the post belongs to. -/
def seriesSlug (post : Post) : Option Text := post.series.map slugOf

/-- Some tag of the post has the same slug as `name`. -/
def hasTag (post : Post) (name : Text) : Bool := post.tags.any fun tag => slugOf tag = slugOf name

/-- A written date in the form of listings; one that cannot be read is shown as written. -/
def listedDate (date : Text) : Text :=
  match Moment.ofText? date with
  | some moment => moment.date.listed
  | none => date

/-- The longest file name made from a title, without its ending. -/
def titleLimit : Nat := 45

/-- The characters of a lowercase title that stay in a file name. A run of blanks becomes a dash;
`inBlanks` says that the dash of the current run has been written. -/
def dashedFrom : (inBlanks : Bool) → Text → Text
  | _, [] => []
  | inBlanks, c :: rest =>
    if Text.isBlank c then
      if inBlanks then dashedFrom true rest else '-' :: dashedFrom true rest
    else if c.isLower || c.isDigit || c == '-' then c :: dashedFrom false rest
    else dashedFrom inBlanks rest

/-- The file name made from a title: its ASCII letters, digits and dashes in lowercase, with a dash
for each run of blanks. -/
def fileNameOf (title : Text) : Text := (dashedFrom false title.lower).take titleLimit ++ ".md"

end Post

/-! ## Order and groups

Posts in order of publication, and in groups by series and by year. Posts published at the same
moment keep the order of the collection, and a post without a readable date counts as older than all
others.
-/

/-- The two directions in which posts are listed. -/
inductive Order where
  | newestFirst
  | oldestFirst
  deriving DecidableEq

namespace Post

/-- The fields by which posts are ordered; a post without a readable date has none. -/
def rank (post : Post) : List Int := (post.published.map Moment.rank).getD []

/-- The posts in order of publication. -/
def inOrder (order : Order) (posts : List Post) : List Post :=
  match order with
  | .oldestFirst => posts.mergeSort fun a b => !decide (b.rank < a.rank)
  | .newestFirst => posts.mergeSort fun a b => !decide (a.rank < b.rank)

/-- The names of the series, in ascending order. -/
def seriesNames (posts : List Post) : List Text := Text.sortedSet (posts.filterMap (·.series))

/-- The posts of a series, in collection order. -/
def inSeries (posts : List Post) (name : Text) : List Post := posts.filter (·.series = some name)

/-- The series with their posts, by name. -/
def bySeries (posts : List Post) : List (Text × List Post) :=
  (seriesNames posts).map fun name => (name, inSeries posts name)

/-- A post put in front of years with their posts: into the first bucket when that is its year,
and else into a bucket of its own. -/
def addToYears (post : Post) : List (Option Int × List Post) → List (Option Int × List Post)
  | (year, posts) :: rest =>
    if post.year = year then (year, post :: posts) :: rest
    else (post.year, [post]) :: (year, posts) :: rest
  | [] => [(post.year, [post])]

/-- The years of publication with their posts, both newest first; undated posts come last. -/
def byYear (posts : List Post) : List (Option Int × List Post) :=
  (inOrder .newestFirst posts).foldr addToYears []

end Post

/-! ## Look-ups

Posts are looked up by slug and by text, series and tags by slug, and each tag is counted.
-/

namespace Post

/-- The distinct tags in ascending order. -/
def allTags (posts : List Post) : List Text := Text.sortedSet (posts.flatMap (·.tags))

/-- The counts with one more occurrence of `tag`; a tag seen for the first time goes to the end. -/
def countTag : List (Text × Nat) → Text → List (Text × Nat)
  | [], tag => [(tag, 1)]
  | (name, count) :: rest, tag =>
    if name = tag then (name, count + 1) :: rest else (name, count) :: countTag rest tag

/-- How often each tag occurs, in order of first appearance. -/
def tagCounts (posts : List Post) : List (Text × Nat) := (posts.flatMap (·.tags)).foldl countTag []

/-- How often each tag occurs, the most frequent first; ties keep the order of first appearance. -/
def tagsByCount (posts : List Post) : List (Text × Nat) :=
  (tagCounts posts).mergeSort fun a b => decide (b.2 ≤ a.2)

/-- A text as it is compared in a search. -/
def searchForm (ignoreCase : Bool) (text : Text) : Text := if ignoreCase then text.lower else text

/-- `text` contains `pattern` as they are compared in a search. -/
def mentions (ignoreCase : Bool) (pattern text : Text) : Bool :=
  (searchForm ignoreCase pattern).isInfixOf (searchForm ignoreCase text)

/-- Some part of the post contains the pattern. -/
def isMatch (ignoreCase : Bool) (pattern : Text) (post : Post) : Bool :=
  mentions ignoreCase pattern post.title || mentions ignoreCase pattern post.description ||
    post.tags.any (mentions ignoreCase pattern) || mentions ignoreCase pattern post.body ||
    post.series.any (mentions ignoreCase pattern)

/-- The posts that contain the pattern, in collection order. -/
def search (ignoreCase : Bool) (pattern : Text) (posts : List Post) : List Post :=
  posts.filter (isMatch ignoreCase pattern)

/-- The first post with the slug, in any case. -/
def find? (posts : List Post) (slug : Text) : Option Post :=
  posts.find? fun post => post.slug.lower = slug.lower

/-- The first series with the same slug as `name`. -/
def findSeries? (posts : List Post) (name : Text) : Option Text :=
  (seriesNames posts).find? fun series => slugOf series = slugOf name

/-- The first tag with the same slug as `name`. -/
def findTag? (posts : List Post) (name : Text) : Option Text :=
  (allTags posts).find? fun tag => slugOf tag = slugOf name

/-- The posts with a tag, newest first. -/
def withTag (posts : List Post) (name : Text) : List Post :=
  inOrder .newestFirst (posts.filter (·.hasTag name))

/-- The posts of a series in reading order, oldest first. -/
def ofSeries (posts : List Post) (name : Text) : List Post :=
  inOrder .oldestFirst (inSeries posts name)

end Post

/-! ## Reading a collection

A collection is read from JSON. A post is an object with named fields, or an array with the same
fields in order; fields that are not known are skipped. A collection is accepted when every post has
a slug of its own.
-/

/-- Why a collection of posts is refused. What exactly is wrong with a text that is none is left
out. -/
inductive CollectionError where
  /-- The text is not a JSON array of posts. -/
  | malformed
  /-- Two posts share a slug. -/
  | duplicateSlug (slug : Text)
  /-- The post with this title has a blank slug. -/
  | emptySlug (title : Text)
  deriving DecidableEq

/-- The wording of an error. -/
def CollectionError.message : CollectionError → Text
  | malformed => "failed to parse posts"
  | duplicateSlug slug => "duplicate post slug '" ++ slug ++ "'"
  | emptySlug title => "post '" ++ title ++ "' has an empty slug"

namespace Post

open Json (Value)

/-- The text of a string, or nothing for a null. -/
def optionalText? : Value → Option (Option Text)
  | .null => some none
  | value => value.text?.map some

/-- The value of a field that must be there, and only once. -/
def required? {α : Type} (members : List (Text × Value)) (name : Text) (read : Value → Option α) :
    Option α :=
  match members.filter (·.1 = name) with
  | [(_, value)] => read value
  | _ => none

/-- The value of a field that may be there once, or its default. -/
def optional? {α : Type} (members : List (Text × Value)) (name : Text) (read : Value → Option α)
    (default : α) : Option α :=
  match members.filter (·.1 = name) with
  | [] => some default
  | [(_, value)] => read value
  | _ => none

/-- The post with the given fields. -/
def ofMembers? (members : List (Text × Value)) : Option Post := do
  let slug ← required? members "slug" Value.text?
  let title ← required? members "title" Value.text?
  let description ← optional? members "description" Value.text? []
  let date ← required? members "date" Value.text?
  let tags ← optional? members "tags" Value.texts? []
  let series ← optional? members "series" optionalText? none
  let body ← optional? members "body" Value.text? []
  pure ⟨slug, title, description, date, tags, series, body⟩

/-- The post whose fields are the items of an array; the last three may be missing. -/
def ofItems? : List Value → Option Post
  | slug :: title :: description :: date :: rest => do
    if rest.length > 3 then failure
    let tags ← (rest[0]?.map Value.texts?).getD (some [])
    let series ← (rest[1]?.map optionalText?).getD (some none)
    let body ← (rest[2]?.map Value.text?).getD (some [])
    pure ⟨← slug.text?, ← title.text?, ← description.text?, ← date.text?, tags, series, body⟩
  | _ => none

/-- A member of an object with its key decoded. -/
def decodeKey? (member : Text × Value) : Option (Text × Value) :=
  (Json.decode member.1).map fun key => (key, member.2)

/-- The post that a JSON value describes. -/
def ofJson? : Value → Option Post
  | .object members => (members.mapM decodeKey?).bind ofMembers?
  | .array items => ofItems? items
  | _ => none

/-- The posts that a JSON text describes. -/
def listOfText? (text : Text) : Option (List Post) :=
  match Value.ofText? text with
  | some (.array items) => items.mapM ofJson?
  | _ => none

/-- Every post has a slug that is not blank and that is not among those before it. -/
def checkSlugs : (seen : List Text) → List Post → Except CollectionError Unit
  | _, [] => pure ()
  | seen, post :: rest =>
    if post.slug.trim.isEmpty then throw (.emptySlug post.title)
    else if post.slug ∈ seen then throw (.duplicateSlug post.slug)
    else checkSlugs (post.slug :: seen) rest

/-- The collection that a JSON text describes. -/
def collectionOfText (text : Text) : Except CollectionError (List Post) :=
  match listOfText? text with
  | none => throw .malformed
  | some posts => (checkSlugs [] posts).map fun _ => posts

end Post

end BlogTerminal
