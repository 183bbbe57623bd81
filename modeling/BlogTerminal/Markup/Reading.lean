import BlogTerminal.Markup.Basic
import BlogTerminal.Text.Basic
import BlogTerminal.Text.Word

/-!
What is read back out of written markup: its plain text, and its clickable elements.
-/

namespace BlogTerminal.Markup

/-! ## Plain text

The plain text of written markup, for a screen that shows lines. The end of a block breaks the
line, tags disappear, entities are read back, and blank lines are dropped.
-/

/-- The texts agree up to the case of ASCII letters. -/
def sameIgnoringCase (a b : Text) : Bool := a.map Char.toLower == b.map Char.toLower

/-- `text` begins with `start`, which is in lowercase, up to the case of ASCII letters. -/
def startsIgnoringCase (text start : Text) : Bool := sameIgnoringCase (text.take start.length) start

/-- The length of a break tag behind its letters: blanks, a slash that may be missing, and `>`. -/
def breakTagEnd? (text : Text) : Option Nat :=
  let blanks := text.takeWhile Text.isBlank
  match text.drop blanks.length with
  | '/' :: '>' :: _ => some (blanks.length + 2)
  | '>' :: _ => some (blanks.length + 1)
  | _ => none

/-- The length of the line-breaking tag at the front of the text, if there is one: the end of a
`div`, `p` or `pre`, or a break tag. -/
def lineBreak? (text : Text) : Option Nat :=
  if startsIgnoringCase text "</div>" then some 6
  else if startsIgnoringCase text "</p>" then some 4
  else if startsIgnoringCase text "</pre>" then some 6
  else if startsIgnoringCase text "<br" then (breakTagEnd? (text.drop 3)).map (3 + ·)
  else none

/-- The text with each line-breaking tag replaced by a line feed; the first `skip` characters
belong to a tag that has been replaced. -/
def breakLinesFrom : (skip : Nat) → Text → Text
  | _, [] => []
  | skip + 1, _ :: rest => breakLinesFrom skip rest
  | 0, c :: rest =>
    match lineBreak? (c :: rest) with
    | some length => '\n' :: breakLinesFrom (length - 1) rest
    | none => c :: breakLinesFrom 0 rest

/-- The text with each line-breaking tag replaced by a line feed. -/
def breakLines (text : Text) : Text := breakLinesFrom 0 text

/-- The text without its tags; `inTag` says that it begins inside one. A `<` that no `>` follows
is no tag. -/
def dropTagsFrom : (inTag : Bool) → Text → Text
  | _, [] => []
  | true, c :: rest => dropTagsFrom (c != '>') rest
  | false, c :: rest =>
    if c = '<' ∧ '>' ∈ rest then dropTagsFrom true rest else c :: dropTagsFrom false rest

/-- The text without its tags. -/
def dropTags (text : Text) : Text := dropTagsFrom false text

/-- The lines of a text without the blanks at their ends, those with something in them. -/
def inkedLines (text : Text) : List Text :=
  ((text.splitOn '\n').map Text.trimEnd).filter (!·.isEmpty)

/-- The plain text of written markup. -/
def plain (written : Text) : Text :=
  ['\n'].intercalate (inkedLines (unescape (dropTags (breakLines written))))

/-! ## Clickable elements

Reading the clickable elements back out of written markup. An opening tag is a `<`, letters that
end at a word boundary, and anything up to the next `>`; an element is clickable when one of its
attributes is a command.
-/

/-- An element that does something when it is clicked. -/
structure Clickable where
  /-- The command line that it carries. -/
  command : Text
  /-- The page that it leads to, for a link. -/
  href : Option Text
  deriving DecidableEq

/-- Where a scan for opening tags stands. -/
inductive TagScan where
  /-- Between tags. -/
  | outside
  /-- Behind a `<` and the letters of a name. -/
  | name (letters : Text)
  /-- Behind a name and some of what follows it. -/
  | attributes (name content : Text)

/-- A letter of a tag name. -/
def isTagLetter (c : Char) : Bool := c.isAlpha

/-- The scan behind the character `c`, when no tag is open before it. -/
def TagScan.restart (c : Char) : TagScan := if c = '<' then .name [] else .outside

/-- The opening tags of a text as pairs of a name and what follows it, from a given point on. -/
def openingTagsFrom : TagScan → Text → List (Text × Text)
  | _, [] => []
  | .outside, c :: rest => openingTagsFrom (.restart c) rest
  | .name letters, c :: rest =>
    if isTagLetter c then openingTagsFrom (.name (letters ++ [c])) rest
    else if letters.isEmpty || Text.isWord c then openingTagsFrom (.restart c) rest
    else if c = '>' then (letters, []) :: openingTagsFrom .outside rest
    else openingTagsFrom (.attributes letters [c]) rest
  | .attributes name content, c :: rest =>
    if c = '>' then (name, content) :: openingTagsFrom .outside rest
    else openingTagsFrom (.attributes name (content ++ [c])) rest

/-- The opening tags of a text as pairs of a name and what follows it. -/
def openingTags (text : Text) : List (Text × Text) := openingTagsFrom .outside text

/-- The text up to the next quotation mark, if there is one. -/
def quoted? (text : Text) : Option Text :=
  if '"' ∈ text then some (text.takeWhile (· != '"')) else none

/-- The written value of the attribute `name`, when the text begins with it. -/
def valueAt? (name text : Text) : Option Text := (text.after? (name ++ "=\"")).bind quoted?

/-- The first written value of the attribute `name`; `inWord` says that the text continues a
word, so that no name can begin at its front. -/
def valueFrom? (name : Text) : (inWord : Bool) → Text → Option Text
  | _, [] => none
  | inWord, c :: rest =>
    match if inWord then none else valueAt? name (c :: rest) with
    | some value => some value
    | none => valueFrom? name (Text.isWord c) rest

/-- The first written value of the attribute `name` in what follows a tag name. -/
def valueOf? (name content : Text) : Option Text := valueFrom? name false content

/-- The clickable element that an opening tag begins, if it carries a command. -/
def clickable? (tag : Text × Text) : Option Clickable :=
  (valueOf? "data-cmd" tag.2).map fun command =>
    let isLink := tag.1 = "a" ∨ tag.1 = "A"
    let href := if isLink then (valueOf? "href" tag.2).map unescape else none
    ⟨unescape command, href.filter (!·.isEmpty)⟩

/-- The clickable elements of written markup, in order. -/
def clickables (written : Text) : List Clickable := (openingTags written).filterMap clickable?

end BlogTerminal.Markup
