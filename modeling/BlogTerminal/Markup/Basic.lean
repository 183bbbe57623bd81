import BlogTerminal.Text.Basic

/-!
Markup is a forest of text and elements, and every output of the terminal stands for such a forest.
In the written form that is produced here what is text stays text and every element is closed.
-/

namespace BlogTerminal.Markup

/-! ## Entities

Character entities. Escaping replaces the five characters that mean something in markup, so an
escaped text can stand between tags and inside a quoted attribute value; unescaping reads the
entities back in one pass from left to right.
-/

/-- The written form of a character between tags or inside a quoted attribute value. -/
def escapeChar (c : Char) : Text :=
  if c = '&' then "&amp;"
  else if c = '<' then "&lt;"
  else if c = '>' then "&gt;"
  else if c = '"' then "&quot;"
  else if c = '\'' then "&#039;"
  else [c]

/-- The written form of a text between tags or inside a quoted attribute value. -/
def escape (text : Text) : Text := text.flatMap escapeChar

/-- The written form of a character between tags where quotes stand for themselves. -/
def escapeProseChar (c : Char) : Text := if c = '"' ∨ c = '\'' then [c] else escapeChar c

/-- The written form of a text between tags where quotes stand for themselves. -/
def escapeProse (text : Text) : Text := text.flatMap escapeProseChar

/-- The text that a written form stands for. An ampersand that begins no known entity stands for
itself. -/
def unescape : Text → Text
  | '&' :: 'l' :: 't' :: ';' :: rest => '<' :: unescape rest
  | '&' :: 'g' :: 't' :: ';' :: rest => '>' :: unescape rest
  | '&' :: 'q' :: 'u' :: 'o' :: 't' :: ';' :: rest => '"' :: unescape rest
  | '&' :: '#' :: '0' :: '3' :: '9' :: ';' :: rest => '\'' :: unescape rest
  | '&' :: '#' :: '3' :: '9' :: ';' :: rest => '\'' :: unescape rest
  | '&' :: 'a' :: 'm' :: 'p' :: ';' :: rest => '&' :: unescape rest
  | c :: rest => c :: unescape rest
  | [] => []

/-! ## Nodes -/

/-- The elements that occur in output. -/
inductive Tag where
  | div
  | span
  | a
  | p
  | pre
  deriving DecidableEq

/-- The name of an element. -/
def Tag.name : Tag → Text
  | div => "div"
  | span => "span"
  | a => "a"
  | p => "p"
  | pre => "pre"

/-- An attribute with its value. -/
inductive Attribute where
  /-- The style classes. -/
  | style (classes : Text)
  /-- The page a link leads to. -/
  | href (url : Text)
  /-- The command line that a click runs. -/
  | command (line : Text)
  deriving DecidableEq

/-- The name of an attribute. -/
def Attribute.name : Attribute → Text
  | style _ => "class"
  | href _ => "href"
  | command _ => "data-cmd"

/-- The value of an attribute. -/
def Attribute.value : Attribute → Text
  | style classes => classes
  | href url => url
  | command line => line

/-- A piece of markup. -/
inductive Node where
  /-- Text of any origin. -/
  | text (content : Text)
  /-- Fixed wording, in which quotes are written as they are. -/
  | prose (content : Text)
  | element (tag : Tag) (attributes : List Attribute) (children : List Node)

/-- The written form of an attribute, with the space before it. -/
def Attribute.render (item : Attribute) : Text :=
  " " ++ item.name ++ "=\"" ++ escape item.value ++ "\""

/-- The written form of an opening tag. -/
def Tag.opening (tag : Tag) (attributes : List Attribute) : Text :=
  "<" ++ tag.name ++ attributes.flatMap Attribute.render ++ ">"

/-- The written form of a closing tag. -/
def Tag.closing (tag : Tag) : Text := "</" ++ tag.name ++ ">"

mutual

/-- The written form of a piece of markup. -/
def Node.render : Node → Text
  | .text content => escape content
  | .prose content => escapeProse content
  | .element tag attributes children => tag.opening attributes ++ render children ++ tag.closing

/-- The written form of a forest. -/
def render : List Node → Text
  | [] => []
  | node :: rest => node.render ++ render rest

end

/-! ### Building blocks of output -/

/-- A line break between two pieces of markup. -/
def newline : Node := .prose ['\n']

/-- The pieces with a line break after each of them but the last. -/
def joinLines (nodes : List Node) : List Node := nodes.intersperse newline

/-- The pieces with a line break before each of them. -/
def onNewLines (nodes : List Node) : List Node := nodes.flatMap fun node => [newline, node]

/-- The pieces with one space between them. -/
def joinSpaced (nodes : List Node) : List Node := nodes.intersperse (.text [' '])

/-- An element with style classes. -/
def styled (tag : Tag) (classes : Text) (children : List Node) : Node :=
  .element tag [.style classes] children

/-- A styled span of text. -/
def span (classes content : Text) : Node := styled .span classes [.text content]

/-- A styled `div`. -/
def div (classes : Text) (children : List Node) : Node := styled .div classes children

/-- A `div` without style. -/
def row (children : List Node) : Node := .element .div [] children

/-- A link. -/
def link (url classes : Text) (children : List Node) : Node :=
  .element .a [.href url, .style classes] children

/-- A span that runs a command when it is clicked. -/
def button (classes line content : Text) : Node :=
  .element .span [.style classes, .command line] [.text content]

/-- A link that also carries a command. -/
def commandLink (url classes line content : Text) : Node :=
  .element .a [.href url, .style classes, .command line] [.text content]

/-- A dimmed remark in small letters. -/
def note (content : Text) : Node := span "text-term-fg-dark text-sm" content

/-- A red line with the cause of an error. -/
def errorLine (message : Text) : Node := span "text-term-red" message

/-- A dimmed line with a hint. -/
def hintLine (message : Text) : Node := span "text-term-fg-dark" message

end BlogTerminal.Markup
