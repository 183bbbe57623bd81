import BlogTerminal.Markup.Basic
import BlogTerminal.Text.Lowercase

/-!
Marking the occurrences of a pattern in a text. The occurrences are found from left to right and
do not overlap; case is ignored letter by letter, through simple case folding.

The search runs two automata over the bytes of the text, one that finds where an occurrence ends and
one that goes back from there to where it starts. Neither may take more than a fixed number of
bytes, so a pattern can be too long to be searched for; then no text is marked.
-/

namespace BlogTerminal.Markup

/-- The characters count as equal in a search. -/
def matchesChar (ignoreCase : Bool) (a b : Char) : Bool :=
  if ignoreCase then Text.foldChar a == Text.foldChar b else a == b

/-- The text begins with an occurrence of the pattern. -/
def startsWithMatch (ignoreCase : Bool) : (pattern text : Text) → Bool
  | [], _ => true
  | _ :: _, [] => false
  | a :: pattern, b :: text => matchesChar ignoreCase a b && startsWithMatch ignoreCase pattern text

/-- A stretch of a searched text. -/
inductive Stretch where
  /-- Between two occurrences of the pattern. -/
  | gap (content : Text)
  /-- An occurrence of the pattern. -/
  | hit (content : Text)
  deriving DecidableEq

/-- The stretches of a text, when the gap before it is `gap` and its first `skip` characters
belong to the last occurrence. -/
def stretchesFrom (ignoreCase : Bool) (pattern : Text) :
    (gap : Text) → (skip : Nat) → Text → List Stretch
  | gap, _, [] => [.gap gap]
  | gap, skip + 1, _ :: rest => stretchesFrom ignoreCase pattern gap skip rest
  | gap, 0, c :: rest =>
    if startsWithMatch ignoreCase pattern (c :: rest) then
      .gap gap :: .hit ((c :: rest).take pattern.length) ::
        stretchesFrom ignoreCase pattern [] (pattern.length - 1) rest
    else stretchesFrom ignoreCase pattern (gap ++ [c]) 0 rest

/-- The stretches of a text around the occurrences of a pattern; an empty pattern occurs nowhere. -/
def stretches (ignoreCase : Bool) (pattern text : Text) : List Stretch :=
  if pattern.isEmpty then [.gap text] else stretchesFrom ignoreCase pattern [] 0 text

/-! ## The size of the automata -/

/-- The spelling in bytes of characters that differ in the last byte alone: the bytes in front of
it, and the range that it is in. -/
structure Spelling where
  front : List Nat
  first : Nat
  last : Nat

/-- The ranges of bytes that a spelling goes through. -/
def Spelling.steps (spelling : Spelling) : List (Nat × Nat) :=
  spelling.front.map (fun byte => (byte, byte)) ++ [(spelling.first, spelling.last)]

/-- The spellings of characters in ascending order, those of neighbours joined where the last byte
grows by one behind the same bytes. -/
def Spelling.ofChars : List Char → List Spelling
  | [] => []
  | c :: rest =>
    let bytes := (String.utf8EncodeChar c).map UInt8.toNat
    let front := bytes.dropLast
    let last := bytes.getLastD 0
    match ofChars rest with
    | next :: more =>
      if front = next.front && last + 1 == next.first then ⟨front, last, next.last⟩ :: more
      else ⟨front, last, last⟩ :: next :: more
    | [] => [⟨front, last, last⟩]

/-- The bytes of a state of an automaton. -/
def stateSize : Nat := 32

/-- The size of a character that is searched for as it stands: a state for each byte. -/
def exactSize (c : Char) : Nat := stateSize * c.utf8Size

/-- The size of a choice between characters for the automaton that reads forwards. Between ASCII
characters it is one state with a range for each of them, and one in which they meet. In general
there is a state for each set of endings that the spellings leave open, with 8 bytes for each range
of bytes that goes on from there. -/
def choiceSize (choice : List Char) : Nat :=
  if choice.all (·.toNat < 128) then 2 * stateSize + 8 * choice.length
  else
    let spellings := (Spelling.ofChars choice).map Spelling.steps
    let read := spellings.flatMap fun steps => (List.range steps.length).map steps.take
    let openings := (read.map fun front => spellings.filterMap front.isPrefixOf?).eraseDups
    stateSize * (openings.length + 1) +
      8 * (openings.map fun endings => (endings.map List.head?).eraseDups.length).foldr (· + ·) 0

/-- The size of a choice for the automaton that reads backwards, in which the spellings share what
they begin with: 4 bytes for each spelling, a state in which they part and one in which they meet,
and one for each beginning. -/
def choiceSizeBackwards (choice : List Char) : Nat :=
  if choice.all (·.toNat < 128) then 2 * stateSize + 8 * choice.length
  else
    let spellings := (Spelling.ofChars choice).map Spelling.steps
    let begun := (spellings.flatMap fun steps =>
      (List.range steps.length).map fun n => steps.take (n + 1)).eraseDups
    stateSize * (begun.length + 2) + 4 * spellings.length

/-- The size of a character of the pattern, by the size of a choice. -/
def charSize (ignoreCase : Bool) (sizeOf : List Char → Nat) (c : Char) : Nat :=
  if ignoreCase then
    match Text.variants c with
    | [_] => exactSize c
    | choice => sizeOf choice
  else exactSize c

/-- The bytes that an automaton may take. -/
def sizeLimit : Nat := 10 * 1024 * 1024

/-- A pattern is searched for when both automata stay within the limit. Besides the pattern each has
a loop of three states over any byte, which hold 16 bytes more, and one state at the end; the one
that reads forwards notes with two more where the occurrence starts and ends. -/
def searchable (ignoreCase : Bool) (pattern : Text) : Bool :=
  let size (sizeOf : List Char → Nat) : Nat :=
    (pattern.map (charSize ignoreCase sizeOf)).foldr (· + ·) 0
  6 * stateSize + 16 + size choiceSize ≤ sizeLimit &&
    4 * stateSize + 16 + size choiceSizeBackwards ≤ sizeLimit

/-! ## Marks -/

/-- A stretch as markup. -/
def Stretch.node : Stretch → Node
  | gap content => .text content
  | hit content => span "term-grep-match" content

/-- The text with the occurrences of the pattern marked, or as it stands when the pattern cannot be
searched for. -/
def highlight (ignoreCase : Bool) (pattern text : Text) : List Node :=
  (if searchable ignoreCase pattern then stretches ignoreCase pattern text
    else [.gap text]).map Stretch.node

/-- The tag in front of an occurrence. -/
def hitOpening : Text := "<span class=\"term-grep-match\">"

/-- The tag behind an occurrence. -/
def hitClosing : Text := "</span>"

/-- The written form of a stretch. -/
def Stretch.written : Stretch → Text
  | .gap content => escape content
  | .hit content => hitOpening ++ escape content ++ hitClosing

/-- The template of a text with the occurrences of the pattern marked. -/
def highlightHtml (ignoreCase : Bool) (pattern text : Text) : Text :=
  if searchable ignoreCase pattern then
    (stretches ignoreCase pattern text).flatMap Stretch.written
  else escape text

end BlogTerminal.Markup
