/-!
Text as the list of its Unicode scalar values, and the few operations on it that lists do not
already have. Lengths, cuts and the order of texts all go by scalar value.
-/

namespace BlogTerminal

/-- A sequence of Unicode scalar values, compared value by value from the front. -/
abbrev Text := List Char

/-- A string literal stands for the text it spells. -/
instance : Coe String Text := ⟨String.toList⟩

namespace Text

/-- The decimal digits of `n`, without leading zeros. -/
def ofNat (n : Nat) : Text := Nat.toDigits 10 n

/-- The decimal digits of `n`, with a minus sign in front when it is negative. -/
def ofInt (n : Int) : Text := if n < 0 then '-' :: ofNat n.natAbs else ofNat n.natAbs

/-- `part` occurs somewhere in `text`. -/
def isInfixOf (part : Text) : (text : Text) → Bool
  | [] => part.isEmpty
  | c :: rest => part.isPrefixOf (c :: rest) || isInfixOf part rest

/-- `text` without the longest run of characters in `p` at its end. -/
def dropEndWhile (p : Char → Bool) (text : Text) : Text := (text.reverse.dropWhile p).reverse

/-- What follows `start` in `text`, when `text` begins with it. -/
def after? (text start : Text) : Option Text := start.isPrefixOf? text

/-- `text` without `start`, when it begins with it, and `text` itself otherwise. -/
def dropStart (text start : Text) : Text := (text.after? start).getD text

/-- `text` without `ending`, when it ends with it, and `text` itself otherwise. -/
def dropEnding (text ending : Text) : Text := (ending.isSuffixOf? text).getD text

/-- The texts in ascending order; equal texts are all kept. -/
def sorted (texts : List Text) : List Text := texts.mergeSort fun a b => !decide (b < a)

/-- The distinct texts in ascending order. -/
def sortedSet (texts : List Text) : List Text := sorted texts.eraseDups

/-- The non-empty pieces of `text` between the characters in `p`. -/
def pieces (p : Char → Bool) (text : Text) : List Text :=
  (text.splitOnP p).filter (!·.isEmpty)

/-- The number that a non-empty run of decimal digits spells. -/
def toNat? (text : Text) : Option Nat :=
  if !text.isEmpty && text.all Char.isDigit then
    some (text.foldl (fun n c => 10 * n + (c.toNat - '0'.toNat)) 0)
  else none

end Text

/-! ## Properties of code points

Two ways to write down a property of code points: the ranges that have it, and, for a map between
letters, the runs of letters that it moves. Both lists are sorted by where their entries start, so
a search ends at the first entry that starts too far.
-/

namespace Text

/-- Ranges of code points in ascending order, both ends included. -/
abbrev Ranges := List (Nat × Nat)

/-- Some range covers the code point `n`. -/
def Ranges.covers : Ranges → Nat → Bool
  | [], _ => false
  | (first, last) :: rest, n => first ≤ n && (n ≤ last || Ranges.covers rest n)

/-- The letters `first`, `first + step`, up to `last`; the map takes the first of them to `image`
and moves the others by the same distance. -/
structure LetterRun where
  first : Nat
  last : Nat
  step : Nat
  image : Nat

/-- The image of the code point `n` under the map written as `runs`; a code point in no run stays
as it is. -/
def mapLetter : List LetterRun → Nat → Nat
  | [], n => n
  | run :: rest, n =>
    if n < run.first then n
    else if n ≤ run.last && (n - run.first) % run.step == 0 then run.image + (n - run.first)
    else mapLetter rest n

end Text

/-! ## Blanks

Blanks are the characters with the Unicode property `White_Space`. They separate the words of a
command line and are trimmed from lines, dates and theme names.
-/

namespace Text

/-- The code points with the property `White_Space`. -/
def blanks : Ranges :=
  [(0x0009, 0x000D), (0x0020, 0x0020), (0x0085, 0x0085), (0x00A0, 0x00A0), (0x1680, 0x1680),
   (0x2000, 0x200A), (0x2028, 0x2029), (0x202F, 0x202F), (0x205F, 0x205F), (0x3000, 0x3000)]

/-- The character separates words. -/
def isBlank (c : Char) : Bool := blanks.covers c.toNat

/-- Without the blanks at the start. -/
def trimStart (text : Text) : Text := text.dropWhile isBlank

/-- Without the blanks at the end. -/
def trimEnd (text : Text) : Text := text.dropEndWhile isBlank

/-- Without the blanks at both ends. -/
def trim (text : Text) : Text := trimEnd (trimStart text)

end Text

/-! ## Tables

Tables of values by name, kept in ascending order of their names. Tables with the same entries
are equal, whatever the order in which the entries were put in.
-/

/-- Values by name, in ascending order of the names. -/
abbrev Table (α : Type) := List (Text × α)

namespace Table

variable {α : Type}

/-- The value of a name. -/
def get? (table : Table α) (name : Text) : Option α := List.lookup name table

/-- The table with the value of a name set. -/
def insert : Table α → Text → α → Table α
  | [], name, value => [(name, value)]
  | (first, kept) :: rest, name, value =>
    if name = first then (name, value) :: rest
    else if name < first then (name, value) :: (first, kept) :: rest
    else (first, kept) :: insert rest name value

/-- The table without a name. -/
def erase (table : Table α) (name : Text) : Table α := table.filter (·.1 ≠ name)

/-- The table with the entries of a list put in one after the other, so that the last one counts. -/
def ofList (entries : List (Text × α)) : Table α :=
  entries.foldl (fun table entry => table.insert entry.1 entry.2) []

/-- The names in ascending order. -/
def names (table : Table α) : List Text := table.map (·.1)

end Table

end BlogTerminal
