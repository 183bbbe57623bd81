import BlogTerminal.Markup.Highlight
import BlogTerminal.Markup.Reading
import BlogTerminal.Proofs.Markup.Language
import Mathlib.Algebra.BigOperators.Ring.List
import Mathlib.Algebra.Ring.Nat

/-!
Marked occurrences. A marking says which occurrences of a pattern are found and knows nothing of
how: each is the first one behind the one before it, and behind the last one there is none. So a
text has only one. The search keeps one fact, that no occurrence begins in the gap that it has
passed, and every hit that it comes to is a first one. The stretches of the text are escaped one by
one, and a tag holds nothing of the text, so the text can be read back from the markup.
-/

namespace BlogTerminal.Markup

/-! ## Plain text

Plain text is read off the structure of markup. Breaking the lines, dropping the tags and reading
the entities back are three passes over one text, and each of them takes a piece of markup for what
it is: a tag has its own brackets, and an entity ends in the text that it begins in. So the passes
together give what the pieces say one after the other, whatever stands beside them.
-/

section

/-- Nothing in the attribute ends its quotes or the tag that it stands in. -/
def IsQuotable (item : Text × Text) : Prop :=
  ('<' ∉ item.1 ∧ '<' ∉ item.2) ∧ ('>' ∉ item.1 ∧ '>' ∉ item.2) ∧ '"' ∉ item.1 ∧ '"' ∉ item.2

instance (item : Text × Text) : Decidable (IsQuotable item) := inferInstanceAs (Decidable (_ ∧ _))

mutual

/-- The piece is text in which every ampersand begins an entity, or one of the elements that occur,
with attributes of any name. -/
def Piece.IsReadable : Piece → Prop
  | .text written => '<' ∉ written ∧ '>' ∉ written ∧ entitiesOnly written
  | .element name attributes children =>
    name ∈ elementNames ∧ (∀ item ∈ attributes, IsQuotable item) ∧ AreReadable children

/-- All pieces can be read. -/
def AreReadable : List Piece → Prop
  | [] => True
  | piece :: rest => piece.IsReadable ∧ AreReadable rest

end

/-- The line break behind an element. -/
def lineEnd (name : Text) : Text :=
  if name = "div" ∨ name = "p" ∨ name = "pre" then ['\n'] else []

mutual

/-- What a piece of markup says. -/
def Piece.reading : Piece → Text
  | .text written => unescape written
  | .element name _ children => reading children ++ lineEnd name

/-- What a forest says, in document order. -/
def reading : List Piece → Text
  | [] => []
  | piece :: rest => piece.reading ++ reading rest

end

/-- The wording of written markup, before it is laid out in lines. -/
def wording (written : Text) : Text := unescape (dropTags (breakLines written))

variable {c : Char} {name text content more : Text} {pieces : List Piece}

/-! ### Line breaks -/

private theorem toLower_less (other : c ≠ '<') : c.toLower ≠ '<' := by
  unfold Char.toLower
  split
  · rename_i upper
    intro same
    have value := congrArg (·.val.toNat) same
    simp [UInt32.le_iff_toNat_le] at value upper
    omega
  · exact other

/-- Only a bracket begins a tag that breaks the line. -/
theorem lineBreak_text (other : c ≠ '<') (more : Text) : lineBreak? (c :: more) = none := by
  have letter := toLower_less other
  simp [lineBreak?, startsIgnoringCase, sameIgnoringCase, letter]

private theorem breakLines_text (plain : '<' ∉ text) (more : Text) :
    breakLines (text ++ more) = text ++ breakLines more := by
  induction text with
  | nil => rfl
  | cons c rest ih =>
    rw [List.mem_cons, not_or] at plain
    rw [breakLines, List.cons_append, breakLinesFrom, lineBreak_text (Ne.symm plain.1)]
    exact congrArg (c :: ·) (ih plain.2)

/-- A tag that does not break the line is left as it is. -/
theorem breakLines_tag (plain : '<' ∉ content)
    (inline : lineBreak? ('<' :: (content ++ more)) = none) :
    breakLines ('<' :: (content ++ more)) = '<' :: (content ++ breakLines more) := by
  rw [breakLines, breakLinesFrom, inline]
  exact congrArg ('<' :: ·) (breakLines_text plain more)

/-! ### Tags -/

private theorem dropTags_text (plain : '<' ∉ text) (more : Text) :
    dropTags (text ++ more) = text ++ dropTags more := by
  induction text with
  | nil => rfl
  | cons c rest ih =>
    rw [List.mem_cons, not_or] at plain
    have outside : ¬(c = '<' ∧ '>' ∈ rest ++ more) := fun opened => plain.1 opened.1.symm
    rw [dropTags, List.cons_append, dropTagsFrom, if_neg outside]
    exact congrArg (c :: ·) (ih plain.2)

private theorem dropTags_inside (inside : '>' ∉ content) (more : Text) :
    dropTagsFrom true (content ++ '>' :: more) = dropTags more := by
  induction content with
  | nil => rfl
  | cons c rest ih =>
    rw [List.mem_cons, not_or] at inside
    have within : (c != '>') = true := bne_iff_ne.mpr (Ne.symm inside.1)
    rw [List.cons_append, dropTagsFrom, within, ih inside.2]

/-- A tag is dropped up to the first bracket that closes it. -/
theorem dropTags_tag (inside : '>' ∉ content) (more : Text) :
    dropTags ('<' :: (content ++ '>' :: more)) = dropTags more := by
  rw [dropTags, dropTagsFrom, if_pos ⟨rfl, by simp⟩, dropTags_inside inside]

/-! ### The wording of pieces -/

/-- The text of a piece comes first, whatever follows it. -/
theorem wording_text (plain : '<' ∉ text) (known : entitiesOnly text) (more : Text) :
    wording (text ++ more) = unescape text ++ wording more := by
  rw [wording, breakLines_text plain, dropTags_text plain, unescape_append known, wording]

/-- A tag that does not break the line says nothing. -/
theorem wording_tag (plain : '<' ∉ content) (inside : '>' ∉ content)
    (inline : lineBreak? ('<' :: (content ++ '>' :: more)) = none) :
    wording ('<' :: (content ++ '>' :: more)) = wording more := by
  have closed : '<' ∉ content ++ ['>'] := by simp [plain]
  rw [List.append_cons] at inline ⊢
  rw [wording, breakLines_tag closed inline, ← List.append_cons, dropTags_tag inside, wording]

private theorem wording_opening (known : name ∈ elementNames) {attributes : List (Text × Text)}
    (quotable : ∀ item ∈ attributes, IsQuotable item) (more : Text) :
    wording ("<" ++ name ++ attributes.flatMap spellAttribute ++ ">" ++ more) = wording more := by
  have names : ∀ name ∈ elementNames, '<' ∉ name ∧ '>' ∉ name := by decide
  have spelled : '<' ∉ attributes.flatMap spellAttribute ∧
      '>' ∉ attributes.flatMap spellAttribute := by
    simp only [List.mem_flatMap, not_exists, not_and]
    refine ⟨fun item member => ?_, fun item member => ?_⟩
    · obtain ⟨⟨front, value⟩, _⟩ := quotable item member
      simp [spellAttribute, front, value]
    · obtain ⟨_, ⟨front, value⟩, _⟩ := quotable item member
      simp [spellAttribute, front, value]
  have inline (more : Text) : lineBreak? ('<' :: (name ++ more)) = none := by
    simp only [elementNames, List.mem_cons, List.not_mem_nil, or_false] at known
    rcases known with rfl | rfl | rfl | rfl | rfl <;> rfl
  have plain : '<' ∉ name ++ attributes.flatMap spellAttribute := by
    simp [(names name known).1, spelled.1]
  have inside : '>' ∉ name ++ attributes.flatMap spellAttribute := by
    simp [(names name known).2, spelled.2]
  have read := @wording_tag _ more plain inside (by rw [List.append_assoc]; exact inline _)
  simpa using read

/-- A closing tag says nothing more than a line break behind a block. -/
theorem wording_closing (known : name ∈ elementNames) (more : Text) :
    wording ("</" ++ name ++ ">" ++ more) = lineEnd name ++ wording more := by
  simp only [elementNames, List.mem_cons, List.not_mem_nil, or_false] at known
  rcases known with rfl | rfl | rfl | rfl | rfl <;> rfl

/-! ### The plain text of a forest -/

/-- Induction over written pieces: the first of them is text, or an element with a forest inside. -/
@[elab_as_elim] theorem pieces_induction {motive : List Piece → Prop} (nil : motive [])
    (text : ∀ written rest, motive rest → motive (.text written :: rest))
    (element : ∀ name attributes children rest, motive children → motive rest →
      motive (.element name attributes children :: rest)) : ∀ pieces, motive pieces
  | [] => nil
  | .text written :: rest => text written rest (pieces_induction nil text element rest)
  | .element name attributes children :: rest =>
    element name attributes children rest (pieces_induction nil text element children)
      (pieces_induction nil text element rest)

/-- A forest is worded as it reads, and what follows it is worded by itself. -/
theorem wording_spell (readable : AreReadable pieces) (more : Text) :
    wording (spell pieces ++ more) = reading pieces ++ wording more := by
  induction pieces using pieces_induction generalizing more with
  | nil => rfl
  | text written rest ih =>
    obtain ⟨⟨plain, _, known⟩, later⟩ := readable
    rw [spell, Piece.spell, reading, Piece.reading, List.append_assoc, wording_text plain known,
      ih later, List.append_assoc]
  | element name attributes children rest inside ih =>
    obtain ⟨⟨known, quotable, within⟩, later⟩ := readable
    calc wording (spell (.element name attributes children :: rest) ++ more)
      _ = wording ("<" ++ name ++ attributes.flatMap spellAttribute ++ ">" ++
          (spell children ++ ("</" ++ name ++ ">" ++ (spell rest ++ more)))) := by
        simp only [spell, Piece.spell, List.append_assoc]
      _ = reading children ++ (lineEnd name ++ (reading rest ++ wording more)) := by
        rw [wording_opening known quotable, inside within, wording_closing known, ih later]
      _ = reading (.element name attributes children :: rest) ++ wording more := by
        simp only [reading, Piece.reading, List.append_assoc]

private theorem plain_reading (readable : AreReadable pieces) :
    plain (spell pieces) = ['\n'].intercalate (inkedLines (reading pieces)) := by
  have worded := wording_spell readable []
  rw [List.append_nil] at worded
  exact congrArg (fun text => ['\n'].intercalate (inkedLines text))
    (worded.trans (List.append_nil _))

/-- The plain text of a forest is what it says, without the blanks at the ends of its lines and
without its blank lines. -/
theorem plain_spell (readable : AreReadable pieces) :
    plain (spell pieces) = ['\n'].intercalate
      ((((reading pieces).splitOn '\n').map Text.trimEnd).filter (!·.isEmpty)) :=
  plain_reading readable

/-- Two texts side by side that look like an entity together, a block inside of a block, and an
attribute with entities. -/
theorem plain_spell_nested :
    let forest : List Piece := [.element "div" [("class", "a b"), ("id", "c")]
      [.text "&amp;", .text "lt; ", .element "pre" [] [.text "x\n \n  y "],
        .element "span" [("data-cmd", "cat &lt;")] [.text "&lt;b&gt;"]],
      .element "p" [] []]
    AreReadable forest ∧ plain (spell forest) = "&lt; x\n  y\n<b>" := by
  intro forest
  have readable : AreReadable forest := by
    simp only [forest, AreReadable, Piece.IsReadable]
    decide
  refine ⟨readable, (plain_spell readable).trans ?_⟩
  decide +kernel

/-! ### The plain text of output -/

private theorem legal_readable (legal : AreLegal pieces) : AreReadable pieces := by
  have names : ∀ name ∈ attributeNames, '<' ∉ name ∧ '>' ∉ name ∧ '"' ∉ name := by decide
  induction pieces using pieces_induction with
  | nil => trivial
  | text written rest ih => exact ⟨legal.1, ih legal.2⟩
  | element name attributes children rest inside ih =>
    obtain ⟨⟨known, listed, within⟩, later⟩ := legal
    refine ⟨⟨known, fun item member => ?_, inside within⟩, ih later⟩
    obtain ⟨front, less, greater, quote⟩ := listed item member
    obtain ⟨noLess, noGreater, noQuote⟩ := names item.1 front
    exact ⟨⟨noLess, less⟩, ⟨noGreater, greater⟩, ⟨noQuote, quote⟩⟩

/-- Whatever is rendered is shown as what its pieces say. -/
theorem plain_render (nodes : List Node) :
    plain (render nodes) = ['\n'].intercalate (inkedLines (reading (Markup.pieces nodes))) := by
  rw [← spell_pieces]
  exact plain_reading (legal_readable (pieces_legal nodes))

end

/-! ## Marked occurrences -/

section

variable {ignoreCase : Bool} {pattern text gap occurrence : Text}

/-! ### Occurrences -/

/-- The text is the pattern, letter by letter up to case if that is to be ignored. -/
def Occurs : (ignoreCase : Bool) → (pattern text : Text) → Prop
  | true, pattern, text => text.map Text.foldChar = pattern.map Text.foldChar
  | false, pattern, text => text = pattern

private theorem matchesChar_occurs {a b : Char} :
    matchesChar ignoreCase a b = true ↔ Occurs ignoreCase [a] [b] := by
  cases ignoreCase with
  | true => simpa [matchesChar, Occurs] using eq_comm
  | false => simpa [matchesChar, Occurs] using eq_comm

private theorem occurs_cons {a b : Char} : Occurs ignoreCase (a :: pattern) (b :: text) ↔
    Occurs ignoreCase [a] [b] ∧ Occurs ignoreCase pattern text := by
  cases ignoreCase <;> simp [Occurs]

/-- An occurrence is as long as the pattern. -/
theorem Occurs.length (occurs : Occurs ignoreCase pattern occurrence) :
    occurrence.length = pattern.length := by
  cases ignoreCase with
  | true => simpa using congrArg List.length occurs
  | false => exact congrArg List.length occurs

private theorem startsWithMatch_take (starts : startsWithMatch ignoreCase pattern text = true) :
    Occurs ignoreCase pattern (text.take pattern.length) := by
  induction pattern generalizing text with
  | nil => cases ignoreCase <;> rfl
  | cons a pattern ih =>
    cases text with
    | nil => cases starts
    | cons b text =>
      rw [startsWithMatch, Bool.and_eq_true] at starts
      exact occurs_cons.mpr ⟨matchesChar_occurs.mp starts.1, ih starts.2⟩

private theorem startsWithMatch_append (occurs : Occurs ignoreCase pattern occurrence)
    (more : Text) :
    startsWithMatch ignoreCase pattern (occurrence ++ more) = true := by
  induction pattern generalizing occurrence with
  | nil => rfl
  | cons a pattern ih =>
    obtain ⟨b, rest, rfl⟩ := List.exists_cons_of_length_eq_add_one occurs.length
    obtain ⟨first, later⟩ := occurs_cons.mp occurs
    rw [List.cons_append, startsWithMatch, Bool.and_eq_true]
    exact ⟨matchesChar_occurs.mpr first, ih later⟩

/-! ### Markings -/

/-- No occurrence of the pattern in the text begins before the position. -/
def NoneBefore (ignoreCase : Bool) (pattern text : Text) (position : Nat) : Prop :=
  ∀ front occurrence back, text = front ++ occurrence ++ back →
    Occurs ignoreCase pattern occurrence → position ≤ front.length

/-- The stretches of a text around the leftmost occurrences of a pattern that do not overlap. -/
inductive Marking (ignoreCase : Bool) (pattern : Text) : Text → List Stretch → Prop where
  /-- There is no occurrence at all. -/
  | last {text : Text}
      (missing : ∀ front occurrence back, text = front ++ occurrence ++ back →
        ¬ Occurs ignoreCase pattern occurrence) :
      Marking ignoreCase pattern text [.gap text]
  /-- The first occurrence, and those in the text behind it. -/
  | next {gap hit rest : Text} {stretches : List Stretch}
      (occurs : Occurs ignoreCase pattern hit)
      (first : NoneBefore ignoreCase pattern (gap ++ hit ++ rest) gap.length)
      (more : Marking ignoreCase pattern rest stretches) :
      Marking ignoreCase pattern (gap ++ hit ++ rest) (.gap gap :: .hit hit :: stretches)

variable {marked other : List Stretch}

/-- A marking read from its text: there is no occurrence, or there is a first one. -/
theorem Marking.cases (marking : Marking ignoreCase pattern text marked) :
    marked = [.gap text] ∧ (∀ front occurrence back, text = front ++ occurrence ++ back →
        ¬ Occurs ignoreCase pattern occurrence) ∨
      ∃ gap hit rest more, text = gap ++ hit ++ rest ∧ marked = .gap gap :: .hit hit :: more ∧
        Occurs ignoreCase pattern hit ∧ NoneBefore ignoreCase pattern text gap.length ∧
          Marking ignoreCase pattern rest more := by
  cases marking with
  | last missing => exact .inl ⟨rfl, missing⟩
  | next occurs first more => exact .inr ⟨_, _, _, _, rfl, rfl, occurs, first, more⟩

/-- A text has no more than one marking. -/
theorem Marking.unique (marking : Marking ignoreCase pattern text marked)
    (again : Marking ignoreCase pattern text other) : other = marked := by
  induction marking generalizing other with
  | last missing =>
    rcases again.cases with ⟨same, _⟩ | ⟨gap, hit, rest, more, split, _, occurs, _⟩
    · exact same
    · exact absurd occurs (missing gap hit rest split)
  | @next gap hit rest marked occurs first more ih =>
    rcases again.cases with ⟨_, missing⟩ |
      ⟨before, found, behind, later, split, rfl, matched, passed, again⟩
    · exact absurd occurs (missing gap hit rest rfl)
    · have front : gap.length = before.length := Nat.le_antisymm
        (first before found behind split matched) (passed gap hit rest rfl occurs)
      have middle : hit.length = found.length := occurs.length.trans matched.length.symm
      rw [List.append_assoc, List.append_assoc] at split
      obtain ⟨rfl, tail⟩ := List.append_inj split front
      obtain ⟨rfl, rfl⟩ := List.append_inj tail middle
      rw [ih again]

/-- When no occurrence begins in the whole text, there is none. -/
theorem NoneBefore.missing (given : pattern ≠ [])
    (passed : NoneBefore ignoreCase pattern text text.length) {front back : Text}
    (split : text = front ++ occurrence ++ back) : ¬ Occurs ignoreCase pattern occurrence := by
  intro occurs
  have begins := passed front occurrence back split occurs
  have length := congrArg List.length split
  have positive := List.length_pos_iff.mpr given
  simp only [List.length_append, occurs.length] at length
  omega

/-- A character at which no occurrence begins joins the gap. -/
theorem NoneBefore.step {c : Char} {rest : Text}
    (passed : NoneBefore ignoreCase pattern (gap ++ c :: rest) gap.length)
    (missed : ¬ startsWithMatch ignoreCase pattern (c :: rest) = true) :
    NoneBefore ignoreCase pattern (gap ++ [c] ++ rest) (gap ++ [c]).length := by
  intro front occurrence back split occurs
  rw [← List.append_cons] at split
  have reached := passed front occurrence back split occurs
  rw [List.length_append, List.length_singleton]
  refine Nat.lt_of_le_of_ne reached fun same => missed ?_
  rw [List.append_assoc] at split
  obtain ⟨_, here⟩ := List.append_inj split same
  rw [here]
  exact startsWithMatch_append occurs back

/-- The search from any point on, behind a gap in which no occurrence begins. -/
theorem stretchesFrom_marking (given : pattern ≠ []) (text : Text) (gap : Text) (skip : Nat)
    (passed : NoneBefore ignoreCase pattern (gap ++ text.drop skip) gap.length) :
    Marking ignoreCase pattern (gap ++ text.drop skip)
      (stretchesFrom ignoreCase pattern gap skip text) := by
  induction text generalizing gap skip with
  | nil =>
    rw [List.drop_nil, List.append_nil] at passed ⊢
    rw [stretchesFrom]
    exact .last fun _ _ _ split => passed.missing given split
  | cons c rest ih =>
    cases skip with
    | succ skip => exact ih gap skip passed
    | zero =>
      rw [List.drop_zero] at passed ⊢
      rw [stretchesFrom]
      split
      · rename_i starts
        have later := ih [] (pattern.length - 1) (fun _ _ _ _ _ => Nat.zero_le _)
        have behind : rest.drop (pattern.length - 1) = (c :: rest).drop pattern.length := by
          obtain ⟨first, more, rfl⟩ := List.exists_cons_of_ne_nil given
          rfl
        have parts : gap ++ c :: rest = gap ++ (c :: rest).take pattern.length ++
            (c :: rest).drop pattern.length := by
          rw [List.append_assoc, List.take_append_drop]
        rw [List.nil_append, behind] at later
        rw [parts] at passed ⊢
        exact .next (startsWithMatch_take starts) passed later
      · rename_i missed
        rw [List.append_cons]
        exact ih (gap ++ [c]) 0 (passed.step missed)

/-- The search finds a marking. -/
theorem stretches_marking (given : pattern ≠ []) (text : Text) :
    Marking ignoreCase pattern text (stretches ignoreCase pattern text) := by
  rw [stretches, if_neg (by simpa using given)]
  exact stretchesFrom_marking given text [] 0 fun _ _ _ _ _ => Nat.zero_le _

/-! ### Patterns that can be searched for -/

/-- With the case kept, both automata have a state for each byte of the pattern, and the one that
reads forwards is the larger: what can be searched for are the patterns of up to 327673 bytes. -/
theorem searchable_exact :
    searchable false pattern = true ↔ (pattern.map Char.utf8Size).sum ≤ 327673 := by
  have linear (sizeOf : List Char → Nat) :
      (pattern.map (charSize false sizeOf)).foldr (· + ·) 0 =
        stateSize * (pattern.map Char.utf8Size).sum :=
    List.sum_map_mul_left pattern Char.utf8Size stateSize
  simp only [searchable, linear, Bool.and_eq_true, decide_eq_true_eq, stateSize, sizeLimit]
  omega

/-! ### The text of a marking -/

/-- What a stretch holds of the text. -/
def Stretch.content : Stretch → Text
  | .gap content => content
  | .hit content => content

/-- A marking leaves nothing of the text out. -/
theorem Marking.contents (marking : Marking ignoreCase pattern text marked) :
    marked.flatMap Stretch.content = text := by
  induction marking with
  | @last text missing => exact List.append_nil text
  | @next gap hit rest marked occurs first more ih =>
    rw [List.flatMap_cons, List.flatMap_cons, ih, List.append_assoc]
    rfl

/-- The markup of a stretch is written as its template says. -/
theorem written_node (stretch : Stretch) : stretch.node.render = stretch.written := by
  cases stretch with
  | gap content => rw [Stretch.node, Node.render, Stretch.written]
  | hit content =>
    have opening : Tag.span.opening [.style "term-grep-match"] = hitOpening := by decide
    have closing : Tag.span.closing = hitClosing := by decide
    rw [Stretch.node, span, styled, Node.render, render, render, Node.render, opening, closing,
      List.append_nil, Stretch.written]

/-- Stretches are written one by one. -/
theorem render_stretches (marked : List Stretch) :
    render (marked.map Stretch.node) = marked.flatMap Stretch.written := by
  induction marked with
  | nil => rw [List.map_nil, render, List.flatMap_nil]
  | cons stretch rest ih => rw [List.map_cons, render, ih, List.flatMap_cons, written_node]

private theorem dropTags_opening (more : Text) : dropTags (hitOpening ++ more) = dropTags more :=
  @dropTags_tag "span class=\"term-grep-match\"" (by decide) more

private theorem dropTags_closing (more : Text) : dropTags (hitClosing ++ more) = dropTags more :=
  @dropTags_tag "/span" (by decide) more

/-- Without its tags a stretch is its content escaped. -/
theorem dropTags_written (stretch : Stretch) (more : Text) :
    dropTags (stretch.written ++ more) = escape stretch.content ++ dropTags more := by
  have plain := (escape_unspecial stretch.content).1
  cases stretch with
  | gap content => exact dropTags_text plain more
  | hit content =>
    calc dropTags (hitOpening ++ escape content ++ hitClosing ++ more)
      _ = dropTags (hitOpening ++ (escape content ++ (hitClosing ++ more))) := by
        simp only [List.append_assoc]
      _ = dropTags (escape content ++ (hitClosing ++ more)) := dropTags_opening _
      _ = escape content ++ dropTags (hitClosing ++ more) := dropTags_text plain _
      _ = escape content ++ dropTags more := by rw [dropTags_closing]

private theorem dropTags_stretches (marked : List Stretch) :
    dropTags (marked.flatMap Stretch.written) = escape (marked.flatMap Stretch.content) := by
  induction marked with
  | nil => rfl
  | cons stretch rest ih =>
    rw [List.flatMap_cons, List.flatMap_cons, dropTags_written, ih, escape, escape, escape,
      List.flatMap_append]

/-- A text is written stretch by stretch if the pattern can be searched for, and else as a whole. -/
theorem render_highlight (ignoreCase : Bool) (pattern text : Text) :
    render (highlight ignoreCase pattern text) = highlightHtml ignoreCase pattern text := by
  rw [highlight, render_stretches, highlightHtml]
  split
  · rfl
  · exact List.append_nil (escape text)

/-- The stretches of a text around its leftmost occurrences of a pattern that do not overlap, which
are its only marking, are escaped one by one, and the occurrences are put into their tags. A pattern
that cannot be searched for leaves the text escaped as a whole. Without the tags and the entities it
is the text again. -/
theorem highlight_marking (given : pattern ≠ []) (ignoreCase : Bool) (text : Text) :
    let marked := stretches ignoreCase pattern text
    let written := render (highlight ignoreCase pattern text)
    (∀ other, Marking ignoreCase pattern text other ↔ other = marked) ∧
      marked.flatMap Stretch.content = text ∧
      written = (if searchable ignoreCase pattern then marked.flatMap Stretch.written
        else escape text) ∧ unescape (dropTags written) = text := by
  intro marked written
  have marking : Marking ignoreCase pattern text marked := stretches_marking given text
  have kept : (if searchable ignoreCase pattern then marked else [.gap text]).flatMap
      Stretch.content = text := by
    split
    · exact marking.contents
    · exact List.append_nil text
  refine ⟨fun other => ⟨marking.unique, fun same => same ▸ marking⟩, marking.contents,
    render_highlight ignoreCase pattern text, ?_⟩
  simp only [written]
  rw [highlight, render_stretches, dropTags_stretches, kept, unescape_escape_text]

/-- Three letters in which the pattern occurs twice, the first of them the sign for kelvin. -/
theorem highlight_marking_overlap :
    let written := render (highlight true "kk" "KkK&kk<")
    stretches true "kk" "KkK&kk<" =
        [.gap "", .hit "Kk", .gap "K&", .hit "kk", .gap "<"] ∧
      written = "<span class=\"term-grep-match\">Kk</span>K&amp;".toList ++
        "<span class=\"term-grep-match\">kk</span>&lt;".toList ∧
      unescape (dropTags written) = "KkK&kk<" := by
  intro written
  have found : stretches true "kk" "KkK&kk<" =
      [.gap "", .hit "Kk", .gap "K&", .hit "kk", .gap "<"] := by decide +kernel
  have given : ("kk" : Text) ≠ [] := by decide
  obtain ⟨_, _, spelled, restored⟩ := highlight_marking given true "KkK&kk<"
  rw [found] at spelled
  exact ⟨found, spelled, restored⟩

end

end BlogTerminal.Markup
