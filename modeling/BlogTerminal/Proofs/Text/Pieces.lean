import BlogTerminal.Text.Basic
import Mathlib.Data.List.DropRight

/-!
Texts cut into pieces: between separators, at their ends, and at their last space.
-/

namespace BlogTerminal.Text

/-! ## Pieces between separators

A piece is not empty and holds characters of the text but no separator, and a text that is put
together from such pieces is taken apart into them again.
-/

section

variable {p : Char → Bool} {c : Char} {text piece first rest separator : Text}
  {parts : List Text} {groups : List (List Text)}

private theorem splitOnP_member (member : piece ∈ text.splitOnP p) :
    ∀ c ∈ piece, p c = false ∧ c ∈ text := by
  induction text generalizing piece with
  | nil =>
    rw [List.splitOnP_nil, List.mem_singleton] at member
    simp [member]
  | cons head tail ih =>
    rw [List.splitOnP_cons_eq_if_modifyHead] at member
    by_cases separates : p head = true
    · rw [if_pos separates] at member
      rcases List.mem_cons.mp member with rfl | later
      · simp
      · intro c inside
        exact ⟨(ih later c inside).1, .tail _ (ih later c inside).2⟩
    · obtain ⟨run, more, split⟩ := List.exists_cons_of_ne_nil (List.splitOnP_ne_nil p tail)
      rw [if_neg separates, split, List.modifyHead_cons] at member
      intro c inside
      rcases List.mem_cons.mp member with rfl | later
      · rcases List.mem_cons.mp inside with rfl | behind
        · exact ⟨by simpa using separates, .head _⟩
        · have listed : run ∈ tail.splitOnP p := by simp [split]
          have found := ih listed c behind
          exact ⟨found.1, .tail _ found.2⟩
      · have listed : piece ∈ tail.splitOnP p := by simp [split, later]
        have found := ih listed c inside
        exact ⟨found.1, .tail _ found.2⟩

/-- A piece is not empty and holds characters of the text but no separator. -/
theorem mem_pieces (member : piece ∈ pieces p text) :
    piece ≠ [] ∧ ∀ c ∈ piece, p c = false ∧ c ∈ text := by
  obtain ⟨split, given⟩ := List.mem_filter.mp member
  exact ⟨by simpa using given, splitOnP_member split⟩

/-- Around a separator the pieces are those of both sides. -/
theorem pieces_separated (separates : p c = true) :
    pieces p (first ++ c :: rest) = pieces p first ++ pieces p rest := by
  simp only [pieces, List.splitOnP_append_cons _ _ separates, List.filter_append]

/-- A separator in front makes no piece. -/
theorem pieces_cons (separates : p c = true) : pieces p (c :: rest) = pieces p rest := by
  have split : pieces p ([] ++ c :: rest) = pieces p [] ++ pieces p rest :=
    pieces_separated separates
  exact split

/-- A text without separators is one piece. -/
theorem pieces_clean (given : text ≠ []) (clean : ∀ c ∈ text, p c = false) :
    pieces p text = [text] := by
  simp [pieces, List.splitOnP_eq_singleton clean, given]

/-- A character that is no separator starts a piece. -/
theorem pieces_start (joins : p c = false) :
    ∃ run more, pieces p (c :: text) = (c :: run) :: more := by
  obtain ⟨run, more, split⟩ := List.exists_cons_of_ne_nil (List.splitOnP_ne_nil p text)
  refine ⟨run, more.filter (!·.isEmpty), ?_⟩
  rw [pieces, List.splitOnP_cons_eq_if_modifyHead, if_neg (by simp [joins]), split,
    List.modifyHead_cons, List.filter_cons_of_pos (by simp)]

/-- In front of another character that is no separator, it starts the same piece. -/
theorem pieces_joined {d : Char} (joins : p c = false) (next : p d = false) :
    ∃ run more, pieces p (d :: text) = (d :: run) :: more ∧
      pieces p (c :: d :: text) = (c :: d :: run) :: more := by
  obtain ⟨run, more, split⟩ := List.exists_cons_of_ne_nil (List.splitOnP_ne_nil p text)
  refine ⟨run, more.filter (!·.isEmpty), ?_, ?_⟩
  · rw [pieces, List.splitOnP_cons_eq_if_modifyHead, if_neg (by simp [next]), split,
      List.modifyHead_cons, List.filter_cons_of_pos (by simp)]
  · rw [pieces, List.splitOnP_cons_eq_if_modifyHead, if_neg (by simp [joins]),
      List.splitOnP_cons_eq_if_modifyHead, if_neg (by simp [next]), split,
      List.modifyHead_cons, List.modifyHead_cons, List.filter_cons_of_pos (by simp)]

/-- A text of separators has no pieces, and no other text is without. -/
theorem pieces_eq_nil : pieces p text = [] ↔ ∀ c ∈ text, p c = true := by
  induction text with
  | nil => simp [pieces]
  | cons c rest ih =>
    rw [List.forall_mem_cons]
    cases separates : p c with
    | true => rw [pieces_cons separates, ih, eq_self, true_and]
    | false =>
      obtain ⟨run, more, split⟩ : ∃ run more, pieces p (c :: rest) = (c :: run) :: more :=
        pieces_start separates
      simp [split]

/-- Separators at the end separate nothing. -/
theorem pieces_dropEndWhile (text : Text) : pieces p (dropEndWhile p text) = pieces p text := by
  induction text using List.reverseRecOn with
  | nil => rfl
  | append_singleton before last ih =>
    have cut : dropEndWhile p (before ++ [last]) =
        if p last then dropEndWhile p before else before ++ [last] :=
      List.rdropWhile_concat p before last
    by_cases separates : p last = true
    · rw [cut, if_pos separates, ih, pieces_separated separates]
      exact (List.append_nil _).symm
    · rw [cut, if_neg separates]

/-- Of texts that are put together, each but the first has a separator in front. -/
theorem intercalate_cons (separator part : Text) (more : List Text) :
    separator.intercalate (part :: more) = part ++ more.flatMap (separator ++ ·) := by
  induction more generalizing part with
  | nil => rw [List.intercalate_singleton, List.flatMap_nil, List.append_nil]
  | cons next later ih =>
    rw [List.intercalate_cons_cons, ih, List.flatMap_cons, List.append_assoc, List.append_assoc]

private theorem flatMap_separator (given : parts ≠ []) :
    parts.flatMap (separator ++ ·) = separator ++ separator.intercalate parts := by
  obtain ⟨part, more, rfl⟩ := List.exists_cons_of_ne_nil given
  rw [List.flatMap_cons, intercalate_cons, List.append_assoc]

/-- Of parts that are not empty, none at all are put together to the empty text. -/
theorem intercalate_eq_nil (proper : ∀ part ∈ parts, part ≠ []) :
    separator.intercalate parts = [] ↔ parts = [] := by
  cases parts with
  | nil => exact iff_of_true rfl rfl
  | cons part more =>
    rw [intercalate_cons]
    simp [proper part (.head _)]

private theorem flatMap_flatten (proper : ∀ words ∈ groups, ∀ word ∈ words, word ≠ []) :
    groups.flatten.flatMap (separator ++ ·) =
      ((groups.map separator.intercalate).filter (!·.isEmpty)).flatMap (separator ++ ·) := by
  induction groups with
  | nil => rfl
  | cons words others ih =>
    obtain ⟨here, later⟩ := List.forall_mem_cons.mp proper
    cases words with
    | nil => exact ih later
    | cons word more =>
      have inked : (!(separator.intercalate (word :: more)).isEmpty) = true := by
        rw [intercalate_cons]
        simp [here word (.head _)]
      rw [List.flatten_cons, List.flatMap_append, flatMap_separator (List.cons_ne_nil _ _),
        ih later, List.map_cons, List.filter_cons, if_pos inked, List.flatMap_cons]

/-- Words are put together in groups as they are one by one. Groups without words leave no trace. -/
theorem intercalate_flatten (separator : Text)
    (proper : ∀ words ∈ groups, ∀ word ∈ words, word ≠ []) :
    separator.intercalate groups.flatten =
      separator.intercalate ((groups.map separator.intercalate).filter (!·.isEmpty)) := by
  have dropped (parts : List Text) : separator.intercalate parts =
      (parts.flatMap (separator ++ ·)).drop separator.length := by
    cases parts with
    | nil => exact List.drop_nil.symm
    | cons part more => rw [flatMap_separator (List.cons_ne_nil _ _), List.drop_left]
  rw [dropped, dropped, flatMap_flatten proper]

/-- The characters of joined parts are the separator and those of the parts. -/
theorem mem_intercalate {d : Char} (member : d ∈ [c].intercalate parts) :
    d = c ∨ ∃ part ∈ parts, d ∈ part := by
  cases parts with
  | nil => exact absurd member List.not_mem_nil
  | cons part more =>
    rw [intercalate_cons, List.mem_append, List.mem_flatMap] at member
    rcases member with here | ⟨next, listed, inside⟩
    · exact .inr ⟨part, .head _, here⟩
    · rcases List.mem_cons.mp inside with separator | behind
      · exact .inl separator
      · exact .inr ⟨next, .tail _ listed, behind⟩

/-- Pieces with separators between them are taken apart again. -/
theorem pieces_intercalate (separates : p c = true)
    (proper : ∀ part ∈ parts, part ≠ [] ∧ ∀ c ∈ part, p c = false) :
    pieces p ([c].intercalate parts) = parts := by
  induction parts with
  | nil => rfl
  | cons part more ih =>
    obtain ⟨given, clean⟩ := proper part (.head _)
    have later := ih fun other member => proper other (.tail _ member)
    cases more with
    | nil => rw [List.intercalate_singleton, pieces_clean given clean]
    | cons next more =>
      rw [List.intercalate_cons_cons, List.append_assoc, List.singleton_append,
        pieces_separated separates, pieces_clean given clean, later, List.singleton_append]

end

/-! ## Trimmed texts

What has been cut off cannot be cut off again, and a text whose end is to be kept is left alone.
-/

section

variable {p q : Char → Bool} {c : Char} {text : Text}

/-- A text that ends with a character outside `p`, if it ends with any. -/
theorem dropEndWhile_kept (kept : ∀ given : text ≠ [], ¬ p (text.getLast given) = true) :
    dropEndWhile p text = text :=
  List.rdropWhile_eq_self_iff.mpr kept

/-- Nothing is cut off the end of a text without such characters. -/
theorem dropEndWhile_clean (clean : ∀ c ∈ text, p c = false) : dropEndWhile p text = text :=
  dropEndWhile_kept fun given => by simp [clean _ (List.getLast_mem given)]

/-- Nothing to cut off at the start stays so when the end is cut off. -/
theorem dropWhile_dropEndWhile (kept : text.dropWhile p = text) :
    (dropEndWhile q text).dropWhile p = dropEndWhile q text := by
  obtain ⟨cut, split⟩ : dropEndWhile q text <+: text := List.rdropWhile_prefix q text
  cases rest : dropEndWhile q text with
  | nil => rfl
  | cons first more =>
    rw [rest] at split
    by_cases starts : p first = true
    · have shorter : (text.dropWhile p).length < text.length := by
        rw [← split, List.cons_append, List.dropWhile_cons_of_pos starts, List.length_cons]
        exact Nat.lt_succ_of_le (List.length_dropWhile_le p _)
      rw [kept] at shorter
      exact absurd shorter (Nat.lt_irrefl _)
    · exact List.dropWhile_cons_of_neg starts

/-- What would be cut off anyway can be cut off before. -/
theorem dropWhile_dropWhile (weaker : ∀ c, p c = true → q c = true) (text : Text) :
    (text.dropWhile p).dropWhile q = text.dropWhile q := by
  induction text with
  | nil => rfl
  | cons c rest ih =>
    by_cases cut : p c = true
    · rw [List.dropWhile_cons_of_pos cut, List.dropWhile_cons_of_pos (weaker c cut), ih]
    · rw [List.dropWhile_cons_of_neg cut]

/-- A start is cut off, or the text does not begin with it and stays. -/
theorem dropStart_cases (text start : Text) :
    start ++ dropStart text start = text ∨ ¬ start <+: text ∧ dropStart text start = text := by
  rw [dropStart, after?]
  cases found : start.isPrefixOf? text with
  | none =>
    refine .inr ⟨?_, rfl⟩
    rintro ⟨rest, split⟩
    have begins := List.isPrefixOf?_eq_some_iff_append_eq.mpr split
    rw [found] at begins
    cases begins
  | some rest => exact .inl (List.isPrefixOf?_eq_some_iff_append_eq.mp found)

/-- A start with a character that the text does not have is not cut off. -/
theorem dropStart_missing {start : Text} (needed : c ∈ start) (missing : c ∉ text) :
    dropStart text start = text := by
  rcases dropStart_cases text start with split | ⟨_, same⟩
  · exact absurd (split ▸ List.mem_append_left _ needed) missing
  · exact same

/-- An ending is cut off, or the text stays. -/
theorem dropEnding_cases (text ending : Text) :
    dropEnding text ending ++ ending = text ∨ dropEnding text ending = text := by
  rw [dropEnding]
  cases found : ending.isSuffixOf? text with
  | none => exact .inr rfl
  | some before => exact .inl (List.isSuffixOf?_eq_some_iff_append_eq.mp found)

/-- An ending that was put behind a text is cut off again. -/
theorem dropEnding_append (text ending : Text) : dropEnding (text ++ ending) ending = text := by
  rw [dropEnding, List.isSuffixOf?_eq_some_iff_append_eq.mpr rfl, Option.getD_some]

/-- Only a text with the ending loses it. -/
theorem dropEnding_eq_self {ending : Text} (given : ending ≠ []) :
    dropEnding text ending = text ↔ ¬ ending <:+ text := by
  constructor
  · rintro same ⟨before, split⟩
    have cut : dropEnding text ending = before := by rw [← split, dropEnding_append]
    rw [← same, cut] at split
    exact given (List.append_right_eq_self.mp split)
  · intro other
    exact (dropEnding_cases text ending).resolve_left fun split => other ⟨_, split⟩

/-- A text that neither begins nor ends with a blank stays. -/
theorem trim_kept (starts : ∀ c ∈ text.head?, isBlank c = false)
    (ends : ∀ c ∈ text.getLast?, isBlank c = false) : trim text = text := by
  have start : trimStart text = text := by
    cases text with
    | nil => rfl
    | cons first rest =>
      have solid : ¬ isBlank first = true := by simp [starts first rfl]
      exact List.dropWhile_cons_of_neg solid
  rw [trim, start]
  exact dropEndWhile_kept fun given => by simp [ends _ (List.getLast?_eq_some_getLast given)]

/-- A trimmed text has nothing left to trim. -/
theorem trim_trim (text : Text) : trim (trim text) = trim text := by
  have start : (trim text).dropWhile isBlank = trim text :=
    dropWhile_dropEndWhile (List.dropWhile_idempotent isBlank text)
  have finish : dropEndWhile isBlank (trim text) = trim text :=
    List.rdropWhile_idempotent isBlank (text.dropWhile isBlank)
  rw [trim, trimStart, start]
  exact finish

end

/-! ## The last word of a line

The part of a line up to its last space stays as it is when something without a space is written
behind it, so the last word of a line can be replaced again and again.
-/

section

/-- A line up to and including its last space. -/
def upToLastSpace (line : Text) : Text := line.rdropWhile (· != ' ')

/-- What follows the last space of a line. -/
def afterLastSpace (line : Text) : Text := line.rtakeWhile (· != ' ')

/-- What precedes the first space of a line. -/
def beforeFirstSpace (line : Text) : Text := line.takeWhile (· != ' ')

variable {line word : Text}

private theorem no_space (whole : ' ' ∉ word) : ∀ c ∈ word, (c != ' ') = true :=
  fun _ member => bne_iff_ne.mpr fun same => whole (same ▸ member)

/-! ### The first space -/

/-- A line without spaces is all before the first space. -/
theorem beforeFirstSpace_whole (whole : ' ' ∉ line) : beforeFirstSpace line = line :=
  List.takeWhile_eq_self_iff.mpr (no_space whole)

/-- The first space ends the first word. -/
theorem beforeFirstSpace_spaced (whole : ' ' ∉ word) (rest : Text) :
    beforeFirstSpace (word ++ ' ' :: rest) = word := by
  rw [beforeFirstSpace, List.takeWhile_append_of_pos (no_space whole)]
  exact List.append_nil word

/-! ### The last space -/

/-- A line is what its last space has in front and behind. -/
theorem lastSpace_split (line : Text) : upToLastSpace line ++ afterLastSpace line = line :=
  List.rdropWhile_append_rtakeWhile

/-- Behind the last space there is none. -/
theorem afterLastSpace_whole (line : Text) : ' ' ∉ afterLastSpace line := by
  intro member
  simpa using List.mem_rtakeWhile_imp member

private theorem no_space_reverse (whole : ' ' ∉ word) : ∀ c ∈ word.reverse, (c != ' ') = true :=
  fun c member => no_space whole c (List.mem_reverse.mp member)

/-- What is written behind without a space leaves the last space where it is. -/
theorem upToLastSpace_append (line : Text) (whole : ' ' ∉ word) :
    upToLastSpace (line ++ word) = upToLastSpace line := by
  simp only [upToLastSpace, List.rdropWhile, List.reverse_append,
    List.dropWhile_append_of_pos (no_space_reverse whole)]

/-- What is written behind without a space makes the last word longer. -/
theorem afterLastSpace_append (line : Text) (whole : ' ' ∉ word) :
    afterLastSpace (line ++ word) = afterLastSpace line ++ word := by
  simp only [afterLastSpace, List.rtakeWhile, List.reverse_append,
    List.takeWhile_append_of_pos (no_space_reverse whole), List.reverse_reverse]

private theorem upToLastSpace_space (front : Text) :
    upToLastSpace (front ++ [' ']) = front ++ [' '] :=
  List.rdropWhile_concat_neg _ _ _ (by decide)

/-- Cutting a line off at its last space again changes nothing. -/
theorem upToLastSpace_idem (line : Text) :
    upToLastSpace (upToLastSpace line) = upToLastSpace line :=
  List.rdropWhile_idempotent _ _

/-- A line without its last word has no last word. -/
theorem afterLastSpace_nil (closed : upToLastSpace line = line) : afterLastSpace line = [] := by
  have split := lastSpace_split line
  rwa [closed, List.append_right_eq_self] at split

/-- A line without spaces has nothing up to its last space. -/
theorem upToLastSpace_whole (whole : ' ' ∉ line) : upToLastSpace line = [] :=
  upToLastSpace_append [] whole

/-- A line has no space in it, or it goes on behind its last one. -/
theorem lastSpace_cases (line : Text) :
    ' ' ∉ line ∨ ∃ front word, line = front ++ ' ' :: word ∧ ' ' ∉ word := by
  by_cases spaced : ' ' ∈ line
  · obtain ⟨word, front, split, whole⟩ :=
      List.eq_append_cons_of_mem (List.mem_reverse.mpr spaced)
    refine .inr ⟨front.reverse, word.reverse, ?_, by simpa using whole⟩
    simpa using congrArg List.reverse split
  · exact .inl spaced

/-- A word behind a space is what follows the last space. -/
theorem upToLastSpace_spaced (front : Text) (whole : ' ' ∉ word) :
    upToLastSpace (front ++ ' ' :: word) = front ++ [' '] := by
  rw [List.append_cons, upToLastSpace_append _ whole, upToLastSpace_space]

/-- The last word is the one behind the last space. -/
theorem afterLastSpace_spaced (front : Text) (whole : ' ' ∉ word) :
    afterLastSpace (front ++ ' ' :: word) = word := by
  rw [List.append_cons, afterLastSpace_append _ whole,
    afterLastSpace_nil (upToLastSpace_space front), List.nil_append]

end

end BlogTerminal.Text
