import BlogTerminal.Command.Context

/-!
The grammar of a line of input. A line is words with blanks between them, and a word is bare runs
and quoted runs side by side, of which only one that ends the line may lack its closing quote. In
whatever way a line is read by this grammar, its words that are not empty are the words that the
line is split into; and every line can be read by it.
-/

namespace BlogTerminal.CommandLine

/-! ## The grammar -/

/-- A part of a word. -/
inductive Run where
  | bare (text : Text)
  | quoted (quote : Char) (text : Text)
  /-- A quoted run without its closing quote. -/
  | unclosed (quote : Char) (text : Text)
  deriving DecidableEq

/-- What a run adds to its word; the quotes are not part of it. -/
def Run.text : Run → Text
  | bare text | quoted _ text | unclosed _ text => text

/-- The content of a word. -/
def content (word : List Run) : Text := word.flatMap Run.text

/-- The character begins a quoted run. -/
def IsQuote (c : Char) : Prop := c = '"' ∨ c = '\''

/-- The characters are blanks; there may be none. -/
def IsGap (text : Text) : Prop := ∀ c ∈ text, Text.isBlank c = true

/-- The characters can stand outside quotes. -/
def IsBare (text : Text) : Prop := ∀ c ∈ text, Text.isBlank c = false ∧ ¬ IsQuote c

instance (c : Char) : Decidable (IsQuote c) := inferInstanceAs (Decidable (c = '"' ∨ c = '\''))

instance (text : Text) : Decidable (IsGap text) :=
  List.decidableBAll (fun c => Text.isBlank c = true) text

instance (text : Text) : Decidable (IsBare text) :=
  List.decidableBAll (fun c => Text.isBlank c = false ∧ ¬ IsQuote c) text

/-- The line begins with a word of these runs, and `behind` is what follows the word. -/
inductive Begins (behind : Text) : List Run → Text → Prop where
  | done : Begins behind [] behind
  | bare {word : List Run} {text rest : Text} (plain : IsBare text)
      (more : Begins behind word rest) : Begins behind (.bare text :: word) (text ++ rest)
  | quoted {word : List Run} {quote : Char} {text rest : Text} (mark : IsQuote quote)
      (inside : quote ∉ text) (more : Begins behind word rest) :
      Begins behind (.quoted quote text :: word) (quote :: (text ++ quote :: rest))
  | unclosed {quote : Char} {text : Text} (mark : IsQuote quote) (inside : quote ∉ text)
      (last : behind = []) : Begins behind [.unclosed quote text] (quote :: text)

/-- The line consists of these words. At least one blank separates a word from the next one. -/
inductive Reads : List (List Run) → Text → Prop where
  | blank {gap : Text} (blanks : IsGap gap) : Reads [] gap
  | last {word : List Run} {gap line : Text} (blanks : IsGap gap) (here : Begins [] word line) :
      Reads [word] (gap ++ line)
  | next {word : List Run} {words : List (List Run)} {gap line rest : Text} {c : Char}
      (blanks : IsGap gap) (here : Begins (c :: rest) word line)
      (separates : Text.isBlank c = true) (later : Reads words rest) :
      Reads (word :: words) (gap ++ line)

variable {c quote : Char} {text gap line behind : Text} {word : List Run}
  {reading : List (List Run)}

private theorem content_cons (run : Run) (word : List Run) :
    content (run :: word) = run.text ++ content word :=
  List.flatMap_cons

/-! ## Splitting a line that is read by the grammar -/

private theorem not_quote_of_blank (blank : Text.isBlank c = true) : ¬ IsQuote c := by
  rintro (rfl | rfl) <;> cases blank

private theorem split_blank (blank : Text.isBlank c = true) (rest : Text) :
    split none (c :: rest) = ([], words rest) := by
  have unquoted : ¬(c = '"' ∨ c = '\'') := not_quote_of_blank blank
  simp only [split, unquoted, if_false, blank, if_true, words]

/-- A bare text in front of a line is a part of its first word. -/
theorem split_bare (plain : IsBare text) (more : Text) :
    split none (text ++ more) = (text ++ (split none more).1, (split none more).2) := by
  induction text with
  | nil => rfl
  | cons c rest ih =>
    obtain ⟨solid, unquoted⟩ : Text.isBlank c = false ∧ ¬(c = '"' ∨ c = '\'') := plain c (.head _)
    have later := ih fun d member => plain d (.tail _ member)
    simp only [List.cons_append, split, unquoted, if_false, solid, later, Bool.false_eq_true]

private theorem split_quoted (inside : quote ∉ text) (more : Text) :
    split (some quote) (text ++ quote :: more) =
      (text ++ (split none more).1, (split none more).2) := by
  induction text with
  | nil => simp only [List.nil_append, split, if_true]
  | cons c rest ih =>
    rw [List.mem_cons, not_or] at inside
    simp only [List.cons_append, split, Ne.symm inside.1, if_false, ih inside.2]

private theorem split_unclosed (inside : quote ∉ text) : split (some quote) text = (text, []) := by
  induction text with
  | nil => rfl
  | cons c rest ih =>
    rw [List.mem_cons, not_or] at inside
    simp only [split, Ne.symm inside.1, if_false, ih inside.2]

private theorem split_quote (mark : IsQuote quote) (rest : Text) :
    split none (quote :: rest) = split (some quote) rest := by
  have found : quote = '"' ∨ quote = '\'' := mark
  simp only [split, found, if_true]

/-- A word that the line begins with is split off whole. -/
theorem Begins.split_eq (begins : Begins behind word line) :
    split none line = (content word ++ (split none behind).1, (split none behind).2) := by
  induction begins with
  | done => rfl
  | bare plain _ ih =>
    rw [split_bare plain, ih, content_cons, List.append_assoc]
    rfl
  | quoted mark inside _ ih =>
    rw [split_quote mark, split_quoted inside, ih, content_cons, List.append_assoc]
    rfl
  | unclosed mark inside last =>
    rw [split_quote mark, split_unclosed inside, last]
    simp [content, Run.text, split]

private theorem words_gap (blanks : IsGap gap) (more : Text) :
    words (gap ++ more) = words more := by
  induction gap with
  | nil => rfl
  | cons c rest ih =>
    have later := ih fun d member => blanks d (.tail _ member)
    rw [List.cons_append, words, split_blank (blanks c (.head _)), later]
    rfl

private theorem filter_addWord (word : Text) (words : List Text) :
    (word :: words).filter (!·.isEmpty) = addWord word (words.filter (!·.isEmpty)) := by
  cases word <;> rfl

/-- The words that the grammar reads are those that the line is split into, but for empty ones. -/
theorem Reads.words_eq (reads : Reads reading line) :
    words line = (reading.map content).filter (!·.isEmpty) := by
  induction reads with
  | blank blanks =>
    have gone := words_gap blanks []
    rwa [List.append_nil] at gone
  | last blanks here =>
    rw [words_gap blanks, words, here.split_eq, List.map_singleton, filter_addWord]
    simp [split]
  | next blanks here separates _ ih =>
    rw [words_gap blanks, words, here.split_eq, split_blank separates, ih, List.map_cons,
      filter_addWord, List.append_nil]

/-- A word without quotes and a space are taken off the front of a line. -/
theorem words_next {first : Text} (plain : IsBare first) (given : first ≠ []) (rest : Text) :
    words (first ++ ' ' :: rest) = first :: words rest := by
  have space : Text.isBlank ' ' = true := rfl
  rw [words, split_bare plain, split_blank space, List.append_nil]
  simp [addWord, given]

/-- Without blanks a text is one word, whatever its quotes enclose. -/
theorem split_solid (solid : ∀ c ∈ text, Text.isBlank c = false) (quote : Option Char) :
    (split quote text).2 = [] ∧ (split quote text).1 ⊆ text := by
  induction text generalizing quote with
  | nil => cases quote <;> exact ⟨rfl, List.Subset.refl _⟩
  | cons c rest ih =>
    have later := ih fun d member => solid d (.tail _ member)
    have here : Text.isBlank c = false := solid c (.head _)
    cases quote with
    | none =>
      by_cases mark : c = '"' ∨ c = '\''
      · simp only [split, mark, if_true]
        exact ⟨(later (some c)).1, List.subset_cons_of_subset c (later (some c)).2⟩
      · simp only [split, mark, if_false, here, Bool.false_eq_true]
        exact ⟨(later none).1, List.cons_subset_cons c (later none).2⟩
    | some quote =>
      by_cases closes : c = quote
      · simp only [split, closes, if_true]
        exact ⟨(later none).1, List.subset_cons_of_subset quote (later none).2⟩
      · simp only [split, closes, if_false]
        exact ⟨(later (some quote)).1, List.cons_subset_cons c (later (some quote)).2⟩

/-- A line without blanks is one word. -/
theorem words_solid (solid : ∀ c ∈ text, Text.isBlank c = false) :
    words text = addWord (split none text).1 [] :=
  congrArg (addWord (split none text).1) (split_solid solid none).1

/-- A bare text is one word, and the word is the text. -/
theorem words_plain (plain : IsBare text) (given : text ≠ []) : words text = [text] := by
  have whole := split_bare plain []
  rw [List.append_nil] at whole
  rw [words_solid fun c member => (plain c member).1, whole]
  simp [split, addWord, given]

/-- Two words without quotes, and a space between them. -/
theorem words_bare {first second : Text} (plain : IsBare first) (given : first ≠ [])
    (bare : IsBare second) (more : second ≠ []) :
    words (first ++ ' ' :: second) = [first, second] := by
  rw [words_next plain given, words_plain bare more]

/-! ## Every line can be read -/

/-- What a word takes off the front of a line leaves the end of it. -/
theorem Begins.suffix (begins : Begins behind word line) : behind <:+ line := by
  induction begins with
  | done => exact List.suffix_rfl
  | bare _ _ ih => exact ih.trans (List.suffix_append _ _)
  | quoted _ _ _ ih =>
    exact ((ih.trans (List.suffix_cons _ _)).trans (List.suffix_append _ _)).trans
      (List.suffix_cons _ _)
  | unclosed _ _ last =>
    rw [last]
    exact List.nil_suffix

/-- A line begins with a word, in front of a blank or at its end; no bare run of the word need be
empty. -/
theorem begins_exists (line : Text) : ∃ word behind, Begins behind word line ∧
    .bare [] ∉ word ∧ ∀ c ∈ behind.head?, Text.isBlank c = true := by
  match line with
  | [] => exact ⟨[], [], .done, List.not_mem_nil, by simp⟩
  | c :: rest =>
    by_cases blank : Text.isBlank c = true
    · exact ⟨[], c :: rest, .done, List.not_mem_nil, by simpa using blank⟩
    by_cases mark : c = '"' ∨ c = '\''
    · -- Without the same quote behind it, the run takes the rest of the line.
      by_cases closed : c ∈ rest
      · obtain ⟨text, more, rfl, inside⟩ := List.eq_append_cons_of_mem closed
        obtain ⟨word, behind, begins, given, stops⟩ := begins_exists more
        exact ⟨.quoted c text :: word, behind, .quoted mark inside begins, by simpa using given,
          stops⟩
      · exact ⟨[.unclosed c rest], [], .unclosed mark closed rfl, by simp, by simp⟩
    · obtain ⟨word, behind, begins, given, stops⟩ := begins_exists rest
      have plain : IsBare [c] := List.forall_mem_singleton.mpr ⟨by simpa using blank, mark⟩
      exact ⟨.bare [c] :: word, behind, .bare plain begins, by simpa using given, stops⟩
termination_by line.length

/-- A blank in front makes no difference to the words. -/
theorem Reads.indent (blank : Text.isBlank c = true)
    (reads : Reads reading line) : Reads reading (c :: line) := by
  have wider {gap : Text} (blanks : IsGap gap) : IsGap (c :: gap) :=
    List.forall_mem_cons.mpr ⟨blank, blanks⟩
  cases reads with
  | blank blanks => exact .blank (wider blanks)
  | last blanks here => exact .last (wider blanks) here
  | next blanks here separates later => exact .next (wider blanks) here separates later

/-- A line can be read so that no word is without runs and no bare run is empty. -/
theorem reads_exists (line : Text) :
    ∃ reading, Reads reading line ∧ ∀ word ∈ reading, word ≠ [] ∧ .bare [] ∉ word := by
  match line with
  | [] => exact ⟨[], .blank fun c member => absurd member List.not_mem_nil, by simp⟩
  | c :: rest =>
    by_cases blank : Text.isBlank c = true
    · obtain ⟨reading, reads, given⟩ := reads_exists rest
      exact ⟨reading, reads.indent blank, given⟩
    · obtain ⟨word, behind, begins, proper, stops⟩ := begins_exists (c :: rest)
      -- A word without runs would end in front of a blank, but `c` is none.
      have given : word ≠ [] := by
        rintro rfl
        cases begins
        exact blank (stops c rfl)
      have noGap : IsGap [] := fun c member => absurd member List.not_mem_nil
      cases behind with
      | nil => exact ⟨[word], .last noGap begins, by simpa using ⟨given, proper⟩⟩
      | cons d later =>
        have shorter : later.length < (c :: rest).length := begins.suffix.length_le
        obtain ⟨reading, reads, givens⟩ := reads_exists later
        exact ⟨word :: reading, .next noGap begins (stops d rfl) reads,
          List.forall_mem_cons.mpr ⟨⟨given, proper⟩, givens⟩⟩
termination_by line.length
decreasing_by
  · exact Nat.lt_succ_self rest.length
  · exact shorter

/-- Splitting a line gives the contents of its words, but for empty ones, in whatever way the line
is read by the grammar; and every line is read by it, with no need for empty words or empty bare
runs. -/
theorem words_of_grammar (line : Text) :
    (∀ reading, Reads reading line →
      words line = (reading.map content).filter (!·.isEmpty)) ∧
      ∃ reading, Reads reading line ∧ ∀ word ∈ reading, word ≠ [] ∧ .bare [] ∉ word :=
  ⟨fun _ reads => reads.words_eq, reads_exists line⟩

/-- A quoted run in the middle of a word, an empty word, and a quote that is never closed. -/
theorem words_of_grammar_unclosed :
    let reading : List (List Run) :=
      [[.bare "cat", .quoted '"' " it's ", .bare "me"], [.quoted '\'' []],
        [.bare "a", .unclosed '\'' " \"b"]]
    Reads reading "  cat\" it's \"me\t'' a' \"b" ∧
      words "  cat\" it's \"me\t'' a' \"b" = (["cat it's me", "a \"b"] : List Text) := by
  have third : Begins [] [.bare "a", .unclosed '\'' " \"b"] "a' \"b" :=
    .bare (by decide) (.unclosed (.inr rfl) (by decide) rfl)
  have second : Begins " a' \"b" [.quoted '\'' []] "'' a' \"b" :=
    .quoted (.inr rfl) (by decide) .done
  have first : Begins "\t'' a' \"b" [.bare "cat", .quoted '"' " it's ", .bare "me"]
      "cat\" it's \"me\t'' a' \"b" :=
    .bare (by decide) (.quoted (.inl rfl) (by decide) (.bare (by decide) .done))
  have reads := Reads.next (by decide : IsGap "  ") first rfl
    (.next (by decide : IsGap []) second rfl (.last (by decide : IsGap []) third))
  exact ⟨reads, (words_of_grammar _).1 _ reads⟩

end BlogTerminal.CommandLine
