import BlogTerminal.Post
import BlogTerminal.Proofs.Path.Page
import BlogTerminal.Proofs.Post.Tally
import BlogTerminal.Proofs.Text.Lowercase
import BlogTerminal.Proofs.Text.Pieces

/-!
Slugs, and looking things up by them. A slug is its own slug, so it does not matter whether a series
or a tag is looked up by its name or by what its name is turned into.
-/

namespace BlogTerminal

section

/-- A character that stays as it is in a slug. -/
structure SlugChar (c : Char) : Prop where
  settled : Text.Settled c
  solid : Text.isBlank c = false
  whole : c ≠ '/'

instance (c : Char) : Decidable (SlugChar c) :=
  decidable_of_iff (Text.Settled c ∧ Text.isBlank c = false ∧ c ≠ '/')
    ⟨fun ⟨settled, solid, whole⟩ => ⟨settled, solid, whole⟩,
      fun ⟨settled, solid, whole⟩ => ⟨settled, solid, whole⟩⟩

variable {name text : Text} {c : Char}

/-- A slug is made of lowercase characters that are neither blanks nor slashes. -/
theorem slugOf_char (member : c ∈ slugOf name) : SlugChar c := by
  rcases Text.mem_intercalate member with rfl | ⟨piece, listed, inside⟩
  · decide
  · obtain ⟨separates, held⟩ := (Text.mem_pieces listed).2 c inside
    simp only [Bool.or_eq_false_iff, beq_eq_false_iff_ne] at separates
    exact ⟨Text.lower_settled c held, separates.1, separates.2⟩

/-- A text of such characters is its own slug. -/
theorem slugOf_of_chars (chars : ∀ c ∈ text, SlugChar c) : slugOf text = text := by
  have lower : text.lower = text := Text.lower_of_settled fun c member => (chars c member).settled
  rw [slugOf, lower]
  by_cases empty : text = []
  · rw [empty]
    rfl
  · have clean : ∀ c ∈ text, (Text.isBlank c || c == '/') = false := by
      intro c member
      obtain ⟨_, solid, whole⟩ := chars c member
      simp [solid, whole]
    rw [Text.pieces_clean empty clean, List.intercalate_singleton]

/-- A text of such characters holds no slash. -/
theorem whole_of_chars (chars : ∀ c ∈ text, SlugChar c) : '/' ∉ text :=
  fun slash => (chars '/' slash).whole rfl

/-- A slug holds no slash. -/
theorem slugOf_whole (name : Text) : '/' ∉ slugOf name := whole_of_chars fun _ => slugOf_char

/-- A slug is its own slug. -/
theorem slugOf_slugOf (name : Text) : slugOf (slugOf name) = slugOf name :=
  slugOf_of_chars fun _ => slugOf_char

namespace Post

variable {posts : List Post} {post : Post} {slug : Text}

/-! ## Plain slugs -/

/-- The slug is not empty and is made of lowercase letters, digits and dashes. -/
structure HasPlainSlug (post : Post) : Prop where
  given : post.slug ≠ []
  plain : post.slug.all (fun c => c.isLower || c.isDigit || c == '-') = true

instance (post : Post) : Decidable post.HasPlainSlug :=
  decidable_of_iff
    (post.slug ≠ [] ∧ post.slug.all (fun c => c.isLower || c.isDigit || c == '-') = true)
    ⟨fun ⟨given, plain⟩ => ⟨given, plain⟩, fun ⟨given, plain⟩ => ⟨given, plain⟩⟩

private theorem plain_ascii : ∀ n < 128, ((Char.ofNat n).isLower || (Char.ofNat n).isDigit ||
    Char.ofNat n == '-') = true →
      SlugChar (Char.ofNat n) ∧ Char.ofNat n ∉ "~.?#\"'".toList := by
  decide

private theorem plain_bound (plain : (c.isLower || c.isDigit || c == '-') = true) :
    c.toNat < 128 := by
  simp only [Bool.or_eq_true, beq_iff_eq] at plain
  rcases plain with (lower | digit) | rfl
  · have high : c.val ≤ 'z'.val := of_decide_eq_true (Bool.and_eq_true_iff.mp lower).2
    exact Nat.lt_of_le_of_lt (UInt32.le_iff_toNat_le.mp high) (by decide)
  · have high : c.val ≤ '9'.val := of_decide_eq_true (Bool.and_eq_true_iff.mp digit).2
    exact Nat.lt_of_le_of_lt (UInt32.le_iff_toNat_le.mp high) (by decide)
  · decide

/-- Lowercase letters, digits and dashes stay as they are in a slug, and none of them means anything
in a path, in a URL or to a command line. -/
theorem plain_char (plain : (c.isLower || c.isDigit || c == '-') = true) :
    SlugChar c ∧ c ∉ "~.?#\"'".toList := by
  have found := plain_ascii c.toNat (plain_bound plain)
  rw [Char.ofNat_toNat] at found
  exact found plain

/-- The text is made of lowercase letters, digits and dashes. -/
def IsPlain (text : Text) : Prop := ∀ c ∈ text, (c.isLower || c.isDigit || c == '-') = true

/-- A plain slug is made of the characters of slugs. -/
theorem IsPlain.chars (plain : IsPlain text) : ∀ c ∈ text, SlugChar c :=
  fun c member => (plain_char (plain c member)).1

/-- A plain slug is in lowercase. -/
theorem IsPlain.lower (plain : IsPlain text) : text.lower = text :=
  Text.lower_of_settled fun c member => (plain.chars c member).settled

/-- Plain slugs are slugs, and none of their characters means anything in a path or a URL. -/
theorem HasPlainSlug.char (plain : post.HasPlainSlug) (member : c ∈ post.slug) :
    SlugChar c ∧ c ∉ "~.?#".toList := by
  obtain ⟨char, ordinary⟩ := plain_char (List.all_eq_true.mp plain.plain c member)
  have fewer : "~.?#".toList ⊆ "~.?#\"'".toList := by decide
  exact ⟨char, fun special => ordinary (fewer special)⟩

/-- The plain slug of a post holds no slash. -/
theorem HasPlainSlug.whole (plain : post.HasPlainSlug) : '/' ∉ post.slug :=
  whole_of_chars fun _ member => (plain.char member).1

/-- The plain slug of a post is in lowercase. -/
theorem HasPlainSlug.lower (plain : post.HasPlainSlug) : post.slug.lower = post.slug :=
  Text.lower_of_settled fun _ member => (plain.char member).1.settled

/-! ## Look-ups -/

/-- A post is found by a slug when some post has it in any case. -/
theorem find_isSome :
    (find? posts slug).isSome ↔ ∃ post ∈ posts, post.slug.lower = slug.lower := by
  simp [find?, List.find?_isSome]

/-- A series that is found is carried by some post and has the slug that was looked for. -/
theorem findSeries_slug {series : Text} (found : findSeries? posts name = some series) :
    (∃ post ∈ posts, post.series = some series) ∧ slugOf series = slugOf name :=
  ⟨mem_seriesNames.mp (List.mem_of_find?_eq_some found), by simpa using List.find?_some found⟩

/-- A series is found when some post carries one with the slug. -/
theorem findSeries_isSome :
    (findSeries? posts name).isSome ↔ ∃ post ∈ posts, post.seriesSlug = some (slugOf name) := by
  simp only [findSeries?, List.find?_isSome, mem_seriesNames, decide_eq_true_eq, seriesSlug,
    Option.map_eq_some_iff]
  constructor
  · rintro ⟨series, ⟨post, member, held⟩, same⟩
    exact ⟨post, member, series, held, same⟩
  · rintro ⟨post, member, series, held, same⟩
    exact ⟨series, ⟨post, member, held⟩, same⟩

/-- A tag that is found is carried by some post and has the slug that was looked for. -/
theorem findTag_slug {tag : Text} (found : findTag? posts name = some tag) :
    (∃ post ∈ posts, tag ∈ post.tags) ∧ slugOf tag = slugOf name :=
  ⟨mem_allTags.mp (List.mem_of_find?_eq_some found), by simpa using List.find?_some found⟩

/-- A tag is found when some post carries one with the slug. -/
theorem findTag_isSome :
    (findTag? posts name).isSome ↔ ∃ post ∈ posts, post.hasTag name = true := by
  simp only [findTag?, List.find?_isSome, mem_allTags, decide_eq_true_eq, hasTag, List.any_eq_true]
  constructor
  · rintro ⟨tag, ⟨post, member, held⟩, same⟩
    exact ⟨post, member, tag, held, same⟩
  · rintro ⟨post, member, tag, held, same⟩
    exact ⟨tag, ⟨post, member, held⟩, same⟩

end Post

end

/-! ## Slugs as segments

The slug of a name is a segment unless the name has nothing but blanks and slashes, it is its own
slug and its own lowercase, and it does not tell in which case the ASCII letters of the name were
written. Below the directories of series and of tags it is read as the name that it is.
-/

section

variable {name : Text} {c : Char}

/-! ### What separates the words of a name -/

/-- The character separates the words of a name in its slug. -/
def separates (c : Char) : Bool := Text.isBlank c || c == '/'

/-- The code points of the characters that separate words. -/
def separators : Text.Ranges := (0x002F, 0x002F) :: Text.blanks

private theorem Text.Ranges.covered {ranges : Text.Ranges} {n : Nat}
    (covers : ranges.covers n = true) :
    ∃ range ∈ ranges, range.1 ≤ n ∧ n ≤ range.2 := by
  induction ranges with
  | nil => cases covers
  | cons range rest ih =>
    obtain ⟨first, last⟩ := range
    simp only [Text.Ranges.covers, Bool.and_eq_true, Bool.or_eq_true, decide_eq_true_eq] at covers
    obtain ⟨above, below | later⟩ := covers
    · exact ⟨(first, last), .head _, above, below⟩
    · obtain ⟨range, listed, inside⟩ := ih later
      exact ⟨range, .tail _ listed, inside⟩

private theorem separates_outside
    (outside : ∀ range ∈ separators, c.toNat < range.1 ∨ range.2 < c.toNat) :
    separates c = false := by
  have apart : ∀ range ∈ separators, ¬ (range.1 ≤ c.toNat ∧ c.toNat ≤ range.2) := by
    intro range listed inside
    have := outside range listed
    omega
  rw [separates, Bool.or_eq_false_iff, beq_eq_false_iff_ne]
  constructor
  · by_contra blank
    obtain ⟨range, listed, inside⟩ := Text.Ranges.covered (Bool.of_not_eq_false blank)
    exact apart range (.tail _ listed) inside
  · rintro rfl
    exact apart _ (.head _) (by decide)

/-- No letter that is moved, and none that one is moved to, separates words. -/
private theorem separators_apart : ∀ run ∈ Text.lowercaseRuns, ∀ range ∈ separators,
    (run.last < range.1 ∨ range.2 < run.first) ∧
      (run.image + (run.last - run.first) < range.1 ∨ range.2 < run.image) := by
  decide +kernel

private theorem separates_lowerChar (c : Char) : separates (Text.lowerChar c) = separates c := by
  rcases Text.lowerChar_cases c with same | ⟨run, member, ⟨low, high, _⟩, code⟩
  · rw [same]
  · have kept : separates c = false := by
      refine separates_outside fun range listed => ?_
      have apart := (separators_apart run member range listed).1
      omega
    have moved : separates (Text.lowerChar c) = false := by
      refine separates_outside fun range listed => ?_
      have apart := (separators_apart run member range listed).2
      omega
    rw [kept, moved]

private theorem separates_lowerBetween (before behind : Text) (c : Char) :
    (∀ d ∈ Text.lowerBetween before c behind, separates d = true) ↔ separates c = true := by
  by_cases sigma : c = 'Σ'
  · have capital : separates 'Σ' = false := by decide
    have final : separates 'ς' = false := by decide
    have medial : separates 'σ' = false := by decide
    rw [Text.lowerBetween, if_pos sigma, sigma, List.forall_mem_singleton, capital]
    split
    · rw [final]
    · rw [medial]
  by_cases dotted : c = 'İ'
  · have capital : separates 'İ' = false := by decide
    have letter : separates 'i' = false := by decide
    rw [Text.lowerBetween, if_neg sigma, if_pos dotted, dotted]
    simp [letter, capital]
  · rw [Text.lowerBetween, if_neg sigma, if_neg dotted, List.forall_mem_singleton,
      separates_lowerChar]

/-- The lowercase of a name has nothing but separators exactly when the name has nothing else. -/
theorem separates_lower (name : Text) :
    (∀ c ∈ name.lower, separates c = true) ↔ ∀ c ∈ name, separates c = true := by
  have from_front : ∀ before : Text,
      (∀ c ∈ Text.lowerFrom before name, separates c = true) ↔
        ∀ c ∈ name, separates c = true := by
    induction name with
    | nil => exact fun _ => Iff.rfl
    | cons head rest ih =>
      intro before
      rw [Text.lowerFrom, List.forall_mem_append, separates_lowerBetween, ih, List.forall_mem_cons]
  exact from_front []

private theorem slugOf_eq_nil : slugOf name = [] ↔ ∀ c ∈ name, Text.isBlank c = true ∨ c = '/' := by
  have words : slugOf name = [] ↔ name.lower.pieces separates = [] :=
    Text.intercalate_eq_nil fun _ listed => (Text.mem_pieces listed).1
  rw [words, Text.pieces_eq_nil, separates_lower]
  simp only [separates, Bool.or_eq_true, beq_iff_eq]

/-! ### The slug as a segment -/

/-- Names that differ only in the case of ASCII letters have one slug. -/
theorem slugOf_congr {other : Text} (letters : other.map Char.toLower = name.map Char.toLower) :
    slugOf other = slugOf name := by
  rw [slugOf, Text.lower_congr letters, slugOf]

/-- A slug is its own slug, holds no blank and no slash, is its own lowercase and does not depend on
the case of ASCII letters. It is empty only for a name of blanks and slashes, and otherwise the
directories of tags and series lead to the page of that slug. -/
theorem slug_segment (name : Text) :
    slugOf (slugOf name) = slugOf name ∧
      (∀ c ∈ slugOf name, Text.isBlank c = false ∧ c ≠ '/') ∧
      (slugOf name).lower = slugOf name ∧
      (∀ other : Text, other.map Char.toLower = name.map Char.toLower →
        slugOf other = slugOf name) ∧
      (slugOf name = [] ↔ ∀ c ∈ name, Text.isBlank c = true ∨ c = '/') ∧
      (slugOf name ≠ [] →
        Page.ofDirectory? ("tags/" ++ slugOf name) = some (.tagItem (slugOf name)) ∧
          Page.ofDirectory? ("series/" ++ slugOf name) = some (.seriesItem (slugOf name))) := by
  refine ⟨slugOf_slugOf name, fun c member => ?_, ?_, fun other => slugOf_congr, slugOf_eq_nil,
    fun given => ?_⟩
  · obtain ⟨_, solid, whole⟩ := slugOf_char member
    exact ⟨solid, whole⟩
  · exact Text.lower_of_settled fun c member => (slugOf_char member).settled
  · have segment : Path.IsSegment (slugOf name) := ⟨given, slugOf_whole name⟩
    have tag : Page.Proper (.tagItem (slugOf name)) := segment
    have series : Page.Proper (.seriesItem (slugOf name)) := segment
    exact ⟨Page.ofDirectory_directory tag, Page.ofDirectory_directory series⟩

/-- A sigma that ends a word of the name, and a second one that stands alone between slashes. -/
theorem slug_segment_sigma :
    let slug : Text := "ο-δομος-σ-ci"
    slugOf "Ο ΔΟΜΟΣ/Σ/CI" = slug ∧ slugOf "Ο ΔΟΜΟΣ/Σ/ci" = slug ∧
      slugOf slug = slug ∧ slug.lower = slug ∧
      Page.ofDirectory? ("tags/" ++ slug) = some (.tagItem slug) ∧
      Page.ofDirectory? ("series/" ++ slug) = some (.seriesItem slug) := by
  intro slug
  have spelled : slugOf "Ο ΔΟΜΟΣ/Σ/CI" = slug := by decide +kernel
  obtain ⟨again, _, lower, letters, _, pages⟩ := slug_segment "Ο ΔΟΜΟΣ/Σ/CI"
  have variant := letters "Ο ΔΟΜΟΣ/Σ/ci" (by decide)
  rw [spelled] at again lower variant pages
  obtain ⟨tag, series⟩ := pages (by decide)
  exact ⟨spelled, variant, again, lower, tag, series⟩

end

end BlogTerminal
