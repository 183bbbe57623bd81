import BlogTerminal.Command.Posts
import BlogTerminal.Post
import BlogTerminal.Proofs.Command.Links
import BlogTerminal.Proofs.Markup.Highlight
import BlogTerminal.Proofs.Text.Lowercase
import Mathlib.Data.List.Basic

/-!
What the two searches answer. `grep` shows the posts with marks in them and `find` only their file
names, but each entry has one link, which leads to the post, and the marks are no links. So with the
case ignored both answer the posts that contain the pattern, in collection order, and they fail
together.
-/

namespace BlogTerminal

/-! ## Found posts

A post is found when one of its texts contains the pattern, both in the form in which they are
compared. Ignoring case compares lowercase texts, and so it finds all that is found with case as
long as the pattern keeps its lowercase inside of longer texts.
-/

private theorem Text.isInfixOf_iff {part text : Text} :
    part.isInfixOf text = true ↔ part <:+: text := by
  induction text with
  | nil => rw [Text.isInfixOf, List.isEmpty_iff, List.infix_nil]
  | cons c rest ih =>
    rw [Text.isInfixOf, Bool.or_eq_true, List.isPrefixOf_iff_prefix, ih, List.infix_cons_iff]

namespace Post

variable {posts : List Post} {post : Post} {pattern text : Text} {ignoreCase : Bool}

private theorem mentions_iff : mentions ignoreCase pattern text = true ↔
    searchForm ignoreCase pattern <:+: searchForm ignoreCase text :=
  Text.isInfixOf_iff

/-- The texts of a post in which a pattern is searched for. -/
def texts (post : Post) : List Text :=
  [post.title, post.description] ++ post.tags ++ post.body :: post.series.toList

private theorem isMatch_iff : isMatch ignoreCase pattern post = true ↔
    ∃ text ∈ post.texts, mentions ignoreCase pattern text = true := by
  cases series : post.series with
  | none => simp [isMatch, texts, series, or_assoc]
  | some name => simp [isMatch, texts, series, or_assoc, or_and_right, exists_or]

private theorem isMatch_ignoring_case (steady : pattern.Steady)
    (found : isMatch false pattern post = true) : isMatch true pattern post = true := by
  obtain ⟨text, member, mentioned⟩ := isMatch_iff.mp found
  have inside : pattern <:+: text := mentions_iff.mp mentioned
  exact isMatch_iff.mpr ⟨text, member, mentions_iff.mpr (Text.lower_infix steady inside)⟩

/-- A search that ignores case finds all that a search with case finds, in every collection, exactly
when the pattern is steady: no capital sigma of it is written small in another way inside of a
longer text. -/
theorem search_ignoring_case (pattern : Text) :
    (∀ posts, (search false pattern posts).Sublist (search true pattern posts)) ↔
      pattern.Steady := by
  constructor
  · intro kept
    refine Text.steady_iff.mpr fun whole inside => ?_
    -- A post that holds no other text than the longer one.
    let post : Post := ⟨[], whole, whole, [], [], none, whole⟩
    have only : ∀ text ∈ post.texts, text = whole := by simp [texts, post]
    have mentioned : isMatch false pattern post = true :=
      isMatch_iff.mpr ⟨whole, .head _, mentions_iff.mpr inside⟩
    have found : post ∈ search false pattern [post] := List.mem_filter.mpr ⟨.head _, mentioned⟩
    have again : isMatch true pattern post = true :=
      (List.mem_filter.mp ((kept [post]).subset found)).2
    obtain ⟨text, member, lower⟩ := isMatch_iff.mp again
    rw [only text member] at lower
    exact mentions_iff.mp lower
  · exact fun steady posts =>
      List.monotone_filter_right posts fun _ found => isMatch_ignoring_case steady found

/-- The word for music is found by the capitals it begins with, but not when case is ignored: a
sigma at the end of the pattern is written small as one that ends a word. -/
theorem sigma_overlooked :
    let post : Post := ⟨"music", "ΜΟΥΣΙΚΗ", [], "2024-01-01", [], none, []⟩
    post ∈ search false "ΜΟΥΣ" [post] ∧ post ∉ search true "ΜΟΥΣ" [post] := by
  decide

end Post

/-! ## Marks

A text is marked where an occurrence of the pattern stands in it, letter by letter up to case, and a
post is found by a comparison of lowercase texts. For ASCII texts the two are the same, since there
lowercase goes letter by letter too.
-/

section

open Markup

variable {ignoreCase : Bool} {pattern text content : Text} {nodes : List Node} {node : Node}

namespace Markup

/-- The written markup has the mark of an occurrence. -/
def Marked (nodes : List Node) : Prop := hitOpening <:+: render nodes

instance : Decidable (Marked nodes) := inferInstanceAs (Decidable (hitOpening <:+: render nodes))

/-! ### Marked texts -/

variable {marked : List Stretch}

/-- The gaps have no mark, so it takes an occurrence to have one. -/
theorem mark_written : hitOpening <:+: marked.flatMap Stretch.written ↔
    ∃ content, .hit content ∈ marked := by
  constructor
  · intro mark
    have bracket : '<' ∈ marked.flatMap Stretch.written := mark.subset (by decide)
    obtain ⟨stretch, member, inside⟩ := List.mem_flatMap.mp bracket
    cases stretch with
    | gap content => exact absurd inside (escape_unspecial content).1
    | hit content => exact ⟨content, member⟩
  · rintro ⟨content, member⟩
    have front : hitOpening <+: (Stretch.hit content).written := by
      rw [Stretch.written, List.append_assoc]
      exact List.prefix_append _ _
    rw [List.flatMap_def]
    exact front.isInfix.trans (List.infix_of_mem_flatten (List.mem_map_of_mem member))

/-- A marking has an occurrence exactly when the text has one. -/
theorem Marking.hit_iff (marking : Marking ignoreCase pattern text marked) :
    (∃ content, .hit content ∈ marked) ↔
      ∃ occurrence, occurrence <:+: text ∧ Occurs ignoreCase pattern occurrence := by
  rcases marking.cases with ⟨rfl, missing⟩ | ⟨gap, hit, rest, more, rfl, rfl, occurs, _⟩
  · refine iff_of_false ?_ ?_
    · rintro ⟨content, member⟩
      cases List.mem_singleton.mp member
    · rintro ⟨occurrence, ⟨front, back, split⟩, occurs⟩
      exact missing front occurrence back split.symm occurs
  · exact iff_of_true ⟨hit, .tail _ (.head _)⟩ ⟨hit, ⟨gap, rest, rfl⟩, occurs⟩

/-- A text is marked when the pattern can be searched for and occurs in it. -/
theorem marked_iff (given : pattern ≠ []) : Marked (highlight ignoreCase pattern text) ↔
    searchable ignoreCase pattern = true ∧
      ∃ occurrence, occurrence <:+: text ∧ Occurs ignoreCase pattern occurrence := by
  rw [Marked, highlight, render_stretches, mark_written]
  split
  · rename_i built
    rw [(stretches_marking given text).hit_iff, and_iff_right built]
  · rename_i refused
    exact iff_of_false (by simp) fun marked => refused marked.1

private theorem marked_nonempty (given : pattern ≠ [])
    (mark : Marked (highlight ignoreCase pattern text)) :
    text ≠ [] := by
  rintro rfl
  obtain ⟨_, occurrence, inside, occurs⟩ := (marked_iff given).mp mark
  rw [List.infix_nil.mp inside] at occurs
  exact given (List.length_eq_zero_iff.mp occurs.length.symm)

/-- A text is marked exactly where a search that compares it with the pattern finds it, if the
pattern can be searched for. -/
theorem marked_mentions (given : pattern ≠ [])
    (plain : ignoreCase = true → pattern.IsAscii ∧ text.IsAscii) :
    Marked (highlight ignoreCase pattern text) ↔ searchable ignoreCase pattern = true ∧
      Post.searchForm ignoreCase pattern <:+: Post.searchForm ignoreCase text := by
  rw [marked_iff given]
  refine and_congr_right' ?_
  cases ignoreCase with
  | false =>
    constructor
    · rintro ⟨occurrence, inside, rfl⟩
      exact inside
    · exact fun inside => ⟨pattern, inside, rfl⟩
  | true =>
    obtain ⟨ascii, ascii'⟩ := plain rfl
    rw [Post.searchForm, Post.searchForm, if_pos rfl, if_pos rfl, Text.lower_ascii ascii,
      Text.lower_ascii ascii', List.infix_map_iff]
    exact exists_congr fun occurrence => and_congr_right' eq_comm

/-! ### Written parts -/

variable {part : Text} {tag : Tag} {attributes : List Attribute}

private theorem infix_render (member : node ∈ nodes) (inside : part <:+: node.render) :
    part <:+: render nodes := by
  induction nodes with
  | nil => exact absurd member List.not_mem_nil
  | cons first rest ih =>
    rw [render]
    rcases List.mem_cons.mp member with rfl | later
    · exact inside.trans (List.prefix_append _ _).isInfix
    · exact (ih later).trans (List.suffix_append _ _).isInfix

private theorem infix_element (inside : part <:+: render nodes) :
    part <:+: (Node.element tag attributes nodes).render := by
  rw [Node.render]
  exact inside.trans ⟨_, _, rfl⟩

private theorem mem_onNewLines (member : node ∈ nodes) : node ∈ onNewLines nodes :=
  List.mem_flatMap.mpr ⟨node, member, .tail _ (.head _)⟩

private theorem mem_joinSpaced (member : node ∈ nodes) : node ∈ joinSpaced nodes := by
  unfold joinSpaced
  induction nodes with
  | nil => exact absurd member List.not_mem_nil
  | cons first rest ih =>
    cases rest with
    | nil => exact member
    | cons second rest =>
      rw [List.intersperse_cons_cons]
      rcases List.mem_cons.mp member with rfl | later
      · exact .head _
      · exact .tail _ (.tail _ (ih later))

end Markup

/-! ### Entries -/

namespace Grep

variable {post : Post} {posts : List Post} {part : List Node} {name : Text}

/-- The parts of an entry that show where the pattern occurs. -/
def parts (ignoreCase : Bool) (pattern : Text) (post : Post) : List (List Node) :=
  [highlight ignoreCase pattern post.title, highlight ignoreCase pattern post.description] ++
    post.tags.map fun name => [tag ignoreCase pattern name]

/-- A tag that contains the pattern is marked as a whole. -/
theorem tag_marked (found : Post.mentions ignoreCase pattern name = true) :
    Marked [tag ignoreCase pattern name] := by
  have written : (tag ignoreCase pattern name).render = (Stretch.hit ("#" ++ name)).written := by
    rw [tag, if_pos found]
    exact written_node (.hit ("#" ++ name))
  rw [Marked, render, render, List.append_nil, written, Stretch.written, List.append_assoc]
  exact (List.prefix_append _ _).isInfix

private theorem title_shown :
    render (highlight ignoreCase pattern post.title) <:+:
      (entry ignoreCase pattern post).render := by
  apply infix_element
  refine infix_render (List.mem_append_left _ (mem_onNewLines
    (List.mem_append_left _ (List.mem_append_left _ (.head _))))) ?_
  apply infix_element
  refine infix_render (.tail _ (.head _)) ?_
  exact infix_element (List.infix_refl _)

private theorem description_shown (given : post.description ≠ []) :
    render (highlight ignoreCase pattern post.description) <:+:
      (entry ignoreCase pattern post).render := by
  have shown : ¬ post.description.isEmpty = true := by simpa using given
  apply infix_element
  rw [if_neg shown]
  refine infix_render (List.mem_append_left _ (mem_onNewLines
    (List.mem_append_left _ (List.mem_append_right _ (.head _))))) ?_
  exact infix_element (List.infix_refl _)

private theorem tag_shown (member : name ∈ post.tags) :
    render [tag ignoreCase pattern name] <:+: (entry ignoreCase pattern post).render := by
  rw [render, render, List.append_nil]
  have shown : ¬ post.tags.isEmpty = true := by simpa using List.ne_nil_of_mem member
  apply infix_element
  rw [if_neg shown]
  refine infix_render (List.mem_append_left _ (mem_onNewLines
    (List.mem_append_right _ (.head _)))) ?_
  apply infix_element
  exact infix_render (mem_joinSpaced (List.mem_map_of_mem member)) (List.infix_refl _)

private theorem entry_shown {α : Type} {context : Context α} (given : context.joinedArguments ≠ [])
    (found : post ∈ Post.search (CommandLine.hasSwitch context.flags 'i') context.joinedArguments
      context.posts) :
    (entry (CommandLine.hasSwitch context.flags 'i') context.joinedArguments post).render <:+:
      render (execute context).body := by
  unfold execute
  simp only
  rw [if_neg (by simpa using given)]
  split
  · rename_i none
    rw [none] at found
    exact absurd found List.not_mem_nil
  · refine infix_render (.tail _ (.tail _ (.head _))) ?_
    apply infix_element
    exact infix_render (List.mem_append_left _ (mem_onNewLines (List.mem_map_of_mem found)))
      (List.infix_refl _)

/-- What is found is marked, if the pattern can be searched for. A text has a mark exactly when it
contains such a pattern, up to case for ASCII texts if case is to be ignored. So a post that is
found, and not by its body or its series, is answered with an entry that has a mark in the title, in
the description or at a tag. -/
theorem found_marked {α : Type} {pattern : Text} (given : pattern ≠ []) :
    (∀ text, Marked (highlight false pattern text) ↔
      searchable false pattern = true ∧ pattern <:+: text) ∧
    (∀ text, pattern.IsAscii → text.IsAscii →
      (Marked (highlight true pattern text) ↔
        searchable true pattern = true ∧ Text.lower pattern <:+: Text.lower text)) ∧
    ∀ context : Context α, context.joinedArguments = pattern →
      let ignoreCase := CommandLine.hasSwitch context.flags 'i'
      searchable ignoreCase pattern = true →
      ∀ post ∈ Post.search ignoreCase pattern context.posts,
        (ignoreCase = true → pattern.IsAscii ∧ ∀ text ∈ post.texts, text.IsAscii) →
        (∀ text ∈ post.body :: post.series.toList, ¬ Post.mentions ignoreCase pattern text = true) →
        (entry ignoreCase pattern post).render <:+: render (execute context).body ∧
          ∃ part ∈ parts ignoreCase pattern post, Marked part ∧
            render part <:+: (entry ignoreCase pattern post).render := by
  refine ⟨fun text => marked_mentions given (by rintro ⟨⟩),
    fun text ascii ascii' => marked_mentions given fun _ => ⟨ascii, ascii'⟩, ?_⟩
  rintro context rfl ignoreCase built post found plain elsewhere
  refine ⟨entry_shown given found, ?_⟩
  obtain ⟨text, member, mentioned⟩ := Post.isMatch_iff.mp (List.mem_filter.mp found).2
  have mark : Marked (highlight ignoreCase context.joinedArguments text) :=
    (marked_mentions given fun on => ⟨(plain on).1, (plain on).2 text member⟩).mpr
      ⟨built, Post.mentions_iff.mp mentioned⟩
  rcases List.mem_append.mp member with shown | hidden
  · rcases List.mem_append.mp shown with worded | tagged
    · rcases List.mem_cons.mp worded with rfl | described
      · exact ⟨_, .head _, mark, title_shown⟩
      · rw [List.mem_singleton.mp described] at mark
        exact ⟨_, .tail _ (.head _), mark, description_shown (marked_nonempty given mark)⟩
    · exact ⟨_, List.mem_append_right _ (List.mem_map_of_mem tagged), tag_marked mentioned,
        tag_shown tagged⟩
  · exact absurd mentioned (elsewhere text hidden)

/-- A post that has the pattern in its tag alone, and in other letters. -/
theorem found_marked_tag :
    let post : Post := ⟨"goals", "Goals", "On plans", "2024-01-05", ["TypeScript"], none, []⟩
    let context : Context Unit :=
      ⟨.ofList [], [post], "~", ["SCRIPT"], ["i"], {}, none, ⟨⟨⟨1970, 1, 1⟩, 0, 0⟩, 0⟩⟩
    searchable true "SCRIPT" = true ∧ post ∈ Post.search true "SCRIPT" context.posts ∧
      ¬ Marked (highlight true "SCRIPT" post.title) ∧
      (entry true "SCRIPT" post).render <:+: render (execute context).body ∧
      ∃ part ∈ parts true "SCRIPT" post, Marked part ∧
        render part <:+: (entry true "SCRIPT" post).render := by
  intro post context
  have given : ("SCRIPT" : Text) ≠ [] := by decide
  have built : searchable true "SCRIPT" = true := by decide +kernel
  have found : post ∈ Post.search true "SCRIPT" context.posts := by decide +kernel
  have plain : Text.IsAscii "SCRIPT" ∧ ∀ text ∈ post.texts, text.IsAscii := by decide
  have elsewhere : ∀ text ∈ post.body :: post.series.toList,
      ¬ Post.mentions true "SCRIPT" text = true := by decide +kernel
  have unmarked : ¬ Marked (highlight true "SCRIPT" post.title) := by decide +kernel
  obtain ⟨shown, marked⟩ :=
    (found_marked given).2.2 context rfl built post found (fun _ => plain) elsewhere
  exact ⟨built, found, unmarked, shown, marked⟩

/-- A title that is itself the pattern, of 400000 letters. It is found, and it has no mark. -/
theorem found_unmarked_long :
    let pattern : Text := List.replicate 400000 'a'
    let post : Post := ⟨"long", pattern, [], "2024-01-05", [], none, []⟩
    (pattern ≠ [] ∧ pattern <:+: post.title) ∧ ¬ Marked (highlight false pattern post.title) ∧
      ¬ ∀ text given : Text, given ≠ [] →
        (Marked (highlight false given text) ↔ given <:+: text) := by
  intro pattern post
  have given : pattern ≠ [] := List.cons_ne_nil 'a' (List.replicate 399999 'a')
  have bytes : (pattern.map Char.utf8Size).sum = 400000 * 'a'.utf8Size := by
    rw [List.map_replicate, List.sum_replicate_nat]
  have refused : ¬ searchable false pattern = true := by
    rw [searchable_exact, bytes]
    decide
  have unmarked : ¬ Marked (highlight false pattern post.title) :=
    fun mark => refused ((marked_iff given).mp mark).1
  refine ⟨⟨given, List.infix_refl _⟩, unmarked, fun all => ?_⟩
  exact unmarked ((all post.title pattern given).mpr (List.infix_refl _))

end Grep

end

/-! ## The two searches -/

section

open Markup

variable {α : Type} {pattern message part : Text} {posts : List Post}

/-! ### Failures -/

/-- The cause of an error is shown in its written form. -/
theorem failure_shown (inside : part <:+: message) :
    escape part <:+: render (Result.failure message).body := by
  refine infix_render (.head _) ?_
  apply infix_element
  exact infix_render (.head _) (inside.flatMap escapeChar)

/-! ### Entries -/

namespace Grep

private theorem tag_urls (ignoreCase : Bool) (pattern name : Text) :
    (tag ignoreCase pattern name).urls = [] := span_urls

/-- No occurrence of a pattern is a link. -/
theorem highlight_urls (ignoreCase : Bool) (pattern text : Text) :
    urls (highlight ignoreCase pattern text) = [] := by
  have none (stretch : Stretch) : stretch.node.urls = [] := by
    cases stretch with
    | gap content => rfl
    | hit content => exact span_urls
  rw [highlight, urls_map, List.flatMap_eq_nil_iff]
  exact fun stretch _ => none stretch

private theorem entry_urls (ignoreCase : Bool) (pattern : Text) (post : Post) :
    (entry ignoreCase pattern post).urls = [post.url] := by
  have description : urls (if post.description.isEmpty then [] else
      [div "text-term-fg-dark text-sm mt-1" (highlight ignoreCase pattern post.description)]) =
        [] := by
    split <;> simp only [urls_nil, urls_cons, div_urls, highlight_urls, List.append_nil]
  have tags : urls (if post.tags.isEmpty then [] else
      [div "text-sm mt-1" (joinSpaced (post.tags.map (tag ignoreCase pattern)))]) = [] := by
    split <;> simp [tag_urls, -String.reduceToList]
  simp only [entry, div_urls, urls_append, urls_onNewLines, urls_cons, urls_nil, span_urls,
    link_urls, highlight_urls, newline_urls, description, tags, List.nil_append, List.append_nil]

private theorem found_urls (ignoreCase : Bool) (pattern : Text) (posts : List Post) :
    urls (found ignoreCase pattern posts) = posts.map Post.url := by
  simp only [found, heading, div_urls, urls_append, urls_onNewLines, urls_cons, urls_nil,
    text_urls, prose_urls, newline_urls, List.nil_append, List.append_nil]
  exact urls_entries (entry_urls ignoreCase pattern) posts

end Grep

namespace Find

private theorem entry_urls (post : Post) : (entry post).urls = [post.url] := by
  simp only [entry, row_urls, urls_cons, urls_nil, span_urls, link_urls, text_urls,
    List.nil_append, List.append_nil]

private theorem found_urls (posts : List Post) : urls (found posts) = posts.map Post.url := by
  simp only [found, div_urls, urls_append, urls_onNewLines, urls_cons, urls_nil, text_urls,
    newline_urls, List.nil_append, List.append_nil]
  exact urls_entries entry_urls posts

end Find

/-! ### Answers -/

/-- The answer of a search for a pattern: an error with the pattern in it when no post is found, and
else a link to each post that is found, in order. -/
structure Reports (pattern : Text) (posts : List Post) (result : Result) : Prop where
  error : result.error = true ↔ posts = []
  shown : posts = [] → escape pattern <:+: render result.body
  links : links (render result.body) = posts.map Post.url

private theorem failure_reports {before after : Text} :
    Reports pattern [] (.failure (before ++ pattern ++ after)) where
  error := iff_of_true rfl rfl
  shown _ := failure_shown ⟨before, after, rfl⟩
  links := (links_render _).trans (failure_urls _)

private theorem found_reports {body : List Node} (given : posts ≠ [])
    (leads : urls body = posts.map Post.url) : Reports pattern posts { body } where
  error := iff_of_false Bool.false_ne_true given
  shown none := absurd none given
  links := (links_render body).trans leads

private theorem grep_reports (context : Context α) (given : context.joinedArguments ≠ []) :
    Reports context.joinedArguments
      (Post.search (CommandLine.hasSwitch context.flags 'i') context.joinedArguments context.posts)
      (Grep.execute context) := by
  unfold Grep.execute
  extract_lets pattern ignoreCase
  rw [if_neg (by simpa using given)]
  split
  · rename_i none
    rw [none]
    exact failure_reports
  · rename_i some
    exact found_reports some (Grep.found_urls _ _ _)

private theorem find_reports (context : Context α) (given : context.joinedArguments ≠ []) :
    Reports context.joinedArguments (Post.search true context.joinedArguments context.posts)
      (Find.execute context) := by
  unfold Find.execute
  extract_lets pattern
  rw [if_neg (by simpa using given)]
  split
  · rename_i none
    rw [none]
    exact failure_reports
  · rename_i some
    exact found_reports some (Find.found_urls _)

private theorem search_lower (pattern : Text) (posts : List Post) :
    Post.search true pattern posts =
      posts.filter fun post => ∃ text ∈ post.texts, Text.lower pattern <:+: Text.lower text := by
  refine List.filter_congr fun post _ => ?_
  rw [Bool.eq_iff_iff, decide_eq_true_eq, Post.isMatch_iff]
  exact exists_congr fun text => and_congr_right' Post.mentions_iff

/-- Both searches that ignore case fail exactly when no text of a post contains the pattern, the
lowercase texts compared, and then show the pattern. Otherwise each leads to the posts of which some
text contains it, every one of them once and in collection order. -/
theorem searches_agree (context : Context α) {arguments : List Text} (flags switches : List Text)
    (given : [' '].intercalate arguments ≠ []) (ignoring : CommandLine.hasSwitch flags 'i' = true) :
    let pattern := [' '].intercalate arguments
    let found := context.posts.filter fun post =>
      ∃ text ∈ post.texts, Text.lower pattern <:+: Text.lower text
    let grep := Builtin.grep.execute (context.withCall ⟨"grep", arguments, flags⟩)
    let find := Builtin.find.execute (context.withCall ⟨"find", arguments, switches⟩)
    ∀ result ∈ [grep, find],
      (result.error = true ↔ ∀ post ∈ context.posts, ∀ text ∈ post.texts,
        ¬ Text.lower pattern <:+: Text.lower text) ∧
      (result.error = true → escape pattern <:+: render result.body) ∧
      links (render result.body) = found.map Post.url := by
  intro pattern found grep find
  have grepped : Reports pattern found grep := by
    have reports := grep_reports (context.withCall ⟨"grep", arguments, flags⟩) given
    rw [Context.withCall, ignoring, search_lower] at reports
    exact reports
  have listed : Reports pattern found find := by
    have reports := find_reports (context.withCall ⟨"find", arguments, switches⟩) given
    rw [Context.withCall, search_lower] at reports
    exact reports
  have missing : found = [] ↔ ∀ post ∈ context.posts, ∀ text ∈ post.texts,
      ¬ Text.lower pattern <:+: Text.lower text := by
    simp only [found, List.filter_eq_nil_iff, decide_eq_true_eq, not_exists, not_and]
  intro result either
  have reports : Reports pattern found result := by
    simp only [List.mem_cons, List.not_mem_nil, or_false] at either
    rcases either with rfl | rfl
    · exact grepped
    · exact listed
  exact ⟨reports.error.trans missing, fun error => reports.shown (reports.error.mp error),
    reports.links⟩

/-- A pattern of brackets and an ampersand, in the title of one post and, in other letters, in the
series of another one whose slug has a quotation mark. -/
theorem searches_agree_brackets :
    let tags : Post := ⟨"tags", "On <B> & <i>", [], "2024-01-01", [], none, []⟩
    let other : Post := ⟨"other", "On b & i", [], "2024-01-02", ["<b>"], none, []⟩
    let quoted : Post := ⟨"a\"b", "Bold", [], "2024-01-03", [], some "<b> & more", []⟩
    let context : Context Builtin :=
      { registry := Builtin.registry, posts := [tags, other, quoted], path := "~/tags" }
    let grep := Builtin.grep.execute (context.withCall ⟨"grep", ["<b>", "&"], ["-vi"]⟩)
    let find := Builtin.find.execute (context.withCall ⟨"find", ["<b>", "&"], []⟩)
    ([' '].intercalate ["<b>".toList, "&"] ≠ [] ∧ CommandLine.hasSwitch ["-vi"] 'i' = true) ∧
      ∀ result ∈ [grep, find], ¬ result.error = true ∧
        links (render result.body) = ["/posts/tags".toList, "/posts/a\"b"] := by
  intro tags other quoted context grep find
  have given : [' '].intercalate ["<b>".toList, "&"] ≠ [] := by decide
  have ignoring : CommandLine.hasSwitch ["-vi"] 'i' = true := by decide
  have found : (context.posts.filter fun post => ∃ text ∈ post.texts,
      Text.lower ([' '].intercalate ["<b>".toList, "&"]) <:+: Text.lower text) =
        [tags, quoted] := by
    decide +kernel
  refine ⟨⟨given, ignoring⟩, fun result either => ?_⟩
  obtain ⟨error, _, shown⟩ := searches_agree context ["-vi"] [] given ignoring result either
  rw [found] at shown
  refine ⟨fun failed => ?_, shown⟩
  exact error.mp failed tags (.head _) tags.title (.head _) (by decide +kernel)

end

end BlogTerminal
