import BlogTerminal.Command.Builtin
import BlogTerminal.Proofs.Command.Links
import BlogTerminal.Proofs.Post.Collection
import BlogTerminal.Proofs.Post.Tally

/-!
What is listed below the directories of series and of tags. An entry there stands for one name and
is addressed by its slug, which other names can share. The slug of a series lists only the series
whose name comes first, so a post is listed under the slug of its series exactly when no name of
another series with this slug comes before. The slug of a tag lists the posts of all tags that have
it.
-/

namespace BlogTerminal

section

open Markup

variable {α : Type} {posts : List Post} {name : Text}

namespace Listing

/-- A slug behind the name of its directory is answered as the page of that name. -/
theorem entry_answer (context : Context α) {first : Text} {page : Page}
    (holds : Page.Holds first) (given : slugOf name ≠ [])
    (inside : Page.below? first [slugOf name] = some page) (flags : List Text) :
    ∃ dir, Page.ofDirectory? dir = some page ∧
      Builtin.ls.execute (context.withCall ⟨"ls", [first ++ '/' :: slugOf name], flags⟩) =
        answer context.posts (CommandLine.hasSwitch flags 'l') (first ++ '/' :: slugOf name) dir :=
  have segment : Path.IsSegment (slugOf name) := ⟨given, slugOf_whole name⟩
  ⟨_, Page.ofDirectory_segment holds segment inside context.path, rfl⟩

/-! ## Series -/

/-- A slug below the directory of series lists the series that is found by it. -/
theorem series_answer {context : Context α} {first : Text} (given : slugOf name ≠ [])
    (found : Post.findSeries? context.posts (slugOf name) = some first) (flags : List Text) :
    Builtin.ls.execute (context.withCall ⟨"ls", ["series/" ++ slugOf name], flags⟩) =
      { body := files (Post.ofSeries context.posts first) (CommandLine.hasSwitch flags 'l') } := by
  obtain ⟨dir, read, answered⟩ := entry_answer context .series given rfl flags
  refine answered.trans ?_
  rw [answer, read]
  simp only [found]

/-- The slug of a series lists a series with this slug, and the post of the one that was meant is
in it exactly when no other name with this slug comes before. -/
theorem series_listed (context : Context α) (flags : List Text) {post : Post}
    (member : post ∈ context.posts) (held : post.series = some name) (given : slugOf name ≠ []) :
    ∃ first, slugOf first = slugOf name ∧
      Builtin.ls.execute (context.withCall ⟨"ls", ["series/" ++ slugOf name], flags⟩) =
        { body := files (Post.ofSeries context.posts first)
            (CommandLine.hasSwitch flags 'l') } ∧
      (post ∈ Post.ofSeries context.posts first ↔
        ∀ other ∈ context.posts, ∀ series ∈ other.series,
          slugOf series = slugOf name → ¬ series < name) := by
  obtain ⟨first, found⟩ := Post.findSeries_held member held (slugOf_slugOf name).symm
  obtain ⟨⟨_, same⟩, foremost⟩ := Post.findSeries_some_iff.mp found
  rw [slugOf_slugOf] at same foremost
  refine ⟨first, same, series_answer given found flags, ?_⟩
  rw [Post.mem_ofSeries, held, Option.some_inj]
  constructor
  · rintro ⟨_, rfl⟩
    exact foremost
  · intro least
    have own : Post.findSeries? context.posts (slugOf name) = some name := by
      rw [Post.findSeries_some_iff, slugOf_slugOf]
      exact ⟨⟨⟨post, member, held⟩, rfl⟩, least⟩
    exact ⟨member, Option.some.inj (own.symm.trans found)⟩

/-- Of two names with one slug, the post of the first one is listed. -/
theorem series_listed_capital :
    let slices : Post := ⟨"slices", "Slices", [], "2024-01-02", [], some "Learning go", []⟩
    let channels : Post := ⟨"channels", "Channels", [], "2024-01-01", [], some "Learning Go", []⟩
    let context : Context Builtin :=
      { registry := Builtin.registry, posts := [slices, channels], path := "~/tags" }
    ∃ shown, Builtin.ls.execute (context.withCall ⟨"ls", ["series/learning-go"], ["-la"]⟩) =
      { body := files shown true } ∧ channels ∈ shown := by
  intro slices channels context
  have member : channels ∈ context.posts := .tail _ (.head _)
  have given : slugOf "Learning Go" ≠ [] := by decide
  obtain ⟨first, _, listed, shown⟩ := series_listed context ["-la"] member rfl given
  exact ⟨_, listed, shown.mpr (by decide)⟩

/-- The post of the second name has no place to be listed at. -/
theorem series_hidden :
    let channels : Post := ⟨"channels", "Channels", [], "2024-01-01", [], some "Learning Go", []⟩
    let slices : Post := ⟨"slices", "Slices", [], "2024-01-02", [], some "Learning go", []⟩
    let context : Context Builtin :=
      { registry := Builtin.registry, posts := [channels, slices], path := "~" }
    let result := Builtin.ls.execute
      (context.withCall ⟨"ls", ["series/" ++ slugOf "Learning go"], []⟩)
    result.error = false ∧ links (render result.body) = [channels.url] ∧
      slices.url ≠ channels.url := by
  intro channels slices context result
  have found : Post.findSeries? context.posts (slugOf "Learning go") =
      some "Learning Go".toList :=
    Post.findSeries_some_iff.mpr ⟨⟨⟨channels, .head _, rfl⟩, by decide⟩, by decide⟩
  have listed : result = { body := files (Post.ofSeries context.posts "Learning Go") false } :=
    series_answer (by decide) found []
  have shown : Post.ofSeries context.posts "Learning Go" = [channels] := by
    decide +kernel
  rw [listed, links_render, files_urls, shown]
  exact ⟨rfl, rfl, by decide⟩

/-! ## Tags -/

/-- A slug below the directory of tags lists the posts with the tag that is found by it. -/
theorem tag_answer {context : Context α} {first : Text} (given : slugOf name ≠ [])
    (found : Post.findTag? context.posts (slugOf name) = some first) (flags : List Text) :
    Builtin.ls.execute (context.withCall ⟨"ls", ["tags/" ++ slugOf name], flags⟩) =
      { body := files (Post.withTag context.posts first) (CommandLine.hasSwitch flags 'l') } := by
  obtain ⟨dir, read, answered⟩ := entry_answer context .tags given rfl flags
  refine answered.trans ?_
  rw [answer, read]
  simp only [found]

/-- The posts with a tag are those that have some tag with the same slug. -/
theorem withTag_slug {first tag : Text} (same : slugOf first = slugOf tag) (posts : List Post) :
    Post.withTag posts first = Post.inOrder .newestFirst
      (posts.filter fun post => ∃ name ∈ post.tags, slugOf name = slugOf tag) := by
  have alike : ∀ post ∈ posts, post.hasTag first =
      decide (∃ name ∈ post.tags, slugOf name = slugOf tag) := by
    intro post _
    rw [Bool.eq_iff_iff, Post.hasTag, List.any_eq_true, same]
    simp only [decide_eq_true_eq]
  rw [Post.withTag, List.filter_congr alike]

/-- The slug of a tag lists exactly the posts that have some tag with this slug, each of them once
and the newest first, whatever the page is that it is asked for on. -/
theorem tag_listed (context : Context α) (flags : List Text) {post : Post} {tag : Text}
    (member : post ∈ context.posts) (held : tag ∈ post.tags) (given : slugOf tag ≠ []) :
    let tagged := context.posts.filter fun other => ∃ name ∈ other.tags, slugOf name = slugOf tag
    let shown := Post.inOrder .newestFirst tagged
    let result := Builtin.ls.execute (context.withCall ⟨"ls", ["tags/" ++ slugOf tag], flags⟩)
    result = { body := files shown (CommandLine.hasSwitch flags 'l') } ∧
      links (render result.body) = shown.map Post.url ∧ shown.Perm tagged := by
  intro tagged shown result
  obtain ⟨first, found, same⟩ : ∃ first, Post.findTag? context.posts (slugOf tag) = some first ∧
      slugOf first = slugOf tag := by
    obtain ⟨first, found⟩ := Post.findTag_held member held (slugOf_slugOf tag).symm
    exact ⟨first, found, (Post.findTag_slug found).2.trans (slugOf_slugOf tag)⟩
  have listed : result = { body := files shown (CommandLine.hasSwitch flags 'l') } := by
    refine (tag_answer given found flags).trans ?_
    rw [withTag_slug same]
  refine ⟨listed, ?_, Post.inOrder_perm .newestFirst tagged⟩
  rw [listed, links_render, files_urls]

/-- Three spellings of one tag on two posts, the second of which is newer and has two of them. -/
theorem tag_listed_spellings :
    let first : Post := ⟨"first", "First", [], "2024-01-01", ["CI/CD"], none, []⟩
    let second : Post := ⟨"second", "Second", [], "2024-01-02", ["ci cd", "Ci-Cd"], none, []⟩
    let other : Post := ⟨"other", "Other", [], "2024-01-03", ["CI"], none, []⟩
    let context : Context Builtin :=
      { registry := Builtin.registry, posts := [first, other, second], path := "~/series/ci-cd" }
    let result := Builtin.ls.execute (context.withCall ⟨"ls", ["tags/ci-cd"], ["-l"]⟩)
    result = { body := files [second, first] true } ∧
      links (render result.body) = ["/posts/second", "/posts/first"] := by
  intro first second other context result
  have member : first ∈ context.posts := .head _
  have given : slugOf "CI/CD" ≠ [] := by decide
  obtain ⟨listed, urls, _⟩ := tag_listed context ["-l"] member (.head _) given
  have tagged : (context.posts.filter fun other =>
      ∃ name ∈ other.tags, slugOf name = slugOf "CI/CD") = [first, second] := by
    decide +kernel
  have later : first.rank < second.rank := by decide +kernel
  have order : Post.inOrder .newestFirst [first, second] = [second, first] := by
    simp [Post.inOrder, List.mergeSort, later]
  rw [tagged, order] at listed urls
  exact ⟨listed, urls⟩

end Listing

end

/-! ## The directory of tags

Its listing and its tree show each distinct tag once, the most frequent ones first, and tags that
occur equally often in the order in which the collection has them.
-/

section

open Markup

variable {α : Type}

/-- Whatever the tags of a collection are, each distinct one is counted once, in the order of the
first occurrences, with the number of its occurrences. The directory of tags lists them, and shows
them as a tree, sorted by that number, those that occur equally often as they were counted. -/
theorem tags_tallied (context : Context α) (flags : List Text) :
    let tags := context.posts.flatMap (·.tags)
    let counts := Post.tagCounts context.posts
    let shown := Post.tagsByCount context.posts
    let listing := Builtin.ls.execute (context.withCall ⟨"ls", ["tags"], flags⟩)
    let tree := Builtin.tree.execute (context.withCall ⟨"tree", ["tags"], flags⟩)
    ((counts.map Prod.fst).Nodup ∧
      (counts.map Prod.fst).Pairwise (fun first second => tags.idxOf first < tags.idxOf second) ∧
      ∀ tag count, (tag, count) ∈ counts ↔ tag ∈ tags ∧ count = tags.count tag) ∧
    ((counts.map Prod.fst).Perm (Post.allTags context.posts) ∧
      (counts.map Prod.snd).sum = tags.length) ∧
    (shown.Perm counts ∧ shown.Pairwise (fun first second => second.2 ≤ first.2) ∧
      ∀ count, shown.filter (·.2 = count) = counts.filter (·.2 = count)) ∧
    ∀ result ∈ [listing, tree], result.error = false ∧
      links (render result.body) = shown.map fun entry => (Page.tagItem (slugOf entry.1)).url := by
  intro tags counts shown listing tree
  have tallied := Post.tagCounts_tallied context.posts
  refine ⟨⟨tallied.distinct, tallied.ordered, fun tag count => ⟨fun listed => ?_, ?_⟩⟩,
    ⟨Post.tagCounts_names context.posts, tallied.total⟩,
    ⟨Post.tagsByCount_perm context.posts, Post.tagsByCount_sorted context.posts,
      Post.tagsByCount_stable context.posts⟩, ?_⟩
  · exact ⟨(tallied.listed tag).mp (List.mem_map_of_mem listed), tallied.counted _ listed⟩
  · rintro ⟨known, rfl⟩
    obtain ⟨entry, listed, rfl⟩ := List.mem_map.mp ((tallied.listed tag).mpr known)
    rw [← tallied.counted entry listed]
    exact listed
  · have listing_urls : links (render listing.body) =
        shown.map fun entry => (Page.tagItem (slugOf entry.1)).url := by
      rw [links_render]
      exact Listing.tags_urls context.posts _
    have tree_urls : links (render tree.body) =
        shown.map fun entry => (Page.tagItem (slugOf entry.1)).url := by
      rw [links_render]
      exact TreeView.tags_urls context.posts
    simp only [List.forall_mem_cons, List.not_mem_nil, false_imp_iff, implies_true, and_true]
    exact ⟨⟨rfl, listing_urls⟩, rfl, tree_urls⟩

end

end BlogTerminal
