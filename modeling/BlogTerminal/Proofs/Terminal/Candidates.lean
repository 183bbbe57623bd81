import BlogTerminal.Proofs.Command.Directories
import BlogTerminal.Proofs.Terminal.Lines
import BlogTerminal.Terminal.Run

/-!
Completion against the commands that it is for. A candidate with a slash in it leads where it says
from every page. A bare name is offered in the directory that holds it, while the commands take it
from the root, so it is accepted only when it also names something there: a directory, a series, or
for `cd` a post.
-/

namespace BlogTerminal

open Page (Holds)

variable {posts : List Post} {path typed name candidate : Text}

/-! ## What is offered -/

/-- The candidates for a path at a prompt path. -/
inductive Offered (posts : List Post) (path : Text) : Text → Prop where
  | directory {name : Text} (listed : name ∈ Page.topLevel) : Offered posts path (name ++ "/")
  | post {post : Post} (member : post ∈ posts) : Offered posts path ("posts/" ++ post.slug)
  | series {post : Post} {slug : Text} (member : post ∈ posts)
      (held : post.seriesSlug = some slug) : Offered posts path ("series/" ++ slug)
  | tag {post : Post} {tag : Text} (member : post ∈ posts) (held : tag ∈ post.tags) :
      Offered posts path ("tags/" ++ slugOf tag)
  | barePost {post : Post} (member : post ∈ posts) : Offered posts path post.slug
  | bareSeries {post : Post} {slug : Text}
      (here : Page.ofDirectory? (Path.directory path) = some .series) (member : post ∈ posts)
      (held : post.seriesSlug = some slug) : Offered posts path slug
  | bareTag {post : Post} {tag : Text}
      (here : Page.ofDirectory? (Path.directory path) = some .tags) (member : post ∈ posts)
      (held : tag ∈ post.tags) : Offered posts path (slugOf tag)

namespace Completion

private theorem mem_posts (offered : candidate ∈ Completion.posts posts typed) :
    ∃ post ∈ posts, post.slug = candidate := by
  rw [Completion.posts, Text.sorted, List.mem_mergeSort] at offered
  exact List.mem_map.mp (List.mem_filter.mp offered).1

private theorem mem_series (offered : candidate ∈ Completion.series posts typed) :
    ∃ post ∈ posts, post.seriesSlug = some candidate := by
  rw [Completion.series, Text.mem_sortedSet] at offered
  exact List.mem_filterMap.mp (List.mem_filter.mp offered).1

private theorem mem_tags (offered : candidate ∈ Completion.tags posts typed) :
    ∃ post ∈ posts, ∃ tag ∈ post.tags, slugOf tag = candidate := by
  rw [Completion.tags, Text.mem_sortedSet] at offered
  obtain ⟨post, member, inside⟩ := List.mem_flatMap.mp (List.mem_filter.mp offered).1
  exact ⟨post, member, List.mem_map.mp inside⟩

private theorem mem_directories {offers : List Text}
    (offered : candidate ∈ Completion.directories offers typed) :
    ∃ name ∈ offers, name ++ "/" = candidate := by
  obtain ⟨name, listed, same⟩ := List.mem_map.mp offered
  exact ⟨name, (List.mem_filter.mp listed).1, same⟩

private theorem mem_behind {start : Text} {candidates : Text → List Text} {behind : List Text}
    (found : behind? start typed candidates = some behind) (offered : candidate ∈ behind) :
    ∃ rest, ∃ inside ∈ candidates rest, start ++ inside = candidate := by
  obtain ⟨rest, _, rfl⟩ := Option.map_eq_some_iff.mp found
  exact ⟨rest, List.mem_map.mp offered⟩

end Completion

private theorem candidates_offered {completion : PathCompletion}
    (top : ∀ name ∈ completion.directories, name ∈ Page.topLevel)
    (offered : candidate ∈ completion.candidates posts path typed) :
    Offered posts path candidate := by
  unfold PathCompletion.candidates at offered
  split at offered
  · cases series : Completion.behind? "series/" typed (Completion.series posts) with
    | some behind =>
      rw [series] at offered
      obtain ⟨rest, inside, listed, rfl⟩ := Completion.mem_behind series offered
      obtain ⟨post, member, held⟩ := Completion.mem_series listed
      exact .series member held
    | none =>
      cases tags : Completion.behind? "tags/" typed (Completion.tags posts) with
      | some behind =>
        rw [series, tags] at offered
        obtain ⟨rest, inside, listed, rfl⟩ := Completion.mem_behind tags offered
        obtain ⟨post, member, tag, held, rfl⟩ := Completion.mem_tags listed
        exact .tag member held
      | none =>
        cases files : Completion.behind? "posts/" typed (Completion.posts posts) with
        | some behind =>
          rw [series, tags, files] at offered
          obtain ⟨rest, inside, listed, rfl⟩ := Completion.mem_behind files offered
          obtain ⟨post, member, rfl⟩ := Completion.mem_posts listed
          exact .post member
        | none =>
          rw [series, tags, files] at offered
          exact absurd offered List.not_mem_nil
  · split at offered
    · obtain ⟨post, member, rfl⟩ := Completion.mem_posts offered
      exact .barePost member
    · rename_i here
      obtain ⟨post, member, held⟩ := Completion.mem_series offered
      exact .bareSeries here member held
    · rename_i here
      obtain ⟨post, member, tag, held, rfl⟩ := Completion.mem_tags offered
      exact .bareTag here member held
    · rcases List.mem_append.mp offered with directory | post
      · obtain ⟨name, listed, rfl⟩ := Completion.mem_directories directory
        exact .directory (top name listed)
      · split at post
        · obtain ⟨post, member, rfl⟩ := Completion.mem_posts post
          exact .barePost member
        · exact absurd post List.not_mem_nil
    · exact absurd offered List.not_mem_nil

/-! ## What is accepted -/

/-- The three commands accept the argument: it can be listed and gone to. -/
structure Welcome (posts : List Post) (path candidate : Text) : Prop where
  listed : Listed posts (Path.resolve candidate path)
  gone : (Navigation.answer posts candidate path).error = false

private theorem topLevel_resolved (listed : name ∈ Page.topLevel) (path : Text) :
    Path.resolve (name ++ "/") path = name ∧ Path.resolve name path = name ∧
      Text.dropEndWhile (· == '/') (name ++ "/".toList) = name := by
  simp only [Page.topLevel, List.mem_cons, List.not_mem_nil, or_false] at listed
  rcases listed with rfl | rfl | rfl | rfl | rfl <;> exact ⟨rfl, rfl, rfl⟩

private theorem directory_welcome (listed : name ∈ Page.topLevel) :
    Welcome posts path (name ++ "/") := by
  obtain ⟨slashed, bare, cut⟩ := topLevel_resolved listed path
  have known : ∀ name ∈ Page.topLevel, name ≠ [] ∧ name ≠ "~" ∧ name ≠ ".." := by decide
  obtain ⟨given, home, down⟩ := known name listed
  have shown := topLevel_listed posts listed
  refine ⟨?_, (Navigation.answer_error cut given home down bare).mpr (.inr shown)⟩
  rw [slashed]
  exact shown.1

private theorem entry_cut {first : Text} (segment : Path.IsSegment name) :
    Text.dropEndWhile (· == '/') (first ++ '/' :: name) = first ++ '/' :: name := by
  refine Text.dropEndWhile_kept fun given => ?_
  have last : (first ++ '/' :: name).getLast given ∈ name := by
    rw [List.getLast_append_of_ne_nil _ (List.cons_ne_nil _ _), List.getLast_cons segment.given]
    exact List.getLast_mem segment.given
  have other : (first ++ '/' :: name).getLast given ≠ '/' :=
    fun same => segment.whole (same ▸ last)
  simpa using other

private theorem entry_token (first name : Text) :
    first ++ '/' :: name ≠ [] ∧ first ++ '/' :: name ≠ "~" ∧ first ++ '/' :: name ≠ ".." := by
  have slash : '/' ∈ first ++ '/' :: name := by simp
  refine ⟨by simp, fun same => ?_, fun same => ?_⟩
  · rw [same] at slash
    exact absurd slash (by decide)
  · rw [same] at slash
    exact absurd slash (by decide)

/-- A series or a tag behind the name of its directory. An empty name leaves the directory. -/
private theorem entry_welcome {first : Text} {page : Page} (holds : Holds first)
    (whole : '/' ∉ name) (found : Page.below? first [name] = some page)
    (held : page.Held posts) (file : ∀ slug, page ≠ .post slug) :
    Welcome posts path (first ++ '/' :: name) := by
  by_cases empty : name = []
  · rw [empty]
    exact directory_welcome holds.topLevel
  · have segment : Path.IsSegment name := ⟨empty, whole⟩
    have read : Page.ofDirectory? (Path.resolve (first ++ '/' :: name) path) = some page :=
      Page.ofDirectory_segment holds segment found path
    have listed := (listed_page read).mpr held
    obtain ⟨given, home, down⟩ := entry_token first name
    refine ⟨listed, (Navigation.answer_error (entry_cut segment) given home down rfl).mpr
      (.inr ⟨listed, fun slug same => ?_⟩)⟩
    exact file slug (Option.some.inj (read.symm.trans same))

private theorem series_welcome {post : Post} {slug : Text} (member : post ∈ posts)
    (held : post.seriesSlug = some slug) : Welcome posts path ("series/" ++ slug) := by
  have known := series_held member held
  obtain ⟨name, _, rfl⟩ := Option.map_eq_some_iff.mp held
  exact entry_welcome .series (slugOf_whole name) rfl known (fun slug same => by cases same)

private theorem tag_welcome {post : Post} {tag : Text} (member : post ∈ posts)
    (held : tag ∈ post.tags) :
    Welcome posts path ("tags/" ++ slugOf tag) :=
  entry_welcome .tags (slugOf_whole tag) rfl (tag_held member held) (fun slug same => by cases same)

/-- The file of a post is listed as its page, and gone to by its slug. -/
theorem post_welcome {post : Post} (member : post ∈ posts) (plain : post.HasPlainSlug) :
    Welcome posts path ("posts/" ++ post.slug) := by
  have segment : Path.IsSegment post.slug := ⟨plain.given, plain.whole⟩
  have extension := Page.withoutExtension_self fun dot => (plain.char dot).2 (by decide)
  have below : Page.below? "posts" [post.slug] = some (.post post.slug) :=
    congrArg (fun slug => some (Page.post slug)) extension
  have read : Page.ofDirectory? (Path.resolve ("posts".toList ++ '/' :: post.slug) path) =
      some (.post post.slug) := Page.ofDirectory_segment .posts segment below path
  have resolved : Path.resolve ("posts".toList ++ '/' :: post.slug) path =
      "posts".toList ++ '/' :: post.slug :=
    Eq.trans (b := Text.dropEndWhile (· == '/') ("posts".toList ++ '/' :: post.slug)) rfl
      (entry_cut segment)
  obtain ⟨given, home, down⟩ := entry_token "posts" post.slug
  have file : Navigation.slugIn ("posts".toList ++ '/' :: post.slug) = post.slug := extension
  refine ⟨(listed_page read).mpr ⟨post, member, rfl⟩,
    (Navigation.answer_error (entry_cut segment) given home down resolved).mpr
      (.inl ⟨post, member, ?_⟩)⟩
  rw [file]

/-! ## Bare names -/

/-- A bare name is listed when it is a directory or the slug of a series. -/
theorem listed_name (chars : ∀ c ∈ name, SlugChar c) (tilde : name.dropWhile (· == '~') = name) :
    Listed posts name ↔
      name = [] ∨ name ∈ Page.topLevel ∨ ∃ post ∈ posts, post.seriesSlug = some name := by
  have whole : '/' ∉ name := whole_of_chars chars
  have lower : name.lower = name := Text.lower_of_settled fun c member => (chars c member).settled
  have place := Page.ofDirectory_bare whole tilde
  by_cases empty : name = []
  · rw [if_pos empty] at place
    exact iff_of_true ((listed_page place).mpr trivial) (.inl empty)
  · rw [if_neg empty, lower] at place
    by_cases top : name ∈ Page.topLevel
    · exact iff_of_true (topLevel_listed posts top).1 (.inr (.inl top))
    · cases found : Page.below? name [] with
      | some page => exact absurd (Page.below_cases found).topLevel top
      | none =>
        rw [listed_bare (place.trans found), slugOf_of_chars chars]
        simp [empty, top]

/-- A file name without its slash is that of no post directory. -/
private theorem slugIn_name (whole : '/' ∉ name) :
    Navigation.slugIn name = Page.withoutExtension name := by
  rw [Navigation.slugIn, Text.dropStart_missing (by decide) whole]

/-- A bare name is gone to when it can be listed or is the slug of a post. -/
theorem gone_name (plain : ∀ post ∈ posts, post.HasPlainSlug) (chars : ∀ c ∈ name, SlugChar c)
    (tilde : name.dropWhile (· == '~') = name) :
    ((∃ post ∈ posts, post.slug.lower = (Navigation.slugIn name).lower) ∨
        Listed posts name ∧ ∀ slug, Page.ofDirectory? name ≠ some (.post slug)) ↔
      Listed posts name ∨ ∃ post ∈ posts, post.slug = Page.withoutExtension name := by
  have whole : '/' ∉ name := whole_of_chars chars
  have file : ∀ slug, Page.ofDirectory? name ≠ some (.post slug) := by
    intro slug same
    rw [Page.ofDirectory_bare whole tilde] at same
    split at same
    · cases same
    · exact (fixed_held [] (Page.below_cases same).fixed).2.2 slug rfl
  have kept : (Page.withoutExtension name).lower = Page.withoutExtension name :=
    Text.lower_of_settled fun c member => (chars c (Page.mem_withoutExtension member)).settled
  have slug : ∀ post ∈ posts, post.slug.lower = post.slug :=
    fun post member => (plain post member).lower
  rw [slugIn_name whole, kept]
  constructor
  · rintro (⟨post, member, same⟩ | ⟨listed, _⟩)
    · exact .inr ⟨post, member, (slug post member).symm.trans same⟩
    · exact .inl listed
  · rintro (listed | ⟨post, member, same⟩)
    · exact .inr ⟨listed, file⟩
    · exact .inl ⟨post, member, (slug post member).trans same⟩

/-- The current directory, its parent and the empty name, in a directory that lists bare names. -/
theorem dots_welcome {page : Page} (shelf : page ∈ [Page.series, .tags])
    (here : Page.ofDirectory? (Path.directory path) = some page)
    (dots : candidate ∈ [[], ".".toList, ".."]) : Welcome posts path candidate := by
  have fixed : page ∈ [Page.root, .archives, .search, .posts, .series, .tags] := by
    simp only [List.mem_cons, List.not_mem_nil, or_false] at shelf ⊢
    tauto
  obtain ⟨_, held, file⟩ := fixed_held posts fixed
  have place := Page.ofDirectory_here here
  have listed : Listed posts (Path.resolve "." path) := (listed_page place).mpr held
  simp only [List.mem_cons, List.not_mem_nil, or_false] at dots
  rcases dots with rfl | rfl | rfl
  · exact ⟨listed, rfl⟩
  · refine ⟨listed, (Navigation.answer_error rfl (by decide) (by decide) (by decide) rfl).mpr
      (.inr ⟨listed, fun slug same => ?_⟩)⟩
    exact file slug (Option.some.inj (place.symm.trans same))
  · rcases Page.ofDirectory_cases here with ⟨_, rfl⟩ | ⟨first, rest, split, below⟩
    · exact absurd shelf (by decide)
    · rw [below.shelf shelf] at split
      refine ⟨?_, Navigation.toParent_error path⟩
      rw [Path.resolve_parent split]
      exact trivial

/-- What makes the commands accept a bare name: it is a dot segment or, without its tildes, the
root, a directory or the slug of a series. -/
inductive Bare (posts : List Post) (candidate : Text) : Prop where
  | dots (listed : candidate ∈ [".".toList, ".."])
  | root (empty : candidate.dropWhile (· == '~') = [])
  | directory (listed : candidate.dropWhile (· == '~') ∈ Page.topLevel)
  | series {post : Post} (member : post ∈ posts)
      (held : post.seriesSlug = some (candidate.dropWhile (· == '~')))

/-- A bare name that is no dot segment is accepted for what it names at the root. -/
private theorem bare_listed (chars : ∀ c ∈ candidate, SlugChar c)
    (ordinary : candidate ∉ [".".toList, ".."]) :
    Listed posts (candidate.dropWhile (· == '~')) ↔ Bare posts candidate := by
  have inside : ∀ c ∈ candidate.dropWhile (· == '~'), SlugChar c :=
    fun c member => chars c (List.dropWhile_subset _ member)
  rw [listed_name inside (List.dropWhile_idempotent _ _)]
  constructor
  · rintro (empty | listed | ⟨post, member, held⟩)
    · exact .root empty
    · exact .directory listed
    · exact .series member held
  · intro bare
    cases bare with
    | dots listed => exact absurd listed ordinary
    | root empty => exact .inl empty
    | directory listed => exact .inr (.inl listed)
    | series member held => exact .inr (.inr ⟨_, member, held⟩)

/-- What the commands make of a bare name, where the dot segments are known to be accepted. -/
theorem bare_accepted (plain : ∀ post ∈ posts, post.HasPlainSlug)
    (chars : ∀ c ∈ candidate, SlugChar c)
    (dots : candidate ∈ [[], ".".toList, ".."] → Welcome posts path candidate) :
    (Listed posts (Path.resolve candidate path) ↔ Bare posts candidate) ∧
      ((Navigation.answer posts candidate path).error = false ↔ Bare posts candidate ∨
        ∃ post ∈ posts,
          post.slug = Page.withoutExtension (candidate.dropWhile (· == '~'))) := by
  by_cases special : candidate ∈ [[], ".".toList, ".."]
  · obtain ⟨listed, gone⟩ := dots special
    have bare : Bare posts candidate := by
      rcases List.mem_cons.mp special with rfl | dotted
      · exact .root rfl
      · exact .dots dotted
    exact ⟨iff_of_true listed bare, iff_of_true gone (.inl bare)⟩
  · have listed : Listed posts (candidate.dropWhile (· == '~')) ↔ Bare posts candidate :=
      bare_listed chars fun dotted => special (.tail _ dotted)
    simp only [List.mem_cons, List.not_mem_nil, or_false, not_or] at special
    obtain ⟨given, here, up⟩ := special
    have whole : '/' ∉ candidate := whole_of_chars chars
    have resolved := Path.resolve_bare whole given here up path
    refine ⟨by rw [resolved, listed], ?_⟩
    by_cases home : candidate = "~"
    · subst home
      exact iff_of_true rfl (.inl (.root rfl))
    · have cut : Text.dropEndWhile (· == '/') candidate = candidate :=
        Text.dropEndWhile_clean fun c member => by simpa using (chars c member).whole
      have inside : ∀ c ∈ candidate.dropWhile (· == '~'), SlugChar c :=
        fun c member => chars c (List.dropWhile_subset _ member)
      rw [Navigation.answer_error cut given home up resolved,
        gone_name plain inside (List.dropWhile_idempotent _ _), listed]

/-- Whatever is offered has a slash in it and is accepted, or is a bare name. -/
theorem offered_cases (plain : ∀ post ∈ posts, post.HasPlainSlug)
    (offered : Offered posts path candidate) :
    '/' ∈ candidate ∧ Welcome posts path candidate ∨ (∀ c ∈ candidate, SlugChar c) ∧
      (candidate ∈ [[], ".".toList, ".."] → Welcome posts path candidate) := by
  cases offered with
  | directory listed => exact .inl ⟨by simp, directory_welcome listed⟩
  | post member => exact .inl ⟨by simp, post_welcome member (plain _ member)⟩
  | series member held => exact .inl ⟨by simp, series_welcome member held⟩
  | tag member held => exact .inl ⟨by simp, tag_welcome member held⟩
  | @barePost post member =>
    have slug := plain post member
    refine .inr ⟨fun c inside => (slug.char inside).1, fun special => ?_⟩
    have dotted : '.' ∈ post.slug := by
      rcases List.mem_cons.mp special with empty | dots
      · exact absurd empty slug.given
      · simp only [List.mem_cons, List.not_mem_nil, or_false] at dots
        rcases dots with same | same <;> simp [same]
    exact absurd (by decide) (slug.char dotted).2
  | bareSeries here member held =>
    obtain ⟨name, _, rfl⟩ := Option.map_eq_some_iff.mp held
    exact .inr ⟨fun c => slugOf_char, dots_welcome (by decide) here⟩
  | bareTag here member held => exact .inr ⟨fun c => slugOf_char, dots_welcome (by decide) here⟩

/-! ## Completion and execution -/

namespace Terminal

variable {σ τ : Type}

/-- The terminal offers for a command what the command offers. -/
theorem candidates_builtin (terminal : Terminal σ τ) (builtin : Builtin) (typed : Text) :
    terminal.candidates builtin.command.name typed false =
      builtin.candidates terminal.context typed := by
  obtain ⟨command, found, action⟩ := Builtin.registered builtin
  simp only [candidates, found, action, Bool.false_eq_true, if_false]

/-- The commands that take a path. -/
inductive Walks : Builtin → Prop where
  | ls : Walks .ls
  | cd : Walks .cd
  | tree : Walks .tree

private theorem walks_offered {terminal : Terminal σ τ} {builtin : Builtin} (walks : Walks builtin)
    (unflagged : CommandLine.isFlag typed = false)
    (offered : candidate ∈ terminal.candidates builtin.command.name typed false) :
    Offered terminal.posts terminal.path candidate := by
  rw [candidates_builtin] at offered
  cases walks with
  | ls =>
    have paths : candidate ∈ Listing.paths.candidates terminal.posts terminal.path typed := by
      have complete : candidate ∈ Listing.complete terminal.context typed := offered
      rw [Listing.complete, if_neg (by simp [unflagged])] at complete
      exact complete
    exact candidates_offered (by decide) paths
  | cd =>
    have paths : candidate ∈ Navigation.paths.candidates terminal.posts terminal.path typed :=
      offered
    exact candidates_offered (by decide) paths
  | tree =>
    have paths : candidate ∈ Builtin.paths.candidates terminal.posts terminal.path typed := offered
    exact candidates_offered (by decide) paths

/-- A candidate for a path is accepted by the command that it completes when it has a slash in it.
A bare one is taken from the root: it is accepted when it is a dot segment, a directory or the slug
of a series, or for `cd` that of a post, and it is refused when it names something only in the
directory where it is offered. -/
theorem candidate_accepted (terminal : Terminal σ τ)
    (plain : ∀ post ∈ terminal.posts, post.HasPlainSlug) {builtin : Builtin}
    (walks : Walks builtin) (unflagged : CommandLine.isFlag typed = false)
    (offered : candidate ∈ terminal.candidates builtin.command.name typed false) :
    (builtin.execute (terminal.context.withCall
        ⟨builtin.command.name, [candidate], []⟩)).error = false ↔
      '/' ∈ candidate ∨ Bare terminal.posts candidate ∨
        builtin = .cd ∧ ∃ post ∈ terminal.posts,
          post.slug = Page.withoutExtension (candidate.dropWhile (· == '~')) := by
  rcases offered_cases plain (walks_offered walks unflagged offered) with
    ⟨slash, welcome⟩ | ⟨chars, dots⟩
  · have accepted : (builtin.execute (terminal.context.withCall
        ⟨builtin.command.name, [candidate], []⟩)).error = false := by
      cases walks with
      | ls => exact (listing_error _).mpr welcome.listed
      | cd => exact welcome.gone
      | tree => exact tree_error.mpr welcome.listed
    exact iff_of_true accepted (.inl slash)
  · have whole : '/' ∉ candidate := whole_of_chars chars
    obtain ⟨bare, gone⟩ := bare_accepted plain chars dots
    cases walks with
    | ls =>
      refine (listing_error _).trans (bare.trans ?_)
      simp [whole]
    | cd =>
      refine Iff.trans gone ?_
      simp [whole]
    | tree =>
      refine tree_error.trans (bare.trans ?_)
      simp [whole]

/-- In its own directory a post is completed for all three commands, and `cd` takes its name. -/
theorem candidate_accepted_post :
    let posts : List Post := [⟨"2023-goals", "Goals", [], "2023-01-01", [], none, []⟩]
    let terminal : Terminal MemoryStore MemoryStore := Terminal.start
      ⟨posts, {}, "~/posts", true, ⟨[]⟩, ⟨[]⟩, ⟨⟨⟨1970, 1, 1⟩, 0, 0⟩, 0⟩⟩
    "2023-goals".toList ∈ terminal.candidates "cd" "20" false ∧
      (Builtin.cd.execute (terminal.context.withCall
        ⟨"cd", ["2023-goals"], []⟩)).error = false := by
  intro posts terminal
  have plain : ∀ post ∈ terminal.posts, post.HasPlainSlug := by decide
  have offered : "2023-goals".toList ∈ terminal.candidates "cd" "20" false := by decide +kernel
  refine ⟨offered, (candidate_accepted terminal plain .cd (by decide) offered).mpr ?_⟩
  exact .inr (.inr ⟨rfl, _, .head _, by decide⟩)

/-- The other two commands refuse the name that was completed for them. -/
theorem candidate_refused :
    let posts : List Post := [⟨"2023-goals", "Goals", [], "2023-01-01", [], none, []⟩]
    let terminal : Terminal MemoryStore MemoryStore := Terminal.start
      ⟨posts, {}, "~/posts", true, ⟨[]⟩, ⟨[]⟩, ⟨⟨⟨1970, 1, 1⟩, 0, 0⟩, 0⟩⟩
    (∀ post ∈ posts, post.HasPlainSlug) ∧ ∀ builtin ∈ [Builtin.ls, .tree],
      "2023-goals".toList ∈ terminal.candidates builtin.command.name "20" false ∧
        (builtin.execute (terminal.context.withCall
          ⟨builtin.command.name, ["2023-goals"], []⟩)).error = true := by
  decide +kernel

end Terminal

end BlogTerminal
