import BlogTerminal.Proofs.Command.Answer
import BlogTerminal.Proofs.Command.Directories
import BlogTerminal.Proofs.Command.Entries
import BlogTerminal.Proofs.Terminal.Lines

/-!
Where going to a page leads. Every URL that the command `cd` asks for is read as a page again, and
what is read is the page that was meant unless its name holds a character that ends the path of a
URL. A page that was meant can be listed where one arrives.
-/

namespace BlogTerminal

section

open Page (Holds)

variable {posts : List Post} {url name : Text} {page : Page}

/-! ## URLs that are gone to -/

namespace Navigation

/-- From a page below a directory one goes up to the directory, or back from a post. -/
private theorem toParent_below {first path : Text} (holds : Holds first)
    (segment : Path.IsSegment name) (here : Path.directory path = first ++ '/' :: name) :
    (toParent path).navigate = none ∨ (toParent path).navigate = some ('/' :: first) := by
  have given : ¬ (first ++ '/' :: name).isEmpty := by simp
  have parent : Path.parent (first ++ '/' :: name) = first := by
    rw [Path.parent, Page.segments_entry holds, Path.segments_of_segment segment]
    exact List.intercalate_singleton
  simp only [toParent, here, if_neg given, parent]
  split
  · exact .inl rfl
  · exact .inr rfl

/-- Above a page is the root or a directory with pages in it. -/
private theorem toParent_url (read : page.Read)
    (left : (toParent page.promptPath).navigate = some url) :
    url ∈ ["/".toList, "/posts", "/series", "/tags"] := by
  have fixed : ∀ page ∈ [Page.root, .archives, .search, .posts, .series, .tags],
      ∀ url ∈ (toParent page.promptPath).navigate, url = "/".toList := by decide
  have below {first name : Text} (holds : Holds first) (segment : Path.IsSegment name)
      (here : page.directory = first ++ '/' :: name) : url = '/' :: first := by
    have joined := Page.directory_promptPath page
    rw [here, Page.join_entry holds segment] at joined
    rcases toParent_below holds segment joined with back | up
    · simp [back] at left
    · exact (Option.some.inj (up.symm.trans left)).symm
  cases page with
  | root | archives | search | posts | series | tags =>
    have root := fixed _ (by simp) url left
    simp [root]
  | post slug =>
    by_cases empty : slug = []
    · subst empty
      have root : (toParent (Page.post []).promptPath).navigate = some "/".toList := by decide
      have same := Option.some.inj (root.symm.trans left)
      simp [← same]
    · have posts := below .posts ⟨empty, read⟩ rfl
      simp [posts]
  | seriesItem name =>
    have series := below .series read rfl
    simp [series]
  | tagItem name =>
    have tags := below .tags read rfl
    simp [tags]

/-- What is read from the URL of a named page is the directory, when a query or a fragment leaves
nothing of the name, or a page of the same kind, which has the same name when there is neither. -/
private theorem entry_page {first : Text} {shelf : Page} {item : Text → Page} (holds : Holds first)
    (directory : Page.below? first [] = some shelf)
    (inside : ∀ name, Page.below? first [name] = some (item name)) (whole : '/' ∉ name)
    (same : '/' :: (first ++ '/' :: name) = url) :
    Page.ofUrl? url = some shelf ∨ ∃ cut, Path.IsSegment cut ∧
      Page.ofUrl? url = some (item cut) ∧ ('?' ∉ url → '#' ∉ url → cut = name) := by
  subst same
  have read := Page.ofUrl_entry holds name
  have kept : '/' ∉ name.takeWhile fun c => c != '?' && c != '#' :=
    fun slash => whole (List.takeWhile_subset _ slash)
  rw [Path.segments_whole kept] at read
  by_cases empty : (name.takeWhile fun c => c != '?' && c != '#') = []
  · rw [if_pos empty, directory] at read
    exact .inl read
  · rw [if_neg empty, inside] at read
    refine .inr ⟨_, ⟨empty, kept⟩, read, fun query fragment => ?_⟩
    simp only [List.mem_cons, List.mem_append, not_or] at query fragment
    exact Page.takeWhile_whole query.2.2.2 fragment.2.2.2

/-- A URL leads to a page, and to one that holds something unless a query or a fragment is read in
the URL. -/
def Arrives (posts : List Post) (url : Text) : Prop :=
  ∃ page : Page, Page.ofUrl? url = some page ∧ page.Proper ∧
    ('?' ∉ url → '#' ∉ url → page.Held posts)

private theorem entry_arrives {first : Text} {shelf : Page} {item : Text → Page}
    (holds : Holds first) (directory : Page.below? first [] = some shelf)
    (inside : ∀ name, Page.below? first [name] = some (item name))
    (proper : ∀ {cut}, Path.IsSegment cut → (item cut).Proper) (whole : '/' ∉ name)
    (held : (item name).Held posts) (same : '/' :: (first ++ '/' :: name) = url) :
    Arrives posts url := by
  rcases entry_page holds directory inside whole same with above | ⟨cut, segment, found, kept⟩
  · obtain ⟨proper, held, _⟩ := fixed_held posts (Page.below_cases directory).fixed
    exact ⟨shelf, above, proper, fun _ _ => held⟩
  · refine ⟨item cut, found, proper segment, fun query fragment => ?_⟩
    rw [kept query fragment]
    exact held

private theorem series_arrives {post : Post} {slug : Text} (member : post ∈ posts)
    (held : post.seriesSlug = some slug) : Arrives posts (Page.seriesItem slug).url := by
  have known := series_held member held
  obtain ⟨name, _, rfl⟩ := Option.map_eq_some_iff.mp held
  exact entry_arrives .series rfl (fun _ => rfl) id (slugOf_whole name) known rfl

private theorem tag_arrives {post : Post} {tag : Text} (member : post ∈ posts)
    (held : tag ∈ post.tags) : Arrives posts (Page.tagItem (slugOf tag)).url :=
  entry_arrives .tags rfl (fun _ => rfl) id (slugOf_whole tag) (tag_held member held) rfl

private theorem post_arrives {post : Post} (member : post ∈ posts) (plain : post.HasPlainSlug) :
    Arrives posts post.url := by
  have free (c : Char) (special : c ∈ "~.?#".toList) : c ∉ post.slug :=
    fun inside => (plain.char inside).2 special
  have segment : Path.IsSegment post.slug := ⟨plain.given, plain.whole⟩
  have name := Page.withoutExtension_self (free '.' (by decide))
  have read := Page.ofUrl_entry .posts post.slug
  rw [Page.takeWhile_whole (free '?' (by decide)) (free '#' (by decide)),
    Path.segments_of_segment segment] at read
  have found : Page.ofUrl? post.url = some (.post post.slug) :=
    read.trans (congrArg (fun name => some (Page.post name)) name)
  exact ⟨.post post.slug, found, ⟨segment, name⟩, fun _ _ => ⟨post, member, rfl⟩⟩

private theorem leads_arrives (plain : ∀ post ∈ posts, post.HasPlainSlug) (read : page.Read)
    (leads : Leads posts page.promptPath url) : Arrives posts url := by
  have above : ∀ url ∈ ["/".toList, "/posts", "/series", "/tags"],
      ∃ page ∈ [Page.root, .archives, .search, .posts, .series, .tags],
        Page.ofUrl? url = some page := by
    decide
  have directories : ∀ page ∈ [Page.archives, .search, .posts, .series, .tags],
      Page.ofUrl? page.url = some page := by
    decide
  cases leads with
  | home => exact ⟨.root, rfl, trivial, fun _ _ => trivial⟩
  | up left =>
    obtain ⟨arrived, fixed, found⟩ := above url (toParent_url read left)
    obtain ⟨proper, held, _⟩ := fixed_held posts fixed
    exact ⟨arrived, found, proper, fun _ _ => held⟩
  | directory top =>
    obtain ⟨proper, held, _⟩ := fixed_held posts (.tail _ top)
    exact ⟨_, directories _ top, proper, fun _ _ => held⟩
  | post member => exact post_arrives member (plain _ member)
  | series member held => exact series_arrives member held
  | tag member held => exact tag_arrives member held

end Navigation

/-! ## Arriving -/

namespace Terminal

variable {σ τ : Type} [Store τ]

private theorem apply_navigated {terminal : Terminal σ τ} {line : Text} {result : Result}
    (left : (terminal.apply line result).dispatch = .navigated url) :
    result.navigate = some url := by
  unfold apply at left
  split at left
  · cases left
  · split at left
    · cases left
      assumption
    · split at left <;> cases left

private theorem apply_shows (terminal : Terminal σ τ) (line : Text) {result : Result}
    (shows : Shows result) :
    (terminal.apply line result).dispatch = .displayed result.error := by
  cases shows <;> rfl

/-- Listing the current directory succeeds on the pages that hold something. -/
theorem execute_ls (terminal : Terminal σ τ)
    (here : Page.ofDirectory? (Path.directory terminal.path) = some page) :
    (terminal.execute "ls").dispatch = .displayed false ↔ page.Held terminal.posts := by
  have called : Calls "ls" .ls [] [] := by decide
  have listing : Builtin.ls.execute (terminal.context.withCall ⟨Builtin.ls.command.name, [], []⟩) =
      Listing.answer terminal.posts false "." (Path.resolve "." terminal.path) := rfl
  rw [execute_builtin terminal called (by decide), listing,
    apply_shows terminal _ (listing_shows false), Dispatch.displayed.injEq, listing_error,
    listed_page (Page.ofDirectory_here here)]

private theorem execute_cd (terminal : Terminal σ τ) {line : Text} {arguments flags : List Text}
    (called : Calls line .cd arguments flags)
    (left : (terminal.execute line).dispatch = .navigated url) :
    Navigation.Leads terminal.posts terminal.path url := by
  rw [execute_builtin terminal called (by decide)] at left
  exact Navigation.answer_leads (apply_navigated left)

variable [Store σ]

private theorem start_path (setup : Setup σ τ) :
    (Terminal.start setup).path = Path.prompt setup.path := rfl

/-- Whatever page is gone to, its URL is read as a page again. A terminal that is opened there can
list it when the collection has something for that page, and it has unless the URL holds a question
mark or a number sign: then what follows is taken for a query or a fragment. -/
theorem destination_listed (setup : Setup σ τ) (plain : ∀ post ∈ setup.posts, post.HasPlainSlug)
    {start : Text} (opened : Page.ofUrl? start = some page) {line : Text}
    {arguments flags : List Text} (called : Calls line .cd arguments flags)
    (left : ((Terminal.start { setup with path := page.promptPath }).execute line).dispatch =
      .navigated url) :
    ∃ arrived, Page.ofUrl? url = some arrived ∧
      let next := Terminal.start { setup with path := arrived.promptPath }
      ((next.execute "ls").dispatch = .displayed false ↔ arrived.Held setup.posts) ∧
        ('?' ∉ url → '#' ∉ url → (next.execute "ls").dispatch = .displayed false) := by
  have leads := execute_cd _ called left
  rw [start_path, Page.prompt_promptPath] at leads
  obtain ⟨arrived, found, proper, held⟩ :=
    Navigation.leads_arrives plain (Page.ofDirectory_read opened) leads
  refine ⟨arrived, found, ?_⟩
  intro next
  have here : Page.ofDirectory? (Path.directory next.path) = some arrived := by
    rw [start_path, Page.prompt_promptPath]
    exact Page.ofDirectory_promptPath proper
  have listed : (next.execute "ls").dispatch = .displayed false ↔ arrived.Held setup.posts :=
    execute_ls next here
  exact ⟨listed, fun query fragment => listed.mpr (held query fragment)⟩

/-- A post of the series "Rust & Lean", gone to from the page of another directory. -/
theorem destination_listed_series :
    let posts : List Post := [⟨"intro", "Intro", [], "2024-01-01", [], some "Rust & Lean", []⟩]
    let setup : Setup MemoryStore MemoryStore :=
      ⟨posts, {}, "~/tags", true, ⟨[]⟩, ⟨[]⟩, ⟨⟨⟨1970, 1, 1⟩, 0, 0⟩, 0⟩⟩
    let next := Terminal.start { setup with path := "~/series/rust-&-lean" }
    ((Terminal.start setup).execute "cd series/rust-&-lean").dispatch =
        .navigated "/series/rust-&-lean" ∧
      Page.ofUrl? "/series/rust-&-lean" = some (.seriesItem "rust-&-lean") ∧
      (next.execute "ls").dispatch = .displayed false := by
  intro posts setup next
  have left : ((Terminal.start setup).execute "cd series/rust-&-lean").dispatch =
      .navigated "/series/rust-&-lean" := by decide +kernel
  have plain : ∀ post ∈ setup.posts, post.HasPlainSlug := by decide
  have read : Page.ofUrl? "/series/rust-&-lean" = some (.seriesItem "rust-&-lean") := by
    decide
  have opened : Page.ofUrl? "/tags" = some .tags := by decide
  have called : Calls "cd series/rust-&-lean" .cd ["series/rust-&-lean"] [] := by decide
  obtain ⟨arrived, found, _, listed⟩ := destination_listed setup plain opened called left
  cases found.symm.trans read
  exact ⟨left, read, listed (by decide) (by decide)⟩

/-- The series "C#" is gone to under a URL whose fragment is empty, and what is read of it is the
page of a series "c", which nobody has written. -/
theorem destination_fragment :
    let posts : List Post := [⟨"intro", "Intro", [], "2024-01-01", [], some "C#", []⟩]
    let setup : Setup MemoryStore MemoryStore :=
      ⟨posts, {}, "~", true, ⟨[]⟩, ⟨[]⟩, ⟨⟨⟨1970, 1, 1⟩, 0, 0⟩, 0⟩⟩
    let next := Terminal.start { setup with path := (Page.seriesItem "c").promptPath }
    (∀ post ∈ posts, post.HasPlainSlug) ∧
      ((Terminal.start setup).execute "cd series/c#").dispatch = .navigated "/series/c#" ∧
      Page.ofUrl? "/series/c#" = some (.seriesItem "c") ∧
      ((Terminal.start setup).execute "ls").dispatch = .displayed false ∧
      (next.execute "ls").dispatch = .displayed true := by
  decide +kernel

end Terminal

end

/-! ## Lines of entries

Running the line of an entry. The entries of series and of tags carry the line that lists what is
below them, with the slug as it is. A slug has no blanks and no slashes, so the line is the command
and one word; but a slug keeps the quotes of its name, and the word is the slug without them.
-/

section

open CommandLine (split words)
open Listing (Shelf)

variable {posts : List Post} {post : Post} {shelf : Shelf} {name word slug : Text}

/-! ### Directories below a shelf -/

namespace Listing

private theorem seriesItem_held (chars : ∀ c ∈ word, SlugChar c) :
    (Page.seriesItem word).Held posts ↔ word ∈ Shelf.series.slugs posts := by
  simp only [mem_slugs (nofun : Shelf.series ≠ .posts), Page.Held, slugOf_of_chars chars,
    Post.seriesSlug, Option.map_eq_some_iff, Shelf.names, Option.mem_toList]

private theorem tagItem_held (chars : ∀ c ∈ word, SlugChar c) :
    (Page.tagItem word).Held posts ↔ word ∈ Shelf.tags.slugs posts := by
  simp only [mem_slugs (nofun : Shelf.tags ≠ .posts), Page.Held, slugOf_of_chars chars,
    Post.hasTag, List.any_eq_true, decide_eq_true_eq, Shelf.names]

/-- A word below a shelf is a directory when it is the slug of an entry, and without a word it is
the shelf itself. -/
theorem below_listed (named : shelf ≠ .posts) (chars : ∀ c ∈ word, SlugChar c) (path : Text) :
    Listed posts (Path.resolve (shelf.directory ++ '/' :: word) path) ↔
      word = [] ∨ word ∈ shelf.slugs posts := by
  by_cases empty : word = []
  · have own : Path.resolve (shelf.directory ++ ['/']) path = shelf.directory := by
      cases shelf <;> rfl
    have top : shelf.directory ∈ Page.topLevel := by cases shelf <;> decide
    rw [empty, own]
    exact iff_of_true (topLevel_listed posts top).1 (.inl rfl)
  · have segment : Path.IsSegment word := ⟨empty, whole_of_chars chars⟩
    rw [or_iff_right empty]
    cases shelf with
    | posts => exact absurd rfl named
    | series =>
      exact (listed_page (Page.ofDirectory_segment .series segment rfl path)).trans
        (seriesItem_held chars)
    | tags =>
      exact (listed_page (Page.ofDirectory_segment .tags segment rfl path)).trans
        (tagItem_held chars)

end Listing

/-! ### Lines with one word -/

/-- The name of a command, a space and a word without blanks: the word without its quotes is an
argument or a flag, unless nothing is left of it. -/
theorem calls_word (builtin : Builtin) (given : word ≠ [])
    (solid : ∀ c ∈ word, Text.isBlank c = false) :
    Calls (builtin.command.name ++ ' ' :: word) builtin
      ((words word).filter (!CommandLine.isFlag ·)) ((words word).filter CommandLine.isFlag) := by
  have names : ∀ builtin ∈ Builtin.all, builtin.command.name ≠ [] ∧
      CommandLine.IsBare builtin.command.name ∧
      builtin.command.name.lower = builtin.command.name := by
    decide
  obtain ⟨named, bare, lower⟩ := names builtin builtin.mem_all
  have starts : ∀ c ∈ (builtin.command.name ++ ' ' :: word).head?, Text.isBlank c = false := by
    intro c first
    rw [List.head?_append_of_ne_nil _ named] at first
    exact (bare c (List.mem_of_mem_head? first)).1
  have ends : ∀ c ∈ (builtin.command.name ++ ' ' :: word).getLast?, Text.isBlank c = false := by
    intro c last
    rw [List.getLast?_append_cons, List.getLast?_cons_of_ne_nil given] at last
    exact solid c (List.mem_of_mem_getLast? last)
  rw [Calls, Text.trim_kept starts ends, Call.ofLine, CommandLine.words_next bare named]
  exact ⟨by simp, congrArg (Call.mk · _ _) lower⟩

private theorem calls_entry (named : shelf ≠ .posts) (chars : ∀ c ∈ slug, SlugChar c) :
    Calls (shelf.line slug) .ls [shelf.directory ++ '/' :: (split none slug).1] [] := by
  have bare : CommandLine.IsBare (shelf.directory ++ ['/']) := by cases shelf <;> decide
  have plain : CommandLine.isFlag (shelf.directory ++ '/' :: (split none slug).1) = false := by
    cases shelf <;> rfl
  have parts : shelf.line slug =
      Builtin.ls.command.name ++ ' ' :: (shelf.directory ++ '/' :: slug) := by
    cases shelf with
    | posts => exact absurd rfl named
    | series | tags => rfl
  have solid : ∀ c ∈ shelf.directory ++ '/' :: slug, Text.isBlank c = false := by
    rw [List.append_cons, List.forall_mem_append]
    exact ⟨fun c member => (bare c member).1, fun c member => (chars c member).solid⟩
  have word : words (shelf.directory ++ '/' :: slug) =
      [shelf.directory ++ '/' :: (split none slug).1] := by
    rw [CommandLine.words_solid solid, List.append_cons, CommandLine.split_bare bare]
    simp [CommandLine.addWord]
  have called := calls_word .ls (by simp) solid
  rw [word] at called
  simpa [parts, plain] using called

/-! ### Running the line of an entry -/

namespace Terminal

variable {σ τ : Type} [Store τ]

private theorem execute_entry (terminal : Terminal σ τ) (named : shelf ≠ .posts)
    (chars : ∀ c ∈ slug, SlugChar c) :
    ∃ error, (terminal.execute (shelf.line slug)).dispatch = .displayed error ∧
      (error = false ↔ ∀ word ∈ words slug, word ∈ shelf.slugs terminal.posts) := by
  have solid : ∀ c ∈ slug, Text.isBlank c = false := fun c member => (chars c member).solid
  have left : ∀ c ∈ (split none slug).1, SlugChar c :=
    fun c member => chars c ((CommandLine.split_solid solid none).2 member)
  have listed : Listed terminal.posts
      (Path.resolve (shelf.directory ++ '/' :: (split none slug).1) terminal.path) ↔
        ∀ word ∈ words slug, word ∈ shelf.slugs terminal.posts := by
    rw [Listing.below_listed named left, CommandLine.words_solid solid]
    by_cases empty : (split none slug).1 = []
    · simp [CommandLine.addWord, empty]
    · simp [CommandLine.addWord, empty]
  rw [execute_builtin terminal (calls_entry named chars) (by decide)]
  exact ⟨_, apply_shows terminal _ (listing_shows false), (listing_error false).trans listed⟩

/-- The line that the entry of a series or a tag carries shows something, whatever the page is that
it is run on. It is no error exactly when the words of the slug are slugs of entries themselves,
which they are when there are no quotes in the slug. -/
theorem entry_line_runs (terminal : Terminal σ τ) {shelf : Shelf} {post : Post} {name : Text}
    (member : post ∈ terminal.posts) (held : name ∈ shelf.names post) (given : slugOf name ≠ []) :
    slugOf name ∈ shelf.slugs terminal.posts ∧
      ∃ error, (terminal.execute (shelf.line (slugOf name))).dispatch = .displayed error ∧
        (error = false ↔ ∀ word ∈ words (slugOf name), word ∈ shelf.slugs terminal.posts) ∧
        ('"' ∉ slugOf name → '\'' ∉ slugOf name → error = false) := by
  have named : shelf ≠ .posts := by
    rintro rfl
    exact absurd held List.not_mem_nil
  have entry : slugOf name ∈ shelf.slugs terminal.posts :=
    (Listing.mem_slugs named).mpr ⟨post, member, name, held, rfl⟩
  have chars : ∀ c ∈ slugOf name, SlugChar c := fun _ => slugOf_char
  obtain ⟨error, shown, accepted⟩ := execute_entry terminal named chars
  refine ⟨entry, error, shown, accepted, fun double single => accepted.mpr ?_⟩
  have bare : CommandLine.IsBare (slugOf name) := by
    refine fun c inside => ⟨(chars c inside).solid, ?_⟩
    rintro (rfl | rfl)
    · exact double inside
    · exact single inside
  rw [CommandLine.words_plain bare given]
  exact List.forall_mem_singleton.mpr entry

/-- A tag with a slash and a dash in front, and a flag between blanks. -/
theorem entry_line_runs_dashes :
    let post : Post := ⟨"intro", "Intro", [], "2024-01-01", ["-CI/CD -l "], none, []⟩
    let terminal : Terminal MemoryStore MemoryStore := Terminal.start
      ⟨[post], {}, "~/series", true, ⟨[]⟩, ⟨[]⟩, ⟨⟨⟨1970, 1, 1⟩, 0, 0⟩, 0⟩⟩
    Shelf.tags.line (slugOf "-CI/CD -l ") = "ls tags/-ci-cd--l" ∧
      (terminal.execute "ls tags/-ci-cd--l").dispatch = .displayed false := by
  intro post terminal
  have member : post ∈ terminal.posts := .head _
  have held : "-CI/CD -l ".toList ∈ Shelf.tags.names post := .head _
  obtain ⟨_, error, shown, _, unquoted⟩ := entry_line_runs terminal member held (by decide)
  have line : Shelf.tags.line (slugOf "-CI/CD -l ") = "ls tags/-ci-cd--l" := by decide
  rw [unquoted (by decide) (by decide), line] at shown
  exact ⟨line, shown⟩

/-- An apostrophe in the name of a series is taken out of the line. -/
theorem entry_line_refused :
    let post : Post := ⟨"intro", "Intro", [], "2024-01-01", [], some "Don't Panic", []⟩
    let terminal : Terminal MemoryStore MemoryStore := Terminal.start
      ⟨[post], {}, "~", true, ⟨[]⟩, ⟨[]⟩, ⟨⟨⟨1970, 1, 1⟩, 0, 0⟩, 0⟩⟩
    slugOf "Don't Panic" ≠ [] ∧ slugOf "Don't Panic" ∈ Shelf.series.slugs terminal.posts ∧
      (terminal.execute (Shelf.series.line (slugOf "Don't Panic"))).dispatch =
        .displayed true := by
  decide +kernel

end Terminal

end

end BlogTerminal
