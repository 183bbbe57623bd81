import BlogTerminal.Command.Builtin
import BlogTerminal.Proofs.Command.Directories
import BlogTerminal.Proofs.Path.Walk
import BlogTerminal.Proofs.Text.Lowercase

/-!
What an argument of a directory command stands for: how a directory can be spelled, what a path
outside the tree of the blog leads to, and which arguments can be listed but not gone to.
-/

namespace BlogTerminal

/-! ## Spellings of one directory

From outside a directory is typed, with or without a slash around it or below the tilde; from inside
nothing is typed, and the prompt path says where. Both lead to the same directory, and what is shown
of a directory does not depend on how it was asked for.
-/

section

variable {dir token : Text} {page : Page}

/-! ### Where the spellings of a directory lead -/

namespace Path

/-- A directory as it can be typed from anywhere. -/
def spellings (dir : Text) : List Text := [dir, dir ++ "/", "/" ++ dir, "~/" ++ dir]

/-- A token with a name in it that does not start with a dot is taken from the root. -/
theorem resolve_undotted (dot : token.head? ≠ some '.') (named : token ∉ [[], "~".toList, "/"])
    (current : Text) : resolve token current = stripped token := by
  have absolute : ¬ isRelative token = true := by
    intro relative
    rcases isRelative_iff.mp relative with ⟨rest, rfl⟩ | ⟨rest, rfl⟩
    · exact dot rfl
    · exact dot rfl
  have ordinary : token ∉ [[], ".".toList, "..", "~", "/"] := by
    simp only [List.mem_cons, List.not_mem_nil, or_false, not_or] at named ⊢
    obtain ⟨given, tilde, slash⟩ := named
    refine ⟨given, ?_, ?_, tilde, slash⟩
    · rintro rfl
      exact dot rfl
    · rintro rfl
      exact dot rfl
  exact resolve_typed ordinary absolute current

/-- Every spelling of a directory leads to it from everywhere. -/
theorem resolve_spelling {c : Char} {rest : Text} (start : c ∉ ".~/".toList)
    (spelled : token ∈ spellings (c :: rest)) (current : Text) :
    resolve token current = stripped (c :: rest) := by
  obtain ⟨dot, tilde, slash⟩ : c ≠ '.' ∧ c ≠ '~' ∧ c ≠ '/' := by simpa using start
  have bare : resolve (c :: rest) current = stripped (c :: rest) :=
    resolve_undotted (by simpa using dot) (by simp [tilde, slash]) current
  simp only [spellings, List.mem_cons, List.not_mem_nil, or_false] at spelled
  rcases spelled with rfl | rfl | rfl | rfl
  · exact bare
  · exact (resolve_slash (List.cons_ne_nil c rest) current).trans bare
  · exact resolve_undotted (by simp) (by simp) current
  · exact resolve_undotted (by simp) (by simp) current

end Path

namespace Page

open BlogTerminal.Path

/-- The directory of a page below the root starts with a letter. -/
theorem directory_start (below : page ≠ root) :
    ∃ c rest, page.directory = c :: rest ∧ c ∉ ".~/".toList := by
  cases page with
  | root => exact absurd rfl below
  | archives | search | posts | series | tags | post _ | seriesItem _ | tagItem _ =>
    exact ⟨_, _, rfl, by decide⟩

/-- On a page that has been read the current directory is the directory of the page. -/
theorem resolve_here (read : page.Read) :
    resolve "." page.promptPath = stripped page.directory := by
  have shown : resolve "." page.promptPath = stripped (join (segments page.directory)) :=
    congrArg stripped (directory_promptPath page)
  rw [shown]
  cases page with
  | root | archives | search | posts | series | tags => decide
  | seriesItem name => exact congrArg stripped (join_entry .series read)
  | tagItem name => exact congrArg stripped (join_entry .tags read)
  | post slug =>
    by_cases empty : slug = []
    · subst empty
      decide
    · exact congrArg stripped (join_entry .posts ⟨empty, read⟩)

/-- A page that has been read is found by every spelling of its directory, and on it there is no
need to type anything. -/
theorem resolve_spelling_here (read : page.Read) (below : page ≠ root)
    (spelled : token ∈ spellings page.directory) (current : Text) :
    resolve token current = resolve "." page.promptPath := by
  obtain ⟨c, rest, same, start⟩ := directory_start below
  rw [resolve_here read]
  rw [same] at spelled ⊢
  exact resolve_spelling start spelled current

end Page

/-! ### What is shown of a directory -/

/-- A directory looks the same from outside and from inside: listing it under any of its spellings
fails exactly when listing it on its own page without an argument does, and shows the same when
neither fails; and so does its tree. -/
theorem shown_inside {α : Type} (context : Context α) (flags : List Text)
    (found : Page.ofDirectory? dir = some page) (below : page ≠ .root)
    (spelled : token ∈ Path.spellings page.directory) :
    let there : Context α := { context with path := page.promptPath }
    ∀ builtin ∈ [Builtin.ls, .tree],
      let name := builtin.command.name
      let outside := builtin.execute (context.withCall ⟨name, [token], flags⟩)
      let inside := builtin.execute (there.withCall ⟨name, [], flags⟩)
      outside.error = inside.error ∧ (outside.error = false → outside = inside) := by
  intro there builtin shows name outside inside
  have same : Path.resolve token context.path = Path.resolve "." page.promptPath :=
    Page.resolve_spelling_here (Page.ofDirectory_read found) below spelled context.path
  simp only [List.mem_cons, List.not_mem_nil, or_false] at shows
  rcases shows with rfl | rfl
  · have outer : outside = Listing.answer context.posts (CommandLine.hasSwitch flags 'l') token
        (Path.resolve token context.path) := rfl
    have inner : inside = Listing.answer context.posts (CommandLine.hasSwitch flags 'l') "."
        (Path.resolve "." page.promptPath) := rfl
    rw [outer, inner, same]
    exact (listing_answered ..).alike token "."
  · have outer : outside = TreeView.answer context.posts token
        (Path.resolve token context.path) := rfl
    have inner : inside = TreeView.answer context.posts "."
        (Path.resolve "." page.promptPath) := rfl
    rw [outer, inner, same]
    exact (tree_answered ..).alike token "."

/-- The page of a series with a tilde, a dot and a capital in its name, typed below the tilde. -/
theorem shown_inside_series :
    let posts : List Post := [⟨"intro", "Intro", [], "2024-01-01", [], some "rust~ .MD", []⟩]
    let context : Context Builtin := { registry := Builtin.registry, posts, path := "~~/.." }
    let page : Page := .seriesItem "Rust~-.md"
    let there : Context Builtin := { context with path := page.promptPath }
    (Page.ofDirectory? "~SERIES//Rust~-.md/" = some page ∧ page ≠ .root ∧
      "~/series/Rust~-.md".toList ∈ Path.spellings page.directory) ∧
      ∀ builtin ∈ [Builtin.ls, .tree],
        let name := builtin.command.name
        let inside := builtin.execute (there.withCall ⟨name, [], ["-l"]⟩)
        inside.error = false ∧
          builtin.execute (context.withCall ⟨name, ["~/series/Rust~-.md"], ["-l"]⟩) = inside := by
  intro posts context page there
  have found : Page.ofDirectory? "~SERIES//Rust~-.md/" = some page := by decide
  have below : page ≠ .root := by decide
  have spelled : "~/series/Rust~-.md".toList ∈ Path.spellings page.directory := by decide
  refine ⟨⟨found, below, spelled⟩, fun builtin shows => ?_⟩
  obtain ⟨failing, showing⟩ := shown_inside context ["-l"] found below spelled builtin shows
  have shown : ∀ builtin ∈ [Builtin.ls, .tree], (builtin.execute
      (there.withCall ⟨builtin.command.name, [], ["-l"]⟩)).error = false := by
    decide +kernel
  have inside := shown builtin shows
  exact ⟨inside, showing (failing.trans inside)⟩

end

/-! ## Outside the tree of the blog

Listing such a path, or showing its tree, looks the whole path up as the slug of a series, and a
slug is made of words that slashes separate as well as blanks do. So a path of several segments
stands for a series too: the one whose slug is the slugs of the segments with dashes between them.
-/

/-! ### The slug of a path -/

/-- The words of a name, which its slug has with dashes between them. -/
def slugWords (name : Text) : List Text := name.lower.pieces fun c => Text.isBlank c || c == '/'

private theorem slugWords_slash (first rest : Text) :
    slugWords (first ++ '/' :: rest) = slugWords first ++ slugWords rest := by
  rw [slugWords, Text.lower_around (by decide), Text.pieces_separated rfl]
  rfl

private theorem slugWords_join (parts : List Text) :
    slugWords (Path.join parts) = (parts.filter (!·.isEmpty)).flatMap slugWords := by
  induction parts with
  | nil => rfl
  | cons part more ih =>
    have front : slugWords (Path.join (part :: more)) =
        slugWords part ++ slugWords (Path.join more) := by
      cases more with
      | nil =>
        rw [Path.join, List.intercalate_singleton]
        exact (List.append_nil _).symm
      | cons next later => rw [Path.join_cons, slugWords_slash]
    rw [front, ih]
    cases part with
    | nil => rfl
    | cons c run => rfl

/-- Each segment of a path has its own words. -/
theorem slugWords_segments (path : Text) :
    slugWords path = (Path.segments path).flatMap slugWords := by
  have joined := slugWords_join (path.splitOn '/')
  rw [Path.join, List.intercalate_splitOn] at joined
  exact joined

/-- The slug of a path is the slugs of its segments with dashes between them. -/
theorem slugOf_path (path : Text) :
    slugOf path = ['-'].intercalate (((Path.segments path).map slugOf).filter (!·.isEmpty)) := by
  have proper : ∀ words ∈ (Path.segments path).map slugWords, ∀ word ∈ words, word ≠ [] := by
    intro words listed word member
    obtain ⟨segment, _, rfl⟩ := List.mem_map.mp listed
    exact (Text.mem_pieces member).1
  calc slugOf path = ['-'].intercalate ((Path.segments path).map slugWords).flatten := by
        rw [← List.flatMap_def, ← slugWords_segments]
        rfl
    _ = ['-'].intercalate (((Path.segments path).map slugOf).filter (!·.isEmpty)) := by
        rw [Text.intercalate_flatten ['-'] proper, List.map_map]
        rfl

/-! ### Looking a path up -/

/-- A path outside the tree of the blog is an error exactly when no series has the slug that the
slugs of its segments make with dashes between them. -/
theorem outside_error {α : Type} (context : Context α) {typed : Text} (flags : List Text)
    (outside : Page.ofDirectory? (Path.resolve typed context.path) = none) :
    let slugs := ((Path.segments (Path.resolve typed context.path)).map slugOf).filter (!·.isEmpty)
    ∀ builtin ∈ [Builtin.ls, .tree],
      (builtin.execute (context.withCall ⟨builtin.command.name, [typed], flags⟩)).error = true ↔
        ∀ post ∈ context.posts, post.seriesSlug ≠ some (['-'].intercalate slugs) := by
  intro slugs builtin shows
  have accepted : (builtin.execute
      (context.withCall ⟨builtin.command.name, [typed], flags⟩)).error = false ↔
        Listed context.posts (Path.resolve typed context.path) := by
    simp only [List.mem_cons, List.not_mem_nil, or_false] at shows
    rcases shows with rfl | rfl
    · exact listing_error _
    · exact tree_error
  rw [← Bool.not_eq_false, accepted, listed_bare outside, slugOf_path]
  simp only [not_exists, not_and]
  rfl

/-- Three segments that are not the words of the series. -/
theorem outside_error_basics :
    let posts : List Post := [⟨"intro", "Intro", [], "2024-01-01", [], some "Learning Go", []⟩]
    let context : Context Builtin := { registry := Builtin.registry, posts, path := "~/posts" }
    let typed : Text := "../learning//go/basics/"
    Page.ofDirectory? (Path.resolve typed context.path) = none ∧
      ∀ builtin ∈ [Builtin.ls, .tree], (builtin.execute
        (context.withCall ⟨builtin.command.name, [typed], []⟩)).error = true := by
  intro posts context typed
  have outside : Page.ofDirectory? (Path.resolve typed context.path) = none := by decide
  have missing : ∀ post ∈ context.posts, post.seriesSlug ≠ some "learning-go-basics".toList := by
    decide
  have slug : ['-'].intercalate (((Path.segments (Path.resolve typed context.path)).map
      slugOf).filter (!·.isEmpty)) = "learning-go-basics".toList := by
    decide +kernel
  refine ⟨outside, fun builtin shows => (outside_error context [] outside builtin shows).mpr ?_⟩
  rw [slug]
  exact missing

/-- Two segments that are the words of the series are taken for its slug. -/
theorem outside_listed :
    let posts : List Post := [⟨"intro", "Intro", [], "2024-01-01", [], some "Learning Go", []⟩]
    let context : Context Builtin := { registry := Builtin.registry, posts, path := "~" }
    let typed : Text := "learning/go"
    (Path.segments (Path.resolve typed context.path)).length = 2 ∧
      Page.ofDirectory? (Path.resolve typed context.path) = none ∧
      ∀ builtin ∈ [Builtin.ls, .tree], (builtin.execute
        (context.withCall ⟨builtin.command.name, [typed], []⟩)).error = false := by
  decide +kernel

/-! ## Listed and not gone to

Listing and going both resolve the argument to the same directory, and what can be listed can be
gone to, whatever the case of the directories in it and however many slashes it has, with one
exception: a post is gone to by what follows `posts/`. Where the directory of a post is spelled in
another way, it has a listing and cannot be gone to.
-/

section

variable {posts : List Post} {dir path slug typed : Text}

namespace Navigation

/-- The slug that a directory stands for is whole only when the directory is, or when it is spelled
like the directory of a post. -/
theorem slugIn_whole :
    '/' ∉ slugIn dir ↔ '/' ∉ dir ∨ ∃ name, dir = "posts/" ++ name ∧ '/' ∉ name := by
  rw [slugIn, Page.mem_withoutExtension_iff (by decide)]
  rcases Text.dropStart_cases dir "posts/" with split | ⟨other, same⟩
  · generalize dir.dropStart "posts/" = rest at split ⊢
    subst split
    simp
  · rw [same]
    refine (or_iff_left ?_).symm
    rintro ⟨name, rfl, _⟩
    exact other (List.prefix_append _ _)

/-- A post that is listed under its page is gone to when the directory is spelled so. -/
theorem slugIn_held (plain : ∀ post ∈ posts, post.HasPlainSlug)
    (tilde : dir.dropWhile (· == '~') = dir) (found : Page.ofDirectory? dir = some (.post slug))
    (held : (Page.post slug).Held posts) :
    (∃ post ∈ posts, post.slug.lower = (slugIn dir).lower) ↔
      ∃ name, dir = "posts/" ++ name ∧ '/' ∉ name := by
  constructor
  · rintro ⟨post, member, same⟩
    have whole : '/' ∉ slugIn dir := by
      intro slash
      have inside := Text.mem_lower (by decide) slash
      rw [← same, (plain post member).lower] at inside
      exact (plain post member).whole inside
    refine (slugIn_whole.mp whole).resolve_left fun single => ?_
    obtain ⟨first, name, split⟩ := Page.ofDirectory_post found
    rw [tilde, Path.segments_whole single] at split
    split at split <;> cases split
  · rintro ⟨name, rfl, whole⟩
    have read : Page.ofDirectory? ("posts/" ++ name) = Page.below? "posts" (Path.segments name) :=
      Page.ofDirectory_entry .posts name
    rw [found, Path.segments_whole whole] at read
    by_cases empty : name = []
    · rw [if_pos empty] at read
      cases read
    · rw [if_neg empty] at read
      have file : slug = slugIn ("posts/" ++ name) := by
        cases read
        rfl
      rw [← file]
      exact held

/-- The directory of a post can be gone to when it is spelled `posts/` and a name, and every other
directory when it can be listed. -/
theorem held_gone (plain : ∀ post ∈ posts, post.HasPlainSlug)
    (tilde : dir.dropWhile (· == '~') = dir) (listed : Listed posts dir) :
    ((∃ post ∈ posts, post.slug.lower = (slugIn dir).lower) ∨
        Listed posts dir ∧ ∀ slug, Page.ofDirectory? dir ≠ some (.post slug)) ↔
      ∀ slug, Page.ofDirectory? dir = some (.post slug) →
        ∃ name, dir = "posts/" ++ name ∧ '/' ∉ name := by
  by_cases file : ∃ slug, Page.ofDirectory? dir = some (.post slug)
  · obtain ⟨slug, found⟩ := file
    rw [slugIn_held plain tilde found ((listed_page found).mp listed)]
    constructor
    · rintro (spelled | ⟨_, other⟩) _ _
      · exact spelled
      · exact absurd found (other slug)
    · exact fun spelled => .inl (spelled slug found)
  · have other : ∀ slug, Page.ofDirectory? dir ≠ some (.post slug) :=
      fun slug found => file ⟨slug, found⟩
    exact iff_of_true (.inr ⟨listed, other⟩) fun slug found => absurd found (other slug)

/-- The root is gone to under its own name and under no name. -/
theorem answer_home {token : Text} (cut : typed.dropEndWhile (· == '/') = token)
    (home : token ∈ [[], "~".toList]) : answer posts typed path = Navigation.home := by
  simp only [List.mem_cons, List.not_mem_nil, or_false] at home
  rcases home with rfl | rfl <;> simp [answer, cut]

private theorem answer_up (cut : typed.dropEndWhile (· == '/') = "..") :
    answer posts typed path = toParent path := by
  simp [answer, cut]

end Navigation

/-- What can be listed can be gone to, unless it is the page of a post whose directory is not
spelled `posts/` and a name. The empty argument and the parent are gone to from everywhere. -/
theorem listed_gone {α : Type} {context : Context α} {flags switches : List Text}
    (plain : ∀ post ∈ context.posts, post.HasPlainSlug)
    (listed : (Builtin.ls.execute (context.withCall ⟨"ls", [typed], flags⟩)).error = false) :
    (Builtin.cd.execute (context.withCall ⟨"cd", [typed], switches⟩)).error = false ↔
      typed.dropEndWhile (· == '/') ∈ [[], "..".toList] ∨
        ∀ slug, Page.ofDirectory? (Path.resolve typed context.path) = some (.post slug) →
          ∃ name, Path.resolve typed context.path = "posts/" ++ name ∧ '/' ∉ name := by
  have shown : Listed context.posts (Path.resolve typed context.path) := (listing_error _).mp listed
  have tilde : (Path.resolve typed context.path).dropWhile (· == '~') =
      Path.resolve typed context.path := Path.stripped_tilde _
  have called : Builtin.cd.execute (context.withCall ⟨"cd", [typed], switches⟩) =
      Navigation.answer context.posts typed context.path := rfl
  rw [called]
  by_cases empty : typed.dropEndWhile (· == '/') = []
  · rw [Navigation.answer_home empty (by decide)]
    exact iff_of_true rfl (.inl (by simp [empty]))
  by_cases up : typed.dropEndWhile (· == '/') = ".."
  · rw [Navigation.answer_up up]
    exact iff_of_true (Navigation.toParent_error _) (.inl (by simp [up]))
  have resolved := Path.resolve_cut empty context.path
  by_cases root : typed.dropEndWhile (· == '/') = "~"
  · have page : Page.ofDirectory? (Path.resolve typed context.path) = some .root := by
      rw [← resolved, root]
      rfl
    rw [Navigation.answer_home root (by decide)]
    exact iff_of_true rfl (.inr fun slug found => by rw [page] at found; cases found)
  · have named : typed.dropEndWhile (· == '/') ∉ [[], "..".toList] := by
      simp only [List.mem_cons, List.not_mem_nil, or_false, not_or]
      exact ⟨empty, up⟩
    rw [Navigation.answer_error rfl empty root up resolved,
      Navigation.held_gone plain tilde shown, or_iff_right named]

/-- The page of a series, in capitals and with slashes to spare. -/
theorem listed_gone_series :
    let posts : List Post := [⟨"intro", "Intro", [], "2024-01-01", [], some "Rust & Lean", []⟩]
    let context : Context Builtin := { registry := Builtin.registry, posts, path := "~/tags" }
    let typed : Text := "../SERIES//rust-&-lean/"
    (∀ post ∈ context.posts, post.HasPlainSlug) ∧
      (Builtin.ls.execute (context.withCall ⟨"ls", [typed], []⟩)).error = false ∧
      (Builtin.cd.execute (context.withCall ⟨"cd", [typed], []⟩)).error = false := by
  intro posts context typed
  have plain : ∀ post ∈ context.posts, post.HasPlainSlug := by decide
  have listed : (Builtin.ls.execute (context.withCall ⟨"ls", [typed], []⟩)).error = false := by
    decide +kernel
  have page : Page.ofDirectory? (Path.resolve typed context.path) =
      some (.seriesItem "rust-&-lean") := by
    decide +kernel
  refine ⟨plain, listed, (listed_gone plain listed).mpr (.inr fun slug found => ?_)⟩
  rw [page] at found
  cases found

/-- A post is listed with `posts` in capitals and with a slash to spare, and cannot be gone to with
either. -/
theorem listed_unreachable :
    let posts : List Post := [⟨"intro", "Intro", [], "2024-01-01", [], none, []⟩]
    let context : Context Builtin := { registry := Builtin.registry, posts, path := "~" }
    (∀ post ∈ posts, post.HasPlainSlug) ∧ ∀ typed ∈ ["POSTS/intro".toList, "posts//intro"],
      (Builtin.ls.execute (context.withCall ⟨"ls", [typed], []⟩)).error = false ∧
        (Builtin.cd.execute (context.withCall ⟨"cd", [typed], []⟩)).error = true := by
  decide +kernel

end

end BlogTerminal
