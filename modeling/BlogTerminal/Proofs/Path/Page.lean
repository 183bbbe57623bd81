import BlogTerminal.Path
import BlogTerminal.Proofs.Path.Resolve
import BlogTerminal.Proofs.Text.Lowercase

/-!
Pages and the paths that lead to them. A page is found again at its directory, at its URL and from
its prompt path, as long as its name can stand between slashes.
-/

namespace BlogTerminal

namespace Page

open BlogTerminal.Path

variable {first dir name slug : Text} {rest : List Text} {page : Page}

/-! ## Reading a directory -/

/-- The pages below the root, with the segments that lead to them. -/
inductive Below : Text → List Text → Page → Prop where
  | archives : Below "archives" [] .archives
  | search : Below "search" [] .search
  | posts : Below "posts" [] .posts
  | series : Below "series" [] .series
  | tags : Below "tags" [] .tags
  | post (name : Text) : Below "posts" [name] (.post (withoutExtension name))
  | seriesItem (name : Text) : Below "series" [name] (.seriesItem name)
  | tagItem (name : Text) : Below "tags" [name] (.tagItem name)

/-- A page that is found below the root is one of these. -/
theorem below_cases (found : below? first rest = some page) : Below first rest page := by
  unfold below? at found
  split at found
  · split at found
    · cases found
      subst first
      exact .archives
    · split at found
      · cases found
        subst first
        exact .search
      · split at found
        · cases found
          subst first
          exact .posts
        · split at found
          · cases found
            subst first
            exact .series
          · split at found
            · cases found
              subst first
              exact .tags
            · cases found
  · split at found
    · cases found
      subst first
      exact .post _
    · split at found
      · cases found
        subst first
        exact .seriesItem _
      · split at found
        · cases found
          subst first
          exact .tagItem _
        · cases found
  · cases found

/-- What a page is found below is a directory at the top. -/
theorem Below.topLevel (below : Below first rest page) : first ∈ Page.topLevel := by
  cases below <;> decide

/-- Without further segments, the page is one of those without a name. -/
theorem Below.fixed (below : Below first [] page) :
    page ∈ [Page.root, .archives, .search, .posts, .series, .tags] := by
  cases below <;> decide

/-- The directories of series and of tags have no further segments. -/
theorem Below.shelf (below : Below first rest page) (shelf : page ∈ [Page.series, .tags]) :
    rest = [] := by
  cases below <;> first | rfl | simp at shelf

/-- A directory is read as the root when it has no segments, and else by its first segment in any
case. -/
theorem ofDirectory_cases (found : ofDirectory? dir = some page) :
    segments (dir.dropWhile (· == '~')) = [] ∧ page = root ∨
      ∃ first rest, segments (dir.dropWhile (· == '~')) = first :: rest ∧
        Below first.lower rest page := by
  unfold ofDirectory? at found
  split at found
  · rename_i none
    exact .inl ⟨none, (Option.some.inj found).symm⟩
  · rename_i first rest some
    exact .inr ⟨first, rest, some, below_cases found⟩

/-- The directory of a post has two segments. -/
theorem ofDirectory_post (found : ofDirectory? dir = some (.post slug)) :
    ∃ first name, segments (dir.dropWhile (· == '~')) = [first, name] := by
  rcases ofDirectory_cases found with ⟨_, same⟩ | ⟨first, rest, split, below⟩
  · cases same
  · generalize first.lower = lower at below
    cases below with
    | post name => exact ⟨first, name, split⟩

/-- No directory of the blog has a name that starts with a tilde, in whatever case it is typed. -/
private theorem topLevel_tilde (listed : first.lower ∈ Page.topLevel) :
    first.head? ≠ some '~' := by
  intro tilde
  obtain ⟨more, rfl⟩ := List.head?_eq_some_iff.mp tilde
  have lower : (Text.lower ('~' :: more)).head? = some '~' := rfl
  have apart : ∀ name ∈ Page.topLevel, name.head? ≠ some '~' := by decide
  exact apart _ listed lower

/-- The page of a directory is also the page of the directory so stripped. -/
theorem ofDirectory_stripped (found : ofDirectory? dir = some page) :
    ofDirectory? (stripped dir) = some page := by
  have tilde : ∀ first ∈ (segments (dir.dropWhile (· == '~'))).head?, first.head? ≠ some '~' := by
    intro first member
    rcases ofDirectory_cases found with ⟨none, _⟩ | ⟨other, rest, split, below⟩
    · simp [none] at member
    · rw [split, List.head?_cons] at member
      cases member
      exact topLevel_tilde below.topLevel
  rw [ofDirectory?, stripped_tilde, segments_stripped tilde]
  exact found

/-- The current directory is the page it shows. -/
theorem ofDirectory_here {path : Text} (found : ofDirectory? (Path.directory path) = some page) :
    ofDirectory? (resolve "." path) = some page :=
  ofDirectory_stripped found

/-! ## Directories by their segments -/

private theorem ofDirectory_split (tilde : dir.dropWhile (· == '~') = dir)
    (split : segments dir = first :: rest) : ofDirectory? dir = below? first.lower rest := by
  rw [ofDirectory?, tilde, split]

/-- A directory of one segment is read as a page at the top. -/
theorem ofDirectory_bare (whole : '/' ∉ dir) (tilde : dir.dropWhile (· == '~') = dir) :
    ofDirectory? dir = if dir = [] then some root else below? dir.lower [] := by
  by_cases empty : dir = []
  · rw [if_pos empty, empty]
    rfl
  · rw [if_neg empty]
    exact ofDirectory_split tilde (segments_of_segment ⟨empty, whole⟩)

/-- The three directories with pages in them. -/
inductive Holds : Text → Prop where
  | posts : Holds "posts"
  | series : Holds "series"
  | tags : Holds "tags"

/-- The name of a directory with pages below it is a segment. -/
theorem Holds.segment (holds : Holds first) : IsSegment first := by
  cases holds <;> exact ⟨by decide, by decide⟩

/-- A directory with pages below it is one at the top. -/
theorem Holds.topLevel (holds : Holds first) : first ∈ Page.topLevel := by
  cases holds <;> decide

/-- The name of a directory with pages below it is in lowercase. -/
theorem Holds.lower (holds : Holds first) : first.lower = first := by
  cases holds <;> decide

/-- No tilde is cut off in front of the name of such a directory. -/
theorem Holds.tilde (holds : Holds first) :
    (first ++ '/' :: name).dropWhile (· == '~') = first ++ '/' :: name := by
  cases holds <;> rfl

/-- Below such a directory the segments are its name and those of what follows. -/
theorem segments_entry (holds : Holds first) (name : Text) :
    segments (first ++ '/' :: name) = first :: segments name := by
  rw [segments_below, segments_of_segment holds.segment, List.singleton_append]

/-- Below such a directory a page is read by the segments that follow. -/
theorem ofDirectory_entry (holds : Holds first) (name : Text) :
    ofDirectory? (first ++ '/' :: name) = below? first (segments name) := by
  rw [ofDirectory_split holds.tilde (segments_entry holds name), holds.lower]

/-- A slash in front makes a URL of the directory. -/
theorem ofDirectory_slash (holds : Holds first) (name : Text) :
    ofDirectory? ('/' :: (first ++ '/' :: name)) = below? first (segments name) := by
  have split : segments ('/' :: (first ++ '/' :: name)) = first :: segments name := by
    rw [segments_slash, segments_entry holds]
  rw [ofDirectory_split (List.dropWhile_cons_of_neg (by decide)) split, holds.lower]

/-- A token that starts with the name of a directory is taken from the root. -/
theorem ofDirectory_resolved (holds : Holds first) (current : Text)
    (found : below? first (segments name) = some page) :
    ofDirectory? (resolve (first ++ '/' :: name) current) = some page := by
  have denotes : resolve (first ++ '/' :: name) current = stripped (first ++ '/' :: name) := by
    cases holds <;> rfl
  rw [denotes]
  refine ofDirectory_stripped ?_
  rw [ofDirectory_entry holds, found]

/-- Below a directory, a segment is read as a name. -/
theorem ofDirectory_segment (holds : Holds first) (segment : IsSegment name)
    (found : below? first [name] = some page) (current : Text) :
    ofDirectory? (resolve (first ++ '/' :: name) current) = some page := by
  refine ofDirectory_resolved holds current ?_
  rw [segments_of_segment segment, found]

/-! ## Names of pages -/

/-- The names that a page can be read with. -/
def Read : Page → Prop
  | .post slug => '/' ∉ slug
  | .seriesItem name | .tagItem name => IsSegment name
  | _ => True

/-- Cutting the ending off adds no character. -/
theorem mem_withoutExtension {c : Char} (member : c ∈ withoutExtension name) : c ∈ name := by
  rcases Text.dropEnding_cases name ".md" with cut | same
  · rw [← cut]
    exact List.mem_append_left _ member
  · rwa [withoutExtension, same] at member

/-- A character that the extension does not have is not cut off with it. -/
theorem mem_withoutExtension_iff {c : Char} (other : c ∉ ".md".toList) :
    c ∈ withoutExtension name ↔ c ∈ name := by
  refine ⟨mem_withoutExtension, fun member => ?_⟩
  rcases Text.dropEnding_cases name ".md" with cut | same
  · rw [← cut] at member
    exact (List.mem_append.mp member).resolve_right other
  · rwa [withoutExtension, same]

private theorem below_read (below : Below first rest page)
    (proper : ∀ segment ∈ rest, IsSegment segment) : page.Read := by
  cases below with
  | archives | search | posts | series | tags => trivial
  | post name => exact fun slash => (proper name (.head _)).whole (mem_withoutExtension slash)
  | seriesItem name | tagItem name => exact proper name (.head _)

/-- A page that a directory is read as is one that can be read. -/
theorem ofDirectory_read (found : ofDirectory? dir = some page) : page.Read := by
  rcases ofDirectory_cases found with ⟨_, rfl⟩ | ⟨first, rest, split, below⟩
  · trivial
  · refine below_read below fun segment member => ?_
    have listed : segment ∈ first :: rest := .tail _ member
    rw [← split] at listed
    exact mem_segments listed

/-- The names that a page can be read with and that lead back to it. -/
def Proper : Page → Prop
  | .post slug => IsSegment slug ∧ withoutExtension slug = slug
  | .seriesItem name | .tagItem name => IsSegment name
  | _ => True

/-- The prompt path of a page is a prompt path already. -/
theorem prompt_promptPath (page : Page) : Path.prompt page.promptPath = page.promptPath :=
  prompt_prompt page.directory

/-- The directory at the prompt path of a page is the directory of the page, cut into segments. -/
theorem directory_promptPath (page : Page) :
    Path.directory page.promptPath = join (segments page.directory) := by
  rw [promptPath, directory_prompt]
  cases page <;> rfl

/-- The name of a directory, a slash and a segment are written as they are. -/
theorem join_entry (holds : Holds first) (segment : IsSegment name) :
    join (segments (first ++ '/' :: name)) = first ++ '/' :: name := by
  rw [segments_entry holds, segments_of_segment segment, join, List.intercalate_cons_cons,
    List.intercalate_singleton, List.append_assoc, List.singleton_append]

/-- A name without a dot has no ending. -/
theorem withoutExtension_self (dot : '.' ∉ name) : withoutExtension name = name := by
  rcases Text.dropEnding_cases name ".md" with cut | same
  · exact absurd (cut ▸ List.mem_append_right _ (by decide)) dot
  · exact same

/-- A page is found again at its directory. -/
theorem ofDirectory_directory (proper : page.Proper) : ofDirectory? page.directory = some page := by
  cases page with
  | root | archives | search | posts | series | tags => decide
  | post slug =>
    obtain ⟨segment, whole⟩ := proper
    have found := ofDirectory_entry .posts slug
    rw [segments_of_segment segment] at found
    exact found.trans (congrArg (fun name => some (post name)) whole)
  | seriesItem name =>
    have found := ofDirectory_entry .series name
    rw [segments_of_segment proper] at found
    exact found
  | tagItem name =>
    have found := ofDirectory_entry .tags name
    rw [segments_of_segment proper] at found
    exact found

private theorem ofDirectory_joined (holds : Holds first) (name : Text) :
    ofDirectory? (join (segments (first ++ '/' :: name))) =
      ofDirectory? (first ++ '/' :: name) := by
  have split : segments (join (segments (first ++ '/' :: name))) = first :: segments name := by
    rw [segments_join fun _ => mem_segments, segments_entry holds]
  have tilde : (join (segments (first ++ '/' :: name))).dropWhile (· == '~') =
      join (segments (first ++ '/' :: name)) := by
    rw [segments_entry holds]
    generalize segments name = parts
    cases holds <;> cases parts <;> rfl
  rw [ofDirectory_split tilde split, holds.lower, ofDirectory_entry holds]

/-- The prompt path of a page leads where its directory leads. -/
theorem ofDirectory_prompt (page : Page) :
    ofDirectory? (Path.directory page.promptPath) = ofDirectory? page.directory := by
  rw [directory_promptPath]
  cases page with
  | root | archives | search | posts | series | tags => decide
  | post slug => exact ofDirectory_joined .posts slug
  | seriesItem name => exact ofDirectory_joined .series name
  | tagItem name => exact ofDirectory_joined .tags name

/-- A page is found again from its prompt path. -/
theorem ofDirectory_promptPath (proper : page.Proper) :
    ofDirectory? (Path.directory page.promptPath) = some page := by
  rw [ofDirectory_prompt, ofDirectory_directory proper]

/-! ## URLs -/

/-- A query or a fragment behind the name of a page cuts the name short. -/
theorem ofUrl_entry (holds : Holds first) (name : Text) :
    ofUrl? ('/' :: (first ++ '/' :: name)) =
      below? first (segments (name.takeWhile fun c => c != '?' && c != '#')) := by
  rw [← ofDirectory_slash holds, ofUrl?]
  cases holds <;> rfl

/-- Nothing is cut off a name that holds neither a query nor a fragment. -/
theorem takeWhile_whole (query : '?' ∉ name) (fragment : '#' ∉ name) :
    (name.takeWhile fun c => c != '?' && c != '#') = name := by
  refine List.takeWhile_eq_self_iff.mpr fun c member => ?_
  have other : c ≠ '?' ∧ c ≠ '#' :=
    ⟨fun same => query (same ▸ member), fun same => fragment (same ▸ member)⟩
  simpa using other

end Page

/-! ## Reading back what a page is written as

Reading back what a page is written as. A page has three written forms, its directory, its prompt
path and its URL, and all three lead back to it unless it is the page of a post whose name is empty
or ends like a file name; a URL also cuts a name short at a query or a fragment.
-/

namespace Page

open BlogTerminal.Path

variable {dir first name slug url : Text} {rest : List Text} {page : Page}

/-- The name of the post, series or tag that the page shows. -/
def item? : Page → Option Text
  | post name | seriesItem name | tagItem name => some name
  | _ => none

/-- The page is not that of a post whose name is empty or ends like a file name. -/
def Lasting (page : Page) : Prop :=
  ∀ slug, page = post slug → slug ≠ [] ∧ ¬ ".md".toList <:+ slug

/-- The page has no name in which a query or a fragment begins. -/
def Unqueried (page : Page) : Prop := ∀ name, page.item? = some name → '?' ∉ name ∧ '#' ∉ name

/-! ### The directory -/

private theorem lasting_of_unnamed (unnamed : ∀ slug, page ≠ post slug) : page.Lasting :=
  fun slug same => absurd same (unnamed slug)

private theorem proper_iff_lasting (read : page.Read) : page.Proper ↔ page.Lasting := by
  cases page with
  | root | archives | search | posts | series | tags =>
    exact iff_of_true trivial (lasting_of_unnamed fun slug same => by cases same)
  | seriesItem name | tagItem name =>
    exact iff_of_true read (lasting_of_unnamed fun slug same => by cases same)
  | post slug =>
    have kept : withoutExtension slug = slug ↔ ¬ ".md".toList <:+ slug :=
      Text.dropEnding_eq_self (by decide)
    constructor
    · rintro ⟨segment, whole⟩ other same
      cases same
      exact ⟨segment.given, kept.mp whole⟩
    · intro lasting
      obtain ⟨given, ending⟩ := lasting slug rfl
      exact ⟨⟨given, read⟩, kept.mpr ending⟩

private theorem post_proper (whole : '/' ∉ slug)
    (back : ofDirectory? (post slug).directory = some (post slug)) : (post slug).Proper := by
  have found : ofDirectory? (post slug).directory = below? "posts" (segments slug) :=
    ofDirectory_entry .posts slug
  rw [back, segments_whole whole] at found
  by_cases empty : slug = []
  · rw [if_pos empty] at found
    cases found
  · rw [if_neg empty] at found
    have entry : below? "posts" [slug] = some (post (withoutExtension slug)) := rfl
    rw [entry, Option.some.injEq, post.injEq] at found
    exact ⟨⟨empty, whole⟩, found.symm⟩

/-- The directory of a page leads back to it only when the page lasts. -/
theorem ofDirectory_directory_iff (read : page.Read) :
    ofDirectory? page.directory = some page ↔ page.Lasting := by
  rw [← proper_iff_lasting read]
  refine ⟨fun back => ?_, ofDirectory_directory⟩
  cases page with
  | root | archives | search | posts | series | tags => trivial
  | post slug => exact post_proper read back
  | seriesItem name | tagItem name => exact read

/-! ### The URL -/

private theorem below_item (below : Below first rest page) (named : page.item? = some name)
    {c : Char} (member : c ∈ name) : ∃ segment ∈ rest, c ∈ segment := by
  cases below with
  | archives | search | posts | series | tags => cases named
  | post segment =>
    cases named
    exact ⟨segment, .head _, mem_withoutExtension member⟩
  | seriesItem _ | tagItem _ =>
    cases named
    exact ⟨name, .head _, member⟩

/-- The name of a page stands in the directory that the page is read from. -/
theorem ofDirectory_item (found : ofDirectory? dir = some page) (named : page.item? = some name)
    {c : Char} (member : c ∈ name) : c ∈ dir := by
  rcases ofDirectory_cases found with ⟨_, rfl⟩ | ⟨first, rest, split, below⟩
  · cases named
  · obtain ⟨segment, listed, inside⟩ := below_item below named member
    have part : segment ∈ segments (dir.dropWhile (· == '~')) := by
      rw [split]
      exact .tail _ listed
    exact List.dropWhile_subset _ ((Text.mem_pieces part).2 c inside).2

/-- No page that is read from a URL has a query or a fragment in its name. -/
theorem ofUrl_unqueried (found : ofUrl? url = some page) : page.Unqueried := by
  intro name named
  have clean {c : Char} (member : c ∈ name) : c ≠ '?' ∧ c ≠ '#' := by
    have kept := List.mem_takeWhile_imp (ofDirectory_item found named member)
    simpa using kept
  exact ⟨fun query => (clean query).1 rfl, fun fragment => (clean fragment).2 rfl⟩

/-- Without a query or a fragment, the URL of a page leads where its directory leads. -/
theorem url_directory (unqueried : page.Unqueried) :
    ofUrl? page.url = ofDirectory? page.directory := by
  have entry {first name : Text} (holds : Holds first) (plain : '?' ∉ name ∧ '#' ∉ name) :
      ofUrl? ('/' :: (first ++ '/' :: name)) = ofDirectory? (first ++ '/' :: name) := by
    rw [ofUrl_entry holds, takeWhile_whole plain.1 plain.2, ofDirectory_entry holds]
  cases page with
  | root | archives | search | posts | series | tags => decide
  | post slug => exact entry .posts (unqueried slug rfl)
  | seriesItem name => exact entry .series (unqueried name rfl)
  | tagItem name => exact entry .tags (unqueried name rfl)

/-- A page that is read from some directory is found again at its own directory and from its prompt
path exactly when it is not the page of a post with an empty name or with the ending of a file
name, and at its URL exactly when also no query or fragment begins in its name. -/
theorem written_read (found : ofDirectory? dir = some page) :
    (ofDirectory? page.directory = some page ↔ page.Lasting) ∧
      (ofDirectory? (Path.directory page.promptPath) = some page ↔ page.Lasting) ∧
      (ofUrl? page.url = some page ↔ page.Lasting ∧ page.Unqueried) := by
  have lasts := ofDirectory_directory_iff (ofDirectory_read found)
  refine ⟨lasts, ?_, ?_⟩
  · rw [ofDirectory_prompt, lasts]
  · constructor
    · intro back
      have unqueried := ofUrl_unqueried back
      rw [url_directory unqueried] at back
      exact ⟨lasts.mp back, unqueried⟩
    · rintro ⟨lasting, unqueried⟩
      rw [url_directory unqueried]
      exact lasts.mpr lasting

/-- A tag that is read in spite of capitals, tildes and slashes around it, and has no usable URL. -/
theorem written_read_fragment :
    ofDirectory? "~TAGS//~c#/" = some (.tagItem "~c#") ∧
      (tagItem "~c#").Lasting ∧ ¬ (tagItem "~c#").Unqueried ∧
      ofDirectory? (Path.directory (tagItem "~c#").promptPath) = some (.tagItem "~c#") ∧
      ofUrl? (tagItem "~c#").url ≠ some (.tagItem "~c#") := by
  have lasting : (tagItem "~c#").Lasting := lasting_of_unnamed fun slug same => by cases same
  have queried : ¬ (tagItem "~c#").Unqueried := fun plain => (plain _ rfl).2 (by decide)
  have found : ofDirectory? "~TAGS//~c#/" = some (.tagItem "~c#") := by decide
  obtain ⟨_, prompted, linked⟩ := written_read found
  exact ⟨found, lasting, queried, prompted.mpr lasting, fun back => queried (linked.mp back).2⟩

end Page

end BlogTerminal
