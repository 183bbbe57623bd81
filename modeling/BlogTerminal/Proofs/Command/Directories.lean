import BlogTerminal.Command.Html
import BlogTerminal.Proofs.Path.Page
import BlogTerminal.Proofs.Post.Slug

/-!
Which directories the commands accept. Listing a directory and showing it as a tree succeed for the
same ones: the pages of the blog that hold something, and the bare slugs of series. Going to a
directory succeeds for these too, but a post is gone to by its slug.
-/

namespace BlogTerminal

/-- The collection has something for the page to show. -/
def Page.Held (posts : List Post) : Page → Prop
  | .post slug => ∃ post ∈ posts, post.slug.lower = slug.lower
  | .seriesItem name => ∃ post ∈ posts, post.seriesSlug = some (slugOf name)
  | .tagItem name => ∃ post ∈ posts, post.hasTag name = true
  | _ => True

/-- The directory is a page that holds something or, outside the blog's tree, stands for a
series. -/
def Listed (posts : List Post) (dir : Text) : Prop :=
  match Page.ofDirectory? dir with
  | some page => page.Held posts
  | none => ∃ post ∈ posts, post.seriesSlug = some (slugOf dir)

variable {posts : List Post} {typed dir path name : Text} {page : Page}

/-- The directory of a page is listed when the page holds something. -/
theorem listed_page (found : Page.ofDirectory? dir = some page) :
    Listed posts dir ↔ page.Held posts := by
  rw [Listed, found]

/-- Outside the blog's tree a directory is listed when it stands for a series. -/
theorem listed_bare (outside : Page.ofDirectory? dir = none) :
    Listed posts dir ↔ ∃ post ∈ posts, post.seriesSlug = some (slugOf dir) := by
  rw [Listed, outside]

/-- The page of a series that some post carries holds something. -/
theorem series_held {post : Post} {slug : Text} (member : post ∈ posts)
    (held : post.seriesSlug = some slug) : (Page.seriesItem slug).Held posts := by
  obtain ⟨name, _, rfl⟩ := Option.map_eq_some_iff.mp held
  exact ⟨post, member, by rw [slugOf_slugOf, held]⟩

/-- The page of a tag that some post carries holds something. -/
theorem tag_held {post : Post} {tag : Text} (member : post ∈ posts) (held : tag ∈ post.tags) :
    (Page.tagItem (slugOf tag)).Held posts :=
  ⟨post, member, List.any_eq_true.mpr ⟨tag, held, by simp [slugOf_slugOf]⟩⟩

/-- The pages without a name of their own are never missing. -/
theorem fixed_held (posts : List Post)
    (fixed : page ∈ [Page.root, .archives, .search, .posts, .series, .tags]) :
    page.Proper ∧ page.Held posts ∧ ∀ slug, page ≠ .post slug := by
  simp only [List.mem_cons, List.not_mem_nil, or_false] at fixed
  rcases fixed with rfl | rfl | rfl | rfl | rfl | rfl <;>
    exact ⟨trivial, trivial, fun slug same => by cases same⟩

private theorem topLevel_page : ∀ name ∈ Page.topLevel,
    ∃ page ∈ [Page.root, .archives, .search, .posts, .series, .tags],
      Page.ofDirectory? name = some page := by
  decide

/-- The directories at the top are always listed, and none of them is the page of a post. -/
theorem topLevel_listed (posts : List Post) (listed : name ∈ Page.topLevel) :
    Listed posts name ∧ ∀ slug, Page.ofDirectory? name ≠ some (.post slug) := by
  obtain ⟨page, fixed, found⟩ := topLevel_page name listed
  obtain ⟨_, held, file⟩ := fixed_held posts fixed
  refine ⟨(listed_page found).mpr held, fun slug same => ?_⟩
  exact file slug (Option.some.inj (found.symm.trans same))

/-! ## Listings and trees -/

/-- How a directory is answered: with an error when there is nothing to show, and otherwise with an
output that does not depend on what was typed. -/
inductive Answered (posts : List Post) (dir : Text) (answer : Text → Result) : Prop where
  | missing (unlisted : ¬ Listed posts dir)
      (fails : ∀ typed, ∃ body, answer typed = .failed body)
  | shown (listed : Listed posts dir) (body : List Markup.Node)
      (shows : ∀ typed, answer typed = { body })

/-- There is something to show exactly for the directories that are listed. -/
theorem sight_listed : (Sight.ofDirectory? posts dir).isSome = true ↔ Listed posts dir := by
  unfold Sight.ofDirectory?
  cases place : Page.ofDirectory? dir with
  | none =>
    dsimp only
    rw [Option.isSome_map, Post.findSeries_isSome, listed_bare place]
  | some page =>
    rw [listed_page place]
    cases page with
    | root | archives | search | posts | series | tags => exact iff_of_true rfl trivial
    | post slug =>
      dsimp only
      rw [Option.isSome_map, Post.find_isSome, Page.Held]
    | seriesItem name =>
      dsimp only
      rw [Option.isSome_map, Post.findSeries_isSome, Page.Held]
    | tagItem name =>
      dsimp only
      rw [Option.isSome_map, Post.findTag_isSome, Page.Held]

/-- The posts that a directory shows as its files. -/
def Sight.files (posts : List Post) : Sight → List Post
  | .posts => Post.inOrder .newestFirst posts
  | .file post => [post]
  | .ofSeries name => Post.ofSeries posts name
  | .withTag name => Post.withTag posts name
  | _ => []

/-- A directory that is the page of a post has a post of the collection. -/
private theorem sight_post {post : Post}
    (found : Sight.ofDirectory? posts dir = some (.file post)) :
    post ∈ posts := by
  unfold Sight.ofDirectory? at found
  split at found
  case h_7 slug place =>
    obtain ⟨member, looked, same⟩ := Option.map_eq_some_iff.mp found
    cases same
    exact Post.find_member looked
  all_goals simp at found

/-- The files of a directory are posts of the collection. -/
theorem Sight.files_member {shown : Sight} (found : Sight.ofDirectory? posts dir = some shown) :
    ∀ post ∈ shown.files posts, post ∈ posts := by
  cases shown with
  | root | archives | search | series | tags => exact fun _ member => absurd member List.not_mem_nil
  | posts =>
    exact fun post (member : post ∈ Post.inOrder .newestFirst posts) => Post.mem_inOrder.mp member
  | file post => exact List.forall_mem_singleton.mpr (sight_post found)
  | ofSeries name => exact fun _ member => (Post.mem_ofSeries.mp member).1
  | withTag name => exact fun _ member => (Post.mem_withTag.mp member).1

/-- The answer shows what there is to show, and else it is that for a path that does not exist. -/
def Sight.answer (shows : Sight → List Markup.Node) (missing : Result) (sight : Option Sight) :
    Result :=
  match sight with
  | some sight => { body := shows sight }
  | none => missing

/-- The listing of what a directory shows. -/
def Listing.sight (posts : List Post) (detailed : Bool) : Sight → List Markup.Node
  | .root => root posts detailed
  | .posts => files (Post.inOrder .newestFirst posts) detailed
  | .archives => archives posts detailed
  | .search => search detailed
  | .series => series posts detailed
  | .tags => tags posts detailed
  | .file post => files [post] detailed
  | .ofSeries name => files (Post.ofSeries posts name) detailed
  | .withTag name => files (Post.withTag posts name) detailed

/-- The tree of what a directory shows. -/
def TreeView.sight (posts : List Post) : Sight → List Markup.Node
  | .root => root posts
  | .posts => files "posts/" (Post.inOrder .newestFirst posts)
  | .archives => archives posts
  | .search => search
  | .series => series posts
  | .tags => tags posts
  | .file post => files "posts/" [post]
  | .ofSeries name => seriesPosts posts name
  | .withTag name => files ("#" ++ name ++ "/") (Post.withTag posts name)

/-- A listing is the listing of what there is to show for the directory. -/
theorem Listing.answer_sight (posts : List Post) (detailed : Bool) (typed dir : Text) :
    answer posts detailed typed dir = Sight.answer (sight posts detailed)
      (notFound (missing typed dir)) (Sight.ofDirectory? posts dir) := by
  unfold answer Sight.ofDirectory? missing
  cases Page.ofDirectory? dir with
  | none => cases Post.findSeries? posts dir <;> rfl
  | some page =>
    cases page with
    | root | archives | search | posts | series | tags => rfl
    | post slug => dsimp only; cases Post.find? posts slug <;> rfl
    | seriesItem name => dsimp only; cases Post.findSeries? posts name <;> rfl
    | tagItem name => dsimp only; cases Post.findTag? posts name <;> rfl

/-- A tree is the tree of what there is to show for the directory. -/
theorem TreeView.answer_sight (posts : List Post) (typed dir : Text) :
    answer posts typed dir =
      Sight.answer (sight posts) (notFound typed) (Sight.ofDirectory? posts dir) := by
  unfold answer Sight.ofDirectory?
  cases Page.ofDirectory? dir with
  | none => cases Post.findSeries? posts dir <;> rfl
  | some page =>
    cases page with
    | root | archives | search | posts | series | tags => rfl
    | post slug => dsimp only; cases Post.find? posts slug <;> rfl
    | seriesItem name => dsimp only; cases Post.findSeries? posts name <;> rfl
    | tagItem name => dsimp only; cases Post.findTag? posts name <;> rfl

/-- A command that shows what there is to show, and fails otherwise, answers the directory. -/
theorem sight_answered (shows : Sight → List Markup.Node) {missing : Text → Result}
    (fails : ∀ typed, ∃ body, missing typed = .failed body) :
    Answered posts dir fun typed =>
      Sight.answer shows (missing typed) (Sight.ofDirectory? posts dir) := by
  cases found : Sight.ofDirectory? posts dir with
  | none =>
    refine .missing (fun listed => ?_) fails
    rw [← sight_listed, found] at listed
    cases listed
  | some sight => exact .shown (sight_listed.mp (by rw [found]; rfl)) _ fun _ => rfl

/-- Listing answers the directory. -/
theorem listing_answered (posts : List Post) (detailed : Bool) (dir : Text) :
    Answered posts dir fun typed => Listing.answer posts detailed typed dir := by
  simp only [Listing.answer_sight]
  exact sight_answered _ fun typed => ⟨_, rfl⟩

/-- Showing the tree answers the directory. -/
theorem tree_answered (posts : List Post) (dir : Text) :
    Answered posts dir fun typed => TreeView.answer posts typed dir := by
  simp only [TreeView.answer_sight]
  exact sight_answered _ fun typed => ⟨_, rfl⟩

/-- There is an answer without an error exactly for the directories that are listed. -/
theorem Answered.error {answer : Text → Result} (answered : Answered posts dir answer)
    (typed : Text) : (answer typed).error = false ↔ Listed posts dir := by
  cases answered with
  | missing unlisted fails =>
    obtain ⟨body, failed⟩ := fails typed
    rw [failed]
    exact iff_of_false (fun shown => by cases shown) unlisted
  | shown listed body shows =>
    rw [shows]
    exact iff_of_true rfl listed

/-- What is typed for a directory makes a difference to errors alone. -/
theorem Answered.alike {answer : Text → Result} (answered : Answered posts dir answer)
    (typed other : Text) : (answer typed).error = (answer other).error ∧
      ((answer typed).error = false → answer typed = answer other) := by
  cases answered with
  | missing unlisted fails =>
    obtain ⟨body, failed⟩ := fails typed
    obtain ⟨otherBody, otherFailed⟩ := fails other
    rw [failed, otherFailed]
    exact ⟨rfl, fun shown => by cases shown⟩
  | shown listed body shows =>
    rw [shows, shows]
    exact ⟨rfl, fun _ => rfl⟩

/-- A listing fails exactly for the directories that are not listed. -/
theorem listing_error (detailed : Bool) :
    (Listing.answer posts detailed typed dir).error = false ↔ Listed posts dir :=
  (listing_answered posts detailed dir).error typed

/-- A tree fails exactly for the directories that are not listed. -/
theorem tree_error : (TreeView.answer posts typed dir).error = false ↔ Listed posts dir :=
  (tree_answered posts dir).error typed

/-- A directory has a tree exactly when it has a listing. -/
theorem tree_error_listing (detailed : Bool) : (TreeView.answer posts typed dir).error =
    (Listing.answer posts detailed typed dir).error := by
  have same : (TreeView.answer posts typed dir).error = false ↔
      (Listing.answer posts detailed typed dir).error = false :=
    tree_error.trans (listing_error detailed).symm
  rwa [← Bool.not_eq_true, ← Bool.not_eq_true, not_iff_not, ← Bool.eq_iff_iff] at same

/-! ## Going to a directory -/

namespace Navigation

variable {url : Text}

@[simp] theorem notFound_error (typed : Text) : (notFound typed).error = true := rfl

/-- The URLs that the command leads to. -/
inductive Leads (posts : List Post) (path : Text) : Text → Prop where
  | home : Leads posts path "/"
  | up {url : Text} (left : (toParent path).navigate = some url) : Leads posts path url
  | post {post : Post} (member : post ∈ posts) : Leads posts path post.url
  | series {post : Post} {slug : Text} (member : post ∈ posts)
      (held : post.seriesSlug = some slug) : Leads posts path (Page.seriesItem slug).url
  | tag {post : Post} {tag : Text} (member : post ∈ posts) (held : tag ∈ post.tags) :
      Leads posts path (Page.tagItem (slugOf tag)).url
  | directory {page : Page} (top : page ∈ [Page.archives, .search, .posts, .series, .tags]) :
      Leads posts path page.url

private theorem series_leads
    (left : (((Post.findSeries? posts name).map toSeries).getD (notFound typed)).navigate =
      some url) : Leads posts path url := by
  cases found : Post.findSeries? posts name with
  | none => simp [found, notFound, Result.failure, Result.failed] at left
  | some series =>
    obtain ⟨⟨post, member, held⟩, _⟩ := Post.findSeries_slug found
    simp only [found, Option.map_some, Option.getD_some, toSeries, goTo, Option.some.injEq] at left
    subst left
    exact .series member (congrArg (Option.map slugOf) held)

private theorem directory_leads (left : (toDirectory posts typed dir).navigate = some url) :
    Leads posts path url := by
  unfold toDirectory at left
  cases place : Page.ofDirectory? dir with
  | none =>
    rw [place] at left
    exact series_leads left
  | some page =>
    rw [place] at left
    cases page with
    | root =>
      cases left
      exact .home
    | archives | search | posts | series | tags =>
      cases left
      exact .directory (by simp)
    | post slug => cases left
    | seriesItem name => exact series_leads left
    | tagItem name =>
      cases found : Post.findTag? posts name with
      | none => simp [found, notFound, Result.failure, Result.failed] at left
      | some tag =>
        obtain ⟨⟨post, member, held⟩, _⟩ := Post.findTag_slug found
        simp only [found, goTo, Option.some.injEq] at left
        subst left
        exact .tag member held

/-- Going to a directory leads to one of the URLs of the collection. -/
theorem answer_leads (left : (answer posts typed path).navigate = some url) :
    Leads posts path url := by
  unfold answer at left
  extract_lets token dir at left
  by_cases home : token = "~" ∨ token = []
  · rw [if_pos home] at left
    cases left
    exact .home
  · rw [if_neg home] at left
    by_cases up : token = ".."
    · rw [if_pos up] at left
      exact .up left
    · rw [if_neg up] at left
      cases found : Post.find? posts (slugIn dir) with
      | none =>
        rw [found] at left
        exact directory_leads left
      | some post =>
        rw [found] at left
        cases left
        exact .post (Post.find_member found)

private theorem toDirectory_error : (toDirectory posts typed dir).error = false ↔
    Listed posts dir ∧ ∀ slug, Page.ofDirectory? dir ≠ some (.post slug) := by
  unfold toDirectory Listed
  cases Page.ofDirectory? dir with
  | none =>
    rw [← Post.findSeries_isSome]
    cases Post.findSeries? posts dir <;> simp [toSeries, goTo]
  | some page =>
    cases page with
    | root | archives | search | posts | series | tags =>
      exact iff_of_true rfl ⟨trivial, fun slug same => by cases same⟩
    | post slug => simp
    | seriesItem name =>
      simp only [Page.Held, ← Post.findSeries_isSome]
      cases found : Post.findSeries? posts name <;> simp [toSeries, goTo]
    | tagItem name =>
      simp only [Page.Held, ← Post.findTag_isSome]
      cases found : Post.findTag? posts name <;> simp [goTo]

/-- Going to the parent never fails. -/
theorem toParent_error (path : Text) : (toParent path).error = false := by
  unfold toParent
  extract_lets dir
  split
  · rfl
  · split <;> rfl

/-- Apart from the tokens for the root and for the parent, the command accepts the slugs of posts
and the directories with a listing, but no file of a post. -/
theorem answer_error {token : Text} (cut : typed.dropEndWhile (· == '/') = token)
    (given : token ≠ []) (home : token ≠ "~") (down : token ≠ "..")
    (resolved : Path.resolve token path = dir) :
    (answer posts typed path).error = false ↔
      (∃ post ∈ posts, post.slug.lower = (slugIn dir).lower) ∨
        Listed posts dir ∧ ∀ slug, Page.ofDirectory? dir ≠ some (.post slug) := by
  have goes : (toDirectory posts typed dir).error = false ↔
      Listed posts dir ∧ ∀ slug, Page.ofDirectory? dir ≠ some (.post slug) := toDirectory_error
  rw [← Post.find_isSome, ← goes]
  simp only [answer, cut, given, home, down, resolved, or_self, if_false]
  cases found : Post.find? posts (slugIn dir) <;> simp [goTo]

end Navigation

end BlogTerminal
