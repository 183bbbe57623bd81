import BlogTerminal.Command.Builtin
import BlogTerminal.Proofs.Command.Directories
import BlogTerminal.Proofs.Markup.Links
import BlogTerminal.Proofs.Outline

/-!
The links of listings and of trees. Both show the entries of a directory in the same order, so a
tree leads to the same pages as the listing, but for the posts that it shows below each series.
-/

namespace BlogTerminal

open Markup

/-- An error has no links. -/
theorem failure_urls (message : Text) : urls (Result.failure message).body = [] := by
  rw [Result.failure, Result.failed, urls_cons, errorLine_urls]
  rfl

/-! ## Listings -/

namespace Listing

private theorem table_urls (head entries : List Node) :
    urls (table head entries) = urls head ++ urls entries := by
  simp [table]

-- Class names and texts stay literals below: spelling them out is slow and no link depends on them.
private theorem total_urls (count : Nat) (unit : Text) : (total count unit).urls = [] := by
  simp [total, -String.reduceToList]

@[simp] theorem permissions_urls (content : Text) : (permissions content).urls = [] := span_urls

private theorem file_urls (detailed : Bool) (post : Post) :
    (file detailed post).urls = [post.url] := by
  cases detailed <;> simp [file, -String.reduceToList]

private theorem root_urls (posts : List Post) (detailed : Bool) :
    urls (root posts detailed) = [] := by
  cases detailed <;> simp [root, table_urls, total_urls, -String.reduceToList]

theorem files_urls (shown : List Post) (detailed : Bool) :
    urls (files shown detailed) = shown.map Post.url := by
  rw [files, table_urls, urls_entries (file_urls detailed), urls_cons, total_urls]
  rfl

private theorem archives_urls (posts : List Post) (detailed : Bool) :
    urls (archives posts detailed) =
      (Post.byYear posts).flatMap fun (_, bucket) => bucket.map Post.url := by
  have bucketUrls (bucket : List Post) : urls (bucket.map (file detailed)) =
      bucket.map Post.url := urls_entries (file_urls detailed) bucket
  rw [archives, table_urls, urls_flatMap, urls_cons, total_urls]
  simp [bucketUrls, -String.reduceToList]

private theorem search_urls (detailed : Bool) : urls (search detailed) = [] := by
  cases detailed <;> simp [search, -String.reduceToList]

private theorem seriesEntry_urls (posts : List Post) (detailed : Bool) (name : Text) :
    (seriesEntry posts detailed name).urls = [(Page.seriesItem (slugOf name)).url] := by
  cases detailed <;> simp [seriesEntry, -String.reduceToList]

private theorem series_urls (posts : List Post) (detailed : Bool) : urls (series posts detailed) =
    (Post.seriesNames posts).map fun name => (Page.seriesItem (slugOf name)).url := by
  rw [series, table_urls, urls_entries (seriesEntry_urls posts detailed), urls_cons, total_urls]
  rfl

private theorem tagEntry_urls (detailed : Bool) (tag : Text) (count : Nat) :
    (tagEntry detailed tag count).urls = [(Page.tagItem (slugOf tag)).url] := by
  cases detailed <;> simp [tagEntry, -String.reduceToList]

theorem tags_urls (posts : List Post) (detailed : Bool) : urls (tags posts detailed) =
    (Post.tagsByCount posts).map fun (tag, _) => (Page.tagItem (slugOf tag)).url := by
  have entryUrls (item : Text × Nat) : (tagEntry detailed item.1 item.2).urls =
      [(Page.tagItem (slugOf item.1)).url] := tagEntry_urls detailed item.1 item.2
  rw [tags, table_urls, urls_cons, total_urls]
  exact urls_entries entryUrls _

private theorem notFound_urls (typed : Text) : urls (notFound typed).body = [] := failure_urls _

end Listing

/-! ## Trees -/

namespace TreeView

/-- The links of a tree are those of its labels. -/
theorem display_urls (root summary : Text) (entries : List Entry) :
    urls (display root entries summary) = (Outline.forestLabels entries).flatMap urls := by
  have lines : urls ((Outline.forestLines [] entries).map line) =
      (Outline.forestLabels entries).flatMap urls := by
    rw [← Outline.forestLines_labels [], List.flatMap_map, urls_map]
    simp [line, -String.reduceToList]
  simp [display, lines, -String.reduceToList]

private theorem files_labels (shown : List Post) :
    (Outline.forestLabels (shown.map file)).flatMap urls = shown.map Post.url := by
  rw [Outline.forestLabels_map, List.flatMap_assoc, List.map_eq_flatMap]
  simp [file, Outline.labels_leaf, -String.reduceToList]

theorem files_urls (root : Text) (shown : List Post) :
    urls (files root shown) = shown.map Post.url := by
  rw [files, display_urls, files_labels]

private theorem root_urls (posts : List Post) : urls (root posts) = [] := by
  rw [root, display_urls]
  simp [directory, Outline.forestLabels, Outline.labels_leaf, -String.reduceToList]

private theorem search_urls : urls search = [] := by
  rw [search, display_urls]
  simp [Outline.forestLabels, Outline.labels_leaf, -String.reduceToList]

private theorem archives_urls (posts : List Post) : urls (archives posts) =
    (Post.byYear posts).flatMap fun (_, bucket) => bucket.map Post.url := by
  rw [archives, display_urls, Outline.forestLabels_map, List.flatMap_assoc]
  simp [yearEntry, Outline.labels, files_labels, -String.reduceToList]

theorem tags_urls (posts : List Post) : urls (tags posts) =
    (Post.tagsByCount posts).map fun (tag, _) => (Page.tagItem (slugOf tag)).url := by
  rw [tags, display_urls, Outline.forestLabels_map, List.flatMap_assoc, List.map_eq_flatMap]
  simp [tagEntry, Outline.labels_leaf, -String.reduceToList]

/-- Below the link of each series are those of its posts. -/
theorem series_urls (posts : List Post) : urls (series posts) =
    (Post.bySeries posts).flatMap fun (name, members) =>
      (Page.seriesItem (slugOf name)).url ::
        (Post.inOrder .oldestFirst members).map Post.url := by
  rw [series, display_urls, Outline.forestLabels_map, List.flatMap_assoc]
  simp [seriesEntry, Outline.labels, files_labels, -String.reduceToList]

private theorem notFound_urls (typed : Text) : urls (notFound typed).body = [] := failure_urls _

end TreeView

/-! ## Agreement -/

/-- The URL lies in the directory of posts. -/
def isPostUrl (url : Text) : Bool := "/posts/".toList <+: url

private theorem isPostUrl_post (post : Post) : isPostUrl post.url = true :=
  decide_eq_true (List.prefix_append _ _)

private theorem isPostUrl_series (name : Text) : isPostUrl (Page.seriesItem name).url = false := rfl

/-- Without the posts below them, the tree has the series of the listing. -/
theorem series_urls_kept (posts : List Post) (detailed : Bool) :
    (urls (TreeView.series posts)).filter (!isPostUrl ·) =
      urls (Listing.series posts detailed) := by
  have dropped (members : List Post) : (members.map Post.url).filter (!isPostUrl ·) = [] := by
    simp [isPostUrl_post]
  have kept (name : Text) (members : List Post) :
      ((Page.seriesItem name).url :: members.map Post.url).filter (!isPostUrl ·) =
        [(Page.seriesItem name).url] := by
    rw [List.filter_cons_of_pos (by simp [isPostUrl_series]), dropped]
  rw [TreeView.series_urls, Listing.series_urls, List.filter_flatMap, Post.bySeries,
    List.flatMap_map, List.map_eq_flatMap]
  simp only [kept]

/-- A tree leads to the same pages as the listing of the directory, in the same order. -/
theorem answer_urls (posts : List Post) (detailed : Bool) (typed dir : Text) :
    urls (Listing.answer posts detailed typed dir).body =
      if Page.ofDirectory? dir = some .series then
        (urls (TreeView.answer posts typed dir).body).filter (!isPostUrl ·)
      else urls (TreeView.answer posts typed dir).body := by
  unfold Listing.answer TreeView.answer
  cases Page.ofDirectory? dir with
  | none =>
    rw [if_neg nofun]
    cases Post.findSeries? posts dir with
    | none => simp only [Listing.notFound_urls, TreeView.notFound_urls]
    | some series => simp only [Listing.files_urls, TreeView.seriesPosts, TreeView.files_urls]
  | some page =>
    cases page with
    | root => simp [Listing.root_urls, TreeView.root_urls]
    | archives => simp [Listing.archives_urls, TreeView.archives_urls]
    | search => simp [Listing.search_urls, TreeView.search_urls]
    | posts => simp [Listing.files_urls, TreeView.files_urls, -String.reduceToList]
    | series => simp [series_urls_kept posts detailed]
    | tags => simp [Listing.tags_urls, TreeView.tags_urls]
    | post slug =>
      rw [if_neg nofun]
      cases found : Post.find? posts slug with
      | none => simp only [found, Listing.notFound_urls, TreeView.notFound_urls]
      | some post => simp only [found, Listing.files_urls, TreeView.files_urls]
    | seriesItem name =>
      rw [if_neg nofun]
      cases found : Post.findSeries? posts name with
      | none => simp only [found, Listing.notFound_urls, TreeView.notFound_urls]
      | some series => simp only [found, Listing.files_urls, TreeView.seriesPosts,
          TreeView.files_urls]
    | tagItem name =>
      rw [if_neg nofun]
      cases found : Post.findTag? posts name with
      | none => simp only [found, Listing.notFound_urls, TreeView.notFound_urls]
      | some tag => simp only [found, Listing.files_urls, TreeView.files_urls]

/-- Listing a path and showing it as a tree fail together, and otherwise their links lead to the
same pages in the same order; only the tree of the series directory has the posts of each series as
well. -/
theorem tree_links_listing {α : Type} (context : Context α)
    (arguments flags switches : List Text) :
    let listing := Builtin.ls.execute (context.withCall ⟨"ls", arguments, flags⟩)
    let tree := Builtin.tree.execute (context.withCall ⟨"tree", arguments, switches⟩)
    let dir := Path.resolve (arguments.head?.getD ".") context.path
    tree.error = listing.error ∧
      links (render listing.body) =
        if Page.ofDirectory? dir = some .series then
          (links (render tree.body)).filter fun url => !("/posts/".toList <+: url)
        else links (render tree.body) := by
  intro listing tree dir
  refine ⟨tree_error_listing _, ?_⟩
  rw [links_render, links_render]
  exact answer_urls context.posts _ _ dir

end BlogTerminal
