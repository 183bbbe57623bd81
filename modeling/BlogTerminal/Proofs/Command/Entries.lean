import BlogTerminal.Proofs.Command.Confinement
import BlogTerminal.Proofs.Command.Links
import BlogTerminal.Proofs.Post.Collection

/-!
The entries of the directories of posts, series and tags. An entry is a link that also carries a
command line, and both are made from one slug, so what is read back from the markup of a listing is
known from the slugs alone. A slug is free to end in the name of the attribute that carries the line
and an equals sign; the line of such an entry is not read back.
-/

namespace BlogTerminal

section

open Markup

variable {α : Type}

namespace Listing

/-- The directories whose entries are addressed by slugs. -/
inductive Shelf where
  | posts
  | series
  | tags

namespace Shelf

/-- The name of the directory. -/
def directory : Shelf → Text
  | posts => "posts"
  | series => "series"
  | tags => "tags"

/-- The command line for a slug. -/
def line : Shelf → Text → Text
  | posts, slug => "cat " ++ slug
  | series, slug => "ls series/" ++ slug
  | tags, slug => "ls tags/" ++ slug

/-- The URL for a slug. -/
def url (shelf : Shelf) (slug : Text) : Text := '/' :: (shelf.directory ++ '/' :: slug)

/-- The slugs of the entries, in the order of the listing. -/
def slugs (posts : List Post) : Shelf → List Text
  | .posts => (Post.inOrder .newestFirst posts).map (·.slug)
  | .series => (Post.seriesNames posts).map slugOf
  | .tags => (Post.tagsByCount posts).map fun (tag, _) => slugOf tag

/-- The names on a post that the directory makes the slugs of its entries from; the slug of a post
is its own. -/
def names (post : Post) : Shelf → List Text
  | .posts => []
  | .series => post.series.toList
  | .tags => post.tags

/-- What is read back from the entry of a slug. -/
def entry (shelf : Shelf) (slug : Text) : Clickable :=
  ⟨if Opens "data-cmd" false slug then " class=" else shelf.line slug, some (shelf.url slug)⟩

end Shelf

variable {shelf : Shelf} {classes slug content : Text}

/-- Every series and every tag of a post has an entry, and no other entries are there. -/
theorem mem_slugs {posts : List Post} (named : shelf ≠ .posts) :
    slug ∈ shelf.slugs posts ↔ ∃ post ∈ posts, ∃ name ∈ shelf.names post, slugOf name = slug := by
  cases shelf with
  | posts => exact absurd rfl named
  | series =>
    simp only [Shelf.slugs, Shelf.names, List.mem_map, Post.mem_seriesNames, Option.mem_toList]
    exact ⟨fun ⟨name, ⟨post, member, held⟩, same⟩ => ⟨post, member, name, held, same⟩,
      fun ⟨post, member, name, held, same⟩ => ⟨name, ⟨post, member, held⟩, same⟩⟩
  | tags =>
    have split : Shelf.tags.slugs posts = ((Post.tagsByCount posts).map Prod.fst).map slugOf := by
      rw [List.map_map]
      rfl
    simp only [split, Shelf.names, List.mem_map (f := slugOf), Post.mem_tagsByCount]
    exact ⟨fun ⟨name, ⟨post, member, held⟩, same⟩ => ⟨post, member, name, held, same⟩,
      fun ⟨post, member, name, held, same⟩ => ⟨name, ⟨post, member, held⟩, same⟩⟩

/-! ## Single entries -/

/-- Behind the directory in front of it, only the slug can open a value. -/
theorem opens_url (shelf : Shelf) (slug : Text) :
    Opens "data-cmd" false (shelf.url slug) ↔ Opens "data-cmd" false slug :=
  opens_past (by decide) ('/' :: shelf.directory)

private theorem entry_clicks (plain : '=' ∉ classes) :
    (commandLink (shelf.url slug) classes (shelf.line slug) content).gather Head.click? =
      [shelf.entry slug] := by
  have given : shelf.url slug ≠ [] := List.cons_ne_nil _ _
  rw [commandLink_clicks plain given, Shelf.entry]
  simp only [opens_url]

private theorem permissions_clicks : (permissions content).gather Head.click? = [] :=
  span_clicks (unsigned (by decide))

private theorem note_clicks :
    (note content).gather Head.click? = [] := span_clicks (unsigned (by decide))

private theorem file_clicks (detailed : Bool) (post : Post) :
    (file detailed post).gather Head.click? = [Shelf.posts.entry post.slug] := by
  have link {classes : Text} (plain : '=' ∉ classes) :
      (commandLink post.url classes ("cat " ++ post.slug) post.fileName).gather Head.click? =
        [Shelf.posts.entry post.slug] :=
    @entry_clicks .posts classes post.slug post.fileName plain
  cases detailed <;> simp (disch := exact unsigned (by decide)) only [file, Bool.false_eq_true,
    ↓reduceIte, div_clicks, gather_joinSpaced, gather_cons, gather_nil, permissions_clicks,
    span_clicks, link, List.nil_append, List.append_nil]

private theorem seriesEntry_clicks (posts : List Post) (detailed : Bool) (name : Text) :
    (seriesEntry posts detailed name).gather Head.click? = [Shelf.series.entry (slugOf name)] := by
  have link {classes : Text} (plain : '=' ∉ classes) (content : Text) :
      (commandLink (Page.seriesItem (slugOf name)).url classes ("ls series/" ++ slugOf name)
        content).gather Head.click? = [Shelf.series.entry (slugOf name)] :=
    @entry_clicks .series classes (slugOf name) content plain
  cases detailed <;> simp (disch := exact unsigned (by decide)) only [seriesEntry,
    Bool.false_eq_true, ↓reduceIte, div_clicks, row_clicks, gather_joinSpaced, gather_cons,
    gather_nil, permissions_clicks, note_clicks, link, List.nil_append, List.append_nil]

private theorem tagEntry_clicks (detailed : Bool) (tag : Text) (count : Nat) :
    (tagEntry detailed tag count).gather Head.click? = [Shelf.tags.entry (slugOf tag)] := by
  have link {classes : Text} (plain : '=' ∉ classes) (content : Text) :
      (commandLink (Page.tagItem (slugOf tag)).url classes ("ls tags/" ++ slugOf tag)
        content).gather Head.click? = [Shelf.tags.entry (slugOf tag)] :=
    @entry_clicks .tags classes (slugOf tag) content plain
  cases detailed <;> simp (disch := exact unsigned (by decide)) only [tagEntry, Bool.false_eq_true,
    ↓reduceIte, div_clicks, gather_joinSpaced, gather_cons, gather_nil, span_clicks, link,
    List.nil_append, List.append_nil]

/-! ## Listings -/

private theorem total_clicks (count : Nat) (unit : Text) :
    (total count unit).gather Head.click? = [] :=
  div_clicks (unsigned (by decide))

private theorem table_gather (head entries : List Node) : gather Head.click? (table head entries) =
    gather Head.click? head ++ gather Head.click? entries := by
  simp (disch := exact unsigned (by decide)) [table, div_clicks, -String.reduceToList]

private theorem table_clicks (count : Nat) (unit : Text) (entries : List Node) :
    gather Head.click? (table [total count unit] entries) = gather Head.click? entries := by
  rw [table_gather, gather_cons, total_clicks]
  rfl

private theorem files_clicks (shown : List Post) (detailed : Bool) :
    gather Head.click? (files shown detailed) =
      shown.map fun post => Shelf.posts.entry post.slug := by
  rw [files, table_clicks, gather_entries (file_clicks detailed)]

/-- The body of the listing of a shelf. -/
def Shelf.body (shelf : Shelf) (posts : List Post) (detailed : Bool) : List Node :=
  match shelf with
  | .posts => files (Post.inOrder .newestFirst posts) detailed
  | .series => Listing.series posts detailed
  | .tags => Listing.tags posts detailed

private theorem body_clicks (shelf : Shelf) (posts : List Post) (detailed : Bool) :
    gather Head.click? (shelf.body posts detailed) = (shelf.slugs posts).map shelf.entry := by
  cases shelf with
  | posts =>
    rw [Shelf.body, files_clicks, Shelf.slugs, List.map_map]
    rfl
  | series =>
    rw [Shelf.body, series, table_clicks, gather_entries (seriesEntry_clicks posts detailed),
      Shelf.slugs, List.map_map]
    rfl
  | tags =>
    have each (item : Text × Nat) : (tagEntry detailed item.1 item.2).gather Head.click? =
        [Shelf.tags.entry (slugOf item.1)] := tagEntry_clicks detailed item.1 item.2
    rw [Shelf.body, tags, table_clicks]
    refine (gather_entries each _).trans ?_
    rw [Shelf.slugs, List.map_map]
    rfl

/-- Listing a shelf succeeds wherever it is asked for. -/
theorem shelf_listed (context : Context α) (flags : List Text) (shelf : Shelf) :
    Builtin.ls.execute (context.withCall ⟨"ls", [shelf.directory], flags⟩) =
      { body := shelf.body context.posts (CommandLine.hasSwitch flags 'l') } := by
  cases shelf <;> rfl

private theorem entries_clickable (context : Context α) (flags : List Text) (shelf : Shelf) :
    clickables (render
      (Builtin.ls.execute (context.withCall ⟨"ls", [shelf.directory], flags⟩)).body) =
      (shelf.slugs context.posts).map shelf.entry := by
  rw [shelf_listed, clickables_gather, body_clicks]

private theorem entry_whole (shelf : Shelf) (slug : Text) :
    shelf.entry slug = ⟨shelf.line slug, some (shelf.url slug)⟩ ↔
      ¬ Opens "data-cmd" false slug := by
  have other : " class=" ≠ shelf.line slug := by
    cases shelf <;> exact fun same => by cases same
  rw [Shelf.entry]
  by_cases opens : Opens "data-cmd" false slug
  · rw [if_pos opens]
    exact iff_of_false (fun same => other (Clickable.mk.inj same).1) (not_not_intro opens)
  · rw [if_neg opens]
    exact iff_of_true rfl opens

/-- Reading the listing of a shelf back gives one element for each entry, in order, which leads to
the URL of the entry. It carries the line of the entry unless the slug ends in the name of the
attribute and an equals sign, and the listing is read back whole when no slug does. -/
theorem entries_read (context : Context α) (flags : List Text) (shelf : Shelf) :
    let result := Builtin.ls.execute (context.withCall ⟨"ls", [shelf.directory], flags⟩)
    let slugs := shelf.slugs context.posts
    clickables (render result.body) = (slugs.map fun slug =>
        ⟨if Opens "data-cmd" false slug then " class=" else shelf.line slug,
          some (shelf.url slug)⟩) ∧
      (clickables (render result.body) =
          (slugs.map fun slug => ⟨shelf.line slug, some (shelf.url slug)⟩) ↔
        ∀ slug ∈ slugs, ¬ Opens "data-cmd" false slug) := by
  intro result slugs
  have read : clickables (render result.body) = slugs.map shelf.entry :=
    entries_clickable context flags shelf
  refine ⟨read, ?_⟩
  rw [read, List.map_inj_left]
  exact forall₂_congr fun slug _ => entry_whole shelf slug

/-- An accepted post whose line is not read back. -/
theorem entries_misread :
    let post : Post := ⟨"data-cmd=", "Data", [], "2024-01-01", [], none, []⟩
    let context : Context Builtin :=
      { registry := Builtin.registry, posts := [post], path := "~" }
    let result := Builtin.ls.execute (context.withCall ⟨"ls", ["posts"], []⟩)
    Post.collectionOfText "[[\"data-cmd=\",\"Data\",\"\",\"2024-01-01\"]]" = .ok [post] ∧
      clickables (render result.body) = [⟨" class=", some "/posts/data-cmd="⟩] ∧
      clickables (render result.body) ≠ [⟨"cat " ++ post.slug, some post.url⟩] := by
  intro post context result
  have read : clickables (render result.body) =
      (Shelf.posts.slugs [post]).map Shelf.posts.entry :=
    entries_clickable context [] .posts
  rw [read]
  refine ⟨?_, ?_, ?_⟩ <;> decide +kernel

end Listing

end

/-! ## With and without columns

What can be clicked in a listing depends on the directory alone: the switch `l` puts columns of text
around the entries, and neither the columns nor the style of an entry can be taken for another
element, whatever the names, dates and slugs look like.
-/

section

open Markup

variable {α : Type}

namespace Listing

/-! ### Directories -/

/-- The entries of the root directory carry a line and lead nowhere. -/
theorem root_clicks (posts : List Post) (detailed : Bool) :
    gather Head.click? (root posts detailed) =
      (rootEntries posts).map fun entry => ⟨entry.line, none⟩ := by
  cases detailed with
  | false =>
    have each (entry : RootEntry) :
        (button "term-ls-dir cursor-pointer hover:text-term-cyan" entry.line entry.name).gather
          Head.click? = [⟨entry.line, none⟩] := button_clicks (unsigned (by decide))
    simp only [root, Bool.false_eq_true, ↓reduceIte]
    rw [gather_cons, div_clicks (unsigned (by decide)), gather_joinLines, gather_entries each]
    exact List.append_nil _
  | true =>
    have each (entry : RootEntry) : (div "term-ls-entry" (joinSpaced [permissions entry.mode,
        button "term-ls-name term-ls-dir cursor-pointer hover:text-term-cyan"
          entry.line entry.name,
        note entry.size])).gather Head.click? = [⟨entry.line, none⟩] := by
      simp (disch := exact unsigned (by decide)) only [div_clicks, gather_joinSpaced, gather_cons,
        gather_nil, permissions_clicks, note_clicks, button_clicks, List.nil_append,
        List.append_nil]
    simp only [root, ↓reduceIte]
    rw [table_gather, gather_cons, newline_gather, List.nil_append, gather_cons, total_clicks,
      gather_entries each]
    rfl

private theorem archives_clicks (posts : List Post) (detailed : Bool) :
    gather Head.click? (archives posts detailed) =
      (Post.byYear posts).flatMap fun (_, bucket) =>
        bucket.map fun post => Shelf.posts.entry post.slug := by
  have heading (year : Option Int) (count : Nat) : (div "term-ls-dir mt-2"
      [.text (yearName year ++ "/ "), note ("(" ++ Text.ofNat count ++ " posts)")]).gather
        Head.click? = [] := by
    rw [div_clicks (unsigned (by decide)), gather_cons, text_gather, gather_cons, note_clicks]
    rfl
  have year (item : Option Int × List Post) : gather Head.click?
      (div "term-ls-dir mt-2" [.text (yearName item.1 ++ "/ "),
        note ("(" ++ Text.ofNat item.2.length ++ " posts)")] :: item.2.map (file detailed)) =
      item.2.map fun post => Shelf.posts.entry post.slug := by
    rw [gather_cons, heading, gather_entries (file_clicks detailed), List.nil_append]
  rw [archives, table_clicks, gather_flatMap]
  exact congrArg (List.flatMap · (Post.byYear posts)) (funext year)

private theorem search_clicks (detailed : Bool) :
    gather Head.click? (search detailed) = [⟨"cd search", none⟩] := by
  cases detailed <;> simp (disch := exact unsigned (by decide)) only [search, Bool.false_eq_true,
    ↓reduceIte, div_clicks, gather_joinSpaced, gather_cons, gather_nil, permissions_clicks,
    note_clicks, button_clicks, List.nil_append, List.append_nil]

private theorem notFound_clicks (typed : Text) : gather Head.click? (notFound typed).body = [] := by
  rw [notFound, Result.failure, Result.failed, gather_cons]
  exact congrArg (· ++ []) (span_clicks (unsigned (by decide)))

/-! ### Listings -/

/-- What the listing of a directory lets the user click, in order. -/
def elements (posts : List Post) (dir : Text) : List Clickable :=
  let files (shown : List Post) := shown.map fun post => Shelf.posts.entry post.slug
  let series (name : Text) :=
    files ((Post.findSeries? posts name).toList.flatMap (Post.ofSeries posts))
  match Page.ofDirectory? dir with
  | some .root => (rootEntries posts).map fun entry => ⟨entry.line, none⟩
  | some .search => [⟨"cd search", none⟩]
  | some .archives => (Post.byYear posts).flatMap fun (_, bucket) => files bucket
  | some .posts => (Shelf.posts.slugs posts).map Shelf.posts.entry
  | some .series => (Shelf.series.slugs posts).map Shelf.series.entry
  | some .tags => (Shelf.tags.slugs posts).map Shelf.tags.entry
  | some (.post slug) => files (Post.find? posts slug).toList
  | some (.seriesItem name) => series name
  | some (.tagItem name) => files ((Post.findTag? posts name).toList.flatMap (Post.withTag posts))
  | none => series dir

private theorem answer_clicks (posts : List Post) (detailed : Bool) (typed dir : Text) :
    gather Head.click? (answer posts detailed typed dir).body = elements posts dir := by
  unfold answer elements
  cases Page.ofDirectory? dir with
  | none =>
    cases found : Post.findSeries? posts dir with
    | none => simp [found, notFound_clicks]
    | some series => simp [found, files_clicks]
  | some page =>
    cases page with
    | root => exact root_clicks posts detailed
    | archives => exact archives_clicks posts detailed
    | search => exact search_clicks detailed
    | posts => exact body_clicks .posts posts detailed
    | series => exact body_clicks .series posts detailed
    | tags => exact body_clicks .tags posts detailed
    | post slug =>
      cases found : Post.find? posts slug with
      | none => simp [found, notFound_clicks]
      | some post => simp [found, files_clicks]
    | seriesItem name =>
      cases found : Post.findSeries? posts name with
      | none => simp [found, notFound_clicks]
      | some series => simp [found, files_clicks]
    | tagItem name =>
      cases found : Post.findTag? posts name with
      | none => simp [found, notFound_clicks]
      | some tag => simp [found, files_clicks]

/-- Two listings of one path that differ in their flags, such as with and without the switch `l`,
fail together and have the same elements to click, in the same order: those of the directory. -/
theorem detail_decorates (context : Context α) (arguments flags switches : List Text) :
    let listing := Builtin.ls.execute (context.withCall ⟨"ls", arguments, flags⟩)
    let other := Builtin.ls.execute (context.withCall ⟨"ls", arguments, switches⟩)
    let dir := Path.resolve (arguments.head?.getD ".") context.path
    (listing.error = other.error ∧
        clickables (render listing.body) = clickables (render other.body)) ∧
      (listing.error = false ↔ Listed context.posts dir) ∧
      clickables (render listing.body) = elements context.posts dir := by
  intro listing other dir
  have shown (flags : List Text) : clickables (render
      (Builtin.ls.execute (context.withCall ⟨"ls", arguments, flags⟩)).body) =
        elements context.posts dir := by
    rw [clickables_gather]
    exact answer_clicks context.posts _ _ dir
  refine ⟨⟨?_, (shown flags).trans (shown switches).symm⟩, listing_error _, shown flags⟩
  exact (tree_error_listing _).symm.trans (tree_error_listing _)

end Listing

end

end BlogTerminal
