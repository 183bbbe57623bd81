import BlogTerminal.Proofs.Command.Confinement
import BlogTerminal.Proofs.Command.Directories
import BlogTerminal.Proofs.Outline
import BlogTerminal.Proofs.Post.Tally

/-!
What can be clicked in the output of a command. Output is built from posts, from the profile and
from what was typed, but these only ever become text, values inside quotes, or the target of a link
that begins with its URL; so the output of every command is confined.
-/

namespace BlogTerminal

open Markup

variable {α : Type} {posts : List Post} {post : Post} {content : Text}

/-! ## Listings -/

private theorem seriesUrl_site {name : Text} (carried : ∃ post ∈ posts, post.series = some name) :
    SiteUrl posts (Page.seriesItem (slugOf name)).url := by
  obtain ⟨post, member, named⟩ := carried
  exact .series member named

private theorem tagUrl_site {name : Text} (carried : ∃ post ∈ posts, name ∈ post.tags) :
    SiteUrl posts (Page.tagItem (slugOf name)).url := by
  obtain ⟨post, member, tagged⟩ := carried
  exact .tag member tagged

private theorem table_confined {head entries : List Node} :
    Confined posts (Listing.table head entries) ↔ Confined posts head ∧ Confined posts entries := by
  simp (disch := exact unsigned (by decide)) only [Listing.table, newline, safe_div,
    confined_cons, confined_append, confined_onNewLines, safe_prose, confined_nil, and_true]

private theorem total_safe (count : Nat) (unit : Text) : Safe posts (Listing.total count unit) :=
  (safe_div (unsigned (by decide))).mpr (confined_cons.mpr ⟨safe_text, confined_nil⟩)

private theorem permissions_safe : Safe posts (Listing.permissions content) :=
  safe_span (unsigned (by decide))

private theorem note_safe : Safe posts (note content) := safe_span (unsigned (by decide))

private theorem rootEntries_fixed (posts : List Post) :
    ∀ entry ∈ Listing.rootEntries posts, entry.line ∈ fixedLines := by
  simp only [Listing.rootEntries, List.forall_mem_cons, fixedLines]
  simp only [List.mem_cons, List.not_mem_nil, true_or, or_true, and_self, false_imp_iff,
    implies_true]

private theorem root_confined (detailed : Bool) : Confined posts (Listing.root posts detailed) := by
  have fixed := rootEntries_fixed posts
  cases detailed with
  | false =>
    simp only [Listing.root, Bool.false_eq_true, ↓reduceIte, confined_cons, confined_nil, and_true]
    refine (safe_div (unsigned (by decide))).mpr ?_
    rw [confined_joinLines, confined_map]
    exact fun entry member => safe_button (unsigned (by decide)) (fixed entry member)
  | true =>
    simp only [Listing.root, ↓reduceIte, table_confined, confined_map]
    refine ⟨by simp [newline, total_safe], fun entry member => ?_⟩
    rw [safe_div (unsigned (by decide))]
    simp only [confined_joinSpaced, confined_cons, permissions_safe, note_safe, confined_nil,
      true_and, and_true]
    exact safe_button (unsigned (by decide)) (fixed entry member)

private theorem file_safe (detailed : Bool) (member : post ∈ posts) :
    Safe posts (Listing.file detailed post) := by
  have site := SiteUrl.post member
  cases detailed with
  | false =>
    simp (disch := first | exact site | exact unsigned (by decide)) only [Listing.file,
      Bool.false_eq_true, ↓reduceIte, safe_div, safe_commandLink, confined_cons, confined_nil,
      and_self]
  | true =>
    simp (disch := first | exact site | exact unsigned (by decide)) only [Listing.file, ↓reduceIte,
      safe_div, safe_commandLink, safe_span, permissions_safe, confined_joinSpaced, confined_cons,
      confined_nil, and_self]

private theorem files_confined (detailed : Bool) {shown : List Post}
    (listed : ∀ post ∈ shown, post ∈ posts) :
    Confined posts (Listing.files shown detailed) := by
  simp only [Listing.files, table_confined, confined_cons, total_safe, confined_nil, confined_map,
    and_self, true_and]
  exact fun post member => file_safe detailed (listed post member)

private theorem archives_confined (detailed : Bool) :
    Confined posts (Listing.archives posts detailed) := by
  rw [Listing.archives, table_confined]
  refine ⟨by simp [total_safe], ?_⟩
  intro node member
  obtain ⟨⟨year, bucket⟩, listed, inside⟩ := List.mem_flatMap.mp member
  rcases List.mem_cons.mp inside with rfl | file
  · rw [safe_div (unsigned (by decide))]
    simp only [confined_cons, safe_text, note_safe, confined_nil, and_self]
  · obtain ⟨post, below, rfl⟩ := List.mem_map.mp file
    exact file_safe detailed (Post.byYear_member listed below)

private theorem search_confined (detailed : Bool) : Confined posts (Listing.search detailed) := by
  have fixed : ("cd search" : Text) ∈ fixedLines := by simp [fixedLines]
  cases detailed with
  | false =>
    simp (disch := first | exact fixed | exact unsigned (by decide)) only [Listing.search,
      Bool.false_eq_true, ↓reduceIte, safe_button, confined_cons, confined_nil, and_self]
  | true =>
    simp (disch := first | exact fixed | exact unsigned (by decide)) only [Listing.search,
      ↓reduceIte, safe_div, safe_button, note_safe, permissions_safe, confined_joinSpaced,
      confined_cons, confined_nil, and_self]

private theorem seriesEntry_safe (detailed : Bool) {name : Text}
    (carried : ∃ post ∈ posts, post.series = some name) :
    Safe posts (Listing.seriesEntry posts detailed name) := by
  have site := seriesUrl_site carried
  cases detailed with
  | false =>
    simp (disch := exact site) only [Listing.seriesEntry, Bool.false_eq_true, ↓reduceIte, safe_row,
      safe_commandLink, confined_cons, confined_nil, and_self]
  | true =>
    simp (disch := first | exact site | exact unsigned (by decide)) only [Listing.seriesEntry,
      ↓reduceIte, safe_div, safe_commandLink, note_safe, permissions_safe, confined_joinSpaced,
      confined_cons, confined_nil, and_self]

private theorem series_confined (detailed : Bool) :
    Confined posts (Listing.series posts detailed) := by
  simp only [Listing.series, table_confined, confined_cons, total_safe, confined_nil, confined_map,
    and_self, true_and]
  exact fun name listed => seriesEntry_safe detailed (Post.mem_seriesNames.mp listed)

private theorem tagEntry_safe (detailed : Bool) {name : Text} (count : Nat)
    (carried : ∃ post ∈ posts, name ∈ post.tags) :
    Safe posts (Listing.tagEntry detailed name count) := by
  have site := tagUrl_site carried
  cases detailed with
  | false =>
    simp (disch := exact site) only [Listing.tagEntry, Bool.false_eq_true, ↓reduceIte,
      safe_commandLink]
  | true =>
    simp (disch := first | exact site | exact unsigned (by decide)) only [Listing.tagEntry,
      ↓reduceIte, safe_div, safe_span, safe_commandLink, confined_joinSpaced, confined_cons,
      confined_nil, and_self]

private theorem tags_confined (detailed : Bool) : Confined posts (Listing.tags posts detailed) := by
  simp only [Listing.tags, table_confined, confined_cons, total_safe, confined_nil, confined_map,
    and_self, true_and]
  rintro ⟨name, count⟩ listed
  exact tagEntry_safe detailed count (Post.tagsByCount_name listed)

private theorem error_confined {message : Text} : Confined posts (Result.failure message).body :=
  confined_cons.mpr ⟨safe_span (unsigned (by decide)), confined_nil⟩

/-- An error with a hint below it is confined. -/
theorem explained_confined {message hint : Text} :
    Confined posts (Result.failed [errorLine message, newline, hintLine hint]).body := by
  simp (disch := exact unsigned (by decide)) only [Result.failed, errorLine, hintLine, newline,
    safe_span, safe_prose, confined_cons, confined_nil, and_self]

/-- An answer is confined when what it shows is, of posts and names that the collection has. -/
private theorem sight_confined {shows : Sight → List Node} {missing : Result} {dir : Text}
    (fails : Confined posts missing.body)
    (held : ∀ shown : Sight, (∀ post ∈ shown.files posts, post ∈ posts) →
      Confined posts (shows shown)) :
    Confined posts (Sight.answer shows missing (Sight.ofDirectory? posts dir)).body := by
  cases found : Sight.ofDirectory? posts dir with
  | none => exact fails
  | some shown => exact held shown (Sight.files_member found)

/-- The answer of `ls` is confined. -/
theorem listing_confined (detailed : Bool) (typed dir : Text) :
    Confined posts (Listing.answer posts detailed typed dir).body := by
  rw [Listing.answer_sight]
  refine sight_confined error_confined fun shown members => ?_
  cases shown with
  | root => exact root_confined detailed
  | archives => exact archives_confined detailed
  | search => exact search_confined detailed
  | series => exact series_confined detailed
  | tags => exact tags_confined detailed
  | posts | file _ | ofSeries _ | withTag _ => exact files_confined detailed members

/-! ## Trees -/

private theorem line_safe {branch : Text} {label : List Node} (confined : Confined posts label) :
    Safe posts (TreeView.line (branch, label)) := by
  rw [TreeView.line, safe_row, confined_cons]
  exact ⟨safe_span (unsigned (by decide)), confined⟩

private theorem display_confined {root summary : Text} {entries : List TreeView.Entry}
    (confined : ∀ label ∈ Outline.forestLabels entries, Confined posts label) :
    Confined posts (TreeView.display root entries summary) := by
  have lines : ∀ line ∈ Outline.forestLines [] entries, Safe posts (TreeView.line line) := by
    intro line member
    refine line_safe (confined line.2 ?_)
    rw [← Outline.forestLines_labels []]
    exact List.mem_map_of_mem member
  simp (disch := exact unsigned (by decide)) only [TreeView.display, newline, safe_div, safe_text,
    safe_prose, confined_onNewLines, confined_append, confined_cons, confined_nil, confined_map,
    and_self, true_and, and_true]
  exact lines

private theorem treeFile_confined (member : post ∈ posts) :
    ∀ label ∈ Outline.labels (TreeView.file post), Confined posts label := by
  rw [TreeView.file, Outline.labels_leaf, List.forall_mem_singleton, confined_cons]
  exact ⟨(safe_link (.post member)).mpr (by simp), confined_nil⟩

private theorem treeFiles_labels {shown : List Post} (listed : ∀ post ∈ shown, post ∈ posts) :
    ∀ label ∈ Outline.forestLabels (shown.map TreeView.file), Confined posts label := by
  rw [Outline.forestLabels_map, List.forall_mem_flatMap]
  exact fun post member => treeFile_confined (listed post member)

private theorem treeFiles_confined {root : Text} {shown : List Post}
    (listed : ∀ post ∈ shown, post ∈ posts) : Confined posts (TreeView.files root shown) :=
  display_confined (treeFiles_labels listed)

private theorem directory_confined {name size : Text}
    (fixed : ("tree " : Text) ++ name ++ "/" ∈ fixedLines) :
    ∀ label ∈ Outline.labels (TreeView.directory name size), Confined posts label := by
  rw [TreeView.directory, Outline.labels_leaf, List.forall_mem_singleton]
  simp only [confined_cons, safe_text, note_safe, confined_nil, and_true]
  exact safe_button (unsigned (by decide)) fixed

private theorem treeRoot_confined : Confined posts (TreeView.root posts) := by
  have fixed : ∀ name ∈ (["archives", "posts", "series", "tags"] : List Text),
      ("tree " : Text) ++ name ++ "/" ∈ fixedLines := by
    decide
  simp only [List.forall_mem_cons] at fixed
  obtain ⟨archives, posts, series, tags, _⟩ := fixed
  have search : ("cd search" : Text) ∈ fixedLines := by simp [fixedLines]
  refine display_confined ?_
  simp only [Outline.forestLabels, List.forall_mem_append]
  refine ⟨directory_confined archives, directory_confined posts, ?_, directory_confined series,
    directory_confined tags, by simp⟩
  rw [Outline.labels_leaf, List.forall_mem_singleton, confined_cons]
  exact ⟨safe_button (unsigned (by decide)) search, confined_nil⟩

private theorem treeSeriesEntry_confined {name : Text} {members : List Post}
    (carried : ∃ post ∈ posts, post.series = some name) (listed : ∀ post ∈ members, post ∈ posts) :
    ∀ label ∈ Outline.labels (TreeView.seriesEntry name members), Confined posts label := by
  rw [TreeView.seriesEntry, Outline.labels, List.forall_mem_cons, confined_cons]
  refine ⟨⟨(safe_link (seriesUrl_site carried)).mpr (by simp), confined_nil⟩, ?_⟩
  exact treeFiles_labels fun post member => listed post (Post.mem_inOrder.mp member)

private theorem treeSeries_confined : Confined posts (TreeView.series posts) := by
  refine display_confined ?_
  rw [Outline.forestLabels_map, List.forall_mem_flatMap]
  exact fun ⟨name, members⟩ listed => treeSeriesEntry_confined (Post.bySeries_name listed)
    fun post member => Post.bySeries_member listed member

private theorem treeTagEntry_confined {name : Text} {count : Nat}
    (carried : ∃ post ∈ posts, name ∈ post.tags) :
    ∀ label ∈ Outline.labels (TreeView.tagEntry name count), Confined posts label := by
  have site := tagUrl_site carried
  rw [TreeView.tagEntry, Outline.labels_leaf, List.forall_mem_singleton]
  simp only [safe_link site, confined_cons, safe_text, note_safe, confined_nil, and_self]

private theorem treeTags_confined : Confined posts (TreeView.tags posts) := by
  refine display_confined ?_
  rw [Outline.forestLabels_map, List.forall_mem_flatMap]
  exact fun ⟨name, count⟩ listed => treeTagEntry_confined (Post.tagsByCount_name listed)

private theorem yearEntry_confined {year : Option Int} {bucket : List Post}
    (listed : ∀ post ∈ bucket, post ∈ posts) :
    ∀ label ∈ Outline.labels (TreeView.yearEntry year bucket), Confined posts label := by
  rw [TreeView.yearEntry, Outline.labels, List.forall_mem_cons, confined_cons]
  exact ⟨⟨safe_span (unsigned (by decide)), confined_nil⟩, treeFiles_labels listed⟩

private theorem treeArchives_confined : Confined posts (TreeView.archives posts) := by
  refine display_confined ?_
  rw [Outline.forestLabels_map, List.forall_mem_flatMap]
  exact fun ⟨year, bucket⟩ listed => yearEntry_confined fun post member =>
    Post.byYear_member listed member

private theorem treeSearch_confined : Confined posts TreeView.search := by
  refine display_confined ?_
  simp only [Outline.forestLabels, Outline.labels_leaf, List.append_nil, List.forall_mem_singleton,
    confined_cons]
  exact ⟨safe_span (unsigned (by decide)), confined_nil⟩

private theorem tree_confined (typed dir : Text) :
    Confined posts (TreeView.answer posts typed dir).body := by
  rw [TreeView.answer_sight]
  refine sight_confined error_confined fun shown members => ?_
  cases shown with
  | root => exact treeRoot_confined
  | archives => exact treeArchives_confined
  | search => exact treeSearch_confined
  | series => exact treeSeries_confined
  | tags => exact treeTags_confined
  | posts | file _ | ofSeries _ | withTag _ => exact treeFiles_confined members

/-! ## Searches and posts -/

private theorem highlight_confined (ignoreCase : Bool) (pattern text : Text) :
    Confined posts (highlight ignoreCase pattern text) := by
  rw [highlight, confined_map]
  intro stretch _
  cases stretch with
  | gap content => exact safe_text
  | hit content => exact safe_span (unsigned (by decide))

private theorem tagMatch_safe (ignoreCase : Bool) (pattern name : Text) :
    Safe posts (Grep.tag ignoreCase pattern name) := by
  rw [Grep.tag]
  split
  · exact safe_span (unsigned (by decide))
  · exact safe_span (unsigned (by decide))

private theorem grepEntry_safe (ignoreCase : Bool) (pattern : Text) (member : post ∈ posts) :
    Safe posts (Grep.entry ignoreCase pattern post) := by
  have description : Confined posts (if post.description.isEmpty then [] else
      [div "text-term-fg-dark text-sm mt-1" (highlight ignoreCase pattern post.description)]) := by
    refine confined_unless (confined_cons.mpr ⟨?_, confined_nil⟩)
    exact (safe_div (unsigned (by decide))).mpr (highlight_confined _ _ _)
  have tags : Confined posts (if post.tags.isEmpty then [] else
      [div "text-sm mt-1" (joinSpaced (post.tags.map (Grep.tag ignoreCase pattern)))]) := by
    refine confined_unless (confined_cons.mpr ⟨?_, confined_nil⟩)
    rw [safe_div (unsigned (by decide)), confined_joinSpaced, confined_map]
    exact fun name _ => tagMatch_safe ignoreCase pattern name
  have title : Confined posts (highlight ignoreCase pattern post.title) :=
    highlight_confined ignoreCase pattern post.title
  simp (disch := first | exact .post member | exact unsigned (by decide)) only [Grep.entry,
    newline, safe_div, safe_span, safe_link, safe_prose, confined_onNewLines, confined_append,
    confined_cons, confined_nil, title, description, tags, and_self]

private theorem grepFound_confined {ignoreCase : Bool} {pattern : Text} {shown : List Post}
    (listed : ∀ post ∈ shown, post ∈ posts) :
    Confined posts (Grep.found ignoreCase pattern shown) := by
  simp (disch := exact unsigned (by decide)) only [Grep.found, Grep.heading, newline, safe_div,
    safe_text, safe_prose, confined_onNewLines, confined_append, confined_cons, confined_nil,
    confined_map, and_self, true_and, and_true]
  exact fun post member => grepEntry_safe ignoreCase pattern (listed post member)

private theorem grep_confined (context : Context α) :
    Confined context.posts (Grep.execute context).body := by
  unfold Grep.execute
  extract_lets pattern ignoreCase
  by_cases missing : pattern.isEmpty
  · rw [if_pos missing]
    exact explained_confined
  · rw [if_neg missing]
    cases found : Post.search ignoreCase pattern context.posts with
    | nil => exact error_confined
    | cons post more =>
      exact grepFound_confined fun post member => Post.search_member (found ▸ member)

private theorem findFound_confined {shown : List Post} (listed : ∀ post ∈ shown, post ∈ posts) :
    Confined posts (Find.found shown) := by
  have entries : ∀ post ∈ shown, Safe posts (Find.entry post) := by
    intro post member
    simp (disch := first | exact .post (listed post member) | exact unsigned (by decide)) only
      [Find.entry, safe_row, safe_span, safe_link, safe_text, confined_cons, confined_nil, and_self]
  simp (disch := exact unsigned (by decide)) only [Find.found, newline, safe_div, safe_text,
    safe_prose, confined_onNewLines, confined_append, confined_cons, confined_nil, confined_map,
    and_self, true_and, and_true]
  exact entries

private theorem find_confined (context : Context α) :
    Confined context.posts (Find.execute context).body := by
  unfold Find.execute
  extract_lets pattern
  by_cases missing : pattern.isEmpty
  · rw [if_pos missing]
    exact findFound_confined fun post member => Post.mem_inOrder.mp member
  · rw [if_neg missing]
    cases found : Post.search true pattern context.posts with
    | nil => exact error_confined
    | cons post more =>
      exact findFound_confined fun post member => Post.search_member (found ▸ member)

private theorem rule_safe (plain : '=' ∉ content) : Safe posts (Preview.rule content) := by
  rw [Preview.rule, safe_div plain, confined_cons]
  exact ⟨safe_span (unsigned (by decide)), confined_nil⟩

private theorem facts_confined : Confined posts (Preview.facts post) := by
  rw [Preview.facts, confined_cons]
  refine ⟨safe_span (unsigned (by decide)), ?_⟩
  cases post.series with
  | none => exact confined_nil
  | some series =>
    simp (disch := exact unsigned (by decide)) only [safe_span, confined_cons, confined_nil,
      and_self]

private theorem details_confined (member : post ∈ posts) :
    Confined posts (Preview.details post) := by
  have links : Confined posts (post.tags.map Preview.tagLink) := by
    rw [confined_map]
    intro name tagged
    rw [Preview.tagLink, safe_link (tagUrl_site ⟨post, member, tagged⟩)]
    simp
  rw [Preview.details, confined_append, confined_append]
  refine ⟨⟨confined_unless ?_, confined_unless ?_⟩, confined_unless ?_⟩
  · simp (disch := exact unsigned (by decide)) only [safe_styled, safe_text, confined_cons,
      confined_nil, and_self]
  · simp (disch := exact unsigned (by decide)) only [safe_div, safe_text, confined_cons,
      confined_nil, and_self]
  · simp (disch := exact unsigned (by decide)) only [safe_div, confined_joinSpaced, links,
      confined_cons, confined_nil, and_self]

private theorem card_confined (member : post ∈ posts) : Confined posts (Preview.card post) := by
  simp (disch := first | exact .post member | exact unsigned (by decide)) only [Preview.card,
    newline, safe_div, safe_link, safe_text, safe_prose, rule_safe, facts_confined,
    details_confined member, confined_onNewLines, confined_append, confined_cons, confined_nil,
    and_self]

private theorem preview_confined (context : Context α) :
    Confined context.posts (Preview.execute context).body := by
  unfold Preview.execute
  cases context.arguments with
  | nil => exact error_confined
  | cons requested more =>
    cases found : Preview.find? context.posts requested <;> simp only [found]
    · exact error_confined
    · exact card_confined (List.mem_of_find?_eq_some found)

/-! ## Commands without posts -/

private theorem manualEntry_safe (command : Command α) : Safe posts (Manual.entry command) := by
  have aliases : Confined posts (if command.aliases.isEmpty then [] else
      [.text [' '],
        span "text-term-fg-dark text-xs" ("(" ++ Manual.aliasList command ++ ")")]) := by
    refine confined_unless ?_
    simp (disch := exact unsigned (by decide)) only [safe_span, safe_text, confined_cons,
      confined_nil, and_self]
  simp (disch := exact unsigned (by decide)) only [Manual.entry, safe_div, safe_span, safe_styled,
    safe_text, aliases, confined_cons, confined_nil, and_self]

private theorem overview_confined (registry : Registry α) :
    Confined posts (Manual.overview registry) := by
  have entries : Confined posts (registry.list.map Manual.entry) :=
    confined_map.mpr fun command _ => manualEntry_safe command
  simp (disch := exact unsigned (by decide)) only [Manual.overview, Manual.tips, Manual.tip,
    newline, safe_div, safe_row, safe_span, safe_text, safe_prose, entries, confined_joinLines,
    confined_append, confined_cons, confined_nil, and_self]

private theorem manualFact_confined {label classes : Text} (plain : '=' ∉ classes) :
    Confined posts [Manual.fact label classes content] := by
  simp (disch := first | exact plain | exact unsigned (by decide)) only [Manual.fact, safe_row,
    safe_span, safe_text, confined_cons, confined_nil, and_self]

private theorem manualDetails_confined (command : Command α) :
    Confined posts (Manual.details command) := by
  have aliases : Confined posts (if command.aliases.isEmpty then [] else
      [Manual.fact "Aliases:" "text-term-yellow" (Manual.aliasList command)]) :=
    confined_unless (manualFact_confined (unsigned (by decide)))
  simp (disch := exact unsigned (by decide)) only [Manual.details, newline, safe_div, safe_row,
    safe_span, safe_text, safe_prose, aliases, confined_onNewLines, confined_append, confined_cons,
    confined_nil, and_self, true_and, and_true]
  cases command.usage with
  | none => exact confined_nil
  | some usage => exact manualFact_confined (unsigned (by decide))

private theorem manual_confined (context : Context α) :
    Confined posts (Manual.execute context).body := by
  unfold Manual.execute Manual.about
  cases context.arguments with
  | nil => exact overview_confined _
  | cons name more =>
    cases found : context.registry.get? name.lower <;> simp only [found]
    · exact explained_confined
    · exact manualDetails_confined _

private theorem appearance_confined (context : Context α) :
    Confined posts (Appearance.execute context).body := by
  have choices : ∀ theme ∈ Theme.all, Safe posts
      (button "text-term-green cursor-pointer hover:underline" ("theme " ++ theme.name)
        theme.name) := by
    intro theme member
    refine safe_button (unsigned (by decide)) ?_
    simp only [fixedLines, List.mem_cons]
    iterate 9 apply Or.inr
    exact List.mem_map_of_mem member
  unfold Appearance.execute
  cases context.arguments with
  | nil =>
    simp (disch := exact unsigned (by decide)) only [Appearance.current, newline, safe_div,
      safe_row, safe_span, safe_text, safe_prose, confined_joinSpaced, confined_map, confined_cons,
      confined_nil, and_self, true_and, and_true]
    exact choices
  | cons typed more =>
    cases found : Theme.ofName? typed <;> simp only [found]
    · simp (disch := exact unsigned (by decide)) only [Appearance.unknown, Result.failed,
        errorLine, newline, safe_div, safe_span, safe_text, safe_prose, confined_cons,
        confined_nil, and_self]
    · simp (disch := exact unsigned (by decide)) only [Appearance.switchTo, safe_styled,
        safe_prose, confined_cons, confined_nil, and_self]

private theorem hint_confined {hint : Text} : Confined posts [hintLine hint] :=
  confined_cons.mpr ⟨safe_span (unsigned (by decide)), confined_nil⟩

private theorem toSeries_confined {typed : Text} (found : Option Text) :
    Confined posts ((found.map Navigation.toSeries).getD (Navigation.notFound typed)).body := by
  cases found with
  | none => exact error_confined
  | some name => exact hint_confined

private theorem toDirectory_confined (typed dir : Text) :
    Confined posts (Navigation.toDirectory posts typed dir).body := by
  unfold Navigation.toDirectory
  cases Page.ofDirectory? dir with
  | none => exact toSeries_confined _
  | some page =>
    cases page with
    | root => exact confined_nil
    | archives | search | posts | series | tags => exact hint_confined
    | post slug => exact error_confined
    | seriesItem name => exact toSeries_confined _
    | tagItem name =>
      cases found : Post.findTag? posts name <;> simp only [found]
      · exact error_confined
      · exact hint_confined

private theorem toParent_confined (path : Text) :
    Confined posts (Navigation.toParent path).body := by
  unfold Navigation.toParent
  extract_lets dir parent
  split
  · exact confined_nil
  · split <;> exact confined_nil

private theorem navigation_confined (typed path : Text) :
    Confined posts (Navigation.answer posts typed path).body := by
  unfold Navigation.answer
  extract_lets token dir
  split
  · exact confined_nil
  · split
    · exact toParent_confined path
    · cases Post.find? posts (Navigation.slugIn dir) with
      | none => exact toDirectory_confined typed dir
      | some post => exact hint_confined

private theorem userAtHost_confined {profile : Profile} (plain : '=' ∉ content) :
    Confined posts (Identity.userAtHost profile content) := by
  simp (disch := first | exact plain | exact unsigned (by decide)) only [Identity.userAtHost,
    safe_span, safe_text, confined_cons, confined_nil, and_self]

private theorem echo_confined (context : Context α) :
    Confined posts (Identity.echo context).body := by
  refine confined_cons.mpr ⟨?_, confined_nil⟩
  simp only [Identity.echoed]
  repeat' split
  all_goals exact safe_span (unsigned (by decide))

private theorem fact_safe {label value : Text} : Safe posts (Identity.fact label value) := by
  simp (disch := exact unsigned (by decide)) only [Identity.fact, safe_row, safe_span, safe_text,
    confined_cons, confined_nil, and_self]

private theorem neofetch_confined (context : Context α) :
    Confined posts (Identity.neofetch context).body := by
  simp (disch := exact unsigned (by decide)) only [Identity.neofetch, Identity.facts, newline,
    safe_div, safe_row, safe_styled, safe_text, safe_prose, fact_safe, userAtHost_confined,
    confined_onNewLines, confined_append, confined_cons, confined_nil, and_self]

/-- The history is listed as plain text, whatever the lines of it look like. -/
theorem history_confined (history : List Text) : Confined posts (History.listing history) := by
  rw [History.listing]
  split
  · exact hint_confined
  · have entries : ∀ number line, Safe posts (History.entry number line) := by
      intro number line
      simp (disch := exact unsigned (by decide)) only [History.entry, safe_row, safe_span,
        safe_text, confined_cons, confined_nil, and_self]
    simp (disch := exact unsigned (by decide)) only [newline, safe_div, safe_prose,
      confined_onNewLines, confined_append, confined_cons, confined_nil, and_true]
    intro node member
    obtain ⟨index, _, rfl⟩ := List.mem_mapIdx.mp member
    exact entries _ _

/-- Nothing that a command prints can be clicked to do harm: no text of a post, of the profile or of
the line makes an element of its own. -/
theorem execute_confined (builtin : Builtin) (context : Context α) :
    Confined context.posts (builtin.execute context).body := by
  cases builtin with
  | ls => exact listing_confined _ _ _
  | cd => exact navigation_confined _ _
  | cat => exact preview_confined context
  | grep => exact grep_confined context
  | tree => exact tree_confined _ _
  | find => exact find_confined context
  | help => exact manual_confined context
  | theme => exact appearance_confined context
  | history => exact hint_confined
  | pwd => exact confined_cons.mpr ⟨safe_span (unsigned (by decide)), confined_nil⟩
  | whoami => exact userAtHost_confined (unsigned (by decide))
  | date => exact confined_cons.mpr ⟨safe_span (unsigned (by decide)), confined_nil⟩
  | echo => exact echo_confined context
  | clear => exact confined_nil
  | exit => exact hint_confined
  | superuser => exact error_confined
  | rm => exact error_confined
  | editor => exact hint_confined
  | neofetch => exact neofetch_confined context

end BlogTerminal
