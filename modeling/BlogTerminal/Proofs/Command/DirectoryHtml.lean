import BlogTerminal.Proofs.Command.Directories
import BlogTerminal.Proofs.Markup.Template

/-!
The templates of `ls` and `tree` put together what the markup of their answers is written as: sight
by sight, and there entry by entry. A tree adds what leads to its labels, which is spelt with
characters that are never escaped.
-/

namespace BlogTerminal

open Markup

variable {α : Type}

/-! ## Listings -/

namespace Listing

private theorem total_html (count : Nat) {unit : Text} (bare : Bare unit) :
    (total count unit).render = totalHtml count unit := by
  unfold totalHtml
  simp (disch := exact bare_literal rfl rfl) only [total, render_div, render_single,
    render_text, escape_append, escape_literal, escape_ofNat, bare.escape]
  simp only [List.append_assoc, literal_append, String.reduceAppend]

/-- A listing with its entries, when each entry is written as its template says. -/
private theorem table_html {β : Type} {node : β → Node} {write : β → Text} {unit : Text}
    (bare : Bare unit) (written : ∀ item, (node item).render = write item) (count : Nat)
    (items : List β) : render (table [total count unit] (items.map node)) =
      tableHtml count unit (onLines write items) := by
  unfold tableHtml
  simp (disch := exact bare_literal rfl rfl) only [table, render_div, render_single,
    render_append, render_newline, total_html _ bare, onNewLines_html written]
  simp only [List.append_assoc, literal_end, String.reduceAppend]

private theorem file_html (detailed : Bool) (post : Post) :
    (file detailed post).render = fileHtml detailed post := by
  unfold file fileHtml
  cases detailed with
  | true =>
    simp (disch := exact bare_literal rfl rfl) only [↓reduceIte, render_div, joinSpaced,
      List.intersperse, permissions, render_cons, render_nil, render_text, render_span,
      render_commandLink, Post.url_written, escape_append, escape_literal, escape_space, date_html]
    simp only [List.append_assoc, List.append_nil, literal_append, literal_end,
      String.reduceAppend]
  | false =>
    simp (disch := exact bare_literal rfl rfl) only [Bool.false_eq_true, ↓reduceIte,
      render_div, render_single, render_commandLink, Post.url_written, escape_append,
      escape_literal]
    simp only [List.append_assoc, literal_append, literal_end, String.reduceAppend]

private theorem files_html (posts : List Post) (detailed : Bool) :
    render (files posts detailed) = filesHtml posts detailed :=
  table_html bare_nil (file_html detailed) posts.length posts

/-- No field of an entry of the root directory needs an escape. -/
private theorem rootEntries_bare (posts : List Post) : ∀ entry ∈ rootEntries posts,
    Bare entry.mode ∧ Bare entry.line ∧ Bare entry.name ∧ Bare entry.size := by
  have counted (n : Nat) {noun : String} (bare : Bare noun) : Bare (Text.ofNat n ++ noun) :=
    (bare_ofNat n).append bare
  unfold rootEntries
  simp only [List.forall_mem_cons]
  refine ⟨⟨?_, ?_, ?_, counted _ ?_⟩, ⟨?_, ?_, ?_, counted _ ?_⟩, ⟨?_, ?_, ?_, ?_⟩,
    ⟨?_, ?_, ?_, counted _ ?_⟩, ⟨?_, ?_, ?_, counted _ ?_⟩, fun _ member => ?_⟩
  case refine_21 => exact absurd member List.not_mem_nil
  all_goals exact bare_literal rfl rfl

private theorem root_html (posts : List Post) (detailed : Bool) :
    render (root posts detailed) = rootHtml posts detailed := by
  have bare := rootEntries_bare posts
  unfold root rootHtml
  cases detailed with
  | true =>
    have entries : render (onNewLines ((rootEntries posts).map fun entry =>
        div "term-ls-entry" (joinSpaced [permissions entry.mode,
          button "term-ls-name term-ls-dir cursor-pointer hover:text-term-cyan" entry.line
            entry.name, note entry.size]))) = (rootEntries posts).flatMap RootEntry.html := by
      rw [render_onNewLines, List.flatMap_map]
      refine List.flatMap_congr fun entry member => ?_
      obtain ⟨mode, line, name, size⟩ := bare entry member
      unfold RootEntry.html
      simp (disch := exact bare_literal rfl rfl) only [render_div, joinSpaced,
        List.intersperse, permissions, render_cons, render_nil, render_text, render_span,
        render_button, render_note, escape_space, mode.escape, line.escape, name.escape,
        size.escape]
      simp only [List.append_assoc, List.append_nil, literal_append, literal_end,
        String.reduceAppend]
    simp (disch := exact bare_literal rfl rfl) only [↓reduceIte, table, render_div,
      render_append, render_cons, render_nil, render_newline, entries, total_html _ bare_nil]
    unfold totalHtml
    simp only [List.append_assoc, List.append_nil, literal_append, literal_end,
      String.reduceAppend]
  | false =>
    have names : (rootEntries posts).map (Node.render ∘ fun entry =>
        button "term-ls-dir cursor-pointer hover:text-term-cyan" entry.line entry.name) =
          (rootEntries posts).map RootEntry.nameHtml := by
      refine List.map_congr_left fun entry member => ?_
      obtain ⟨_, line, name, _⟩ := bare entry member
      unfold RootEntry.nameHtml
      simp (disch := exact bare_literal rfl rfl) only [Function.comp, render_button,
        line.escape, name.escape]
      simp only [List.append_assoc, literal_append, String.reduceAppend]
    simp (disch := exact bare_literal rfl rfl) only [Bool.false_eq_true, ↓reduceIte,
      render_single, render_div, render_joinLines, List.map_map, names]
    simp only [literal_end, String.reduceAppend]

private theorem bare_yearName (year : Option Int) : Bare (yearName year) := by
  unfold yearName
  cases year with
  | some year => exact bare_ofInt year
  | none => exact bare_literal rfl rfl

private theorem year_html (detailed : Bool) (year : Option Int) (posts : List Post) :
    render (onNewLines (div "term-ls-dir mt-2" [.text (yearName year ++ "/ "),
      note ("(" ++ Text.ofNat posts.length ++ " posts)")] :: posts.map (file detailed))) =
        yearHtml detailed year posts := by
  unfold yearHtml
  rw [onNewLines, List.flatMap_cons, ← onNewLines, render_append,
    onNewLines_html (file_html detailed)]
  simp (disch := exact bare_literal rfl rfl) only [render_cons, render_nil, render_newline,
    render_div, render_text, render_note, escape_append, escape_literal, escape_ofNat,
    (bare_yearName year).escape]
  simp only [List.append_assoc, List.append_nil, literal_append, literal_end, String.reduceAppend]

private theorem archives_html (posts : List Post) (detailed : Bool) :
    render (archives posts detailed) = archivesHtml posts detailed := by
  unfold archives archivesHtml tableHtml
  simp (disch := exact bare_literal rfl rfl) only [table, render_div, render_single,
    render_append, render_newline, total_html _ bare_nil]
  simp only [List.append_assoc, literal_end, String.reduceAppend]
  congr 3
  rw [onNewLines, List.flatMap_assoc, render_flatMap]
  exact List.flatMap_congr fun item _ => year_html detailed item.1 item.2

private theorem search_html (detailed : Bool) :
    render (search detailed) = searchHtml detailed := by
  unfold search searchHtml
  cases detailed with
  | true =>
    simp (disch := exact bare_literal rfl rfl) only [↓reduceIte, render_div, joinSpaced,
      List.intersperse, permissions, render_cons, render_nil, render_text, render_span,
      render_button, render_note, escape_literal, escape_space]
    simp only [List.append_nil, literal_end, String.reduceAppend]
  | false =>
    simp (disch := exact bare_literal rfl rfl) only [Bool.false_eq_true, ↓reduceIte,
      render_single, render_button, escape_literal]
    simp only [literal_end, String.reduceAppend]

private theorem seriesEntry_html (posts : List Post) (detailed : Bool) (name : Text) :
    (seriesEntry posts detailed name).render = seriesEntryHtml posts detailed name := by
  unfold seriesEntry seriesEntryHtml
  cases detailed with
  | true =>
    simp (disch := exact bare_literal rfl rfl) only [↓reduceIte, render_div, joinSpaced,
      List.intersperse, permissions, render_cons, render_nil, render_text, render_span,
      render_commandLink, render_note, Page.seriesUrl_written, escape_append, escape_literal,
      escape_space, escape_ofNat]
    simp only [List.append_assoc, List.append_nil, literal_append, literal_end,
      String.reduceAppend]
  | false =>
    simp (disch := exact bare_literal rfl rfl) only [Bool.false_eq_true, ↓reduceIte,
      render_row, render_single, render_commandLink, Page.seriesUrl_written, escape_append,
      escape_literal]
    simp only [List.append_assoc, literal_append, literal_end, String.reduceAppend]

private theorem series_html (posts : List Post) (detailed : Bool) :
    render (series posts detailed) = seriesHtml posts detailed :=
  table_html bare_nil (seriesEntry_html posts detailed) _ _

private theorem tagEntry_html (detailed : Bool) (tag : Text) (count : Nat) :
    (tagEntry detailed tag count).render = tagEntryHtml detailed tag count := by
  have aligned : escape ((Text.ofNat count).leftpad 3 ' ') = (Text.ofNat count).leftpad 3 ' ' :=
    ((bare_ofNat count).leftpad 3 rfl).escape
  unfold tagEntry tagEntryHtml
  cases detailed with
  | true =>
    simp (disch := exact bare_literal rfl rfl) only [↓reduceIte, render_div, joinSpaced,
      List.intersperse, render_cons, render_nil, render_text, render_span, render_commandLink,
      Page.tagUrl_written, escape_append, escape_literal, escape_space, aligned]
    simp only [List.append_assoc, List.append_nil, literal_append, literal_end,
      String.reduceAppend]
  | false =>
    simp (disch := exact bare_literal rfl rfl) only [Bool.false_eq_true, ↓reduceIte,
      render_commandLink, Page.tagUrl_written, escape_append, escape_literal]
    simp only [List.append_assoc, literal_append, String.reduceAppend]

private theorem tags_html (posts : List Post) (detailed : Bool) :
    render (tags posts detailed) = tagsHtml posts detailed :=
  table_html (bare_literal rfl rfl) (fun (tag, count) => tagEntry_html detailed tag count)
    _ _

private theorem notFound_html (path : Text) : render (notFound path).body = notFoundHtml path :=
  (render_single _).trans (error_html _)

private theorem sight_html (posts : List Post) (detailed : Bool) (shown : Sight) :
    render (sight posts detailed shown) = sightHtml posts detailed shown := by
  cases shown with
  | root => exact root_html posts detailed
  | posts | file _ | ofSeries _ | withTag _ => exact files_html _ detailed
  | archives => exact archives_html posts detailed
  | search => exact search_html detailed
  | series => exact series_html posts detailed
  | tags => exact tags_html posts detailed

/-- The template of `ls` spells out the markup of its answer. -/
theorem answer_html (posts : List Post) (detailed : Bool) (typed dir : Text) :
    render (answer posts detailed typed dir).body = answerHtml posts detailed typed dir := by
  rw [answer_sight, answerHtml]
  cases Sight.ofDirectory? posts dir with
  | none => exact notFound_html _
  | some shown => exact sight_html posts detailed shown

end Listing

/-! ## Trees -/

namespace TreeView

/-- The labels of the second forest are the written labels of the first. -/
inductive Written : List Entry → List HtmlEntry → Prop where
  | nil : Written [] []
  | cons {label : List Node} {children rest : List Entry} {below others : List HtmlEntry}
      (under : Written children below) (later : Written rest others) :
      Written (.node label children :: rest) (.node (render label) below :: others)

private theorem bare_connector (isLast : Bool) : Bare (Outline.connector isLast) := by
  cases isLast <;> exact bare_literal rfl rfl

private theorem bare_bar (isLast : Bool) : Bare (Outline.bar isLast) := by
  cases isLast <;> exact bare_literal rfl rfl

/-- As many nodes follow in both forests. -/
private theorem Written.isEmpty_eq {entries : List Entry} {written : List HtmlEntry}
    (same : Written entries written) : entries.isEmpty = written.isEmpty := by
  cases same <;> rfl

private theorem line_html (indent : Text) (bare : Bare indent) (isLast : Bool)
    (label : List Node) : (line (indent ++ Outline.connector isLast, label)).render =
      "<div><span class=\"term-tree-branch\">" ++ indent ++ Outline.connector isLast ++ "</span>" ++
        render label ++ "</div>" := by
  have leads : Bare (indent ++ Outline.connector isLast) := bare.append (bare_connector isLast)
  unfold line
  simp (disch := exact bare_literal rfl rfl) only [render_row, render_cons, render_span,
    leads.escape]
  simp only [List.append_assoc, literal_append, String.reduceAppend]

private theorem nodesHtml_cons (indent label : Text) (below others : List HtmlEntry) :
    nodesHtml indent (.node label below :: others) =
      "\n<div><span class=\"term-tree-branch\">" ++ indent ++ Outline.connector others.isEmpty ++
        "</span>" ++ label ++ "</div>" ++ nodesHtml (indent ++ Outline.bar others.isEmpty) below ++
        nodesHtml indent others := rfl

/-- The lines of a forest, with a text in front of each that holds connectors and bars alone. -/
private theorem nodes_html {entries : List Entry} {written : List HtmlEntry}
    (same : Written entries written) {indent : Text} (bare : Bare indent) :
    render (onNewLines ((Outline.forestLines indent entries).map line)) =
      nodesHtml indent written := by
  induction same generalizing indent with
  | nil => rfl
  | @cons label children rest below others under later belowHtml laterHtml =>
    have deeper : Bare (indent ++ Outline.bar rest.isEmpty) := bare.append (bare_bar _)
    rw [Outline.forestLines, Outline.lines, List.cons_append, List.map_cons, List.map_append,
      render_onNewLines_cons, render_onNewLines_append, belowHtml deeper, laterHtml bare,
      line_html indent bare, later.isEmpty_eq, nodesHtml_cons]
    simp only [List.append_assoc, literal_append, String.reduceAppend]

/-- A whole tree, when its labels, its root and its summary are written as its template says. -/
private theorem display_html {entries : List Entry} {written : List HtmlEntry}
    (same : Written entries written) {root summary : Text} {rootHtml : Text}
    (top : escape root = rootHtml) (bare : Bare summary) :
    render (display root entries summary) = displayHtml rootHtml written summary := by
  have lines := nodes_html same bare_nil
  unfold display displayHtml
  simp (disch := exact bare_literal rfl rfl) only [render_div, render_append, lines,
    render_onNewLines_append, render_onNewLines_cons, render_onNewLines_nil, render_single,
    render_newline, render_text, top, bare.escape]
  simp only [List.append_assoc, List.append_nil, literal_append, literal_end, String.reduceAppend]

private theorem Written.beside {entry : Entry} {written : HtmlEntry} {rest : List Entry}
    {others : List HtmlEntry} (first : Written [entry] [written]) (later : Written rest others) :
    Written (entry :: rest) (written :: others) := by
  cases first with
  | cons under _ => exact .cons under later

/-- Siblings made from a list, when each is written as its template says. -/
private theorem Written.map {β : Type} {entry : β → Entry} {write : β → HtmlEntry}
    (each : ∀ item, Written [entry item] [write item]) (items : List β) :
    Written (items.map entry) (items.map write) := by
  induction items with
  | nil => exact .nil
  | cons item rest ih => exact .beside (each item) ih

/-- A single node whose label is written as its template says. -/
private theorem Written.node {label : List Node} {written : Text} (spelt : render label = written)
    {children : List Entry} {below : List HtmlEntry} (under : Written children below) :
    Written [.node label children] [.node written below] :=
  spelt ▸ .cons under .nil

private theorem file_label (post : Post) : Written [file post] [fileHtml post] := by
  refine .node ?_ .nil
  simp (disch := exact bare_literal rfl rfl) only [render_single, render_link, render_text,
    Post.url_written, escape_append, escape_literal]
  simp only [List.append_assoc, literal_append, String.reduceAppend]

private theorem bare_counted (count : Nat) {one many : String} (single : Bare one)
    (several : Bare many) : Bare (counted count one many) := by
  refine ((bare_ofNat count).append (bare_literal rfl rfl)).append ?_
  split
  · exact single
  · exact several

private theorem files_html (posts : List Post) {root rootHtml : Text}
    (top : escape root = rootHtml) : render (files root posts) = filesHtml rootHtml posts :=
  display_html (Written.map file_label posts) top
    (Bare.append (bare_literal rfl rfl)
      (bare_counted _ (bare_literal rfl rfl) (bare_literal rfl rfl)))

private theorem seriesPosts_html (posts : List Post) (name : Text) :
    render (seriesPosts posts name) = seriesPostsHtml posts name := by
  refine files_html _ ?_
  rw [escape_append, escape_literal "/" (bare_literal rfl rfl)]

private theorem directory_label {name size : Text} (plain : Bare name) (bare : Bare size) :
    Written [directory name size] [directoryHtml name size] := by
  refine .node ?_ .nil
  simp (disch := exact bare_literal rfl rfl) only [render_cons, render_nil, render_text,
    render_button, render_note, escape_append, escape_literal, escape_space, plain.escape,
    bare.escape]
  simp only [List.append_assoc, List.append_nil, literal_append, literal_end, String.reduceAppend]

private theorem root_html (posts : List Post) : render (root posts) = rootHtml posts := by
  have files (count : Nat) : Bare (counted count "file" "files") :=
    bare_counted count (bare_literal rfl rfl) (bare_literal rfl rfl)
  have series : Bare (counted (Post.seriesNames posts).length "dir" "dirs") :=
    bare_counted _ (bare_literal rfl rfl) (bare_literal rfl rfl)
  have tags : Bare (counted (Post.allTags posts).length "item" "items") :=
    bare_counted _ (bare_literal rfl rfl) (bare_literal rfl rfl)
  have search : Written [.leaf [button "term-tree-file cursor-pointer" "cd search" "search"]]
      [.leaf ("<span class=\"term-tree-file cursor-pointer\" data-cmd=\"cd search\">search" ++
        "</span>")] := by
    refine .node ?_ .nil
    simp (disch := exact bare_literal rfl rfl) only [render_single, render_button,
      escape_literal]
    simp only [literal_end, String.reduceAppend]
  refine display_html ?_ (escape_literal _ (bare_literal rfl rfl))
    ((bare_literal rfl rfl).append (files _))
  refine .beside (directory_label ?_ (files _)) (.beside (directory_label ?_ (files _))
    (.beside search (.beside (directory_label ?_ series) (directory_label ?_ tags))))
  all_goals exact bare_literal rfl rfl

private theorem bare_summary (directories files : Nat) : Bare (summary directories files) := by
  refine ((bare_counted _ ?_ ?_).append ?_).append (bare_counted _ ?_ ?_)
  all_goals exact bare_literal rfl rfl

private theorem series_label (name : Text) (posts : List Post) :
    Written [seriesEntry name posts] [seriesEntryHtml name posts] := by
  refine .node ?_ (Written.map file_label _)
  simp (disch := exact bare_literal rfl rfl) only [render_single, render_link, render_text,
    Page.seriesUrl_written, escape_append, escape_literal]
  simp only [List.append_assoc, literal_append, literal_end, String.reduceAppend]

private theorem series_html (posts : List Post) : render (series posts) = seriesHtml posts :=
  display_html (Written.map (fun (name, posts) => series_label name posts) _)
    (escape_literal _ (bare_literal rfl rfl)) (bare_summary _ _)

private theorem tag_label (tag : Text) (count : Nat) :
    Written [tagEntry tag count] [tagEntryHtml tag count] := by
  refine .node ?_ .nil
  simp (disch := exact bare_literal rfl rfl) only [render_cons, render_nil, render_link,
    render_text, render_note, Page.tagUrl_written, escape_append, escape_literal, escape_space,
    escape_ofNat]
  simp only [List.append_assoc, List.append_nil, literal_append, literal_end, String.reduceAppend]

private theorem tags_html (posts : List Post) : render (tags posts) = tagsHtml posts := by
  refine display_html (Written.map (fun (tag, count) => tag_label tag count) _)
    (escape_literal _ ?_) (Bare.append ?_ (bare_counted _ ?_ ?_))
  all_goals exact bare_literal rfl rfl

private theorem year_label (year : Option Int) (posts : List Post) :
    Written [yearEntry year posts] [yearEntryHtml year posts] := by
  refine .node ?_ (Written.map file_label _)
  simp (disch := exact bare_literal rfl rfl) only [render_single, render_span,
    escape_append, escape_literal, (Listing.bare_yearName year).escape]
  simp only [List.append_assoc, literal_end, String.reduceAppend]

private theorem archives_html (posts : List Post) : render (archives posts) = archivesHtml posts :=
  display_html (Written.map (fun (year, posts) => year_label year posts) _)
    (escape_literal _ (bare_literal rfl rfl)) (bare_summary _ _)

private theorem search_html : render search = searchHtml := by
  refine display_html (.node ?_ .nil) (escape_literal _ ?_) ?_
  · simp (disch := exact bare_literal rfl rfl) only [render_single, render_span,
      escape_literal]
    simp only [literal_end, String.reduceAppend]
  all_goals exact bare_literal rfl rfl

private theorem sight_html (posts : List Post) (shown : Sight) :
    render (sight posts shown) = sightHtml posts shown := by
  have top : escape "posts/" = "posts/".toList :=
    escape_literal _ (bare_literal rfl rfl)
  cases shown with
  | root => exact root_html posts
  | posts | file _ => exact files_html _ top
  | archives => exact archives_html posts
  | search => exact search_html
  | series => exact series_html posts
  | tags => exact tags_html posts
  | ofSeries name => exact seriesPosts_html posts name
  | withTag name =>
    refine files_html _ ?_
    rw [escape_append, escape_append, escape_literal "#" (bare_literal rfl rfl),
      escape_literal "/" (bare_literal rfl rfl)]

private theorem notFound_html (typed : Text) :
    render (notFound typed).body = notFoundHtml typed :=
  (render_single _).trans (error_html _)

/-- The template of `tree` spells out the markup of its answer. -/
theorem answer_html (posts : List Post) (typed dir : Text) :
    render (answer posts typed dir).body = answerHtml posts typed dir := by
  rw [answer_sight, answerHtml]
  cases Sight.ofDirectory? posts dir with
  | none => exact notFound_html _
  | some shown => exact sight_html posts shown

end TreeView

end BlogTerminal
