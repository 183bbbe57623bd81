import BlogTerminal.Proofs.Command.DirectoryHtml
import BlogTerminal.Proofs.Markup.Highlight
import BlogTerminal.Terminal.Run

/-!
Every output is written in the language of output, whatever the posts, the profile and the command
line hold: the template of each command puts together what the markup of its answer is written as.
-/

namespace BlogTerminal

open Markup

variable {α : Type}

namespace Markup

/-- A part on a line of its own that may be missing. -/
private theorem render_part (missing : Bool) (node : Node) :
    render (onNewLines (if missing then [] else [node])) =
      partHtml missing ("\n" ++ node.render) := by
  cases missing with
  | true => rfl
  | false =>
    rw [if_neg Bool.false_ne_true, render_onNewLines_cons, render_onNewLines_nil, List.append_nil]
    rfl

private theorem render_p {classes : Text} (bare : Bare classes) (children : List Node) :
    (styled .p classes children).render =
      "<p class=\"" ++ classes ++ "\">" ++ render children ++ "</p>" := by
  rw [render_styled _ bare, Tag.closing, Tag.name]
  simp only [List.append_assoc, literal_end, String.reduceAppend]

private theorem newline_literal : ['\n'] = "\n".toList := rfl

end Markup

/-! ## Posts and searches -/

namespace Preview

private theorem rule_html {classes : Text} (bare : Bare classes) : (rule classes).render =
    "<div class=\"" ++ classes ++ "\"><span class=\"text-term-fg-dark\">---</span></div>" := by
  unfold rule
  simp (disch := exact bare_literal rfl rfl) only [render_div bare, render_single,
    render_span, escape_literal]
  simp only [List.append_assoc, literal_end, String.reduceAppend]

private theorem tag_html (tag : Text) : (tagLink tag).render = tagHtml tag := by
  unfold tagLink tagHtml
  simp (disch := exact bare_literal rfl rfl) only [render_link, render_single, render_text,
    Page.tagUrl_written, escape_append, escape_literal]
  simp only [List.append_assoc, literal_append, String.reduceAppend]

private theorem facts_html (post : Post) : render (facts post) =
    "<span class=\"text-term-yellow\">" ++ dateHtml post.date ++ "</span>" ++
      post.series.elim [] seriesHtml := by
  unfold facts
  cases post.series with
  | none =>
    simp (disch := exact bare_literal rfl rfl) only [render_single, render_span, date_html]
    simp only [List.append_assoc, List.append_nil, literal_end, String.reduceAppend,
      Option.elim_none]
  | some series =>
    simp (disch := exact bare_literal rfl rfl) only [render_cons, render_nil, render_span,
      date_html, escape_literal, Option.elim_some]
    unfold seriesHtml
    simp only [List.append_assoc, List.append_nil, literal_append, literal_end,
      String.reduceAppend]

private theorem details_html (post : Post) :
    render (onNewLines (details post)) = detailsHtml post := by
  unfold details detailsHtml
  rw [render_onNewLines_append, render_onNewLines_append, render_part, render_part, render_part]
  simp (disch := exact bare_literal rfl rfl) only [render_p, render_div, render_single,
    render_text, render_joinSpaced, List.map_map, Function.comp_def, tag_html]
  simp only [List.append_assoc, literal_append, literal_end, String.reduceAppend]

private theorem card_html (post : Post) : render (card post) = cardHtml post := by
  unfold card cardHtml
  simp (disch := exact bare_literal rfl rfl) only [render_single, render_div, render_append,
    render_onNewLines_append, render_onNewLines_cons, render_onNewLines_nil, rule_html,
    render_link, render_text, facts_html, details_html, Post.url_written, escape_append,
    escape_literal, render_newline]
  simp only [List.append_assoc, List.append_nil, literal_append, literal_end, String.reduceAppend]

private theorem execute_html (context : Context α) :
    render (execute context).body = html context := by
  unfold execute html
  cases context.arguments with
  | nil => exact failure_html _
  | cons requested rest =>
    dsimp only
    cases find? context.posts requested with
    | none => exact failure_html _
    | some post => exact card_html post

end Preview

namespace Grep

private theorem tag_html (ignoreCase : Bool) (pattern name : Text) :
    (tag ignoreCase pattern name).render = tagHtml ignoreCase pattern name := by
  have bare : Bare (if Post.mentions ignoreCase pattern name then "term-grep-match".toList
      else "text-term-green".toList) := by
    split <;> exact bare_literal rfl rfl
  unfold tag tagHtml
  simp (disch := exact bare_literal rfl rfl) only [render_span bare, escape_append,
    escape_literal]
  simp only [List.append_assoc, literal_append, String.reduceAppend]

private theorem entry_html (ignoreCase : Bool) (pattern : Text) (post : Post) :
    (entry ignoreCase pattern post).render = entryHtml ignoreCase pattern post := by
  unfold entry entryHtml
  simp (disch := exact bare_literal rfl rfl) only [render_div, render_append,
    render_onNewLines_append, render_onNewLines_cons, render_onNewLines_nil, render_part,
    render_cons, render_nil, render_span, render_link, render_newline, render_joinSpaced,
    List.map_map, Function.comp_def, tag_html, render_highlight, Post.url_written, escape_append,
    escape_literal]
  simp only [List.append_assoc, List.append_nil, literal_append, literal_end, String.reduceAppend]

private theorem heading_html (count : Nat) (pattern : Text) :
    (heading count pattern).render = "<div class=\"text-term-fg-dark text-sm mb-3\">" ++
      Text.ofNat count ++ " match" ++ (if count = 1 then "".toList else "es".toList) ++ " for '" ++
      escape pattern ++ "'</div>" := by
  have quote : (Node.prose ['\'']).render = "'".toList := rfl
  have noun : escape (if count = 1 then "match".toList else "matches".toList) =
      "match".toList ++ if count = 1 then "".toList else "es".toList := by
    split <;> rw [escape_literal _ (bare_literal rfl rfl)] <;> rfl
  unfold heading
  simp (disch := exact bare_literal rfl rfl) only [render_div, render_cons, render_nil,
    render_text, quote, noun, escape_append, escape_literal, escape_ofNat]
  simp only [List.append_assoc, List.append_nil, literal_append, literal_end, String.reduceAppend]

private theorem found_html (ignoreCase : Bool) (pattern : Text) (posts : List Post) :
    render (found ignoreCase pattern posts) = foundHtml ignoreCase pattern posts := by
  have entries := onNewLines_html (entry_html ignoreCase pattern) posts
  unfold found foundHtml
  simp (disch := exact bare_literal rfl rfl) only [render_cons, render_nil, render_div,
    render_append, entries, render_newline, heading_html]
  simp only [List.append_assoc, List.append_nil, literal_append, literal_end, String.reduceAppend]

private theorem execute_html (context : Context α) :
    render (execute context).body = html context := by
  unfold execute html
  extract_lets pattern ignoreCase
  split
  · simp only [Result.failed, render_cons, render_nil, error_html, hint_html, render_newline,
      List.append_nil, List.append_assoc]
  · cases Post.search ignoreCase pattern context.posts with
    | nil => exact failure_html _
    | cons post rest => exact found_html ignoreCase pattern _

end Grep

namespace Find

private theorem entry_html (post : Post) : "\n" ++ (entry post).render = entryHtml post := by
  unfold entry entryHtml
  simp (disch := exact bare_literal rfl rfl) only [render_row, render_cons, render_nil,
    render_span, render_link, render_text, Post.url_written, escape_append, escape_literal]
  simp only [List.append_assoc, List.append_nil, literal_append, literal_end, String.reduceAppend]

private theorem found_html (posts : List Post) : render (found posts) = foundHtml posts := by
  have entries : render (onNewLines (posts.map entry)) = posts.flatMap entryHtml := by
    rw [render_onNewLines, List.flatMap_map]
    exact List.flatMap_congr fun post _ => entry_html post
  unfold found foundHtml
  simp (disch := exact bare_literal rfl rfl) only [render_cons, render_nil, render_div,
    render_append, render_text, render_newline, entries, escape_append, escape_literal,
    escape_ofNat]
  simp only [List.append_assoc, List.append_nil, literal_append, literal_end, String.reduceAppend]

private theorem execute_html (context : Context α) :
    render (execute context).body = html context := by
  unfold execute html
  extract_lets pattern
  split
  · exact found_html _
  · cases Post.search true pattern context.posts with
    | nil => exact failure_html _
    | cons post rest => exact found_html _

end Find

/-! ## Help -/

namespace Manual

private theorem entry_html (command : Command α) : (entry command).render = entryHtml command := by
  unfold entry entryHtml
  cases command.aliases.isEmpty with
  | true =>
    simp (disch := exact bare_literal rfl rfl) only [↓reduceIte, render_div, render_cons,
      render_nil, render_span, render_styled, render_text, Tag.name, Tag.closing]
    simp only [partHtml, ↓reduceIte, List.append_assoc, List.append_nil, literal_append,
      literal_end, String.reduceAppend]
  | false =>
    simp (disch := exact bare_literal rfl rfl) only [Bool.false_eq_true, ↓reduceIte,
      render_div, render_cons, render_nil, render_span, render_styled, render_text, Tag.name,
      Tag.closing, escape_append, escape_literal, escape_space]
    simp only [partHtml, Bool.false_eq_true, ↓reduceIte, List.append_assoc, List.append_nil,
      literal_append, literal_end, String.reduceAppend]

private theorem tip_html (key purpose : Text) : (tip key purpose).render =
    "<div>• Use <span class=\"text-term-yellow\">" ++ escape key ++ "</span> " ++ escape purpose ++
      "</div>" := by
  unfold tip
  simp (disch := exact bare_literal rfl rfl) only [render_row, render_cons, render_nil,
    render_text, render_span, escape_append, escape_literal]
  simp only [List.append_assoc, List.append_nil, literal_append, literal_end, String.reduceAppend]

/-- The tips line by line, which keeps the literals short that have to be compared. -/
private theorem tipLines_html :
    [row [.text "Tips:"], tip "help <command>" "for detailed help on a specific command",
      tip "Tab" "for auto-completion", tip "↑/↓" "to navigate command history",
      tip "Ctrl+L" "to clear screen",
      row [.text "• Click on any file/directory to interact with it"]].map Node.render =
        tipLinesHtml := by
  have bracketed : escape "help <command>" = "help &lt;command&gt;".toList := by decide +kernel
  unfold tipLinesHtml
  simp (disch := exact bare_literal rfl rfl) only [List.map_cons, List.map_nil, tip_html,
    render_row, render_cons, render_nil, render_text, bracketed, escape_literal]
  simp only [List.append_nil, literal_end, String.reduceAppend]

private theorem tips_html : tips.render = tipsHtml := by
  unfold tips tipsHtml
  simp (disch := exact bare_literal rfl rfl) only [render_div, render_append, render_cons,
    render_nil, render_joinLines, tipLines_html, render_newline]
  simp only [List.append_assoc, List.append_nil, literal_append, literal_end, String.reduceAppend]

private theorem overview_html (registry : Registry α) :
    render (overview registry) = overviewHtml registry := by
  unfold overview overviewHtml
  have entries : registry.list.map (Node.render ∘ entry) = registry.list.map entryHtml :=
    List.map_congr_left fun command _ => entry_html command
  simp (disch := exact bare_literal rfl rfl) only [render_div, render_append, render_cons,
    render_nil, render_newline, render_joinLines, List.map_cons, List.map_nil, List.map_map,
    entries, tips_html, render_text, escape_literal, List.intercalate_cons_cons,
    List.intercalate_singleton]
  simp only [newline_literal, List.append_assoc, List.append_nil, literal_append, literal_end,
    String.reduceAppend]

private theorem fact_html {label classes : Text} (plain : Bare label) (bare : Bare classes)
    (content : Text) : (fact label classes content).render =
      "<div><span class=\"text-term-fg-dark\">" ++ label ++ "</span> <span class=\"" ++ classes ++
        "\">" ++ escape content ++ "</span></div>" := by
  unfold fact
  simp (disch := exact bare_literal rfl rfl) only [render_row, render_cons, render_nil,
    render_text, render_span bare, render_span, plain.escape, escape_space]
  simp only [List.append_assoc, List.append_nil, literal_append, literal_end, String.reduceAppend]

private theorem details_html (command : Command α) :
    render (details command) = detailsHtml command := by
  unfold details detailsHtml
  cases command.usage with
  | none =>
    simp (disch := exact bare_literal rfl rfl) only [render_div, render_append,
      render_onNewLines_append, render_onNewLines_cons, render_onNewLines_nil, render_part,
      render_row, render_cons, render_nil, render_span, render_text, render_newline, fact_html,
      escape_append, escape_literal, Option.elim_none]
    simp only [List.append_assoc, List.append_nil, literal_append, literal_end,
      String.reduceAppend]
  | some usage =>
    simp (disch := exact bare_literal rfl rfl) only [render_div, render_append,
      render_onNewLines_append, render_onNewLines_cons, render_onNewLines_nil, render_part,
      render_row, render_cons, render_nil, render_span, render_text, render_newline, fact_html,
      escape_append, escape_literal, Option.elim_some]
    unfold usageHtml
    simp only [List.append_assoc, List.append_nil, literal_append, literal_end,
      String.reduceAppend]

private theorem execute_html (context : Context α) :
    render (execute context).body = html context := by
  unfold execute html
  cases context.arguments with
  | nil => exact overview_html _
  | cons name rest =>
    dsimp only
    unfold about aboutHtml
    cases context.registry.get? name.lower with
    | some command => exact details_html command
    | none =>
      simp only [Result.failed, render_cons, render_nil, error_html, hint_html, render_newline,
        List.append_nil, List.append_assoc]

end Manual

/-! ## Navigation -/

namespace Navigation

private theorem goTo_html (url message : Text) :
    render (goTo url message).body = hintHtml message :=
  (render_single _).trans (hint_html message)

private theorem parent_silent (path : Text) : (toParent path).body = [] := by
  unfold toParent
  extract_lets dir
  split
  · rfl
  · split <;> rfl

private theorem series_html (posts : List Post) (typed name : Text) :
    render (((Post.findSeries? posts name).map toSeries).getD (notFound typed)).body =
      ((Post.findSeries? posts name).map seriesHtml).getD (notFoundHtml typed) := by
  cases Post.findSeries? posts name with
  | none => exact failure_html _
  | some series => exact goTo_html _ _

private theorem directory_html (posts : List Post) (typed dir : Text) :
    render (toDirectory posts typed dir).body = directoryHtml posts typed dir := by
  unfold toDirectory directoryHtml
  cases Page.ofDirectory? dir with
  | none => exact series_html posts typed dir
  | some page =>
    cases page with
    | root => rfl
    | archives | search | posts | series | tags => exact goTo_html _ _
    | post slug => exact failure_html _
    | seriesItem name => exact series_html posts typed name
    | tagItem name =>
      dsimp only
      cases Post.findTag? posts name with
      | none => exact failure_html _
      | some tag => exact goTo_html _ _

/-- The template of `cd` spells out the markup of its answer. -/
theorem answer_html (posts : List Post) (typed path : Text) :
    render (answer posts typed path).body = answerHtml posts typed path := by
  unfold answer answerHtml
  extract_lets token dir
  by_cases home : token = "~" ∨ token = []
  · rw [if_pos home, if_pos home]
    rfl
  · rw [if_neg home, if_neg home]
    by_cases up : token = ".."
    · rw [if_pos up, if_pos up, parent_silent]
      rfl
    · rw [if_neg up, if_neg up]
      cases Post.find? posts (slugIn dir) with
      | none => exact directory_html posts typed dir
      | some post => exact goTo_html _ _

end Navigation

/-! ## Themes and identity -/

namespace Appearance

private theorem bare_theme (theme : Theme) : Bare theme.name := by
  cases theme <;> exact bare_literal rfl rfl

private theorem choice_html (theme : Theme) :
    (button "text-term-green cursor-pointer hover:underline" ("theme " ++ theme.name)
      theme.name).render = choiceHtml theme := by
  unfold choiceHtml
  simp (disch := exact bare_literal rfl rfl) only [render_button, escape_append,
    escape_literal, (bare_theme theme).escape]
  simp only [List.append_assoc, literal_append, String.reduceAppend]

private theorem current_html (name : Text) : render (current name) = currentHtml name := by
  have choices : (Theme.all.map fun theme =>
      button "text-term-green cursor-pointer hover:underline" ("theme " ++ theme.name)
        theme.name).map Node.render = Theme.all.map choiceHtml := by
    rw [List.map_map]
    exact List.map_congr_left fun theme _ => choice_html theme
  unfold current currentHtml
  simp (disch := exact bare_literal rfl rfl) only [render_cons, render_nil, render_div,
    render_row, render_span, render_text, render_newline, render_joinSpaced, choices,
    escape_literal]
  simp only [List.append_assoc, List.append_nil, literal_append, literal_end, String.reduceAppend]

private theorem switch_html (theme : Theme) :
    render (switchTo theme).body = switchHtml theme := by
  cases theme <;> decide +kernel

private theorem unknown_html (name : Text) : render (unknown name).body = unknownHtml name := by
  have names : escape (", ".toList.intercalate (Theme.all.map Theme.name)) =
      ", ".toList.intercalate (Theme.all.map Theme.name) := by decide +kernel
  unfold unknown unknownHtml
  simp (disch := exact bare_literal rfl rfl) only [Result.failed, render_cons, render_nil,
    render_div, render_text, render_newline, error_html, names, escape_append, escape_literal]
  simp only [List.append_assoc, List.append_nil, literal_append, literal_end, String.reduceAppend]

private theorem execute_html (context : Context α) :
    render (execute context).body = html context := by
  unfold execute html
  cases context.arguments with
  | nil => exact current_html _
  | cons typed rest =>
    dsimp only
    cases Theme.ofName? typed with
    | none => exact unknown_html _
    | some theme => exact switch_html theme

end Appearance

namespace Identity

private theorem blue_html (text : Text) : (span "text-term-blue" text).render = blueHtml text := by
  unfold blueHtml
  simp (disch := exact bare_literal rfl rfl) only [render_span]
  simp only [literal_end, String.reduceAppend]

private theorem userAtHost_html (profile : Profile) {classes : Text} (bare : Bare classes) :
    render (userAtHost profile classes) = userAtHostHtml profile classes := by
  have at_sign : escape ['@'] = "@".toList := by decide
  unfold userAtHost userAtHostHtml
  simp (disch := exact bare_literal rfl rfl) only [render_cons, render_nil,
    render_span bare, render_span, render_text, at_sign]
  simp only [List.append_assoc, List.append_nil, literal_append, literal_end, String.reduceAppend]

private theorem plain_html (text : Text) : (span "text-term-fg" text).render =
    "<span class=\"text-term-fg\">" ++ escape text ++ "</span>" := by
  simp (disch := exact bare_literal rfl rfl) only [render_span]
  simp only [literal_end, String.reduceAppend]

private theorem echoed_html (context : Context α) : (echoed context).render = echoHtml context := by
  unfold echoed echoHtml
  extract_lets text
  split_ifs with user directory home shell
  · simp (disch := exact bare_literal rfl rfl) only [render_span]
    simp only [literal_end, String.reduceAppend]
  · exact blue_html _
  · exact blue_html _
  · exact plain_html _
  · exact plain_html _

private theorem clock_html (clock : Clock) :
    (span "text-term-yellow" clock.toText).render = clockHtml clock := by
  unfold clockHtml
  simp (disch := exact bare_literal rfl rfl) only [render_span, (bare_clock clock).escape]
  simp only [literal_end, String.reduceAppend]

private theorem fact_html {label : Text} (plain : Bare label) (value : Text) :
    (fact label value).render = factHtml label value := by
  unfold fact factHtml
  simp (disch := exact bare_literal rfl rfl) only [render_row, render_cons, render_nil,
    render_span, render_text, escape_append, escape_literal, plain.escape, escape_space]
  simp only [List.append_assoc, List.append_nil, literal_append, literal_end, String.reduceAppend]

private theorem system_html (context : Context α) :
    render (neofetch context).body = systemHtml context := by
  have top : render (userAtHost context.profile "text-term-cyan") =
      userAtHostHtml context.profile "text-term-cyan" :=
    userAtHost_html _ (bare_literal rfl rfl)
  have picture : (styled .pre "text-term-cyan text-xs leading-tight" [.text logo]).render =
      "<pre class=\"text-term-cyan text-xs leading-tight\">" ++ escape logo ++ "</pre>" := by
    simp (disch := exact bare_literal rfl rfl) only [render_styled, render_cons, render_nil,
      render_text, Tag.name, Tag.closing]
    simp only [List.append_assoc, List.append_nil, literal_end, String.reduceAppend]
  unfold neofetch systemHtml facts
  simp (disch := exact bare_literal rfl rfl) only [render_cons, render_nil, render_div,
    render_append, render_onNewLines_cons, render_onNewLines_nil, render_row, render_text,
    render_newline, top, picture, fact_html, escape_literal, List.intercalate_cons_cons,
    List.intercalate_singleton]
  simp only [newline_literal, List.append_assoc, List.append_nil, literal_append, literal_end,
    String.reduceAppend]

end Identity

/-! ## All commands -/

namespace History

private theorem entry_html (number : Nat) (line : Text) :
    "\n" ++ (entry number line).render = entryHtml number line := by
  have aligned : escape ((Text.ofNat number).leftpad 4 ' ') = (Text.ofNat number).leftpad 4 ' ' :=
    ((bare_ofNat number).leftpad 4 rfl).escape
  unfold entry entryHtml
  simp (disch := exact bare_literal rfl rfl) only [render_row, render_cons, render_nil,
    render_span, render_text, escape_literal, aligned]
  simp only [List.append_assoc, List.append_nil, literal_append, literal_end, String.reduceAppend]

/-- The template of the history spells out the markup of its listing. -/
theorem listing_html (history : List Text) : render (listing history) = html history := by
  unfold listing html
  split
  · exact (render_single _).trans (hint_html _)
  · extract_lets hidden entries written
    have lines : render (onNewLines entries) = written.flatten := by
      rw [render_onNewLines, List.flatMap_def]
      refine congrArg List.flatten ?_
      simp only [entries, written, List.mapIdx_eq_zipIdx_map, List.map_map]
      exact List.map_congr_left fun (line, index) _ => entry_html (hidden + index + 1) line
    simp (disch := exact bare_literal rfl rfl) only [render_single, render_div,
      render_append, lines, render_newline]
    simp only [List.append_assoc, literal_end, String.reduceAppend]

end History

/-- The template of each command spells out the markup of its answer. -/
theorem Builtin.execute_html (builtin : Builtin) (context : Context α) :
    render (builtin.execute context).body = builtin.html context := by
  cases builtin with
  | ls => exact Listing.answer_html _ _ _ _
  | cd => exact Navigation.answer_html _ _ _
  | cat => exact Preview.execute_html context
  | grep => exact Grep.execute_html context
  | tree => exact TreeView.answer_html _ _ _
  | find => exact Find.execute_html context
  | help => exact Manual.execute_html context
  | theme => exact Appearance.execute_html context
  | history | exit | editor => exact (render_single _).trans (hint_html _)
  | pwd => exact (render_single _).trans (Identity.blue_html _)
  | whoami => exact Identity.userAtHost_html _ (bare_literal rfl rfl)
  | date => exact (render_single _).trans (Identity.clock_html _)
  | echo => exact (render_single _).trans (Identity.echoed_html context)
  | clear => rfl
  | superuser | rm => exact failure_html _
  | neofetch => exact Identity.system_html context

/-- The template for a command that is not there spells out the markup of the answer. -/
theorem Call.unknown_html (call : Call) :
    render (Terminal.unknownCommand call.name).body = call.unknownHtml := by
  unfold Terminal.unknownCommand Call.unknownHtml
  simp only [Result.failed, render_cons, render_nil, error_html, hint_html, render_newline,
    List.append_nil, List.append_assoc]

/-- Every output is written in the language of output, with every field of every template filled
with any text: that of each command on each line, the answer to a command that is not there, and the
history that the terminal lists itself. What is put together there is what the answers are written
as. -/
theorem output_is_markup (builtin : Builtin) (context : Context Builtin) (line : Text)
    (history : List Text) :
    let call := Call.ofLine line
    let called := context.withCall call
    (IsMarkup (builtin.html called) ∧
        builtin.html called = render (builtin.execute called).body) ∧
      (IsMarkup call.unknownHtml ∧
        call.unknownHtml = render (Terminal.unknownCommand call.name).body) ∧
      (IsMarkup (History.html history) ∧
        History.html history = render (History.listing history)) := by
  intro call called
  rw [← builtin.execute_html called, ← call.unknown_html, ← History.listing_html]
  exact ⟨⟨render_markup _, rfl⟩, ⟨render_markup _, rfl⟩, ⟨render_markup _, rfl⟩⟩

end BlogTerminal
