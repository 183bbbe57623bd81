import BlogTerminal.Command.Html
import BlogTerminal.Proofs.Markup.Language
import Mathlib.Data.List.Basic

/-!
Templates. A template is a text with fixed markup and fields; here the building blocks of output are
shown to be written as the templates say, piece by piece. A field that a template does not escape
must hold no character that is written as an entity, which is shown of counts, years, dates and the
clock.
-/

namespace BlogTerminal

namespace Markup

variable {text more classes line content url : Text} {children : List Node}

/-! ## Texts that need no escape -/

/-- No character of the text is written as an entity. -/
def Bare (text : Text) : Prop := ∀ c ∈ text, escapeChar c = [c]

/-- A text without such characters is its own escaped form. -/
theorem Bare.escape (bare : Bare text) : escape text = text := by
  induction text with
  | nil => rfl
  | cons c rest ih =>
    obtain ⟨first, later⟩ := List.forall_mem_cons.mp bare
    rw [escape_cons, first, ih later, List.singleton_append]

/-- Texts without such characters are joined to one. -/
theorem Bare.append (bare : Bare text) (others : Bare more) : Bare (text ++ more) :=
  List.forall_mem_append.mpr ⟨bare, others⟩

theorem bare_nil : Bare [] := fun _ member => absurd member List.not_mem_nil

/-- A literal is bare when the characters that it spells are. They are compared one by one, which is
much less work than to read the literal back. -/
theorem bare_literal {text : String} {chars : List Char} (spelt : text = String.ofList chars)
    (bare : chars.all (fun c => escapeChar c = [c]) = true) : Bare text := by
  rw [spelt, String.toList_ofList]
  exact fun c member => of_decide_eq_true (List.all_eq_true.mp bare c member)

private theorem bare_digit {c : Char} (digit : c.isDigit = true) : escapeChar c = [c] := by
  unfold escapeChar
  split_ifs with amp less greater quote apostrophe
  · subst amp; cases digit
  · subst less; cases digit
  · subst greater; cases digit
  · subst quote; cases digit
  · subst apostrophe; cases digit
  · rfl

/-- The digits of a number need no escape. -/
theorem bare_ofNat (n : Nat) : Bare (Text.ofNat n) := fun _ digit =>
  bare_digit (Nat.isDigit_of_mem_toDigits (by decide) (by decide) digit)

/-- To fill a text up to a width adds the filling character alone. -/
theorem Bare.leftpad (bare : Bare text) (width : Nat) {fill : Char}
    (fills : escapeChar fill = [fill]) : Bare (text.leftpad width fill) := by
  refine Bare.append (fun c member => ?_) bare
  rw [List.eq_of_mem_replicate member]
  exact fills

/-- A number with its sign needs no escape. -/
theorem bare_ofInt (n : Int) : Bare (Text.ofInt n) := by
  unfold Text.ofInt
  split
  · exact List.forall_mem_cons.mpr ⟨rfl, bare_ofNat _⟩
  · exact bare_ofNat _

private theorem bare_zeroPadded (width n : Nat) : Bare (Text.zeroPadded width n) :=
  (bare_ofNat n).leftpad width rfl

private theorem bare_yearText (year : Int) : Bare (Date.yearText year) := by
  unfold Date.yearText
  split
  · exact List.forall_mem_cons.mpr ⟨rfl, bare_zeroPadded _ _⟩
  · split
    · exact bare_zeroPadded _ _
    · exact List.forall_mem_cons.mpr ⟨rfl, bare_zeroPadded _ _⟩

private theorem bare_monthName (month : Nat) : Bare (Date.monthName month) := by
  unfold Date.monthName
  split <;> exact bare_literal rfl rfl

private theorem bare_weekdayName (date : Date) : Bare date.weekdayName := by
  unfold Date.weekdayName
  split <;> exact bare_literal rfl rfl

private theorem bare_space : Bare " " := bare_literal rfl rfl

private theorem bare_listed (date : Date) : Bare date.listed :=
  ((((bare_monthName _).append bare_space).append ((bare_ofNat _).leftpad 2 rfl)).append
    bare_space).append (bare_yearText _)

/-- A date that could be read is written without special characters, and any other is escaped. -/
theorem date_html (date : Text) : escape (Post.listedDate date) = dateHtml date := by
  unfold Post.listedDate dateHtml
  cases Moment.ofText? date with
  | some moment => exact (bare_listed _).escape
  | none => rfl

private theorem bare_clockFace (moment : Moment) : Bare moment.clockFace := by
  have colon : Bare ":" := bare_literal rfl rfl
  exact ((((bare_zeroPadded _ _).append colon).append (bare_zeroPadded _ _)).append colon).append
    (bare_zeroPadded _ _)

/-- The reading of the clock has no special characters. -/
theorem bare_clock (clock : Clock) : Bare clock.toText := by
  have zone : Bare " GMT" := bare_literal rfl rfl
  have sign : Bare (if clock.offset < 0 then ['-'] else ['+']) := by
    split <;> exact List.forall_mem_singleton.mpr rfl
  unfold Clock.toText
  exact ((((((((((bare_weekdayName _).append bare_space).append (bare_monthName _)).append
    bare_space).append (bare_zeroPadded _ _)).append bare_space).append (bare_yearText _)).append
    bare_space).append (bare_clockFace _)).append zone).append sign |>.append
    (bare_zeroPadded _ _) |>.append (bare_zeroPadded _ _)

/-! ## Fields -/

/-- Two fields beside each other are escaped one by one. -/
theorem escape_append (text more : Text) :
    escape (text ++ more) = escape text ++ escape more :=
  List.flatMap_append

/-- A literal without special characters is its own escaped form. -/
theorem escape_literal (text : String) (bare : Bare text) :
    escape text.toList = text.toList := bare.escape

/-- A number is its own escaped form. -/
theorem escape_ofNat (n : Nat) : escape (Text.ofNat n) = Text.ofNat n :=
  (bare_ofNat n).escape

theorem escape_space : escape [' '] = " ".toList := rfl

/-! ## Fixed markup -/

/-- Two literals in a row are one. -/
theorem literal_append (first second : String) (rest : Text) :
    first.toList ++ (second.toList ++ rest) = (first ++ second).toList ++ rest := by
  rw [String.toList_append, List.append_assoc]

/-- Two literals at the end of a text are one. -/
theorem literal_end (first second : String) :
    first.toList ++ second.toList = (first ++ second).toList := String.toList_append.symm

theorem render_nil : render [] = [] := rfl

/-- A forest is written node by node. -/
theorem render_cons (node : Node) (rest : List Node) :
    render (node :: rest) = node.render ++ render rest := rfl

/-- Text is written with its special characters as entities. -/
theorem render_text : (Node.text content).render = escape content := rfl

theorem render_newline : newline.render = "\n".toList := rfl

private theorem render_style (bare : Bare classes) :
    (Attribute.style classes).render = " class=\"" ++ classes ++ "\"" := by
  rw [Attribute.render, Attribute.value, bare.escape]
  rfl

private theorem render_href :
    (Attribute.href url).render = " href=\"" ++ escape url ++ "\"" := rfl

private theorem render_command :
    (Attribute.command line).render = " data-cmd=\"" ++ escape line ++ "\"" := rfl

/-- An element with fixed style classes. -/
theorem render_styled (tag : Tag) (bare : Bare classes) :
    (styled tag classes children).render =
      "<" ++ tag.name ++ " class=\"" ++ classes ++ "\">" ++ render children ++ tag.closing := by
  rw [styled, Node.render, Tag.opening, List.flatMap_singleton, render_style bare]
  simp only [List.append_assoc, literal_end, String.reduceAppend]

/-- The template of a styled `div`. -/
theorem render_div (bare : Bare classes) : (div classes children).render =
    "<div class=\"" ++ classes ++ "\">" ++ render children ++ "</div>" := by
  rw [div, render_styled _ bare, Tag.closing, Tag.name]
  simp only [List.append_assoc, literal_end, String.reduceAppend]

/-- The template of a styled span of text. -/
theorem render_span (bare : Bare classes) : (span classes content).render =
    "<span class=\"" ++ classes ++ "\">" ++ escape content ++ "</span>" := by
  rw [span, render_styled _ bare, render_cons, render_nil, render_text, Tag.closing, Tag.name]
  simp only [List.append_assoc, List.append_nil, literal_end, String.reduceAppend]

/-- The template of a `div` without style. -/
theorem render_row : (row children).render = "<div>" ++ render children ++ "</div>" := by
  rw [row, Node.render]
  rfl

/-- The template of a link. -/
theorem render_link (bare : Bare classes) : (link url classes children).render =
    "<a href=\"" ++ escape url ++ "\" class=\"" ++ classes ++ "\">" ++ render children ++
      "</a>" := by
  rw [link, Node.render, Tag.opening, List.flatMap_cons, List.flatMap_singleton, render_style bare,
    render_href, Tag.closing, Tag.name]
  simp only [List.append_assoc, literal_append, literal_end, String.reduceAppend]

/-- The template of a span that runs a command. -/
theorem render_button (bare : Bare classes) : (button classes line content).render =
    "<span class=\"" ++ classes ++ "\" data-cmd=\"" ++ escape line ++ "\">" ++ escape content ++
      "</span>" := by
  rw [button, Node.render, Tag.opening, List.flatMap_cons, List.flatMap_singleton,
    render_style bare, render_command, Tag.closing, Tag.name, render_cons, render_nil, render_text]
  simp only [List.append_assoc, List.append_nil, literal_append, literal_end, String.reduceAppend]

/-- The template of a link that also carries a command. -/
theorem render_commandLink (bare : Bare classes) :
    (commandLink url classes line content).render =
      "<a href=\"" ++ escape url ++ "\" class=\"" ++ classes ++ "\" data-cmd=\"" ++ escape line ++
        "\">" ++ escape content ++ "</a>" := by
  rw [commandLink, Node.render, Tag.opening, List.flatMap_cons, List.flatMap_cons,
    List.flatMap_singleton, render_style bare, render_href, render_command, Tag.closing, Tag.name,
    render_cons, render_nil, render_text]
  simp only [List.append_assoc, List.append_nil, literal_append, literal_end, String.reduceAppend]

/-- The template of a dimmed remark. -/
theorem render_note : (note content).render =
    "<span class=\"text-term-fg-dark text-sm\">" ++ escape content ++ "</span>" := by
  simp (disch := exact bare_literal rfl rfl) only [note, render_span]
  simp only [literal_end, String.reduceAppend]

/-- The template of an error. -/
theorem error_html (message : Text) : (errorLine message).render = errorHtml message := by
  unfold errorHtml
  simp (disch := exact bare_literal rfl rfl) only [errorLine, render_span]
  simp only [literal_end, String.reduceAppend]

/-- The template of a hint. -/
theorem hint_html (message : Text) : (hintLine message).render = hintHtml message := by
  unfold hintHtml
  simp (disch := exact bare_literal rfl rfl) only [hintLine, render_span]
  simp only [literal_end, String.reduceAppend]

/-- A forest of one node is written as the node. -/
theorem render_single (node : Node) : render [node] = node.render := List.append_nil _

/-- The first piece on a line of its own, and the others below it. -/
theorem render_onNewLines_cons (node : Node) (rest : List Node) :
    render (onNewLines (node :: rest)) = "\n" ++ node.render ++ render (onNewLines rest) := by
  rw [render_onNewLines, render_onNewLines, List.flatMap_cons]

theorem render_onNewLines_nil : render (onNewLines []) = [] := rfl

/-- Pieces on lines of their own are written one behind the other. -/
theorem render_onNewLines_append (nodes others : List Node) :
    render (onNewLines (nodes ++ others)) =
      render (onNewLines nodes) ++ render (onNewLines others) := by
  rw [onNewLines, List.flatMap_append, render_append, ← onNewLines, ← onNewLines]

/-- The items on lines of their own, when each is written as its template says. -/
theorem onNewLines_html {β : Type} {node : β → Node} {write : β → Text}
    (written : ∀ item, (node item).render = write item) (items : List β) :
    render (onNewLines (items.map node)) = onLines write items := by
  rw [render_onNewLines, List.flatMap_map, onLines]
  exact List.flatMap_congr fun item _ => by rw [written]

/-- The template of the answer of a command that failed. -/
theorem failure_html (message : Text) : render (Result.failure message).body = errorHtml message :=
  (render_single _).trans (error_html message)

end Markup

/-! ## URLs -/

/-- The URL of a post is fixed text with the slug behind it. -/
theorem Post.url_written (post : Post) : post.url = "/posts/" ++ post.slug := rfl

/-- The URL of a series is fixed text with the slug behind it. -/
theorem Page.seriesUrl_written (slug : Text) :
    (Page.seriesItem slug).url = "/series/" ++ slug := rfl

/-- The URL of a tag is fixed text with the slug behind it. -/
theorem Page.tagUrl_written (slug : Text) : (Page.tagItem slug).url = "/tags/" ++ slug := rfl

end BlogTerminal
