import BlogTerminal.Command.Context
import BlogTerminal.Path
import BlogTerminal.Proofs.Markup.Links
import BlogTerminal.Proofs.Path.Page
import BlogTerminal.Proofs.Post.Collection
import BlogTerminal.Proofs.Post.Slug
import BlogTerminal.Proofs.Terminal.Lines
import BlogTerminal.Proofs.Text.Pieces
import Mathlib.Data.List.Nodup

/-!
Showing a post by the name of its file. Listings name the file of a post by its slug and trees by
its title, and `cat` takes both names: it shows the first post that has the name in either way. So
the slug of a post shows that post unless the title of one in front of it makes the same name, and a
name made from a title shows a post unless it begins like a flag.
-/

namespace BlogTerminal

/-! ## File names

What stays of a title in the name of its file is lowercase letters, digits and dashes, so a file
name is one bare word of a command line; and it is taken for a flag when what stays begins with a
dash, be it a dash of the title or the dash for its first blanks.
-/

namespace Post

variable {c : Char} {title text : Text} {inBlanks : Bool}

/-! ### Characters -/

private theorem dashed_plain (member : c ∈ dashedFrom inBlanks text) :
    (c.isLower || c.isDigit || c == '-') = true := by
  induction text generalizing inBlanks with
  | nil => exact absurd member List.not_mem_nil
  | cons head rest ih =>
    rw [dashedFrom] at member
    split_ifs at member with blank written stays
    · exact ih member
    · rcases List.mem_cons.mp member with rfl | later
      · rfl
      · exact ih later
    · rcases List.mem_cons.mp member with rfl | later
      · exact stays
      · exact ih later
    · exact ih member

/-- The name made from a title, without the ending. -/
def titleStem (title : Text) : Text := (dashedFrom false title.lower).take titleLimit

private theorem fileNameOf_stem (title : Text) : fileNameOf title = titleStem title ++ ".md" := rfl

private theorem titleStem_plain (title : Text) : IsPlain (titleStem title) :=
  fun _ member => dashed_plain (List.mem_of_mem_take member)

@[simp] theorem withoutExtension_fileNameOf (title : Text) :
    Page.withoutExtension (fileNameOf title) = titleStem title :=
  Text.dropEnding_append (titleStem title) ".md"

/-! ### The first character -/

/-- The character of a title that decides how its file name begins: the first one that is a blank or
stays in the name. -/
def opening? (title : Text) : Option Char :=
  title.lower.find? fun c => Text.isBlank c || (c.isLower || c.isDigit || c == '-')

private theorem dashed_head (text : Text) : (dashedFrom false text).head? =
    (text.find? fun c => Text.isBlank c || (c.isLower || c.isDigit || c == '-')).map
      fun c => if Text.isBlank c then '-' else c := by
  induction text with
  | nil => rfl
  | cons head rest ih =>
    rw [dashedFrom]
    by_cases blank : Text.isBlank head = true
    · simp [blank]
    by_cases stays : (head.isLower || head.isDigit || head == '-') = true
    · simp [blank, stays]
    · simp [blank, stays, ih]

private theorem fileName_head (title : Text) : (fileNameOf title).head? = some '-' ↔
    ∃ c ∈ opening? title, Text.isBlank c = true ∨ c = '-' := by
  have first : (titleStem title).head? = (dashedFrom false title.lower).head? := by
    rw [titleStem, List.head?_take, if_neg (by decide)]
  rw [fileNameOf_stem, List.head?_append, first, dashed_head, ← opening?]
  cases opening? title with
  | none => simp
  | some c => by_cases blank : Text.isBlank c = true <;> simp [blank]

/-- Of the characters that a file name can begin with, blanks and the dash become a dash. -/
private theorem opening_cases (opens : c ∈ opening? title) :
    (Text.isBlank c = true ∨ c = '-') ↔ ¬ (c.isLower = true ∨ c.isDigit = true) := by
  constructor
  · rintro (blank | rfl) letter
    · have solid := (plain_char (c := c) (by simp [letter])).1.solid
      rw [blank] at solid
      cases solid
    · exact absurd letter (by decide)
  · intro other
    have fits := List.find?_some opens
    simp only [Bool.or_eq_true, beq_iff_eq] at fits
    tauto

/-- A file name is taken for a flag unless what stays of the title begins with a letter or a digit,
or nothing stays. -/
theorem fileName_flag (title : Text) : CommandLine.isFlag (fileNameOf title) = false ↔
    ∀ c ∈ opening? title, c.isLower = true ∨ c.isDigit = true := by
  have begins : CommandLine.isFlag (fileNameOf title) = true ↔
      (fileNameOf title).head? = some '-' := by
    rw [CommandLine.isFlag, decide_eq_true_iff]
    exact List.singleton_prefix_iff_head?_eq_some
  rw [← Bool.not_eq_true, begins, fileName_head, not_exists]
  refine forall_congr' fun c => ?_
  rw [not_and]
  exact forall_congr' fun opens => by rw [opening_cases opens, not_not]

end Post

/-! ## Showing a post -/

section

open Markup

variable {posts before behind : List Post} {post other : Post} {name : Text}

namespace Preview

/-! ### Cards -/

private theorem rule_urls (classes : Text) : (rule classes).urls = [] := by
  simp [rule, -String.reduceToList]

/-- The first link of a card leads to the post. -/
theorem card_urls (post : Post) : ∃ more, urls (card post) = post.url :: more := by
  simp only [card, urls_cons, div_urls, urls_append, urls_onNewLines, rule_urls, link_urls,
    text_urls, urls_nil, List.cons_append, List.nil_append, List.append_assoc]
  exact ⟨_, rfl⟩

/-- Posts with different slugs have different cards. -/
theorem card_slug (same : render (card post) = render (card other)) : post.slug = other.slug := by
  obtain ⟨more, here⟩ := card_urls post
  obtain ⟨rest, there⟩ := card_urls other
  have alike := congrArg links same
  rw [links_render, links_render, here, there, List.cons_eq_cons] at alike
  exact List.append_cancel_left alike.1

/-! ### Names -/

/-- The post has the name, which is its slug or made from its title. -/
def Bears (name : Text) (post : Post) : Prop :=
  post.slug.lower = name ∨ Post.titleStem post.title = name

instance (name : Text) (post : Post) : Decidable (Bears name post) :=
  inferInstanceAs (Decidable (_ ∨ _))

/-- A post is looked up by the name that an argument holds between the directory and the ending. -/
theorem find_bearing {requested : Text}
    (holds : (Page.withoutExtension (requested.dropStart "posts/")).lower = name) :
    find? posts requested = posts.find? fun post => Bears name post := by
  rw [find?, holds]
  refine congrArg (List.find? · posts) (funext fun post => ?_)
  rw [Post.withoutExtension_fileNameOf]
  exact (Bool.decide_or _ _).symm

/-- A plain name is looked up as it is. -/
theorem find_plain (plain : Post.IsPlain name) :
    find? posts name = posts.find? fun post => Bears name post := by
  refine find_bearing ?_
  have whole : '/' ∉ name := whole_of_chars plain.chars
  have dotless : '.' ∉ name := fun dot => (Post.plain_char (plain '.' dot)).2 (by decide)
  rw [Text.dropStart_missing (by decide) whole, Page.withoutExtension_self dotless, plain.lower]

/-- A file name is looked up without its ending. -/
theorem find_fileName (title : Text) : find? posts (Post.fileNameOf title) =
    posts.find? fun post => Bears (Post.titleStem title) post := by
  refine find_bearing ?_
  have plain := Post.titleStem_plain title
  have whole : '/' ∉ Post.fileNameOf title := by
    rw [Post.fileNameOf_stem, List.mem_append, not_or]
    exact ⟨whole_of_chars plain.chars, by decide⟩
  rw [Text.dropStart_missing (by decide) whole, Post.withoutExtension_fileNameOf, plain.lower]

/-- A post is the first one that has its slug as a name exactly when no title in front of it makes
the same file name. -/
theorem first_bearing (plain : ∀ other ∈ before, other.HasPlainSlug) (own : Bears post.slug post)
    (distinct : ((before ++ post :: behind).map Post.slug).Nodup) :
    ((before ++ post :: behind).find? fun other => Bears post.slug other) = some post ↔
      ∀ other ∈ before, Post.fileNameOf other.title ≠ post.fileName := by
  -- Of the posts in front only the titles matter, since no two slugs are the same.
  have apart : ∀ other ∈ before, other.slug ≠ post.slug := apart_in_front distinct
  rw [first_found (by simpa using own) fun earlier => apart post earlier rfl]
  refine forall_congr' fun other => forall_congr' fun earlier => ?_
  have differs : other.slug.lower ≠ post.slug := by
    rw [(plain other earlier).lower]
    exact apart other earlier
  rw [decide_eq_false_iff_not, Bears, or_iff_right differs, Post.fileNameOf_stem, Post.fileName,
    ne_eq, List.append_left_inj]

private theorem execute_found {α : Type} {context : Context α} {requested : Text}
    (found : find? context.posts requested = some post) :
    execute (context.withCall ⟨"cat", [requested], []⟩) = { body := card post } := by
  simp [execute, Context.withCall, found]

end Preview

namespace Terminal

variable {σ τ : Type}

private theorem plain_bare (plain : Post.IsPlain name) : CommandLine.IsBare name := by
  intro c member
  obtain ⟨char, ordinary⟩ := Post.plain_char (plain c member)
  refine ⟨char.solid, ?_⟩
  rintro (rfl | rfl)
  · exact ordinary (by decide)
  · exact ordinary (by decide)

/-- A bare word behind `cat` is a flag, and then the file is missing, or it names the file. -/
theorem answer_cat (terminal : Terminal σ τ) (bare : CommandLine.IsBare name) (given : name ≠ []) :
    terminal.answer (Call.ofLine ("cat " ++ name)) =
      if CommandLine.isFlag name then .failure "cat: missing file operand"
      else Preview.execute (terminal.context.withCall ⟨"cat", [name], []⟩) := by
  have call : Call.ofLine ("cat " ++ name) = if CommandLine.isFlag name then
      ⟨Builtin.cat.command.name, [], [name]⟩ else ⟨Builtin.cat.command.name, [name], []⟩ :=
    Call.ofLine_bare (by decide : CommandLine.IsBare "cat") (by decide) bare given
  rw [call]
  by_cases flag : CommandLine.isFlag name = true
  · rw [if_pos flag, if_pos flag, answer_builtin]
    rfl
  · rw [if_neg flag, if_neg flag, answer_builtin]
    rfl

/-- A word under which a post is looked up shows the first post that has the name. -/
theorem answer_bearing (terminal : Terminal σ τ) {word : Text} (bare : CommandLine.IsBare word)
    (given : word ≠ []) (unflagged : CommandLine.isFlag word = false)
    (looked : Preview.find? terminal.posts word =
      terminal.posts.find? fun post => Preview.Bears name post)
    (member : post ∈ terminal.posts) (bears : Preview.Bears name post) :
    ∃ shown, (terminal.posts.find? fun post => Preview.Bears name post) = some shown ∧
      terminal.answer (Call.ofLine ("cat " ++ word)) = { body := Preview.card shown } := by
  have borne : (terminal.posts.find? fun post => Preview.Bears name post).isSome = true :=
    List.find?_isSome.mpr ⟨post, member, decide_eq_true bears⟩
  obtain ⟨shown, found⟩ := Option.isSome_iff_exists.mp borne
  refine ⟨shown, found, ?_⟩
  rw [answer_cat terminal bare given, if_neg (by simp [unflagged])]
  exact Preview.execute_found (looked.trans found)

/-- The slug of a post shows a post, and it shows the post itself exactly when no post in front of
it has a title that makes the same file name. -/
theorem slug_shown (terminal : Terminal σ τ) (plain : ∀ post ∈ terminal.posts, post.HasPlainSlug)
    (unflagged : ∀ post ∈ terminal.posts, CommandLine.isFlag post.slug = false)
    (distinct : (terminal.posts.map Post.slug).Nodup)
    (split : terminal.posts = before ++ post :: behind) :
    let result := terminal.answer (Call.ofLine ("cat " ++ post.slug))
    result.error = false ∧
      (render result.body = render (Preview.card post) ↔
        ∀ other ∈ before, Post.fileNameOf other.title ≠ post.fileName) := by
  intro result
  have member : post ∈ terminal.posts := by simp [split]
  have slug : Post.IsPlain post.slug := List.all_eq_true.mp (plain post member).plain
  have bears : Preview.Bears post.slug post := .inl slug.lower
  obtain ⟨shown, found, answered⟩ := answer_bearing terminal (plain_bare slug)
    (plain post member).given (unflagged post member) (Preview.find_plain slug) member bears
  have same : render (Preview.card shown) = render (Preview.card post) ↔ shown = post := by
    refine ⟨fun alike => ?_, fun same => congrArg _ (congrArg _ same)⟩
    exact List.inj_on_of_nodup_map distinct (List.mem_of_find?_eq_some found) member
      (Preview.card_slug alike)
  have first : shown = post ↔ ∀ other ∈ before, Post.fileNameOf other.title ≠ post.fileName := by
    rw [split] at found plain distinct
    rw [← Option.some_inj, ← found]
    exact Preview.first_bearing (fun other earlier => plain other (List.mem_append_left _ earlier))
      bears distinct
  have answered : result = { body := Preview.card shown } := answered
  rw [answered]
  exact ⟨rfl, same.trans first⟩

/-- In front of the post is one that is named after it with a word more. -/
theorem slug_shown_second :
    let first : Post := ⟨"first", "Second thoughts", [], "2024-01-01", [], none, []⟩
    let second : Post := ⟨"second", "First", [], "2024-01-02", [], none, []⟩
    let terminal : Terminal MemoryStore MemoryStore := Terminal.start
      ⟨[first, second], {}, "~/tags", true, ⟨[]⟩, ⟨[]⟩, ⟨⟨⟨1970, 1, 1⟩, 0, 0⟩, 0⟩⟩
    let result := terminal.answer (Call.ofLine "cat second")
    result.error = false ∧ render result.body = render (Preview.card second) := by
  intro first second terminal result
  have plain : ∀ post ∈ terminal.posts, post.HasPlainSlug := by decide
  have unflagged : ∀ post ∈ terminal.posts, CommandLine.isFlag post.slug = false := by decide
  have distinct : (terminal.posts.map Post.slug).Nodup := by decide
  have split : terminal.posts = [first] ++ second :: [] := rfl
  obtain ⟨accepted, shown⟩ := slug_shown terminal plain unflagged distinct split
  exact ⟨accepted, shown.mpr (by decide)⟩

/-- A title that is the slug of a later post hides that post. -/
theorem slug_hidden :
    let first : Post := ⟨"first", "Second", [], "2024-01-01", [], none, []⟩
    let second : Post := ⟨"second", "First", [], "2024-01-02", [], none, []⟩
    let terminal : Terminal MemoryStore MemoryStore := Terminal.start
      ⟨[first, second], {}, "~", true, ⟨[]⟩, ⟨[]⟩, ⟨⟨⟨1970, 1, 1⟩, 0, 0⟩, 0⟩⟩
    let result := terminal.answer (Call.ofLine ("cat " ++ second.slug))
    (∀ post ∈ terminal.posts, post.HasPlainSlug ∧ CommandLine.isFlag post.slug = false) ∧
      (terminal.posts.map Post.slug).Nodup ∧
      render result.body = render (Preview.card first) ∧
      render result.body ≠ render (Preview.card second) := by
  decide +kernel

/-- A file name made from the title of a post is accepted, and then shows a post with that name,
unless it is taken for a flag. It is accepted when what stays of the title begins with a letter or a
digit, or when nothing stays. -/
theorem fileName_shown (terminal : Terminal σ τ) (member : post ∈ terminal.posts) :
    let result := terminal.answer (Call.ofLine ("cat " ++ Post.fileNameOf post.title))
    (result.error = false ↔ ∀ c ∈ Post.opening? post.title, c.isLower = true ∨ c.isDigit = true) ∧
      (result.error = false → ∃ shown ∈ terminal.posts,
        Preview.Bears (Post.titleStem post.title) shown ∧
          result = { body := Preview.card shown }) := by
  intro result
  have bare : CommandLine.IsBare (Post.fileNameOf post.title) := by
    intro c inside
    rcases List.mem_append.mp inside with stem | ending
    · exact plain_bare (Post.titleStem_plain post.title) c stem
    · exact (by decide : CommandLine.IsBare ".md") c ending
  have given : Post.fileNameOf post.title ≠ [] := by simp [Post.fileNameOf]
  rw [← Post.fileName_flag]
  cases flag : CommandLine.isFlag (Post.fileNameOf post.title) with
  | true =>
    have refused : result.error = true := by
      simp only [result, answer_cat terminal bare given, if_pos flag]
      rfl
    simp [refused]
  | false =>
    obtain ⟨shown, found, answered⟩ := answer_bearing terminal bare given flag
      (Preview.find_fileName post.title) member (.inr rfl)
    have accepted : result.error = false := congrArg Result.error answered
    have bears : Preview.Bears (Post.titleStem post.title) shown := by
      simpa using List.find?_some found
    exact ⟨iff_of_true accepted rfl,
      fun _ => ⟨shown, List.mem_of_find?_eq_some found, bears, answered⟩⟩

/-- A title that begins with a quote and ends with a mark, neither of which stays. -/
theorem fileName_shown_quoted :
    let post : Post := ⟨"intro", "\"C++\" & Go!", [], "2024-01-01", [], none, []⟩
    let terminal : Terminal MemoryStore MemoryStore := Terminal.start
      ⟨[post], {}, "~/posts", true, ⟨[]⟩, ⟨[]⟩, ⟨⟨⟨1970, 1, 1⟩, 0, 0⟩, 0⟩⟩
    Post.fileNameOf post.title = "c-go.md" ∧
      (terminal.answer (Call.ofLine ("cat " ++ Post.fileNameOf post.title))).error = false := by
  intro post terminal
  have letter : ∀ c ∈ Post.opening? post.title, c.isLower = true ∨ c.isDigit = true := by
    have first : Post.opening? post.title = some 'c' := by decide
    rintro c opens
    cases first.symm.trans opens
    exact .inl rfl
  exact ⟨by decide, (fileName_shown terminal (.head _)).1.mpr letter⟩

/-- Of a title that begins with a picture, the blank behind it begins the file name. -/
theorem fileName_refused :
    let post : Post := ⟨"release-notes", "🎉 Release notes", [], "2024-01-01", [], none, []⟩
    let terminal : Terminal MemoryStore MemoryStore := Terminal.start
      ⟨[post], {}, "~", true, ⟨[]⟩, ⟨[]⟩, ⟨⟨⟨1970, 1, 1⟩, 0, 0⟩, 0⟩⟩
    Post.fileNameOf post.title = "-release-notes.md" ∧
      (terminal.answer (Call.ofLine ("cat " ++ Post.fileNameOf post.title))).error = true := by
  decide +kernel

end Terminal

end

end BlogTerminal
