import BlogTerminal.Proofs.Command.Confinement
import BlogTerminal.Proofs.CommandLine
import BlogTerminal.Terminal.Run

/-!
Particular command lines. A line that calls a command by its name is answered by that command, and
so the lines that buttons carry succeed on every page: each leads to a page or lists something.
-/

namespace BlogTerminal

/-- The dispatches of a line that did what it says. -/
inductive Dispatch.Succeeds : Dispatch → Prop where
  | navigated (url : Text) : Succeeds (.navigated url)
  | displayed : Succeeds (.displayed false)

namespace Builtin

private theorem all_registered : ∀ builtin ∈ all,
    (registry.get? builtin.command.name).map Command.action = some builtin := by
  decide

/-- Every command is registered. -/
theorem mem_all (builtin : Builtin) : builtin ∈ all := by
  cases builtin <;> decide

/-- Every command is found by its name. -/
theorem registered (builtin : Builtin) :
    ∃ command, registry.get? builtin.command.name = some command ∧ command.action = builtin :=
  Option.map_eq_some_iff.mp (all_registered builtin (mem_all builtin))

/-- No two commands share a name. -/
theorem name_injective {first second : Builtin}
    (same : first.command.name = second.command.name) : first = second := by
  have one := all_registered first (mem_all first)
  have other := all_registered second (mem_all second)
  rw [same, other] at one
  exact (Option.some.inj one).symm

end Builtin

/-- The line calls a command by its name, with these arguments and flags. -/
def Calls (line : Text) (builtin : Builtin) (arguments flags : List Text) : Prop :=
  line.trim ≠ [] ∧ Call.ofLine line.trim = ⟨builtin.command.name, arguments, flags⟩

instance (line : Text) (builtin : Builtin) (arguments flags : List Text) :
    Decidable (Calls line builtin arguments flags) :=
  inferInstanceAs (Decidable (_ ∧ _))

/-- A command and one word behind it, both without quotes. -/
theorem Call.ofLine_bare {name word : Text} (plain : CommandLine.IsBare name) (given : name ≠ [])
    (bare : CommandLine.IsBare word) (more : word ≠ []) :
    Call.ofLine (name ++ ' ' :: word) =
      if CommandLine.isFlag word then ⟨name.lower, [], [word]⟩ else ⟨name.lower, [word], []⟩ := by
  rw [Call.ofLine, CommandLine.words_bare plain given bare more]
  by_cases flag : CommandLine.isFlag word = true <;> simp [flag]

namespace Terminal

/-- A call of a command by its name is answered by that command. -/
theorem answer_builtin {σ τ : Type} (terminal : Terminal σ τ) (builtin : Builtin)
    (arguments flags : List Text) :
    terminal.answer ⟨builtin.command.name, arguments, flags⟩ =
      builtin.execute (terminal.context.withCall ⟨builtin.command.name, arguments, flags⟩) := by
  obtain ⟨command, found, action⟩ := Builtin.registered builtin
  simp only [answer, found, action]

variable {σ τ : Type} [Store τ] {line : Text} {builtin : Builtin} {arguments flags : List Text}

/-- A line with the name of a command in front is answered by that command. Only the history is
answered by the terminal itself. -/
theorem execute_builtin (terminal : Terminal σ τ) (called : Calls line builtin arguments flags)
    (ordinary : builtin ≠ .history) :
    terminal.execute line = terminal.apply line.trim
      (builtin.execute (terminal.context.withCall ⟨builtin.command.name, arguments, flags⟩)) := by
  have other : builtin.command.name ≠ Builtin.history.command.name :=
    fun same => ordinary (Builtin.name_injective same)
  have blank : ¬ line.trim.isEmpty := by simpa using called.1
  simp only [execute, if_neg blank, called.2, if_neg other, answer_builtin]

/-! ## The lines of buttons -/

/-- The directories that buttons list. -/
def listedDirectories : List Text := ["archives", "posts", "series", "tags"]

-- A token without a dot segment is taken from the root, so the page does not matter.
private theorem directory_resolved (current : Text) :
    ∀ name ∈ listedDirectories, Path.resolve (name ++ "/") current = name := by
  simp only [listedDirectories, List.forall_mem_cons]
  exact ⟨rfl, rfl, rfl, rfl, fun _ member => absurd member List.not_mem_nil⟩

private theorem directory_page : ∀ name ∈ listedDirectories,
    ∃ page ∈ [Page.archives, .posts, .series, .tags], Page.ofDirectory? name = some page := by
  decide

private theorem ls_called : ∀ name ∈ listedDirectories,
    Calls ("ls ".toList ++ name ++ "/") .ls [name ++ "/"] [] := by
  decide

private theorem tree_called : ∀ name ∈ listedDirectories,
    Calls ("tree ".toList ++ name ++ "/") .tree [name ++ "/"] [] := by
  decide

private theorem search_called : Calls "cd search" .cd ["search"] [] := by
  decide

private theorem theme_called : ∀ theme ∈ Theme.all,
    Calls ("theme ".toList ++ theme.name) .theme [theme.name] [] := by
  decide

private theorem theme_named : ∀ theme ∈ Theme.all, Theme.ofName? theme.name = some theme := by
  decide

private theorem listing_shown (posts : List Post) (detailed : Bool) (typed : Text) {dir : Text}
    {page : Page} (member : page ∈ [Page.archives, .posts, .series, .tags])
    (denoted : Page.ofDirectory? dir = some page) :
    ∃ body, Listing.answer posts detailed typed dir = { body } := by
  simp only [List.mem_cons, List.not_mem_nil, or_false] at member
  rw [Listing.answer, denoted]
  rcases member with rfl | rfl | rfl | rfl <;> exact ⟨_, rfl⟩

private theorem tree_shown (posts : List Post) (typed : Text) {dir : Text} {page : Page}
    (member : page ∈ [Page.archives, .posts, .series, .tags])
    (denoted : Page.ofDirectory? dir = some page) :
    ∃ body, TreeView.answer posts typed dir = { body } := by
  simp only [List.mem_cons, List.not_mem_nil, or_false] at member
  rw [TreeView.answer, denoted]
  rcases member with rfl | rfl | rfl | rfl <;> exact ⟨_, rfl⟩

private theorem shown_succeeds (terminal : Terminal σ τ)
    (called : Calls line builtin arguments flags) (ordinary : builtin ≠ .history)
    (shown : ∃ body, builtin.execute (terminal.context.withCall
      ⟨builtin.command.name, arguments, flags⟩) = { body }) :
    (terminal.execute line).dispatch.Succeeds := by
  obtain ⟨body, shown⟩ := shown
  rw [execute_builtin terminal called ordinary, shown]
  exact .displayed

private theorem ls_succeeds (terminal : Terminal σ τ) {name : Text}
    (member : name ∈ listedDirectories) :
    (terminal.execute ("ls " ++ name ++ "/")).dispatch.Succeeds := by
  obtain ⟨page, listed, denoted⟩ := directory_page name member
  rw [← directory_resolved terminal.path name member] at denoted
  exact shown_succeeds terminal (ls_called name member) (by decide)
    (listing_shown terminal.posts false (name ++ "/") listed denoted)

private theorem tree_succeeds (terminal : Terminal σ τ) {name : Text}
    (member : name ∈ listedDirectories) :
    (terminal.execute ("tree " ++ name ++ "/")).dispatch.Succeeds := by
  obtain ⟨page, listed, denoted⟩ := directory_page name member
  rw [← directory_resolved terminal.path name member] at denoted
  exact shown_succeeds terminal (tree_called name member) (by decide)
    (tree_shown terminal.posts (name ++ "/") listed denoted)

private theorem theme_succeeds (terminal : Terminal σ τ) (theme : Theme) :
    (terminal.execute ("theme " ++ theme.name)).dispatch.Succeeds := by
  have member : theme ∈ Theme.all := by cases theme <;> decide
  rw [execute_builtin terminal (theme_called theme member) (by decide)]
  have answered : Builtin.theme.execute (terminal.context.withCall
      ⟨Builtin.theme.command.name, [theme.name], []⟩) = Appearance.switchTo theme := by
    simp only [Builtin.execute, Appearance.execute, Context.withCall, theme_named theme member]
  rw [answered]
  exact .displayed

/-- A post whose slug is `search` goes before the search page. -/
private theorem search_answer (posts : List Post) (path : Text) :
    Navigation.answer posts "search" path =
      match Post.find? posts "search" with
      | some post => Navigation.goTo post.url ("Opening " ++ post.title ++ "...")
      | none => Navigation.goTo Page.search.url ("Navigating to " ++ Page.search.url ++ "...") :=
  rfl

private theorem search_succeeds (terminal : Terminal σ τ) :
    (terminal.execute "cd search").dispatch.Succeeds := by
  rw [execute_builtin terminal search_called (by decide)]
  have answered : Builtin.cd.execute (terminal.context.withCall
      ⟨Builtin.cd.command.name, ["search"], []⟩) =
        Navigation.answer terminal.posts "search" terminal.path := rfl
  rw [answered, search_answer]
  cases Post.find? terminal.posts "search" with
  | none => exact .navigated _
  | some post => exact .navigated _

private theorem fixedLines_parts : fixedLines =
    listedDirectories.map (fun name => "ls ".toList ++ name ++ "/") ++ ["cd search".toList] ++
      listedDirectories.map (fun name => "tree ".toList ++ name ++ "/") ++
      Theme.all.map (fun theme => "theme ".toList ++ theme.name) := by
  decide

/-- Whatever line a button carries, clicking it leads to a page or shows something. -/
theorem fixed_succeeds (terminal : Terminal σ τ) (fixed : line ∈ fixedLines) :
    (terminal.execute line).dispatch.Succeeds := by
  simp only [fixedLines_parts, List.mem_append, List.mem_map, List.mem_singleton] at fixed
  rcases fixed with ((⟨name, member, rfl⟩ | rfl) | ⟨name, member, rfl⟩) | ⟨theme, _, rfl⟩
  · exact ls_succeeds terminal member
  · exact search_succeeds terminal
  · exact tree_succeeds terminal member
  · exact theme_succeeds terminal theme

end Terminal

end BlogTerminal
