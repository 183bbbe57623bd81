import BlogTerminal.Command.Builtin
import BlogTerminal.Proofs.Command.Directories
import BlogTerminal.Terminal.Run

/-!
What commands can answer. An answer has many parts, but only a few combinations of them occur: a
command shows something, fails, leaves the page, wipes the screen or changes the theme, and it does
one of these alone. A prompt path is asked for only together with a page transition, or at the root
where it changes nothing, and the page before only on the page of a post.
-/

namespace BlogTerminal

open Markup

variable {α : Type}

/-! ## The combinations of parts -/

/-- The answers that a command can give in a context. -/
inductive Outcome (context : Context α) : Result → Prop where
  | shown (body : List Node) : Outcome context { body }
  | failed (body : List Node) : Outcome context (.failed body)
  | left (url : Text) (body : List Node) (path : Option Text) :
      Outcome context { body, path, navigate := some url }
  | back : Outcome context { goBack := true }
  | stayed (root : Path.directory context.path = []) : Outcome context { path := some "~" }
  | wiped : Outcome context { clear := true }
  | themed (theme : Theme) (body : List Node) : Outcome context { body, theme := some theme }

variable {context : Context α} {posts : List Post} {typed dir path : Text}

/-- The answers that show output, as an error or not, and ask for nothing. -/
inductive Shows : Result → Prop where
  | shown (body : List Node) : Shows { body }
  | failed (body : List Node) : Shows (.failed body)

/-- An answer that only shows something is one of the outcomes. -/
theorem Shows.outcome {result : Result} (shows : Shows result) : Outcome context result := by
  cases shows with
  | shown body => exact .shown body
  | failed body => exact .failed body

/-- An answer that only shows something does not go back. -/
theorem Shows.stays {result : Result} (shows : Shows result) : result.goBack = false := by
  cases shows <;> rfl

/-- However a directory is answered, something is shown and nothing asked for. -/
theorem Answered.shows {answer : Text → Result} (answered : Answered posts dir answer)
    (typed : Text) : Shows (answer typed) := by
  cases answered with
  | missing unlisted fails =>
    obtain ⟨body, failed⟩ := fails typed
    rw [failed]
    exact .failed body
  | shown listed body shows =>
    rw [shows]
    exact .shown body

theorem listing_shows (detailed : Bool) : Shows (Listing.answer posts detailed typed dir) :=
  (listing_answered posts detailed dir).shows typed

private theorem tree_shows :
    Shows (TreeView.answer posts typed dir) := (tree_answered posts dir).shows typed

private theorem series_outcome (name : Text) : Outcome context
    (((Post.findSeries? posts name).map Navigation.toSeries).getD (Navigation.notFound typed)) := by
  cases Post.findSeries? posts name with
  | none => exact .failed _
  | some series => exact .left _ _ none

private theorem directory_outcome : Outcome context (Navigation.toDirectory posts typed dir) := by
  unfold Navigation.toDirectory
  cases Page.ofDirectory? dir with
  | none => exact series_outcome dir
  | some page =>
    cases page with
    | root => exact .left _ [] (some "~")
    | archives | search | posts | series | tags => exact .left _ _ none
    | post slug => exact .failed _
    | seriesItem name => exact series_outcome name
    | tagItem name =>
      cases found : Post.findTag? posts name <;> simp only [found]
      · exact .failed _
      · exact .left _ _ none

/-- Going up leads to another page, to the page before, or nowhere at the root. -/
private theorem parent_outcome : Outcome context (Navigation.toParent context.path) := by
  unfold Navigation.toParent
  by_cases root : Path.directory context.path = []
  · rw [root]
    exact .stayed root
  · simp only [List.isEmpty_iff, root, ↓reduceIte]
    cases Page.ofDirectory? (Path.directory context.path) with
    | none => exact .left _ [] _
    | some page =>
      cases page with
      | post slug => exact .back
      | root | archives | search | posts | series | seriesItem _ | tags | tagItem _ =>
        exact .left _ [] _

private theorem navigation_outcome :
    Outcome context (Navigation.answer posts typed context.path) := by
  unfold Navigation.answer
  extract_lets token dir
  by_cases home : token = "~" ∨ token = []
  · rw [if_pos home]
    exact .left _ [] (some "~")
  · rw [if_neg home]
    by_cases up : token = ".."
    · rw [if_pos up]
      exact parent_outcome
    · rw [if_neg up]
      cases Post.find? posts (Navigation.slugIn dir) with
      | none => exact directory_outcome
      | some post => exact .left _ _ none

private theorem grep_shows : Shows (Grep.execute context) := by
  unfold Grep.execute
  extract_lets pattern ignoreCase
  by_cases missing : pattern.isEmpty
  · rw [if_pos missing]
    exact .failed _
  · rw [if_neg missing]
    cases Post.search ignoreCase pattern context.posts with
    | nil => exact .failed _
    | cons post more => exact .shown _

private theorem find_shows : Shows (Find.execute context) := by
  unfold Find.execute
  extract_lets pattern
  by_cases missing : pattern.isEmpty
  · rw [if_pos missing]
    exact .shown _
  · rw [if_neg missing]
    cases Post.search true pattern context.posts with
    | nil => exact .failed _
    | cons post more => exact .shown _

private theorem preview_shows : Shows (Preview.execute context) := by
  unfold Preview.execute
  cases context.arguments with
  | nil => exact .failed _
  | cons requested more =>
    cases found : Preview.find? context.posts requested <;> simp only [found]
    · exact .failed _
    · exact .shown _

private theorem manual_shows : Shows (Manual.execute context) := by
  unfold Manual.execute Manual.about
  cases context.arguments with
  | nil => exact .shown _
  | cons name more =>
    cases found : context.registry.get? name.lower <;> simp only [found]
    · exact .failed _
    · exact .shown _

private theorem appearance_outcome : Outcome context (Appearance.execute context) := by
  unfold Appearance.execute
  cases context.arguments with
  | nil => exact .shown _
  | cons typed more =>
    cases found : Theme.ofName? typed <;> simp only [found]
    · exact .failed _
    · exact .themed _ _

/-- Every command gives one of the answers, whatever it is called with. -/
theorem execute_outcome (builtin : Builtin) (context : Context α) :
    Outcome context (builtin.execute context) := by
  cases builtin with
  | ls => exact (listing_shows _).outcome
  | cd => exact navigation_outcome
  | cat => exact preview_shows.outcome
  | grep => exact grep_shows.outcome
  | tree => exact tree_shows.outcome
  | find => exact find_shows.outcome
  | help => exact manual_shows.outcome
  | theme => exact appearance_outcome
  | history | pwd | whoami | date | echo | exit | editor | neofetch => exact .shown _
  | clear => exact .wiped
  | superuser | rm => exact .failed _

/-- A line calls a command or is answered with an error, in either case with one of the answers. -/
theorem answer_outcome {σ τ : Type} (terminal : Terminal σ τ) (call : Call) :
    Outcome (terminal.context.withCall call) (terminal.answer call) := by
  unfold Terminal.answer
  cases Builtin.registry.get? call.name with
  | none => exact .failed _
  | some command => exact execute_outcome _ _

/-! ## Going back -/

/-- The page at the prompt path is that of a post. -/
def OnPost (path : Text) : Prop :=
  ∃ slug, Page.ofDirectory? (Path.directory path) = some (.post slug)

private theorem parent_back (back : (Navigation.toParent path).goBack = true) : OnPost path := by
  unfold Navigation.toParent at back
  extract_lets here at back
  split at back
  · cases back
  · split at back
    · rename_i slug found
      exact ⟨slug, found⟩
    · cases back

private theorem series_stays (name : Text) :
    (((Post.findSeries? posts name).map Navigation.toSeries).getD
      (Navigation.notFound typed)).goBack = false := by
  cases Post.findSeries? posts name <;> rfl

private theorem directory_stays : (Navigation.toDirectory posts typed dir).goBack = false := by
  unfold Navigation.toDirectory
  cases Page.ofDirectory? dir with
  | none => exact series_stays dir
  | some page =>
    cases page with
    | root | archives | search | posts | series | tags | post _ => rfl
    | seriesItem name => exact series_stays name
    | tagItem name =>
      cases found : Post.findTag? posts name <;> simp only [found]
      · rfl
      · rfl

private theorem navigation_back (back : (Navigation.answer posts typed path).goBack = true) :
    OnPost path := by
  unfold Navigation.answer at back
  extract_lets token dir at back
  by_cases home : token = "~" ∨ token = []
  · rw [if_pos home] at back
    cases back
  · rw [if_neg home] at back
    by_cases up : token = ".."
    · rw [if_pos up] at back
      exact parent_back back
    · rw [if_neg up] at back
      cases found : Post.find? posts (Navigation.slugIn dir) with
      | none =>
        rw [found, directory_stays] at back
        cases back
      | some post =>
        rw [found] at back
        cases back

private theorem appearance_stays : (Appearance.execute context).goBack = false := by
  unfold Appearance.execute
  cases context.arguments with
  | nil => rfl
  | cons typed more => cases found : Theme.ofName? typed <;> simp only [found] <;> rfl

/-- Going back is asked for on the page of a post alone. -/
theorem execute_back (builtin : Builtin) (context : Context α)
    (back : (builtin.execute context).goBack = true) : OnPost context.path := by
  have stays (silent : (builtin.execute context).goBack = false) : OnPost context.path := by
    rw [silent] at back
    cases back
  cases builtin with
  | cd => exact navigation_back back
  | ls => exact stays (listing_shows _).stays
  | cat => exact stays preview_shows.stays
  | grep => exact stays grep_shows.stays
  | tree => exact stays tree_shows.stays
  | find => exact stays find_shows.stays
  | help => exact stays manual_shows.stays
  | theme => exact stays appearance_stays
  | history | pwd | whoami | date | echo | clear | exit | superuser | rm | editor | neofetch =>
    exact stays rfl

/-- Whatever is called, only the page of a post is gone back from. -/
theorem answer_back {σ τ : Type} (terminal : Terminal σ τ) (call : Call)
    (back : (terminal.answer call).goBack = true) : OnPost terminal.path := by
  unfold Terminal.answer at back
  cases found : Builtin.registry.get? call.name with
  | none =>
    rw [found] at back
    cases back
  | some command =>
    rw [found] at back
    exact execute_back command.action (terminal.context.withCall call) back

end BlogTerminal
