import BlogTerminal.Proofs.Path.Page
import BlogTerminal.Proofs.Terminal.Location
import BlogTerminal.Repl
import Mathlib.Data.List.Induction

/-!
The pages behind a prompt. A page transition opens a page on top of the others or goes back to the
one below, and the root, which is opened first, is never left backwards: going back is asked for on
the page of a post alone, and the prompt path is that of the page on top. So there is a page below
the one that is left, and it is the one that was current when that page was opened.
-/

namespace BlogTerminal

/-! ## Going back -/

namespace Terminal

variable {σ τ : Type} [Store τ]

private theorem apply_back (terminal : Terminal σ τ) (line : Text) {result : Result}
    (back : (terminal.apply line result).dispatch = .wentBack) : result.goBack = true := by
  unfold apply at back
  split at back
  · assumption
  · split at back
    · cases back
    · split at back <;> cases back

/-- A command line goes back on the page of a post alone. -/
theorem execute_wentBack (terminal : Terminal σ τ) (line : Text)
    (back : (terminal.execute line).dispatch = .wentBack) : OnPost terminal.path := by
  rcases execute_cases terminal line with same | same | ⟨call, same⟩
  · rw [same] at back
    cases back
  · rw [same] at back
    cases back
  · rw [same] at back
    exact answer_back terminal call (apply_back terminal _ back)

variable [Store σ] {terminal : Terminal σ τ} {submitted : Option Text} {step : Step σ τ}

private theorem performed_wentBack (performed : Performed terminal submitted step)
    (back : step.dispatch = .wentBack) : OnPost terminal.path := by
  cases performed with
  | edited input cursor cycle => cases back
  | followed url => cases back
  | ran line input behind cursor cycle executed =>
    rw [← executed] at back
    have post := execute_wentBack _ line back
    exact post
  | submitted line executed =>
    rw [← executed] at back
    have post := execute_wentBack _ line back
    exact post

end Terminal

namespace Repl

variable {repl : Repl} {line url : Text} {below lines : List Text}
  {step : Step MemoryStore FileStore}

/-! ## One line of input -/

/-- The step of the terminal that a line of input makes, if it makes one. -/
def step? (repl : Repl) (line : Text) : Option (Step MemoryStore FileStore) :=
  match line with
  | ['!'] => none
  | '!' :: typed => (repl.chosen? typed).map repl.terminal.activate
  | line => some (repl.terminal.setInput line).submit

/-- How the terminal deals with a line of input. -/
def dispatch? (repl : Repl) (line : Text) : Option Dispatch := (repl.step? line).map (·.dispatch)

/-- A line follows its step, or it only shows something. -/
theorem enter_eq (repl : Repl) (line : Text) :
    (repl.enter line).1 = ((repl.step? line).map fun step => (repl.follow step).1).getD repl := by
  unfold enter
  split
  · rfl
  · rename_i typed spoken
    rw [step?]
    · cases repl.chosen? typed <;> rfl
    · exact spoken
  · rename_i alone marked
    rw [step?]
    · rfl
    · exact alone
    · exact marked

private theorem step_performed (made : repl.step? line = some step) :
    ∃ terminal submitted, terminal.path = repl.terminal.path ∧
      Terminal.Performed terminal submitted step := by
  unfold step? at made
  split at made
  · cases made
  · obtain ⟨element, _, rfl⟩ := Option.map_eq_some_iff.mp made
    exact ⟨repl.terminal, _, rfl, Terminal.perform_performed repl.terminal (.activate element)⟩
  · cases made
    exact ⟨repl.terminal.setInput _, _, rfl, Terminal.perform_performed _ .submit⟩

private theorem step_path (made : repl.step? line = some step) (rooted : repl.terminal.Rooted) :
    step.terminal.path = repl.terminal.path := by
  obtain ⟨terminal, submitted, here, performed⟩ := step_performed made
  unfold Terminal.Rooted at rooted
  rw [← here] at rooted ⊢
  exact Terminal.performed_path performed rooted

private theorem step_wentBack (made : repl.step? line = some step)
    (back : step.dispatch = .wentBack) :
    OnPost repl.terminal.path := by
  obtain ⟨terminal, submitted, here, performed⟩ := step_performed made
  rw [← here]
  exact Terminal.performed_wentBack performed back

/-! ## Following a step -/

/-- Only a page transition changes the pages. -/
theorem follow_pages (repl : Repl) (step : Step MemoryStore FileStore) :
    (repl.follow step).1.pages = pagesAfter repl.pages step.dispatch := by
  unfold follow
  cases step.dispatch <;> rfl

/-- A page transition opens a terminal on the page that is on top then. -/
theorem follow_path (repl : Repl) (step : Step MemoryStore FileStore) :
    (repl.follow step).1.terminal.path =
      if leaves step.dispatch then
        Path.prompt (pagePath ((pagesAfter repl.pages step.dispatch).head?.getD "/"))
      else step.terminal.path := by
  unfold follow
  cases step.dispatch <;> rfl

private theorem pagesAfter_back (url next : Text) (rest : List Text) :
    pagesAfter (url :: next :: rest) .wentBack = next :: rest := by
  simp [pagesAfter]

private theorem enter_pages (repl : Repl) (line : Text) :
    (repl.enter line).1.pages =
      ((repl.dispatch? line).map (pagesAfter repl.pages)).getD repl.pages := by
  rw [enter_eq, dispatch?]
  cases repl.step? line with
  | none => rfl
  | some step => exact follow_pages repl step

/-- Pages that are on the stack were there before, or the page on top of them has been opened. -/
theorem enter_opens (held : url :: below <:+ (repl.enter line).1.pages) :
    url :: below <:+ repl.pages ∨
      repl.dispatch? line = some (.navigated url) ∧ repl.pages = below := by
  rw [enter_pages] at held
  cases made : repl.dispatch? line with
  | none =>
    rw [made] at held
    exact .inl held
  | some dispatch =>
    rw [made] at held
    cases dispatch with
    | ignored | cleared | displayed error => exact .inl held
    | navigated opened =>
      rcases List.suffix_cons_iff.mp held with same | before
      · cases same
        exact .inr ⟨rfl, rfl⟩
      · exact .inl before
    | wentBack =>
      have shorter : pagesAfter repl.pages .wentBack <:+ repl.pages := by
        rw [pagesAfter]
        split
        · exact List.tail_suffix _
        · exact List.suffix_refl _
      exact .inl (held.trans shorter)

/-! ## The path of the page on top -/

private theorem prompt_pagePath (url : Text) : Path.prompt (pagePath url) = pagePath url := by
  unfold pagePath
  cases Page.ofUrl? url with
  | none => decide
  | some page => exact Page.prompt_promptPath page

/-- The root is the first of the pages, and the terminal is on the last one. -/
structure Stacked (repl : Repl) : Prop where
  bottom : repl.pages.getLast? = some "/".toList
  path : repl.terminal.path = pagePath (repl.pages.head?.getD "/")

/-- The path of the root is written as its prompt path on every page. -/
theorem Stacked.rooted (stacked : repl.Stacked) : repl.terminal.Rooted := by
  intro root
  rw [stacked.path, ← prompt_pagePath] at root ⊢
  exact Path.prompt_root root

/-- The prompt path is that of the page on top. -/
theorem Stacked.top (stacked : repl.Stacked) :
    ∃ url below, repl.pages = url :: below ∧ repl.terminal.path = pagePath url := by
  obtain ⟨bottom, path⟩ := stacked
  cases pages : repl.pages with
  | nil => simp [pages] at bottom
  | cons url below =>
    rw [pages] at path
    exact ⟨url, below, rfl, path⟩

/-- The page of a post is not the first one. -/
theorem Stacked.onPost (stacked : repl.Stacked) (pages : repl.pages = url :: below)
    (post : OnPost repl.terminal.path) : below ≠ [] := by
  intro alone
  have bottom := stacked.bottom
  rw [pages, alone] at bottom
  cases bottom
  obtain ⟨slug, found⟩ := post
  rw [stacked.path, pages] at found
  -- The only page is the root then, and its directory is not that of a post.
  have root : Page.ofDirectory? (Path.directory (pagePath "/")) = some .root := by decide
  cases root.symm.trans found

private theorem pagesAfter_bottom {pages : List Text} {bottom : Text} (dispatch : Dispatch)
    (last : pages.getLast? = some bottom) :
    (pagesAfter pages dispatch).getLast? = some bottom := by
  cases dispatch with
  | ignored | cleared | displayed error => exact last
  | navigated url =>
    rw [pagesAfter, List.getLast?_cons, last]
    rfl
  | wentBack =>
    cases pages with
    | nil => exact last
    | cons url below =>
      cases below with
      | nil => exact last
      | cons next rest =>
        rw [pagesAfter_back]
        rwa [List.getLast?_cons_cons] at last

private theorem start_stacked (posts : List Post) (environment : Environment)
    (directory : Directory)
    (clock : Clock) : (start posts environment directory clock).1.Stacked :=
  ⟨rfl, prompt_pagePath "/"⟩

private theorem enter_stacked (line : Text) (stacked : repl.Stacked) :
    (repl.enter line).1.Stacked := by
  rw [enter_eq]
  cases made : repl.step? line with
  | none => exact stacked
  | some step =>
    refine ⟨?_, ?_⟩
    · exact (congrArg List.getLast? (follow_pages repl step)).trans
        (pagesAfter_bottom step.dispatch stacked.bottom)
    · have path := follow_path repl step
      rw [prompt_pagePath, step_path made stacked.rooted, stacked.path] at path
      rw [Option.map_some, Option.getD_some, path, follow_pages]
      cases step.dispatch <;> rfl

/-- A line that goes back leaves the page on top of another one. -/
theorem Stacked.wentBack (stacked : repl.Stacked) (pages : repl.pages = url :: below)
    (back : repl.dispatch? line = some .wentBack) :
    2 ≤ (url :: below).length ∧ (repl.enter line).1.pages = below := by
  obtain ⟨step, made, went⟩ := Option.map_eq_some_iff.mp back
  obtain ⟨next, rest, rfl⟩ := List.exists_cons_of_ne_nil
    (stacked.onPost pages (step_wentBack made went))
  refine ⟨by simp, ?_⟩
  rw [enter_pages, back, pages]
  exact pagesAfter_back url next rest

/-! ## Lines of input -/

/-- The state behind lines of input. -/
def after (repl : Repl) (lines : List Text) : Repl := (repl.enterAll lines).1

private theorem after_concat (repl : Repl) (lines : List Text) (line : Text) :
    repl.after (lines ++ [line]) = ((repl.after lines).enter line.trim).1 := by
  induction lines generalizing repl with
  | nil => rfl
  | cons first rest ih => exact ih (repl.enter first.trim).1

private theorem after_stacked (lines : List Text) (stacked : repl.Stacked) :
    (repl.after lines).Stacked := by
  induction lines using List.reverseRecOn with
  | nil => exact stacked
  | append_singleton lines line ih =>
    rw [after_concat]
    exact enter_stacked line.trim ih

/-- What is printed for lines of input is printed first when more of them follow. -/
theorem enterAll_printed (repl : Repl) (before rest : List Text) :
    (repl.enterAll before).2 <+: (repl.enterAll (before ++ rest)).2 := by
  induction before generalizing repl with
  | nil =>
    cases rest with
    | nil => exact List.prefix_refl _
    | cons line rest =>
      simp only [List.nil_append, enterAll, List.append_assoc]
      exact List.prefix_append _ _
  | cons line before ih =>
    simp only [List.cons_append, enterAll]
    exact (List.prefix_append_right_inj _).mpr (ih _)

/-- The prompt is printed last. -/
theorem enterAll_prompt (repl : Repl) (lines : List Text) :
    (repl.after lines).prompt <:+ (repl.enterAll lines).2 := by
  unfold after
  induction lines generalizing repl with
  | nil => exact List.suffix_refl _
  | cons line rest ih => exact (ih _).trans (List.suffix_append _ _)

/-- The line `opener`, behind the lines `earlier`, opened the page at `url` on top of the pages of
then, and none of them has been left in the lines `later` behind it. -/
structure Opened (first : Repl) (earlier : List Text) (opener : Text) (later : List Text)
    (url : Text) : Prop where
  dispatch : (first.after earlier).dispatch? opener.trim = some (.navigated url)
  kept : ∀ since, since <+: later →
    url :: (first.after earlier).pages <:+ (first.after (earlier ++ opener :: since)).pages

/-- A page above those of the start has been opened on top of the pages that are below it now. -/
theorem after_opened {first : Repl} (new : ¬ url :: below <:+ first.pages)
    (held : url :: below <:+ (first.after lines).pages) :
    ∃ earlier opener later, lines = earlier ++ opener :: later ∧
      (first.after earlier).pages = below ∧ first.Opened earlier opener later url := by
  induction lines using List.reverseRecOn with
  | nil => exact absurd held new
  | append_singleton lines line ih =>
    have entered := held
    rw [after_concat] at entered
    -- Either the pages were there before the last line, or that line opened the one on top.
    rcases enter_opens entered with before | ⟨opens, here⟩
    · obtain ⟨earlier, opener, later, rfl, same, opened⟩ := ih before
      have whole : earlier ++ opener :: later ++ [line] =
        earlier ++ opener :: (later ++ [line]) := by simp
      refine ⟨earlier, opener, later ++ [line], whole, same, opened.dispatch, ?_⟩
      intro since part
      rcases List.prefix_concat_iff.mp part with rfl | part
      · rwa [← whole, same]
      · exact opened.kept since part
    · refine ⟨lines, line, [], rfl, here, opens, fun since part => ?_⟩
      rw [List.prefix_nil.mp part, here]
      exact held

/-- Whatever the collection and the input, behind each prompt that is printed the pages end with the
root, and the prompt shows the path of the page on top. When a line goes back then, there are two
pages at least; the one on top is left, and the page that is opened again is the one that was
current when the page on top was opened. -/
theorem pages_behind_prompt {text input : Text} {posts : List Post} {before rest : List Text}
    (loaded : Post.collectionOfText text = .ok posts) (split : linesOf input = before ++ rest)
    (environment : Environment) (directory : Directory) (clock : Clock) :
    let first := (start posts environment directory clock).1
    let opening := (start posts environment directory clock).2
    let printed := (first.enterAll before).2
    let repl := first.after before
    opening ++ printed <+: (run (some text) environment directory clock input).output ∧
      repl.prompt <:+ printed ∧
      ∃ url below, repl.pages = url :: below ∧ repl.pages.getLast? = some "/".toList ∧
        repl.prompt = repl.terminal.profile.user ++ "@" ++ repl.terminal.profile.host ++ " " ++
          ((Page.ofUrl? url).map Page.promptPath).getD "~" ++ " (main) $ " ∧
        ∀ line : Text, repl.dispatch? line.trim = some .wentBack →
          2 ≤ repl.pages.length ∧ (repl.enter line.trim).1.pages = below ∧
            ∃ earlier opener later, before = earlier ++ opener :: later ∧
              first.Opened earlier opener later url ∧ (first.after earlier).pages = below ∧
              (repl.enter line.trim).1.terminal.path = (first.after earlier).terminal.path := by
  intro first opening printed repl
  have started : first.Stacked := start_stacked posts environment directory clock
  have stacked : repl.Stacked := after_stacked before started
  obtain ⟨url, below, pages, path⟩ := stacked.top
  refine ⟨?_, enterAll_prompt first before, url, below, pages, stacked.bottom, ?_, ?_⟩
  · have shown : (run (some text) environment directory clock input).output =
        opening ++ (first.enterAll (before ++ rest)).2 := by
      simp only [run, Option.map_some, loaded, split]
      rfl
    rw [shown]
    exact (List.prefix_append_right_inj opening).mpr (enterAll_printed first before rest)
  · rw [prompt, path]
    rfl
  · intro line back
    obtain ⟨more, popped⟩ := stacked.wentBack pages back
    have new : ¬ url :: below <:+ first.pages := by
      intro held
      have bounded : (url :: below).length ≤ 1 := held.length_le
      omega
    have held : url :: below <:+ repl.pages := pages.symm ▸ List.suffix_refl (url :: below)
    obtain ⟨earlier, opener, later, parts, here, opened⟩ := after_opened new held
    have left : (repl.enter line.trim).1.Stacked := enter_stacked line.trim stacked
    have came : (first.after earlier).Stacked := after_stacked earlier started
    refine ⟨pages ▸ more, popped, earlier, opener, later, parts, opened, here, ?_⟩
    rw [left.path, came.path, popped, here]

/-- A click in the listing of all posts leads to a post, and going up from there leads back. -/
theorem pages_behind_prompt_clicked :
    let posts : List Post := [⟨"a", "A", [], [], [], none, []⟩]
    let clock : Clock := ⟨⟨⟨1970, 1, 1⟩, 0, 0⟩, 0⟩
    let before : List Text := ["cd posts", "!1"]
    let line : Text := "cd .."
    ((start posts {} .absent clock).1.after before).dispatch? line.trim = some .wentBack ∧
      ∃ earlier opener later, before = earlier ++ opener :: later ∧
        (start posts {} .absent clock).1.Opened earlier opener later "/posts/a" ∧
        (((start posts {} .absent clock).1.after before).enter line.trim).1.pages =
          ((start posts {} .absent clock).1.after earlier).pages ∧
        (((start posts {} .absent clock).1.after before).enter line.trim).1.terminal.path =
          ((start posts {} .absent clock).1.after earlier).terminal.path := by
  intro posts clock before line
  have loaded : Post.collectionOfText "[[\"a\", \"A\", \"\", \"\"]]" = .ok posts := by
    decide +kernel
  have split : linesOf "cd posts\n!1\ncd ..\n" = before ++ [line] := by decide +kernel
  have visited : ((start posts {} .absent clock).1.after before).pages.head? =
    some "/posts/a".toList := by decide +kernel
  have back : ((start posts {} .absent clock).1.after before).dispatch? line.trim =
    some .wentBack := by decide +kernel
  obtain ⟨_, _, url, below, pages, _, _, reopened⟩ :=
    pages_behind_prompt loaded split {} .absent clock
  have top : url = "/posts/a".toList := by
    rw [pages] at visited
    exact Option.some.inj visited
  obtain ⟨_, popped, earlier, opener, later, parts, opened, here, path⟩ := reopened line back
  rw [top] at opened
  exact ⟨back, earlier, opener, later, parts, opened, popped.trans here.symm, path⟩

end Repl

end BlogTerminal
