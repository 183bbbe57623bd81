import BlogTerminal.Proofs.Command.Answer

/-!
What running a command line asks of the screen, and what it leaves alone. The events are told by the
dispatch, since the answer of a command never mixes a page transition, a wipe and output. Running a
line never touches the history, the input line or the session store; the theme changes only together
with an event, and the prompt path only when output is shown.
-/

namespace BlogTerminal

open Markup

/-- The events that belong to a dispatch, in their order. -/
inductive Conforms (echo : Block) : Dispatch → List Event → Prop where
  | ignored : Conforms echo .ignored []
  | wentBack : Conforms echo .wentBack [.goBack]
  | navigated (url : Text) : Conforms echo (.navigated url) [.navigate url]
  | cleared (body : List Node) :
      Conforms echo .cleared [.append echo, .clear, .append (.output body false)]
  | displayed (error : Bool) (themes : List (Option Text)) (bodies : List (List Node))
      (oneTheme : themes.length ≤ 1) (oneBody : bodies.length ≤ 1) :
      Conforms echo (.displayed error)
        (.append echo :: themes.map .applyTheme ++
          bodies.map (fun body => .append (.output body true)) ++ [.scroll])

/-- The dispatches behind which a terminal is as it was. -/
inductive Dispatch.Passive : Dispatch → Prop where
  | ignored : Passive .ignored
  | wentBack : Passive .wentBack
  | navigated (url : Text) : Passive (.navigated url)
  | cleared : Passive .cleared
  | failed : Passive (.displayed true)

namespace Terminal

variable {σ τ : Type}

/-- The parts of a terminal that no command line touches. -/
structure Framed (before after : Terminal σ τ) : Prop where
  posts : after.posts = before.posts
  profile : after.profile = before.profile
  clock : after.clock = before.clock
  history : after.history = before.history
  cursor : after.cursor = before.cursor
  input : after.input = before.input
  cycle : after.cycle = before.cycle
  session : after.session = before.session

private theorem framed_self (terminal : Terminal σ τ) : Framed terminal terminal :=
  ⟨rfl, rfl, rfl, rfl, rfl, rfl, rfl, rfl⟩

/-! ## Answers, applied -/

variable {context : Context Builtin} {result : Result}

private theorem outputEvents_shape (body : List Node) :
    ∃ bodies : List (List Node), bodies.length ≤ 1 ∧
      outputEvents body = bodies.map fun body => .append (.output body true) := by
  unfold outputEvents
  split
  · exact ⟨[], by simp, rfl⟩
  · exact ⟨[body], by simp, rfl⟩

private theorem themeEvents_shape (theme : Option Theme) :
    ∃ themes : List (Option Text), themes.length ≤ 1 ∧
      themeEvents theme = themes.map .applyTheme := by
  cases theme with
  | none => exact ⟨[], by simp, rfl⟩
  | some theme => exact ⟨[theme.attribute?], by simp, rfl⟩

variable [Store τ]

/-- Whatever an answer holds, applying it makes the events of its dispatch. -/
theorem apply_conforms (terminal : Terminal σ τ) (line : Text) (result : Result) :
    Conforms (terminal.echo line) (terminal.apply line result).dispatch
      (terminal.apply line result).events := by
  unfold apply
  split
  · exact .wentBack
  · split
    · exact .navigated _
    · split
      · exact .cleared _
      · obtain ⟨themes, oneTheme, sameThemes⟩ := themeEvents_shape result.theme
        obtain ⟨bodies, oneBody, sameBodies⟩ := outputEvents_shape result.body
        rw [sameThemes, sameBodies]
        exact .displayed _ themes bodies oneTheme oneBody

private theorem apply_framed (terminal : Terminal σ τ) (line : Text) (result : Result) :
    Framed terminal (terminal.apply line result).terminal := by
  unfold apply
  split
  · exact framed_self terminal
  · split
    · exact framed_self terminal
    · split
      · exact framed_self terminal
      · cases result.theme with
        | none => exact ⟨rfl, rfl, rfl, rfl, rfl, rfl, rfl, rfl⟩
        | some theme => exact ⟨rfl, rfl, rfl, rfl, rfl, rfl, rfl, rfl⟩

/-- The theme stays, in the terminal and in the preferences, unless the screen is told of one. -/
theorem apply_theme (terminal : Terminal σ τ) (line : Text) (outcome : Outcome context result)
    (untold : ∀ theme, Event.applyTheme theme ∉ (terminal.apply line result).events) :
    (terminal.apply line result).terminal.theme = terminal.theme ∧
      (terminal.apply line result).terminal.preferences = terminal.preferences := by
  cases outcome with
  | shown body | failed body | left url body path | back | stayed root | wiped => exact ⟨rfl, rfl⟩
  | themed theme body =>
    exact absurd (by simp [apply, themeEvents]) (untold theme.attribute?)

/-- An answer that occurs changes the terminal only when it is shown and is no error. -/
theorem apply_passive (terminal : Terminal σ τ) (line : Text) (outcome : Outcome context result)
    (passive : (terminal.apply line result).dispatch.Passive) :
    (terminal.apply line result).terminal = terminal := by
  cases outcome with
  | shown body | stayed root | themed theme body => cases passive
  | failed body | left url body path | back | wiped => rfl

/-- The blocks that an answer shows: the command line, its output, and behind a wipe the page. -/
theorem apply_block (terminal : Terminal σ τ) (line : Text) {block : Block}
    (shown : Event.append block ∈ (terminal.apply line result).events) :
    block = terminal.echo line ∨ block = terminal.listing ∨ block = .output result.body true := by
  have theme : Event.append block ∉ themeEvents result.theme := by
    cases result.theme <;> simp [themeEvents]
  have output (given : Event.append block ∈ outputEvents result.body) :
      block = .output result.body true := by
    unfold outputEvents at given
    split at given
    · exact absurd given List.not_mem_nil
    · exact Event.append.inj (List.mem_singleton.mp given)
  unfold apply at shown
  split at shown
  · cases List.mem_singleton.mp shown
  · split at shown
    · cases List.mem_singleton.mp shown
    · split at shown
      · simp only [List.mem_cons, Event.append.injEq, reduceCtorEq, List.not_mem_nil, or_false,
          false_or] at shown
        exact shown.imp_right .inl
      · simp only [List.mem_append, List.mem_cons, Event.append.injEq, theme, reduceCtorEq,
          List.not_mem_nil, or_false] at shown
        exact shown.imp_right fun given => .inr (output given)

/-! ## Command lines -/

/-- A line is blank, asks for the history, or is answered by a command. -/
theorem execute_cases (terminal : Terminal σ τ) (line : Text) :
    terminal.execute line = ⟨terminal, .ignored, []⟩ ∨
      terminal.execute line = ⟨terminal, .displayed false,
        [.append (terminal.echo line.trim),
          .append (.output (History.listing terminal.history) true), .scroll]⟩ ∨
      ∃ call, terminal.execute line = terminal.apply line.trim (terminal.answer call) := by
  unfold execute
  extract_lets trimmed call
  by_cases blank : trimmed.isEmpty
  · exact .inl (if_pos blank)
  · rw [if_neg blank]
    by_cases listed : call.name = Builtin.history.command.name
    · exact .inr (.inl (if_pos listed))
    · exact .inr (.inr ⟨call, if_neg listed⟩)

/-- Running a line leaves the frame as it is. -/
theorem execute_framed (terminal : Terminal σ τ) (line : Text) :
    Framed terminal (terminal.execute line).terminal := by
  rcases execute_cases terminal line with same | same | ⟨call, same⟩
  · rw [same]
    exact framed_self terminal
  · rw [same]
    exact framed_self terminal
  · rw [same]
    exact apply_framed terminal _ _

private theorem execute_conforms (terminal : Terminal σ τ) (line : Text) :
    Conforms (terminal.echo line.trim) (terminal.execute line).dispatch
      (terminal.execute line).events := by
  rcases execute_cases terminal line with same | same | ⟨call, same⟩
  · rw [same]
    exact .ignored
  · rw [same]
    exact .displayed false [] [History.listing terminal.history] (by simp) (by simp)
  · rw [same]
    exact apply_conforms terminal _ _

/-- The blocks that a line shows. -/
theorem execute_block (terminal : Terminal σ τ) (line : Text) {block : Block}
    (shown : Event.append block ∈ (terminal.execute line).events) :
    block = terminal.echo line.trim ∨ block = terminal.listing ∨
      block = .output (History.listing terminal.history) true ∨
      ∃ call, block = .output (terminal.answer call).body true := by
  rcases execute_cases terminal line with same | same | ⟨call, same⟩
  · rw [same] at shown
    exact absurd shown List.not_mem_nil
  · rw [same] at shown
    simp only [List.mem_cons, Event.append.injEq, List.not_mem_nil, or_false, reduceCtorEq] at shown
    exact shown.imp_right fun listed => .inr (.inl listed)
  · rw [same] at shown
    exact (apply_block terminal _ shown).imp_right (Or.imp_right fun output => .inr ⟨call, output⟩)

private theorem execute_theme (terminal : Terminal σ τ) (line : Text)
    (untold : ∀ theme, Event.applyTheme theme ∉ (terminal.execute line).events) :
    (terminal.execute line).terminal.theme = terminal.theme ∧
      (terminal.execute line).terminal.preferences = terminal.preferences := by
  rcases execute_cases terminal line with same | same | ⟨call, same⟩
  · rw [same]
    exact ⟨rfl, rfl⟩
  · rw [same]
    exact ⟨rfl, rfl⟩
  · rw [same] at untold ⊢
    exact apply_theme terminal _ (answer_outcome terminal call) untold

private theorem execute_passive (terminal : Terminal σ τ) (line : Text)
    (passive : (terminal.execute line).dispatch.Passive) :
    (terminal.execute line).terminal = terminal := by
  rcases execute_cases terminal line with same | same | ⟨call, same⟩
  · rw [same]
  · rw [same]
  · rw [same] at passive ⊢
    exact apply_passive terminal _ (answer_outcome terminal call) passive

/-- Running a line asks the screen for exactly what its dispatch says, in order, with the prompt as
it was before the command. It leaves the history, the input line, the cursor and the session store
as they were; the theme and its place in the preferences change only when the screen is told; and
when nothing is shown or an error is shown, the path, the theme and the stores are as before. -/
theorem execute_effects (terminal : Terminal σ τ) (line : Text) :
    let echo := Block.prompt
      ⟨terminal.profile.user, terminal.profile.host, terminal.path, line.trim⟩
    let step := terminal.execute line
    Conforms echo step.dispatch step.events ∧
      (step.terminal.history = terminal.history ∧ step.terminal.input = terminal.input ∧
        step.terminal.cursor = terminal.cursor ∧ step.terminal.session = terminal.session) ∧
      ((∀ theme, Event.applyTheme theme ∉ step.events) →
        step.terminal.theme = terminal.theme ∧
          step.terminal.preferences = terminal.preferences) ∧
      (step.dispatch.Passive →
        step.terminal.path = terminal.path ∧ step.terminal.theme = terminal.theme ∧
          step.terminal.session = terminal.session ∧
          step.terminal.preferences = terminal.preferences) := by
  intro echo step
  have frame := execute_framed terminal line
  refine ⟨execute_conforms terminal line,
    ⟨frame.history, frame.input, frame.cursor, frame.session⟩, execute_theme terminal line, ?_⟩
  intro passive
  have same : step.terminal = terminal := execute_passive terminal line passive
  rw [same]
  exact ⟨rfl, rfl, rfl, rfl⟩

end Terminal

end BlogTerminal
