import BlogTerminal.Proofs.Terminal.Dispatch
import BlogTerminal.Proofs.Terminal.Session

/-!
One theme in three places: the terminal, its screen and the preferences. An operation leaves all
three alone or gives all three the same theme, so terminal and screen agree even when the
preferences fail, and when they never fail the next page starts with the theme of the last.
-/

namespace BlogTerminal

open Markup

/-- The theme that a stored name stands for. -/
def Theme.ofStored (stored : Option Text) : Theme := (stored.bind Theme.ofName?).getD .default

/-- What is stored for a theme stands for that theme. -/
theorem Theme.ofStored_attribute (theme : Theme) : Theme.ofStored theme.attribute? = theme := by
  cases theme <;> decide

private theorem Screen.theme_kept (screen : Screen) {events : List Event}
    (untold : ∀ theme, Event.applyTheme theme ∉ events) :
    (screen.applyAll events).theme = screen.theme := by
  induction events generalizing screen with
  | nil => rfl
  | cons event rest ih =>
    have later := ih (screen.apply event) fun theme member => untold theme (.tail _ member)
    rw [applyAll, List.foldl_cons, ← applyAll, later]
    cases event with
    | append block | clear | navigate url | goBack | scroll => rfl
    | applyTheme theme => exact absurd (.head _) (untold theme)

namespace Terminal

variable {σ τ : Type}

/-! ## One operation -/

/-- An operation leaves the theme as it is, or gives the same one to the terminal, to the screen
and to the preferences. -/
inductive Repaints [Store τ] (terminal : Terminal σ τ) (step : Step σ τ) : Prop where
  | kept (theme : step.terminal.theme = terminal.theme)
      (preferences : step.terminal.preferences = terminal.preferences)
      (untold : ∀ theme, Event.applyTheme theme ∉ step.events)
  | taken (theme : Theme) (now : step.terminal.theme = theme)
      (preferences : step.terminal.preferences = (terminal.setTheme theme).preferences)
      (told : ∀ screen : Screen, (screen.applyAll step.events).theme = theme.attribute?)

private theorem outputEvents_untold (body : List Node) (theme : Option Text) :
    Event.applyTheme theme ∉ outputEvents body := by
  unfold outputEvents
  split <;> simp

variable [Store τ]

private theorem apply_repaints (terminal : Terminal σ τ) (line : Text) (result : Result) :
    Repaints terminal (terminal.apply line result) := by
  unfold apply
  split
  · exact .kept rfl rfl (by simp)
  · split
    · exact .kept rfl rfl (by simp)
    · split
      · exact .kept rfl rfl (by simp)
      · cases result.theme with
        | none =>
          refine .kept rfl rfl fun theme => ?_
          simp [themeEvents, outputEvents_untold]
        | some theme =>
          refine .taken theme rfl rfl fun screen => ?_
          -- The screen is told behind the command line, and nothing after that is about themes.
          have split : Event.append (terminal.echo line) :: themeEvents (some theme) ++
              outputEvents result.body ++ [.scroll] =
                [.append (terminal.echo line), .applyTheme theme.attribute?] ++
                  (outputEvents result.body ++ [.scroll]) := by
            simp [themeEvents]
          rw [split, Screen.applyAll, List.foldl_append, ← Screen.applyAll]
          exact Screen.theme_kept _ (by simp [outputEvents_untold])

private theorem execute_repaints (terminal : Terminal σ τ) (line : Text) :
    Repaints terminal (terminal.execute line) := by
  rcases execute_cases terminal line with same | same | ⟨call, same⟩
  · rw [same]
    exact .kept rfl rfl (by simp)
  · rw [same]
    exact .kept rfl rfl (by simp)
  · rw [same]
    exact apply_repaints terminal _ _

variable [Store σ] {terminal : Terminal σ τ} {line : Option Text} {step : Step σ τ}

private theorem performed_repaints (performed : Performed terminal line step) :
    Repaints terminal step := by
  cases performed with
  | edited input cursor cycle => exact .kept rfl rfl (by simp)
  | followed url => exact .kept rfl rfl (by simp)
  | ran line input behind cursor cycle executed =>
    have repaints := execute_repaints { terminal with input, cursor, cycle } line
    rw [executed] at repaints
    cases repaints with
    | kept theme preferences untold => exact .kept theme preferences untold
    | taken theme now preferences told => exact .taken theme now preferences told
  | submitted line executed =>
    have repaints :=
      execute_repaints { terminal with input := [], cursor := none, cycle := none } line
    rw [executed] at repaints
    cases repaints with
    | kept theme preferences untold => exact .kept theme preferences untold
    | taken theme now preferences told => exact .taken theme now preferences told

end Terminal

/-! ## Screens -/

variable {σ τ : Type} [Store σ] [Store τ]

/-- The screen shows the theme of the terminal. -/
def Visit.Painted (visit : Visit σ τ) : Prop :=
  visit.screen.theme = visit.terminal.theme.attribute?

private theorem Visit.start_painted (setup : Terminal.Setup σ τ) : (Visit.start setup).Painted := by
  have untold (theme : Option Text) : Event.applyTheme theme ∉
      (if setup.skipListing then [] else [Event.append (Terminal.start setup).listing]) := by
    split <;> simp
  simp only [Painted, start, Terminal.openingEvents]
  rw [Screen.applyAll, List.foldl_append, ← Screen.applyAll, Screen.theme_kept _ untold]
  cases (Terminal.start setup).theme <;> rfl

private theorem Visit.perform_painted {visit : Visit σ τ} (operation : Operation)
    (painted : visit.Painted) : (visit.perform operation).Painted := by
  have repaints := Terminal.performed_repaints (Terminal.perform_performed visit.terminal operation)
  cases repaints with
  | kept theme preferences untold =>
    have screen := Screen.theme_kept visit.screen untold
    exact (screen.trans painted).trans (congrArg Theme.attribute? theme).symm
  | taken theme now preferences told =>
    exact (told visit.screen).trans (congrArg Theme.attribute? now).symm

/-! ## Runs in which calls of the preferences fail -/

namespace Browsing

/-- The run with other calls of the preferences failing from now on. -/
def withFaults (browsing : Browsing σ (FaultyStore τ)) (faults : List StoreCall) :
    Browsing σ (FaultyStore τ) :=
  let terminal := browsing.visit.terminal
  { browsing with
    visit.terminal := { terminal with preferences := { terminal.preferences with faults } } }

/-- A step of a run, together with the calls of the preferences that fail in it. -/
structure Trial where
  faults : List StoreCall
  action : Action

/-- The run behind another step with failing calls. -/
def attempt (browsing : Browsing σ (FaultyStore τ)) (trial : Trial) : Browsing σ (FaultyStore τ) :=
  (browsing.withFaults trial.faults).act trial.action

/-- A run of steps with failing calls behind a first page. -/
def attempts (setup : Terminal.Setup σ (FaultyStore τ)) (trials : List Trial) :
    Browsing σ (FaultyStore τ) :=
  trials.foldl attempt (start setup)

private theorem act_painted {browsing : Browsing σ τ} (action : Action)
    (painted : browsing.visit.Painted) : (browsing.act action).visit.Painted := by
  cases action with
  | load opening => exact Visit.start_painted _
  | operate operation => exact Visit.perform_painted operation painted

private theorem attempts_painted (setup : Terminal.Setup σ (FaultyStore τ)) (trials : List Trial) :
    (attempts setup trials).visit.Painted := by
  have from_state : ∀ browsing : Browsing σ (FaultyStore τ), browsing.visit.Painted →
      (trials.foldl attempt browsing).visit.Painted := by
    induction trials with
    | nil => exact fun _ painted => painted
    | cons trial rest ih =>
      intro browsing painted
      have same : (browsing.withFaults trial.faults).visit.Painted := painted
      exact ih _ (act_painted trial.action same)
  exact from_state _ (Visit.start_painted setup)

/-! ## Runs without failures -/

/-- No call fails, and the theme is the one that is stored. -/
structure Remembers (preferences : FaultyStore τ) (theme : Theme) : Prop where
  sound : preferences.faults = []
  stored : ∃ stored, Store.get preferences Terminal.themeKey = .ok stored ∧
    theme = Theme.ofStored stored

/-- A new page takes the theme that is stored. -/
theorem storedTheme_remembered {preferences : FaultyStore τ} {theme : Theme}
    (remembers : Remembers preferences theme) : Terminal.storedTheme preferences = theme := by
  obtain ⟨stored, held, rfl⟩ := remembers.stored
  rw [Terminal.storedTheme, held]
  cases stored <;> rfl

/-- What the preferences hold before anything was done is some theme. -/
theorem remembers_stored (reliable : Store.Reliable τ) {preferences : FaultyStore τ}
    (sound : preferences.faults = []) :
    Remembers preferences (Terminal.storedTheme preferences) := by
  obtain ⟨store, faults⟩ := preferences
  subst sound
  obtain ⟨stored, held⟩ := reliable.answers store Terminal.themeKey
  have same : Store.get (⟨store, []⟩ : FaultyStore τ) Terminal.themeKey = .ok stored := held
  refine ⟨rfl, stored, same, ?_⟩
  rw [Terminal.storedTheme, same]
  cases stored <;> rfl

omit [Store σ] in
/-- A theme that is taken is stored, and the default is taken by storing none. -/
theorem remembers_setTheme (reliable : Store.Reliable τ) {terminal : Terminal σ (FaultyStore τ)}
    (sound : terminal.preferences.faults = []) (theme : Theme) :
    Remembers (terminal.setTheme theme).preferences theme := by
  have written := Theme.ofStored_attribute theme
  rw [Terminal.setTheme]
  cases told : theme.attribute? with
  | none =>
    rw [told] at written
    refine ⟨?_, none, ?_, written.symm⟩
    · simp [Store.remove, FaultyStore.attempt, sound]
    · have removed :=
        reliable.get_remove terminal.preferences.store Terminal.themeKey Terminal.themeKey
      simpa [Store.remove, Store.get, FaultyStore.attempt, sound] using removed
  | some name =>
    rw [told] at written
    refine ⟨?_, some name, ?_, written.symm⟩
    · simp [Store.set, FaultyStore.attempt, sound]
    · have set :=
        reliable.get_set terminal.preferences.store Terminal.themeKey name Terminal.themeKey
      simpa [Store.set, Store.get, FaultyStore.attempt, sound] using set

/-- The theme of the open page is remembered. -/
def Kept (browsing : Browsing σ (FaultyStore τ)) : Prop :=
  Remembers browsing.visit.terminal.preferences browsing.visit.terminal.theme

private theorem attempt_kept (reliable : Store.Reliable τ) {browsing : Browsing σ (FaultyStore τ)}
    {trial : Trial} (sound : trial.faults = []) (kept : browsing.Kept) :
    (browsing.attempt trial).Kept := by
  obtain ⟨faults, action⟩ := trial
  subst sound
  have same : browsing.withFaults [] = browsing := by
    have none := kept.sound
    unfold withFaults
    rw [← none]
  rw [attempt, same]
  cases action with
  | load opening =>
    have theme : (browsing.act (.load opening)).visit.terminal.theme =
        browsing.visit.terminal.theme := storedTheme_remembered kept
    rw [Kept, theme]
    exact kept
  | operate operation =>
    have performed := Terminal.perform_performed browsing.visit.terminal operation
    rw [Kept, act, Visit.perform]
    cases Terminal.performed_repaints performed with
    | kept theme preferences untold =>
      rw [theme, preferences]
      exact kept
    | taken theme now preferences told =>
      rw [now, preferences]
      exact remembers_setTheme reliable kept.sound theme

private theorem attempts_kept (reliable : Store.Reliable τ)
    {setup : Terminal.Setup σ (FaultyStore τ)}
    (sound : setup.preferences.faults = []) {trials : List Trial}
    (all : ∀ trial ∈ trials, trial.faults = []) : (attempts setup trials).Kept := by
  have from_state : ∀ browsing : Browsing σ (FaultyStore τ), browsing.Kept →
      (trials.foldl attempt browsing).Kept := by
    induction trials with
    | nil => exact fun _ kept => kept
    | cons trial rest ih =>
      intro browsing kept
      have next := attempt_kept reliable (all trial (.head _)) kept
      exact ih (fun other member => all other (.tail _ member)) _ next
  exact from_state _ (remembers_stored reliable sound)

end Browsing

/-- Over any run of page loads and operations on one preference store, the screen shows the theme of
the terminal, whichever calls of the store fail in whichever step. When none fails, the theme is the
one that the stored name stands for, the default when there is none or one unknown, and so the next
page has the same theme and shows it. -/
theorem themes_agree (setup : Terminal.Setup σ (FaultyStore τ)) (trials : List Browsing.Trial) :
    let visit := (Browsing.attempts setup trials).visit
    visit.screen.theme = visit.terminal.theme.attribute? ∧
      (Store.Reliable τ → setup.preferences.faults = [] → (∀ trial ∈ trials, trial.faults = []) →
        (∃ stored, Store.get visit.terminal.preferences Terminal.themeKey = .ok stored ∧
          visit.terminal.theme = (stored.bind Theme.ofName?).getD .default) ∧
        ∀ (opening : Opening) (session : σ),
          let next := Visit.start (opening.setup session visit.terminal.preferences)
          next.terminal.theme = visit.terminal.theme ∧
            next.screen.theme = visit.screen.theme) := by
  intro visit
  have painted : visit.Painted := Browsing.attempts_painted setup trials
  refine ⟨painted, fun reliable sound all => ?_⟩
  have kept : Browsing.Remembers visit.terminal.preferences visit.terminal.theme :=
    Browsing.attempts_kept reliable sound all
  refine ⟨kept.stored, fun opening session => ?_⟩
  intro next
  have theme : next.terminal.theme = visit.terminal.theme := Browsing.storedTheme_remembered kept
  have shown : next.screen.theme = next.terminal.theme.attribute? := Visit.start_painted _
  refine ⟨theme, ?_⟩
  rw [shown, theme]
  exact painted.symm

/-- From one oddly written stored theme: when it cannot be written over, page and screen still take
the theme they are told, and when it can, the next page takes it too. -/
theorem themes_agree_recovered :
    let setup : Terminal.Setup MemoryStore (FaultyStore MemoryStore) :=
      ⟨[], {}, "~", true, ⟨[]⟩, ⟨⟨[("terminal-theme", " Matrix")]⟩, []⟩, ⟨⟨⟨1970, 1, 1⟩, 0, 0⟩, 0⟩⟩
    let failing := Browsing.attempts setup
      [⟨[.set, .remove], .operate (.execute "theme dracula")⟩]
    let sound := Browsing.attempts setup [⟨[], .operate (.execute "theme ubuntu")⟩]
    failing.visit.terminal.theme = .dracula ∧ failing.visit.screen.theme = some "dracula".toList ∧
      sound.visit.terminal.theme = .ubuntu ∧
      Store.get sound.visit.terminal.preferences Terminal.themeKey = .ok (some "ubuntu".toList) ∧
      ∀ opening : Opening, (Visit.start (opening.setup (⟨[]⟩ : MemoryStore)
        sound.visit.terminal.preferences)).screen.theme = some "ubuntu".toList := by
  intro setup failing sound
  have dracula : failing.visit.terminal.theme = .dracula := by decide
  have ubuntu : sound.visit.terminal.theme = .ubuntu := by decide
  have shown := (themes_agree setup [⟨[.set, .remove], .operate (.execute "theme dracula")⟩]).1
  obtain ⟨same, later⟩ := themes_agree setup [⟨[], .operate (.execute "theme ubuntu")⟩]
  obtain ⟨_, next⟩ := later MemoryStore.reliable rfl (by simp)
  refine ⟨dracula, ?_, ubuntu, ?_, fun opening => ?_⟩
  · exact shown.trans (congrArg Theme.attribute? dracula)
  · rfl
  · have again := (next opening ⟨[]⟩).2
    exact again.trans (same.trans (congrArg Theme.attribute? ubuntu))

end BlogTerminal
