import BlogTerminal.Proofs.Command.Completion
import BlogTerminal.Proofs.Terminal.Candidates
import BlogTerminal.Proofs.Terminal.Session
import BlogTerminal.Proofs.Text.Pieces

/-!
The Tab key. It looks at the word behind the last space of the input line and puts candidates in its
place, one with each press. As long as no candidate holds a space, the one that was put in is the
last word again and so the presses go through all of them; a candidate with a space starts over with
what follows the space. Either way the line goes on from what was typed, up to case.
-/

namespace BlogTerminal

open Text

namespace Terminal

variable {σ τ : Type} {terminal : Terminal σ τ} {line word typed other : Text}

/-! ## What is offered -/

/-- Whatever is offered for a word begins with it, up to case. -/
theorem offered_continue {command candidate : Text} {isFirst : Bool}
    (offered : candidate ∈ terminal.candidates command typed isFirst) :
    typed.lower <+: candidate.lower := by
  unfold candidates at offered
  split at offered
  · exact registry_continue offered
  · split at offered
    · exact Builtin.offered_continues rfl offered
    · exact absurd offered List.not_mem_nil

/-- The case of the letters of a word does not matter to the commands that complete paths, but for
the directories behind which they complete items: these are taken as they are spelled. Behind any
other spelling nothing is offered, except that `cat` takes the word for the begin of a slug. -/
theorem letters_completed (terminal : Terminal σ τ) {builtin : Builtin}
    (completes : builtin.CompletesPaths)
    (letters : typed.map Char.toLower = other.map Char.toLower) :
    ((∀ start ∈ builtin.completedBehind, start <+: typed ↔ start <+: other) →
      terminal.candidates builtin.command.name typed false =
        terminal.candidates builtin.command.name other false) ∧
    ∀ start ∈ builtin.completedBehind, start <+: typed → ¬ start <+: other →
      terminal.candidates builtin.command.name other false =
        if builtin = .cat then Completion.posts terminal.posts other else [] := by
  rw [candidates_builtin, candidates_builtin]
  refine ⟨Builtin.candidates_same_letters completes letters, fun start known begins capital => ?_⟩
  have lower : start <+: other.map Char.toLower := by
    have mapped := begins.map Char.toLower
    rwa [Builtin.completedBehind_lower known, letters] at mapped
  exact Builtin.candidates_capital completes known lower capital

/-- `series/G` spells the directory as `series/g` does, `Series/g` does not. -/
theorem letters_completed_shelf :
    let opened : Terminal MemoryStore MemoryStore := Terminal.start
      ⟨[⟨"intro", "Intro", [], "2024-01-01", [], some "Go", []⟩], {}, "~", true, ⟨[]⟩, ⟨[]⟩,
        ⟨⟨⟨1970, 1, 1⟩, 0, 0⟩, 0⟩⟩
    opened.candidates "ls" "series/G" false = opened.candidates "ls" "series/g" false ∧
      opened.candidates "ls" "Series/g" false = [] := by
  intro opened
  have slug : "series/G".toList.map Char.toLower = "series/g".toList.map Char.toLower := by decide
  have shelf : "series/g".toList.map Char.toLower = "Series/g".toList.map Char.toLower := by decide
  have kept := (letters_completed opened .ls slug).1
  have lost := (letters_completed opened .ls shelf).2
  exact ⟨kept (by decide), lost "series/" (by decide) (by decide) (by decide)⟩

/-- A series is found behind its directory, but not behind the same directory in capitals. -/
theorem capital_uncompleted :
    let opened : Terminal MemoryStore MemoryStore := Terminal.start
      ⟨[⟨"intro", "Intro", [], "2024-01-01", [], some "Go", []⟩], {}, "~", true, ⟨[]⟩, ⟨[]⟩,
        ⟨⟨⟨1970, 1, 1⟩, 0, 0⟩, 0⟩⟩
    "series/g".toList.map Char.toLower = "SERIES/g".toList.map Char.toLower ∧
      opened.candidates "ls" "series/g" false = ["series/go".toList] ∧
      opened.candidates "ls" "SERIES/g" false = [] := by
  decide +kernel

/-! ## The words of the input line -/

private theorem words_spaced (front : Text) (whole : ' ' ∉ word) :
    (front ++ ' ' :: word).splitOn ' ' = front.splitOn ' ' ++ [word] := by
  rw [List.splitOn_append_cons_self, List.splitOn_eq_singleton whole]

private theorem words_last (line : Text) :
    (line.splitOn ' ').getLast?.getD [] = afterLastSpace line := by
  rcases lastSpace_cases line with whole | ⟨front, word, rfl, whole⟩
  · rw [List.splitOn_eq_singleton whole]
    exact (afterLastSpace_append [] whole).symm
  · rw [words_spaced front whole, List.getLast?_concat, Option.getD_some,
      afterLastSpace_spaced front whole]

private theorem words_first (line : Text) :
    (line.splitOn ' ').head?.getD [] = beforeFirstSpace line := by
  by_cases spaced : ' ' ∈ line
  · obtain ⟨first, rest, rfl, whole⟩ := List.eq_append_cons_of_mem spaced
    rw [List.splitOn_append_cons_self_of_not_mem whole, List.head?_cons, Option.getD_some,
      beforeFirstSpace_spaced whole]
  · rw [List.splitOn_eq_singleton spaced, List.head?_cons, Option.getD_some,
      beforeFirstSpace_whole spaced]

private theorem words_single (line : Text) : (line.splitOn ' ').length = 1 ↔ ' ' ∉ line := by
  rcases lastSpace_cases line with whole | ⟨front, word, rfl, whole⟩
  · simp [List.splitOn_eq_singleton whole, whole]
  · have given := List.length_pos_iff.mpr (List.splitOn_ne_nil ' ' front)
    rw [words_spaced front whole, List.length_append, List.length_singleton]
    simp

private theorem intercalate_concat {parts : List Text} (given : parts ≠ []) (word : Text) :
    [' '].intercalate (parts ++ [word]) = [' '].intercalate parts ++ ' ' :: word := by
  obtain ⟨part, more, rfl⟩ := List.exists_cons_of_ne_nil given
  rw [List.cons_append, Text.intercalate_cons, Text.intercalate_cons, List.flatMap_append,
    List.flatMap_singleton, List.append_assoc]
  rfl

private theorem replaceLast_words (line word : Text) :
    replaceLast (line.splitOn ' ') word = upToLastSpace line ++ word := by
  rcases lastSpace_cases line with whole | ⟨front, last, rfl, whole⟩
  · rw [replaceLast, List.splitOn_eq_singleton whole, upToLastSpace_whole whole]
    exact List.intercalate_singleton
  · rw [replaceLast, words_spaced front whole, List.dropLast_concat,
      intercalate_concat (List.splitOn_ne_nil ' ' front), List.intercalate_splitOn,
      upToLastSpace_spaced front whole, List.append_cons]

/-! ## One press -/

/-- The candidates for the last word of the input line. -/
def offers (terminal : Terminal σ τ) : List Text :=
  terminal.candidates (beforeFirstSpace terminal.input) (afterLastSpace terminal.input)
    (' ' ∉ terminal.input)

/-- The candidate in the input line is that of the stored cycle, so the next press goes on in it. -/
def Cycling (terminal : Terminal σ τ) : Prop :=
  terminal.cycle.bind Cycle.current? = some (afterLastSpace terminal.input)

private theorem not_cycling (unstored : terminal.cycle = none) : ¬ terminal.Cycling := by
  rw [Cycling, unstored]
  exact (Option.some_ne_none _).symm

/-- The terminal with the candidate of a cycle for the last word of the input line. -/
def showing (terminal : Terminal σ τ) (cycle : Cycle) (word : Text) : Terminal σ τ :=
  { terminal with cycle := some cycle, input := upToLastSpace terminal.input ++ word }

private theorem freshCycle_offers (terminal : Terminal σ τ) :
    terminal.freshCycle terminal.inputWords = match terminal.offers with
      | [] => none
      | candidates => some ⟨candidates, 0⟩ := by
  have single : decide (terminal.inputWords.length = 1) = decide (' ' ∉ terminal.input) :=
    decide_eq_decide.mpr (words_single terminal.input)
  have first : terminal.inputWords.head?.getD [] = beforeFirstSpace terminal.input :=
    words_first terminal.input
  have last : terminal.inputWords.getLast?.getD [] = afterLastSpace terminal.input :=
    words_last terminal.input
  rw [freshCycle, single, first, last]
  rfl

/-- A press that does not go on in the stored cycle starts a new one, if there is something to
offer. -/
theorem complete_fresh (new : ¬ terminal.Cycling) :
    terminal.complete = match terminal.offers with
      | [] => { terminal with cycle := none }
      | word :: rest => terminal.showing ⟨word :: rest, 0⟩ word := by
  have fresh : terminal.nextCycle = terminal.freshCycle terminal.inputWords := by
    rw [Cycling, ← words_last] at new
    unfold nextCycle
    cases stored : terminal.cycle with
    | none => rfl
    | some cycle =>
      rw [stored] at new
      exact if_neg new
  unfold complete
  rw [fresh, freshCycle_offers]
  cases terminal.offers with
  | nil => rfl
  | cons word rest =>
    simp only [Option.bind_some, Cycle.current?, List.getElem?_cons_zero, inputWords,
      replaceLast_words]
    rfl

private theorem complete_again {candidates : List Text} {index : Nat} {word : Text}
    (stored : terminal.cycle = some ⟨candidates, index⟩)
    (current : candidates[index]? = some (afterLastSpace terminal.input))
    (read : candidates[(index + 1) % candidates.length]? = some word) :
    terminal.complete = terminal.showing ⟨candidates, (index + 1) % candidates.length⟩ word := by
  have again : (⟨candidates, index⟩ : Cycle).current? =
      some (terminal.inputWords.getLast?.getD []) := by
    rw [inputWords, words_last]
    exact current
  have advanced : terminal.nextCycle = some ⟨candidates, (index + 1) % candidates.length⟩ := by
    simp only [nextCycle, stored, if_pos again]
  unfold complete
  simp only [advanced, Option.bind_some, Cycle.current?, read, inputWords, replaceLast_words]
  rfl

/-- The candidate that has been put in is the last word, and replaces only the one before. -/
theorem showing_parts (terminal : Terminal σ τ) (cycle : Cycle) {word : Text} (whole : ' ' ∉ word) :
    upToLastSpace (terminal.showing cycle word).input = upToLastSpace terminal.input ∧
      afterLastSpace (terminal.showing cycle word).input = word := by
  have closed := upToLastSpace_idem terminal.input
  constructor
  · rw [showing, upToLastSpace_append _ whole, closed]
  · rw [showing, afterLastSpace_append _ whole, afterLastSpace_nil closed, List.nil_append]

private theorem showing_showing (terminal : Terminal σ τ) (first second : Cycle) {word : Text}
    (whole : ' ' ∉ word) (next : Text) :
    (terminal.showing first word).showing second next = terminal.showing second next := by
  have before := (showing_parts terminal first whole).1
  simp only [showing] at before ⊢
  rw [before]

/-! ## What the line goes on from -/

variable {lead : Text}

/-- The line is `lead` and then something that continues `typed`. -/
def Continues (lead typed line : Text) : Prop :=
  ∃ rest, line = lead ++ rest ∧ typed.lower <+: rest.lower

/-- The last word may be replaced by one that continues it. -/
theorem Continues.replace (closed : upToLastSpace lead = lead)
    (continues : Continues lead typed line) (begins : (afterLastSpace line).lower <+: word.lower) :
    Continues lead typed (upToLastSpace line ++ word) := by
  obtain ⟨rest, rfl, within⟩ := continues
  rcases lastSpace_cases rest with whole | ⟨front, last, rfl, whole⟩
  · rw [afterLastSpace_append _ whole, afterLastSpace_nil closed, List.nil_append] at begins
    rw [upToLastSpace_append _ whole, closed]
    exact ⟨word, rfl, within.trans begins⟩
  · rw [← List.append_assoc] at begins ⊢
    rw [afterLastSpace_spaced _ whole] at begins
    rw [upToLastSpace_spaced _ whole]
    refine ⟨front ++ ' ' :: word, by simp, within.trans ?_⟩
    exact lower_prefix_around (by decide) front begins

/-- The line continues what was typed, and so it does with any candidate that the next press can put
in from the stored cycle. -/
structure Completing (lead typed : Text) (terminal : Terminal σ τ) : Prop where
  line : Continues lead typed terminal.input
  again : ∀ cycle, terminal.cycle = some cycle →
    cycle.current? = some (afterLastSpace terminal.input) →
    ∀ word ∈ cycle.candidates, Continues lead typed (upToLastSpace terminal.input ++ word)

private theorem showing_completing {cycle : Cycle} (current : cycle.current? = some word)
    (continued : ∀ word ∈ cycle.candidates,
      Continues lead typed (upToLastSpace terminal.input ++ word)) :
    Completing lead typed (terminal.showing cycle word) := by
  refine ⟨continued word (List.mem_of_getElem? current), fun stored same still next listed => ?_⟩
  obtain rfl : cycle = stored := Option.some.inj same
  -- The candidate is still the last word, so it has no space and takes only that word's place.
  have last : word = afterLastSpace (terminal.showing cycle word).input :=
    Option.some.inj (current.symm.trans still)
  have whole : ' ' ∉ word := last ▸ afterLastSpace_whole _
  rw [(showing_parts terminal cycle whole).1]
  exact continued next listed

private theorem complete_completing (closed : upToLastSpace lead = lead)
    (before : Completing lead typed terminal) : Completing lead typed terminal.complete := by
  by_cases cycling : terminal.Cycling
  · obtain ⟨⟨candidates, index⟩, stored, current⟩ := Option.bind_eq_some_iff.mp cycling
    have inside : index < candidates.length := (List.getElem?_eq_some_iff.mp current).1
    have read := List.getElem?_eq_getElem (Nat.mod_lt (index + 1) (Nat.zero_lt_of_lt inside))
    have continued := before.again _ stored current
    rw [complete_again stored current read]
    exact showing_completing read continued
  · have fresh := complete_fresh cycling
    have continued : ∀ word ∈ terminal.offers,
        Continues lead typed (upToLastSpace terminal.input ++ word) :=
      fun word offered => before.line.replace closed (offered_continue offered)
    cases offered : terminal.offers with
    | nil =>
      rw [fresh, offered]
      exact ⟨before.line, fun cycle stored => absurd stored (by simp)⟩
    | cons word rest =>
      rw [fresh, offered]
      rw [offered] at continued
      exact showing_completing rfl continued

/-! ## Many presses -/

variable [Store σ] [Store τ]

/-- What a number of presses of the Tab key leads to. -/
def tabs (terminal : Terminal σ τ) : Nat → Step σ τ
  | 0 => terminal.edit
  | presses + 1 =>
    let step := terminal.tabs presses
    let next := step.terminal.press .tab
    { next with events := step.events ++ next.events }

/-- The Tab key changes the input line and the stored cycle and asks nothing of the screen. -/
theorem tabs_frame (terminal : Terminal σ τ) (presses : Nat) :
    ∃ input cycle, terminal.tabs presses = ⟨{ terminal with input, cycle }, .ignored, []⟩ := by
  induction presses with
  | zero => exact ⟨terminal.input, terminal.cycle, rfl⟩
  | succ presses ih =>
    obtain ⟨input, cycle, before⟩ := ih
    obtain ⟨nextInput, nextCycle, same⟩ := complete_frame { terminal with input, cycle }
    rw [tabs, before]
    simp only [press, edit, same, List.nil_append]
    exact ⟨nextInput, nextCycle, rfl⟩

private theorem tabs_terminal (terminal : Terminal σ τ) (presses : Nat) :
    (terminal.tabs (presses + 1)).terminal = (terminal.tabs presses).terminal.complete := rfl

/-- Without candidates a press leaves everything as it is. -/
theorem tabs_silent (unstored : terminal.cycle = none) (silent : terminal.offers = [])
    (presses : Nat) : (terminal.tabs presses).terminal = terminal := by
  have new := not_cycling unstored
  induction presses with
  | zero => rfl
  | succ presses ih =>
    rw [tabs_terminal, ih, complete_fresh new, silent]
    exact congrArg (fun cycle => { terminal with cycle }) unstored.symm

/-- The presses go through the candidates in turn, as long as none of them holds a space. -/
theorem tabs_showing (unstored : terminal.cycle = none)
    (whole : ∀ word ∈ terminal.offers, ' ' ∉ word) (given : terminal.offers ≠ []) (presses : Nat) :
    ∃ word, terminal.offers[presses % terminal.offers.length]? = some word ∧
      (terminal.tabs (presses + 1)).terminal =
        terminal.showing ⟨terminal.offers, presses % terminal.offers.length⟩ word := by
  have positive := List.length_pos_iff.mpr given
  induction presses with
  | zero =>
    obtain ⟨word, rest, offered⟩ := List.exists_cons_of_ne_nil given
    refine ⟨word, by simp [offered], ?_⟩
    have first := complete_fresh (not_cycling unstored)
    rw [offered] at first ⊢
    rw [Nat.zero_mod]
    exact first
  | succ presses ih =>
    obtain ⟨shown, current, before⟩ := ih
    have solid : ' ' ∉ shown := whole shown (List.mem_of_getElem? current)
    have here : afterLastSpace (terminal.showing
        ⟨terminal.offers, presses % terminal.offers.length⟩ shown).input = shown :=
      (showing_parts terminal _ solid).2
    obtain ⟨word, read⟩ : ∃ word, terminal.offers[(presses + 1) % terminal.offers.length]? =
        some word := ⟨_, List.getElem?_eq_getElem (Nat.mod_lt (presses + 1) positive)⟩
    refine ⟨word, read, ?_⟩
    rw [← Nat.mod_add_mod] at read
    rw [← here] at current
    rw [tabs_terminal, before, complete_again rfl current read, Nat.mod_add_mod,
      showing_showing _ _ _ solid]

/-- Tab goes through the candidates for the last word of the input line, over and over, as long as
none of them holds a space; when there are none it does nothing. Whatever the candidates are, only
the input line and the stored cycle change, and nothing is asked of the screen. -/
theorem tabs_cycle (terminal : Terminal σ τ) (unstored : terminal.cycle = none) :
    let offered := terminal.candidates (beforeFirstSpace terminal.input)
      (afterLastSpace terminal.input) (' ' ∉ terminal.input)
    (offered = [] → ∀ presses, (terminal.tabs presses).terminal.input = terminal.input) ∧
      (offered ≠ [] → (∀ word ∈ offered, ' ' ∉ word) → ∀ presses, 1 ≤ presses →
        ∃ word, offered[(presses - 1) % offered.length]? = some word ∧
          (terminal.tabs presses).terminal.input = upToLastSpace terminal.input ++ word) ∧
      ∀ presses, ∃ input cycle,
        terminal.tabs presses = ⟨{ terminal with input, cycle }, .ignored, []⟩ := by
  intro offered
  refine ⟨fun silent presses => ?_, fun given whole presses pressed => ?_, terminal.tabs_frame⟩
  · rw [tabs_silent unstored silent]
  · obtain ⟨word, read, shown⟩ := tabs_showing unstored whole given (presses - 1)
    rw [Nat.sub_add_cancel pressed] at shown
    exact ⟨word, read, by rw [shown]; rfl⟩

/-- A line with two spaces in a row, and one press more than there are candidates. -/
theorem tabs_cycle_around :
    let opened : Terminal MemoryStore MemoryStore := Terminal.start
      ⟨[], {}, "~", true, ⟨[]⟩, ⟨[]⟩, ⟨⟨⟨1970, 1, 1⟩, 0, 0⟩, 0⟩⟩
    let terminal := { opened with input := "ls  x -".toList }
    terminal.cycle = none ∧ terminal.candidates "ls" "-" false = ["-l".toList, "-la".toList] ∧
      (terminal.tabs 3).terminal.input = "ls  x -l".toList := by
  intro opened terminal
  have offered : terminal.candidates "ls" "-" false = ["-l".toList, "-la".toList] := by
    decide +kernel
  obtain ⟨_, shown, _⟩ := tabs_cycle terminal rfl
  have here : terminal.candidates (beforeFirstSpace terminal.input) (afterLastSpace terminal.input)
      (' ' ∉ terminal.input) = ["-l".toList, "-la".toList] := offered
  rw [here] at shown
  obtain ⟨word, read, line⟩ := shown (by decide) (by decide) 3 (by decide)
  have first : "-l".toList = word := Option.some.inj read
  refine ⟨rfl, offered, ?_⟩
  rw [line, ← first]
  rfl

private theorem tabs_completing (closed : upToLastSpace lead = lead)
    (before : Completing lead typed terminal) (presses : Nat) :
    Completing lead typed (terminal.tabs presses).terminal := by
  induction presses with
  | zero => exact before
  | succ presses ih => exact complete_completing closed ih

/-- What is offered for a word begins with it, up to case. So however often Tab is pressed, and
whatever spaces the candidates hold, the line goes on from the word that was typed: `rest` is what
has come in its place. -/
theorem completion_continues (terminal : Terminal σ τ) :
    (∀ command typed isFirst, ∀ candidate ∈ terminal.candidates command typed isFirst,
      typed.lower <+: candidate.lower) ∧
    (¬ terminal.Cycling → ∀ presses,
      ∃ rest, (terminal.tabs presses).terminal.input = upToLastSpace terminal.input ++ rest ∧
        (afterLastSpace terminal.input).lower <+: rest.lower) := by
  refine ⟨fun command typed isFirst candidate => offered_continue, fun new presses => ?_⟩
  have split := (lastSpace_split terminal.input).symm
  have typing : Completing (upToLastSpace terminal.input) (afterLastSpace terminal.input)
      terminal := by
    refine ⟨⟨_, split, List.prefix_rfl⟩, fun cycle stored current => ?_⟩
    exact absurd (Option.bind_eq_some_iff.mpr ⟨cycle, stored, current⟩) new
  exact (tabs_completing (upToLastSpace_idem terminal.input) typing presses).line

/-- The slug that is put in first has a space, so the next press completes what follows it. -/
theorem completion_continues_spaced :
    let posts : List Post := [⟨"Two words", "Two", [], "2024-01-01", [], none, []⟩,
      ⟨"wordsmith", "Smith", [], "2024-01-02", [], none, []⟩]
    let opened : Terminal MemoryStore MemoryStore := Terminal.start
      ⟨posts, {}, "~", true, ⟨[]⟩, ⟨[]⟩, ⟨⟨⟨1970, 1, 1⟩, 0, 0⟩, 0⟩⟩
    let terminal := { opened with input := "cat tWO".toList }
    "Two words".toList ∈ terminal.candidates "cat" "tWO" false ∧
      lower "tWO" <+: lower "Two words" ∧
      (terminal.tabs 2).terminal.input = "cat Two wordsmith".toList ∧
      ∃ rest, (terminal.tabs 2).terminal.input = "cat ".toList ++ rest ∧
        lower "tWO" <+: lower rest := by
  intro posts opened terminal
  have offered : "Two words".toList ∈ terminal.candidates "cat" "tWO" false := by decide +kernel
  have input : (terminal.tabs 2).terminal.input = "cat Two wordsmith".toList := by decide +kernel
  obtain ⟨begins, goes⟩ := completion_continues terminal
  have new : ¬ terminal.Cycling := not_cycling rfl
  exact ⟨offered, begins "cat" "tWO" false _ offered, input, goes new 2⟩

end Terminal

end BlogTerminal
