import BlogTerminal.Proofs.Terminal.Dispatch
import BlogTerminal.Proofs.Terminal.Session

/-!
Recalling lines of the history. Only the keys Up and Down move the cursor, and neither moves it out
of the history: presses at an end are lost, and Down does nothing before Up has been pressed. So the
line that is recalled is told by how often the two were pressed, whatever is typed, completed or
cleared in between. Submitting a line forgets the cursor.
-/

namespace BlogTerminal

/-- The key recalls a line. -/
def Key.recalls : Key → Bool
  | up | down => true
  | _ => false

namespace Terminal

/-- Where a key moves the cursor in a history whose last position is `last`. -/
def moved (last : Nat) (cursor : Option Nat) : Key → Option Nat
  | .up => some (older last cursor)
  | .down => newer? last cursor
  | _ => cursor

/-! ## Moves -/

variable {last index : Nat}

private theorem moved_silent {key : Key} (silent : ¬ key.recalls = true) (cursor : Option Nat) :
    moved last cursor key = cursor := by
  cases key with
  | up | down => exact absurd rfl silent
  | enter | tab | char _ | backspace | clear => rfl

private theorem moved_nowhere {cursor : Option Nat} {key : Key}
    (nowhere : moved last cursor key = none) :
    cursor = none := by
  cases key with
  | up => cases nowhere
  | down => exact Option.map_eq_none_iff.mp nowhere
  | enter | tab | char _ | backspace | clear => exact nowhere

/-- The keys that do not recall can be left out. -/
theorem moved_filter (keys : List Key) (cursor : Option Nat) :
    (keys.filter Key.recalls).foldl (moved last) cursor = keys.foldl (moved last) cursor := by
  induction keys generalizing cursor with
  | nil => rfl
  | cons key rest ih =>
    by_cases recalls : key.recalls = true
    · rw [List.filter_cons_of_pos recalls, List.foldl_cons, List.foldl_cons, ih]
    · rw [List.filter_cons_of_neg recalls, List.foldl_cons, moved_silent recalls, ih]

/-- No key but Up moves the cursor to a line of the history at first. -/
theorem moved_early {keys : List Key} (early : .up ∉ keys) :
    keys.foldl (moved last) none = none := by
  induction keys with
  | nil => rfl
  | cons key rest ih =>
    rw [List.mem_cons, not_or] at early
    have nowhere : moved last none key = none := by
      cases key with
      | up => exact absurd rfl early.1
      | down | enter | tab | char _ | backspace | clear => rfl
    rw [List.foldl_cons, nowhere, ih early.2]

/-- Going back ends at the first line. -/
theorem moved_back (presses index : Nat) :
    (List.replicate presses Key.up).foldl (moved last) (some index) = some (index - presses) := by
  induction presses generalizing index with
  | zero => rfl
  | succ presses ih =>
    rw [List.replicate_succ, List.foldl_cons]
    refine (ih (index - 1)).trans ?_
    rw [Nat.sub_sub, Nat.add_comm]

/-- Going forward ends at the last line. -/
theorem moved_forward (presses : Nat) (inside : index ≤ last) :
    (List.replicate presses Key.down).foldl (moved last) (some index) =
      some (min last (index + presses)) := by
  induction presses generalizing index with
  | zero => rw [Nat.add_zero, Nat.min_eq_right inside]; rfl
  | succ presses ih =>
    rw [List.replicate_succ, List.foldl_cons]
    refine (ih (Nat.min_le_right (index + 1) last)).trans ?_
    congr 1
    omega

/-- Where the cursor is behind a number of presses in either direction. -/
theorem moved_presses (early downs : Nat) {ups : Nat} (pressed : 1 ≤ ups) :
    (List.replicate early Key.down ++ List.replicate ups Key.up ++
        List.replicate downs Key.down).foldl (moved last) none =
      some (min last (last + 1 - ups + downs)) := by
  obtain ⟨more, rfl⟩ : ∃ more, ups = more + 1 := ⟨ups - 1, by omega⟩
  have downs_first : .up ∉ List.replicate early Key.down := by simp
  have first : moved last none .up = some last := rfl
  rw [List.foldl_append, List.foldl_append, moved_early downs_first, List.replicate_succ,
    List.foldl_cons, first, moved_back, moved_forward downs (Nat.sub_le last more),
    Nat.add_sub_add_right]

/-! ## One key -/

variable {σ τ : Type} [Store σ] [Store τ] {terminal : Terminal σ τ} {key : Key}

/-- A key that recalls puts the line at the new position of the cursor into the input line. -/
theorem press_recalls (given : terminal.history ≠ []) (recalls : key.recalls = true) :
    terminal.press key =
      (match moved (terminal.history.length - 1) terminal.cursor key with
        | some index => { terminal with cycle := none }.recallAt index
        | none => { terminal with cycle := none }).edit := by
  have full : ¬ terminal.history.isEmpty = true := by simpa using given
  cases key with
  | up => exact congrArg edit (if_neg full)
  | down => exact congrArg edit (if_neg full)
  | enter | tab | char _ | backspace | clear => cases recalls

/-- Up and Down change nothing but the input line and the cursor, and give up the candidates. -/
theorem press_frame (terminal : Terminal σ τ) (recalls : key.recalls = true) :
    ∃ input cursor, terminal.press key =
      ⟨{ terminal with input, cursor, cycle := none }, .ignored, []⟩ := by
  cases key with
  | up =>
    obtain ⟨input, cursor, same⟩ := recallOlder_frame { terminal with cycle := none }
    exact ⟨input, cursor, congrArg edit same⟩
  | down =>
    obtain ⟨input, cursor, same⟩ := recallNewer_frame { terminal with cycle := none }
    exact ⟨input, cursor, congrArg edit same⟩
  | enter | tab | char _ | backspace | clear => cases recalls

/-- Every key but Enter leaves the history alone, and only Up and Down move the cursor. -/
theorem press_moved (given : terminal.history ≠ []) (quiet : key ≠ .enter) :
    (terminal.press key).terminal.history = terminal.history ∧
      (terminal.press key).terminal.cursor =
        moved (terminal.history.length - 1) terminal.cursor key := by
  by_cases recalls : key.recalls = true
  · rw [press_recalls given recalls]
    cases position : moved (terminal.history.length - 1) terminal.cursor key with
    | some index => exact ⟨rfl, rfl⟩
    | none => exact ⟨rfl, moved_nowhere position⟩
  · rw [moved_silent recalls]
    cases key with
    | enter => exact absurd rfl quiet
    | up | down => exact absurd rfl recalls
    | tab =>
      obtain ⟨input, cycle, same⟩ := complete_frame terminal
      rw [press, same]
      exact ⟨rfl, rfl⟩
    | char _ | backspace => exact ⟨rfl, rfl⟩
    | clear =>
      have frame := execute_framed { terminal with cycle := none } "clear"
      exact ⟨frame.history, frame.cursor⟩

/-! ## Many keys -/

/-- The terminal behind a list of keys. -/
def pressAll (terminal : Terminal σ τ) (keys : List Key) : Terminal σ τ :=
  keys.foldl (fun terminal key => (terminal.press key).terminal) terminal

private theorem pressAll_concat (terminal : Terminal σ τ) (keys : List Key) (key : Key) :
    terminal.pressAll (keys ++ [key]) = ((terminal.pressAll keys).press key).terminal := by
  rw [pressAll, List.foldl_append]
  rfl

private theorem pressAll_moved {keys : List Key} (given : terminal.history ≠ [])
    (quiet : .enter ∉ keys) :
    (terminal.pressAll keys).history = terminal.history ∧
      (terminal.pressAll keys).cursor =
        keys.foldl (moved (terminal.history.length - 1)) terminal.cursor := by
  induction keys generalizing terminal with
  | nil => exact ⟨rfl, rfl⟩
  | cons key rest ih =>
    rw [List.mem_cons, not_or] at quiet
    obtain ⟨history, cursor⟩ := press_moved given (Ne.symm quiet.1)
    have given' : (terminal.press key).terminal.history ≠ [] := history ▸ given
    obtain ⟨kept, behind⟩ := ih given' quiet.2
    rw [history, cursor] at behind
    exact ⟨kept.trans history, behind⟩

/-- A press that moves the cursor recalls the line there. -/
theorem press_line {index : Nat} (given : terminal.history ≠ []) (recalls : key.recalls = true)
    (position : moved (terminal.history.length - 1) terminal.cursor key = some index)
    (inside : index < terminal.history.length) :
    terminal.history[index]? = some (terminal.press key).terminal.input := by
  have read := List.getElem?_eq_getElem inside
  rw [press_recalls given recalls, position, read]
  exact congrArg some (congrArg (Option.getD · terminal.input) read).symm

/-- Down changes nothing before Up has been pressed, but for the candidates. -/
theorem press_early {keys : List Key} (given : terminal.history ≠ [])
    (fresh : terminal.cursor = none) (quiet : .enter ∉ keys) (early : .up ∉ keys) :
    (terminal.pressAll keys).press .down =
      ⟨{ terminal.pressAll keys with cycle := none }, .ignored, []⟩ := by
  obtain ⟨history, cursor⟩ := pressAll_moved given quiet
  have nowhere : moved ((terminal.pressAll keys).history.length - 1)
      (terminal.pressAll keys).cursor .down = none := by
    rw [cursor, fresh, moved_early early]
    rfl
  rw [press_recalls (history ▸ given) rfl, nowhere]
  rfl

/-- The last of many keys recalls the line that all of them together move the cursor to. -/
theorem pressAll_line {keys : List Key} {index : Nat} (given : terminal.history ≠ [])
    (quiet : .enter ∉ keys) (recalls : key.recalls = true)
    (position : (keys ++ [key]).foldl (moved (terminal.history.length - 1)) terminal.cursor =
      some index)
    (inside : index < terminal.history.length) :
    terminal.history[index]? = some (terminal.pressAll (keys ++ [key])).input := by
  obtain ⟨history, cursor⟩ := pressAll_moved given quiet
  rw [List.foldl_append, ← cursor] at position
  rw [← history] at given position inside ⊢
  rw [pressAll_concat]
  exact press_line given recalls position inside

private theorem submit_cursor (terminal : Terminal σ τ) :
    terminal.submit.terminal.cursor = none := by
  unfold submit
  extract_lets line ready step
  split
  · rfl
  · exact (execute_framed ready line).cursor

/-- Up to the next line that is submitted, the cursor depends on the presses of Up and Down alone.
Before Up has been pressed, Down changes nothing apart from the candidates, which every key but Tab
gives up. Behind `ups` Ups and then `downs` Downs, whatever other keys are in between, the last of
these presses shows the line `ups` back from the end of the history and `downs` forward, presses
beyond either end being lost. In any state Up and Down change only the input line, the cursor and
the candidates, and submitting forgets the cursor, also when the line is blank. -/
theorem recall_clamped (terminal : Terminal σ τ) (given : terminal.history ≠ [])
    (fresh : terminal.cursor = none) :
    let lines := terminal.history
    (∀ keys others, .enter ∉ keys → .enter ∉ others →
        keys.filter Key.recalls = others.filter Key.recalls →
        (terminal.pressAll keys).cursor = (terminal.pressAll others).cursor) ∧
      (∀ keys, .enter ∉ keys → .up ∉ keys →
        (terminal.pressAll keys).press .down =
          ⟨{ terminal.pressAll keys with cycle := none }, .ignored, []⟩) ∧
      (∀ keys key early ups downs, .enter ∉ keys → key.recalls = true → 1 ≤ ups →
        (keys ++ [key]).filter Key.recalls = List.replicate early .down ++
          List.replicate ups .up ++ List.replicate downs .down →
        lines[min (lines.length - 1) (lines.length - ups + downs)]? =
          some (terminal.pressAll (keys ++ [key])).input) ∧
      ∀ state : Terminal σ τ,
        (∀ key, key.recalls = true → ∃ input cursor,
          state.press key = ⟨{ state with input, cursor, cycle := none }, .ignored, []⟩) ∧
        state.submit.terminal.cursor = none ∧ (state.press .enter).terminal.cursor = none := by
  intro lines
  have positive : 0 < lines.length := List.length_pos_iff.mpr given
  refine ⟨fun keys others quiet quiet' same => ?_, fun keys => press_early given fresh,
    fun keys key early ups downs quiet recalls pressed presses => ?_,
    fun state => ⟨fun key => press_frame state, submit_cursor state, submit_cursor _⟩⟩
  · rw [(pressAll_moved given quiet).2, (pressAll_moved given quiet').2, ← moved_filter keys, same,
      moved_filter]
  · have inside : min (lines.length - 1) (lines.length - ups + downs) < lines.length := by omega
    refine pressAll_line given quiet recalls ?_ inside
    rw [fresh, ← moved_filter, presses, moved_presses early downs pressed,
      Nat.sub_add_cancel positive]

/-- One press of Up more than there are lines, with an edit, a completion and a wipe in between. -/
theorem recall_clamped_around :
    let terminal : Terminal MemoryStore MemoryStore := Terminal.start
      ⟨[], {}, "~", true, ⟨[(historyKey, "[\"ls\",\"pwd\",\"help\"]")]⟩, ⟨[]⟩,
        ⟨⟨⟨1970, 1, 1⟩, 0, 0⟩, 0⟩⟩
    let keys : List Key :=
      [.down, .up, .char 'x', .up, .tab, .clear, .up, .backspace, .up, .char 'l', .tab, .tab]
    (terminal.history = ["ls".toList, "pwd", "help"] ∧ terminal.cursor = none) ∧
      (terminal.pressAll (keys ++ [.down])).input = "pwd" := by
  intro terminal keys
  have history : terminal.history = ["ls".toList, "pwd", "help"] := by decide +kernel
  have given : terminal.history ≠ [] := by
    rw [history]
    exact List.cons_ne_nil _ _
  obtain ⟨_, _, recalled, _⟩ := recall_clamped terminal given rfl
  have shown := recalled keys .down 1 4 1 (by decide) rfl (by decide) (by decide)
  rw [history] at shown
  exact ⟨⟨history, rfl⟩, (Option.some.inj shown).symm⟩

end Terminal

/-! ## Positions

The positions that a terminal keeps. The cursor is a position of the history, and the index of a
cycle one of its candidates, in every reachable state: the history only grows, and every other
operation keeps a position, gives it up, or takes a new one inside the list. So a key that recalls
reads a line that is there, and Tab goes through a list that is not empty.
-/

namespace Terminal

variable {σ τ : Type} {terminal next : Terminal σ τ}

/-- The positions that a terminal keeps are positions of its lists. -/
structure InBounds (terminal : Terminal σ τ) : Prop where
  cursor : ∀ index ∈ terminal.cursor, index < terminal.history.length
  cycle : ∀ cycle ∈ terminal.cycle, cycle.index < cycle.candidates.length

private theorem fresh_inBounds (cursor : terminal.cursor = none) (cycle : terminal.cycle = none) :
    terminal.InBounds := by
  constructor
  · simp [cursor]
  · simp [cycle]

/-- Without a cycle the bounds are those of the cursor. -/
theorem settled_inBounds (bounds : terminal.InBounds) (input : Text) :
    { terminal with input, cycle := none }.InBounds := by
  refine ⟨bounds.cursor, fun _ stored => ?_⟩
  cases stored

/-! ### Recalling -/

/-- What recalling leads to: the cursor is on a line of the history, which is in the input line, or
nothing changes because there is no line to go to. -/
inductive Recalls (terminal : Terminal σ τ) : Terminal σ τ → Prop where
  | kept (nowhere : terminal.history = [] ∨ terminal.cursor = none) : Recalls terminal terminal
  | line {index : Nat} {line : Text} (read : terminal.history[index]? = some line) :
      Recalls terminal { terminal with cursor := some index, input := line }

private theorem older_lt {length : Nat} {cursor : Option Nat} (given : 0 < length)
    (inside : ∀ index ∈ cursor, index < length) : older (length - 1) cursor < length := by
  cases cursor with
  | none =>
    simp only [older]
    omega
  | some index =>
    have here := inside index rfl
    simp only [older]
    omega

private theorem newer_lt {length index : Nat} {cursor : Option Nat} (given : 0 < length)
    (forward : newer? (length - 1) cursor = some index) : index < length := by
  obtain ⟨before, _, rfl⟩ := Option.map_eq_some_iff.mp forward
  omega

private theorem recallAt_recalls {index : Nat} (inside : index < terminal.history.length) :
    terminal.Recalls (terminal.recallAt index) := by
  have read : terminal.history[index]? = some terminal.history[index] :=
    List.getElem?_eq_getElem inside
  rw [recallAt, read]
  exact .line read

private theorem recallOlder_recalls (bounds : terminal.InBounds) :
    terminal.Recalls terminal.recallOlder := by
  unfold recallOlder
  by_cases empty : terminal.history = []
  · rw [if_pos (List.isEmpty_iff.mpr empty)]
    exact .kept (.inl empty)
  · rw [if_neg (mt List.isEmpty_iff.mp empty)]
    exact recallAt_recalls (older_lt (List.length_pos_iff.mpr empty) bounds.cursor)

private theorem recallNewer_recalls : terminal.Recalls terminal.recallNewer := by
  unfold recallNewer
  by_cases empty : terminal.history = []
  · rw [if_pos (List.isEmpty_iff.mpr empty)]
    exact .kept (.inl empty)
  · rw [if_neg (mt List.isEmpty_iff.mp empty)]
    split
    · rename_i index forward
      exact recallAt_recalls (newer_lt (List.length_pos_iff.mpr empty) forward)
    · rename_i nowhere
      exact .kept (.inr (Option.map_eq_none_iff.mp nowhere))

private theorem Recalls.inBounds (recalls : terminal.Recalls next) (bounds : terminal.InBounds) :
    next.InBounds := by
  cases recalls with
  | kept nowhere => exact bounds
  | line read =>
    refine ⟨fun other here => ?_, bounds.cycle⟩
    cases here
    exact (List.getElem?_eq_some_iff.mp read).1

/-! ### Completing -/

/-- What completing leads to: there is nothing to offer, or the first of new candidates stands in
the input line, or else the next one of the stored cycle, whose number of candidates divides. -/
inductive Completes (terminal : Terminal σ τ) : Terminal σ τ → Prop where
  | silent (unoffered : terminal.freshCycle terminal.inputWords = none) :
      Completes terminal { terminal with cycle := none }
  | first {word : Text} {rest : List Text}
      (offered : terminal.freshCycle terminal.inputWords = some ⟨word :: rest, 0⟩) :
      Completes terminal { terminal with
        cycle := some ⟨word :: rest, 0⟩, input := replaceLast terminal.inputWords word }
  | next {candidates : List Text} {index : Nat} {word : Text}
      (stored : terminal.cycle = some ⟨candidates, index⟩) (divisor : candidates.length ≠ 0)
      (read : candidates[(index + 1) % candidates.length]? = some word) :
      Completes terminal { terminal with
        cycle := some ⟨candidates, (index + 1) % candidates.length⟩
        input := replaceLast terminal.inputWords word }

private theorem freshCycle_cases (terminal : Terminal σ τ) (words : List Text) :
    terminal.freshCycle words = none ∨
      ∃ word rest, terminal.freshCycle words = some ⟨word :: rest, 0⟩ := by
  unfold freshCycle
  extract_lets typed
  cases terminal.candidates (words.head?.getD []) typed (words.length = 1) with
  | nil => exact .inl rfl
  | cons word rest => exact .inr ⟨word, rest, rfl⟩

private theorem fresh_completes
    (fresh : terminal.nextCycle = terminal.freshCycle terminal.inputWords) :
    terminal.Completes terminal.complete := by
  unfold complete
  rw [fresh]
  rcases freshCycle_cases terminal terminal.inputWords with unoffered | ⟨word, rest, offered⟩
  · simp only [unoffered, Option.bind_none]
    exact .silent unoffered
  · simp only [offered, Option.bind_some, Cycle.current?, List.getElem?_cons_zero]
    exact .first offered

private theorem complete_completes (bounds : terminal.InBounds) :
    terminal.Completes terminal.complete := by
  cases stored : terminal.cycle with
  | none =>
    have fresh : terminal.nextCycle = terminal.freshCycle terminal.inputWords := by
      simp only [nextCycle, stored]
    exact fresh_completes fresh
  | some cycle =>
    by_cases again : cycle.current? = some (terminal.inputWords.getLast?.getD [])
    · have inside := bounds.cycle cycle stored
      have divisor : cycle.candidates.length ≠ 0 := by omega
      have wrapped := Nat.mod_lt (cycle.index + 1) (Nat.pos_of_ne_zero divisor)
      have read := List.getElem?_eq_getElem wrapped
      have advanced : terminal.nextCycle =
          some { cycle with index := (cycle.index + 1) % cycle.candidates.length } := by
        simp only [nextCycle, stored, if_pos again]
      unfold complete
      simp only [advanced, Option.bind_some, Cycle.current?, read]
      exact .next stored divisor read
    · have fresh : terminal.nextCycle = terminal.freshCycle terminal.inputWords := by
        simp only [nextCycle, stored, if_neg again]
      exact fresh_completes fresh

private theorem Completes.inBounds (completes : terminal.Completes next)
    (bounds : terminal.InBounds) :
    next.InBounds := by
  cases completes with
  | silent unoffered => exact settled_inBounds bounds terminal.input
  | first offered =>
    refine ⟨bounds.cursor, fun cycle stored => ?_⟩
    cases stored
    exact Nat.zero_lt_succ _
  | next stored divisor read =>
    refine ⟨bounds.cursor, fun cycle stored => ?_⟩
    cases stored
    exact (List.getElem?_eq_some_iff.mp read).1

/-! ### Command lines -/

variable [Store τ]

private theorem execute_inBounds (bounds : terminal.InBounds) (line : Text) :
    (terminal.execute line).terminal.InBounds := by
  have frame := execute_framed terminal line
  constructor
  · rw [frame.cursor, frame.history]
    exact bounds.cursor
  · rw [frame.cycle]
    exact bounds.cycle

private theorem activate_inBounds (bounds : terminal.InBounds) (element : Markup.Clickable) :
    (terminal.activate element).terminal.InBounds := by
  unfold activate
  cases element.href with
  | some url => exact bounds
  | none =>
    have ran := execute_inBounds bounds element.command
    exact ⟨ran.cursor, ran.cycle⟩

variable [Store σ]

/-- A line that is submitted gives up the cursor and the candidates. -/
theorem submit_inBounds (terminal : Terminal σ τ) : terminal.submit.terminal.InBounds := by
  unfold submit
  extract_lets line ready step
  split
  · exact fresh_inBounds rfl rfl
  · have frame : Framed ready step.terminal := execute_framed ready line
    exact fresh_inBounds frame.cursor frame.cycle

/-! ### Runs -/

private theorem press_inBounds (bounds : terminal.InBounds) (key : Key) :
    (terminal.press key).terminal.InBounds := by
  have settled := settled_inBounds bounds terminal.input
  cases key with
  | enter => exact submit_inBounds _
  | up => exact (recallOlder_recalls settled).inBounds settled
  | down => exact recallNewer_recalls.inBounds settled
  | tab => exact (complete_completes bounds).inBounds bounds
  | char c => exact settled_inBounds bounds _
  | backspace => exact settled_inBounds bounds _
  | clear => exact execute_inBounds settled _

private theorem perform_inBounds (bounds : terminal.InBounds) (operation : Operation) :
    (terminal.perform operation).terminal.InBounds := by
  cases operation with
  | press key => exact press_inBounds bounds key
  | enter input => exact settled_inBounds bounds input
  | submit => exact submit_inBounds terminal
  | execute line => exact execute_inBounds bounds line
  | activate element => exact activate_inBounds bounds element

private theorem run_inBounds (setup : Setup σ τ) (operations : List Operation) :
    (Visit.run setup operations).terminal.InBounds := by
  have opened : (Visit.start setup).terminal.InBounds := fresh_inBounds rfl rfl
  exact Visit.run_invariant opened (fun _ operation bounds => perform_inBounds bounds operation)
    operations

/-- In every reachable state the cursor is a position of the history, and a stored cycle has
candidates and is at one of them. So recalling reads a line that is there, and Tab never divides
by zero and puts a candidate that is there into the input line. -/
theorem positions_valid (setup : Setup σ τ) (operations : List Operation) :
    let terminal := (Visit.run setup operations).terminal
    (∀ index, terminal.cursor = some index → index < terminal.history.length) ∧
      (∀ cycle, terminal.cycle = some cycle →
        cycle.candidates ≠ [] ∧ cycle.index < cycle.candidates.length) ∧
      (∀ key ∈ [Key.up, .down],
        { terminal with cycle := none }.Recalls (terminal.press key).terminal) ∧
      terminal.Completes (terminal.press .tab).terminal := by
  intro terminal
  have bounds : terminal.InBounds := run_inBounds setup operations
  have settled := settled_inBounds bounds terminal.input
  refine ⟨bounds.cursor, fun cycle stored => ?_, fun key recalling => ?_,
    complete_completes bounds⟩
  · have inside := bounds.cycle cycle stored
    exact ⟨List.ne_nil_of_length_pos (Nat.zero_lt_of_lt inside), inside⟩
  · simp only [List.mem_cons, List.not_mem_nil, or_false] at recalling
    rcases recalling with rfl | rfl
    · exact recallOlder_recalls settled
    · exact recallNewer_recalls

end Terminal

end BlogTerminal
