import BlogTerminal.Terminal.Basic

/-!
Running command lines. Whatever is typed or clicked goes through `execute`, which looks the command
up and applies its answer; a page transition leaves the terminal as it is.
-/

namespace BlogTerminal

namespace Terminal

open Markup

variable {σ τ : Type} [Store σ] [Store τ]

/-- The answer to a command that is not there. -/
def unknownCommand (name : Text) : Result :=
  .failed [errorLine ("command not found: " ++ name), newline,
    hintLine "Type 'help' for available commands."]

/-- The terminal with the theme that an answer asks for. -/
def withTheme (terminal : Terminal σ τ) (theme : Option Theme) : Terminal σ τ :=
  match theme with
  | some theme => terminal.setTheme theme
  | none => terminal

/-- The terminal with the prompt path that an answer asks for. -/
def withPath (terminal : Terminal σ τ) (path : Option Text) : Terminal σ τ :=
  { terminal with path := path.getD terminal.path }

/-- The event for the theme that an answer asks for. -/
def themeEvents (theme : Option Theme) : List Event :=
  match theme with
  | some theme => [.applyTheme theme.attribute?]
  | none => []

/-- The event for the output of a command, if there is any. -/
def outputEvents (body : List Node) : List Event :=
  if (render body).isEmpty then [] else [.append (.output body true)]

/-- The answer of a command, applied to the terminal it was run on as `line`. -/
def apply (terminal : Terminal σ τ) (line : Text) (result : Result) : Step σ τ :=
  if result.goBack then ⟨terminal, .wentBack, [.goBack]⟩
  else
    match result.navigate with
    | some url => ⟨terminal, .navigated url, [.navigate url]⟩
    | none =>
      if result.clear then
        ⟨terminal, .cleared,
          [.append (terminal.echo line), .clear, .append terminal.listing]⟩
      else
        ⟨(terminal.withPath result.path).withTheme result.theme, .displayed result.error,
          .append (terminal.echo line) :: themeEvents result.theme ++
            outputEvents result.body ++ [.scroll]⟩

/-- The answer of a call. The history is known to the terminal alone. -/
def answer (terminal : Terminal σ τ) (call : Call) : Result :=
  match Builtin.registry.get? call.name with
  | some command => command.action.execute (terminal.context.withCall call)
  | none => unknownCommand call.name

/-- Runs a command line. -/
def execute (terminal : Terminal σ τ) (line : Text) : Step σ τ :=
  let line := line.trim
  if line.isEmpty then ⟨terminal, .ignored, []⟩
  else
    let call := Call.ofLine line
    if call.name = Builtin.history.command.name then
      ⟨terminal, .displayed false,
        [.append (terminal.echo line), .append (.output (History.listing terminal.history) true),
          .scroll]⟩
    else terminal.apply line (terminal.answer call)

/-- Runs the input line and puts it into the history. -/
def submit (terminal : Terminal σ τ) : Step σ τ :=
  let line := terminal.input.trim
  let ready := { terminal with input := [], cursor := none, cycle := none }
  if line.isEmpty then ⟨ready, .ignored, []⟩
  else
    let step := ready.execute line
    { step with
      terminal :=
        { step.terminal with history := step.terminal.history ++ [line] }.saveHistory }

/-- Clicks an element: a link leads to its page, and any other element runs its command. -/
def activate (terminal : Terminal σ τ) (element : Clickable) : Step σ τ :=
  match element.href with
  | some url => ⟨terminal, .navigated url, [.navigate url]⟩
  | none =>
    let step := terminal.execute element.command
    { step with terminal := { step.terminal with input := [] } }

end Terminal

/-! ## Keys

Up and Down recall lines of the history, Tab completes the last word of the input line, and pressing
Tab again goes through the candidates.
-/

/-- A key that the terminal knows. -/
inductive Key where
  | enter
  | up
  | down
  | tab
  | char (c : Char)
  | backspace
  /-- Clears the screen, as the command does. -/
  | clear
  deriving DecidableEq

namespace Terminal

variable {σ τ : Type} [Store σ] [Store τ]

/-- Replaces the input line, as if it had been typed. -/
def setInput (terminal : Terminal σ τ) (input : Text) : Terminal σ τ :=
  { terminal with input, cycle := none }

/-- The position in a history whose last position is `last`, one line back. -/
def older (last : Nat) (cursor : Option Nat) : Nat :=
  match cursor with
  | none => last
  | some index => index - 1

/-- The position in a history whose last position is `last`, one line forward; before anything
has been recalled there is none. -/
def newer? (last : Nat) (cursor : Option Nat) : Option Nat :=
  cursor.map fun index => min (index + 1) last

/-- The terminal with the line at a position of the history in its input line. -/
def recallAt (terminal : Terminal σ τ) (index : Nat) : Terminal σ τ :=
  { terminal with cursor := some index, input := terminal.history[index]?.getD terminal.input }

/-- Recalls the line before the one recalled last. -/
def recallOlder (terminal : Terminal σ τ) : Terminal σ τ :=
  if terminal.history.isEmpty then terminal
  else terminal.recallAt (older (terminal.history.length - 1) terminal.cursor)

/-- Recalls the line behind the one recalled last. -/
def recallNewer (terminal : Terminal σ τ) : Terminal σ τ :=
  if terminal.history.isEmpty then terminal
  else
    match newer? (terminal.history.length - 1) terminal.cursor with
    | some index => terminal.recallAt index
    | none => terminal

/-- The candidates for `typed`, the last word of a line that begins with `command`. -/
def candidates (terminal : Terminal σ τ) (command typed : Text) (isFirst : Bool) : List Text :=
  if isFirst then Builtin.registry.completions typed
  else
    match Builtin.registry.get? command with
    | some command => command.action.candidates terminal.context typed
    | none => []

/-- The words of the input line, the empty ones included. -/
def inputWords (terminal : Terminal σ τ) : List Text := terminal.input.splitOn ' '

/-- The candidates for the last of the words of a line. -/
def freshCycle (terminal : Terminal σ τ) (words : List Text) : Option Cycle :=
  let typed := words.getLast?.getD []
  match terminal.candidates (words.head?.getD []) typed (words.length = 1) with
  | [] => none
  | candidates => some ⟨candidates, 0⟩

/-- The candidates that the Tab key goes through from the present input line on: the next one of
the stored cycle, when its candidate still ends the line, and else those for the last word. -/
def nextCycle (terminal : Terminal σ τ) : Option Cycle :=
  let words := terminal.inputWords
  match terminal.cycle with
  | some cycle =>
    if cycle.current? = some (words.getLast?.getD []) then
      some { cycle with index := (cycle.index + 1) % cycle.candidates.length }
    else terminal.freshCycle words
  | none => terminal.freshCycle words

/-- The input line with its last word replaced. -/
def replaceLast (words : List Text) (word : Text) : Text :=
  [' '].intercalate (words.dropLast ++ [word])

/-- Completes the last word of the input line. -/
def complete (terminal : Terminal σ τ) : Terminal σ τ :=
  let cycle := terminal.nextCycle
  match cycle.bind Cycle.current? with
  | some word => { terminal with cycle, input := replaceLast terminal.inputWords word }
  | none => { terminal with cycle }

/-- The terminal behind a key that runs nothing. -/
def edit (terminal : Terminal σ τ) : Step σ τ := ⟨terminal, .ignored, []⟩

/-- Deals with a key. Every key but Tab gives up the candidates. -/
def press (terminal : Terminal σ τ) (key : Key) : Step σ τ :=
  let settled := { terminal with cycle := none }
  match key with
  | .enter => settled.submit
  | .up => settled.recallOlder.edit
  | .down => settled.recallNewer.edit
  | .tab => terminal.complete.edit
  | .char c => { settled with input := settled.input ++ [c] }.edit
  | .backspace => { settled with input := settled.input.dropLast }.edit
  | .clear => settled.execute "clear"

end Terminal

end BlogTerminal
