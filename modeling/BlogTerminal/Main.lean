import BlogTerminal.Repl
import Std.Time

/-!
The program: a shell over the blog whose posts are in a file. Variables of the environment or the
first argument name the file. All that is read from the world goes into the state of a `Repl`, and
all that its steps answer goes back. There is no log; only a store that cannot be written is reported
on standard error.
-/

namespace BlogTerminal.Main

/-- The file of the posts when none is named. -/
def defaultPosts : String := "demos/posts.json"

/-- The value of a variable. -/
def setting? (name : String) : IO (Option Text) := do
  return (← IO.getEnv name).map String.toList

/-- The variables of the environment. -/
def environment : IO Environment := do
  return {
    user := ← setting? "BLOG_SHELL_USER"
    host := ← setting? "BLOG_SHELL_HOST"
    stateDirectory := ← setting? "BLOG_SHELL_STATE_DIR"
    sharedStateDirectory := ← setting? "XDG_STATE_HOME"
    home := ← setting? "HOME" }

/-- The clock that shows a date and time in a zone ahead of UTC by some minutes. -/
def clockAt (time : Std.Time.PlainDateTime) (offset : Int) : Clock :=
  let date : Date := ⟨time.year, time.month.toNat, time.day.toNat⟩
  let second := time.hour.val * 3600 + time.minute.val * 60 + time.second.val
  ⟨⟨date, second.toNat, 0⟩, offset⟩

/-- The wall clock, in the local time zone where it is known and else in UTC. -/
def clock : IO Clock := do
  try
    let now ← Std.Time.DateTime.now
    return clockAt now.toPlainDateTime (now.offset.second.val / 60)
  catch _ =>
    let now := Std.Time.DateTime.ofTimestampWithZone (← Std.Time.Timestamp.now) Std.Time.TimeZone.UTC
    return clockAt now.toPlainDateTime 0

/-- The content of a file, if there is one. -/
def content? (path : Text) : IO (Option Text) := do
  try return some (← IO.FS.readFile (String.ofList path)).toList
  catch
    | .noFileOrDirectory .. => return none
    | error => throw error

/-- The directory of a store, as far as the store needs it: its file alone. A file that cannot be
read is one without content. -/
def directoryOf (store : FileStore) : IO Directory := do
  try
    match ← content? store.path with
    | some content => return .holds [(store.name, content)]
    | none => return .absent
  catch _ => return .holds [(store.name, [])]

/-- Writes the file of a store by way of a file beside it, so that it is never seen half written. -/
def writeStore (store : FileStore) (content : Text) : IO Unit := do
  unless store.place.isEmpty do IO.FS.createDirAll (String.ofList store.place)
  let beside := String.ofList (Directory.inside store.place store.temporaryName)
  IO.FS.writeFile beside (String.ofList content)
  IO.FS.rename beside (String.ofList store.path)

/-- Writes the file of a store that has changed; if that fails, the store stays as it was. -/
def keep (before after : FileStore) : IO FileStore := do
  match after.directory.read? after.name with
  | some content =>
    if before = after then return after
    try
      writeStore after content
      return after
    catch error =>
      IO.eprintln error
      return before
  | none => return after

/-- The state with the clock and the preferences of the present moment. -/
def refreshed (repl : Repl) : IO Repl := do
  let preferences := { repl.terminal.preferences with
    directory := ← directoryOf repl.terminal.preferences }
  return { repl with terminal := { repl.terminal with preferences, clock := ← clock } }

/-- Prints a text and shows it at once. -/
def display (text : Text) : IO Unit := do
  let output ← IO.getStdout
  output.putStr (String.ofList text)
  output.flush

/-- Asks for lines until there are no more. -/
partial def loop (repl : Repl) : IO Unit := do
  display repl.prompt
  let line ← (← IO.getStdin).getLine
  unless line.isEmpty do
    let ready ← refreshed repl
    let (next, output) := ready.enter (Text.trim line.toList)
    display output
    let preferences ← keep ready.terminal.preferences next.terminal.preferences
    loop { next with terminal := { next.terminal with preferences } }

/-- The posts of the named file. -/
def posts (arguments : List String) : IO (Except Text (List Post)) := do
  let named := (← IO.getEnv "BLOG_SHELL_POSTS") <|> arguments.head?
  let path := (named.getD defaultPosts).toList
  match ← (content? path).toBaseIO with
  | .ok (some content) => return (Post.collectionOfText content).mapError (·.message)
  | _ => return throw ("failed to read posts from " ++ path)

/-- Runs the program. -/
def run (arguments : List String) : IO UInt32 := do
  match ← posts arguments with
  | .error message =>
    IO.eprintln (String.ofList message)
    return 1
  | .ok posts =>
    let environment ← environment
    let directory ← directoryOf (environment.preferences .absent)
    let (repl, opening) := Repl.start posts environment directory (← clock)
    display opening
    loop repl
    return 0

end BlogTerminal.Main

def main (arguments : List String) : IO UInt32 := BlogTerminal.Main.run arguments
