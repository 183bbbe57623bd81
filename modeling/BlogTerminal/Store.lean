import BlogTerminal.Json
import BlogTerminal.Text.Basic

/-!
Stores: texts under keys, kept in memory or in a file.
-/

namespace BlogTerminal

/-! ## Stores and requests

Stores of texts by key, which keep what the terminal remembers between page loads. Any call of a
store may fail; the stores here are left as they were by a call that fails. An error says what went
wrong and with which file. The cause that the system or the reader of JSON gives is left out, since
nothing but the log would show it.
-/

/-- Why a store fails. -/
inductive StoreError where
  /-- The file cannot be read or written. -/
  | io
  /-- The file is not JSON. -/
  | malformed (path : Text)
  /-- The file holds JSON of another shape. -/
  | notAnObject (path : Text)
  deriving DecidableEq

/-- The wording of an error. -/
def StoreError.message : StoreError → Text
  | io => "I/O error"
  | malformed path => "serialization error: failed to parse " ++ path
  | notAnObject path => "storage corruption: " ++ path ++ " does not hold a JSON object"

/-- What a call that changes a store leads to. -/
structure Change (σ : Type) where
  /-- The store behind the call. -/
  store : σ
  /-- Why the call failed, if it did. -/
  error : Option StoreError

/-- A store of texts by key. -/
class Store (σ : Type) where
  /-- The kind of the store. -/
  name : Text
  /-- The value of a key; there is none when the key was never set. -/
  get : σ → Text → Except StoreError (Option Text)
  /-- Sets the value of a key. -/
  set : σ → Text → Text → Change σ
  /-- Removes a key, which need not be there. -/
  remove : σ → Text → Change σ

/-- A store that lives as long as the program. Its calls never fail: nothing that runs while its
entries are locked can be interrupted. -/
structure MemoryStore where
  entries : Table Text
  deriving DecidableEq

instance : Store MemoryStore where
  name := "MemoryStorage"
  get store key := pure (store.entries.get? key)
  set store key value := ⟨⟨store.entries.insert key value⟩, none⟩
  remove store key := ⟨⟨store.entries.erase key⟩, none⟩

/-- The calls that a store can answer. -/
inductive StoreCall where
  | get
  | set
  | remove
  deriving DecidableEq

/-- A store some of whose calls always fail. -/
structure FaultyStore (σ : Type) where
  store : σ
  faults : List StoreCall

namespace FaultyStore

variable {σ : Type}

/-- What a call leads to, when it works on the store inside. -/
def attempt (faulty : FaultyStore σ) (call : StoreCall) (change : σ → Change σ) :
    Change (FaultyStore σ) :=
  if call ∈ faulty.faults then ⟨faulty, some .io⟩
  else
    let inside := change faulty.store
    ⟨{ faulty with store := inside.store }, inside.error⟩

instance [Store σ] : Store (FaultyStore σ) where
  name := Store.name σ
  get faulty key := if .get ∈ faulty.faults then throw .io else Store.get faulty.store key
  set faulty key value := faulty.attempt .set (Store.set · key value)
  remove faulty key := faulty.attempt .remove (Store.remove · key)

end FaultyStore

/-! ## A store in a file

The file holds a JSON object of texts; members of any other kind are ignored, and are lost when the
file is written again. Every call reads the whole file, and every change writes a new file beside it
that takes its place.
-/

/-! ### Directories

A file is put into a directory under a name of its own and then takes the place of another, so that
under that other name there is always a whole file.
-/

/-- What lies at the path of a directory. -/
inductive Directory where
  /-- There is nothing, and a directory can be made. -/
  | absent
  /-- There is something else, and no directory can be made. -/
  | blocked
  /-- There is a directory, with the contents of its files by name. -/
  | holds (files : Table Text)
  deriving DecidableEq

namespace Directory

/-- The path of a name in the directory at `place`; the empty path is the current directory. -/
def inside (place name : Text) : Text :=
  if place.isEmpty || place.getLast? = some '/' then place ++ name else place ++ "/" ++ name

/-- The names of the files, in ascending order. -/
def names : Directory → List Text
  | holds files => files.names
  | _ => []

/-- The content of a file. -/
def read? (directory : Directory) (name : Text) : Option Text :=
  match directory with
  | holds files => files.get? name
  | _ => none

/-- The directory with a file written. A directory that is absent is made for it. -/
def write? (directory : Directory) (name content : Text) : Option Directory :=
  match directory with
  | absent => some (holds (Table.insert [] name content))
  | blocked => none
  | holds files => some (holds (files.insert name content))

/-- The directory with a file renamed; it takes the place of the file that had the name before. -/
def rename (directory : Directory) (name next : Text) : Directory :=
  match directory with
  | holds files =>
    match files.get? name with
    | some content => holds ((files.erase name).insert next content)
    | none => directory
  | _ => directory

end Directory

/-! ### The store -/

/-- A store in a file. -/
structure FileStore where
  /-- The path of the directory of the file. -/
  place : Text
  /-- The name of the file. -/
  name : Text
  /-- What lies at the path of the directory. -/
  directory : Directory
  deriving DecidableEq

namespace FileStore

open Json (Value)

/-- A member of the object, when its value is a text. -/
def entry? (member : Text × Value) : Option (Text × Option Text) :=
  (Json.decode member.1).map fun key => (key, member.2.text?)

/-- The texts among decoded members. A key that is repeated has the last of its values. -/
def textEntries (members : List (Text × Option Text)) : Table Text :=
  (Table.ofList members).filterMap fun (key, value) => value.map (key, ·)

/-- The entries that the content of a file stands for. -/
def entriesOf (path content : Text) : Except StoreError (Table Text) :=
  match Value.held? content with
  | none => throw (.malformed path)
  | some (.object members) => pure (textEntries (members.filterMap entry?))
  | some _ => throw (.notAnObject path)

/-- The path of the file. -/
def path (store : FileStore) : Text := Directory.inside store.place store.name

/-- A file name without its last extension. A dot at the front begins no extension. -/
def stem (name : Text) : Text :=
  match name.reverse.dropWhile (· != '.') with
  | _ :: before => if before.isEmpty then name else before.reverse
  | [] => name

/-- The name under which a new file is written. -/
def temporaryName (store : FileStore) : Text := stem store.name ++ ".json.tmp"

/-- The entries of the store; without a file there are none. -/
def load (store : FileStore) : Except StoreError (Table Text) :=
  match store.directory.read? store.name with
  | some content => entriesOf store.path content
  | none => pure []

/-- Writes the entries of the store anew. -/
def save (store : FileStore) (entries : Table Text) : Change FileStore :=
  match store.directory.write? store.temporaryName (Json.writeObject entries) with
  | some written =>
    ⟨{ store with directory := written.rename store.temporaryName store.name }, none⟩
  | none => ⟨store, some .io⟩

/-- Changes the entries of the store; when there is nothing to change, the file is left alone. -/
def update (store : FileStore) (change : Table Text → Option (Table Text)) : Change FileStore :=
  match store.load with
  | .error error => ⟨store, some error⟩
  | .ok entries =>
    match change entries with
    | some changed => store.save changed
    | none => ⟨store, none⟩

/-- The value of a key. -/
def get (store : FileStore) (key : Text) : Except StoreError (Option Text) :=
  store.load.map (·.get? key)

/-- Sets the value of a key. -/
def set (store : FileStore) (key value : Text) : Change FileStore :=
  store.update fun entries => some (entries.insert key value)

/-- Removes a key. -/
def remove (store : FileStore) (key : Text) : Change FileStore :=
  store.update fun entries => (entries.get? key).map fun _ => entries.erase key

instance : Store FileStore where
  name := "FileStorage"
  get := get
  set := set
  remove := remove

end FileStore

end BlogTerminal
