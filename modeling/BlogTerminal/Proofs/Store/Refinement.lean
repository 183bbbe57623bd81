import BlogTerminal.Proofs.Store.File

/-!
A file store against a store in memory. Started without a file, it gives the same replies to every
list of requests, since after each of them the file is the written form of what the other store
holds. There is no file until a key is set, and the file under the temporary name never stays.
-/

namespace BlogTerminal

namespace FileStore

variable {file : FileStore} {memory : MemoryStore} {begun : Bool}

/-- A store without a file, in a directory that is there or can be made. -/
structure Fresh (file : FileStore) : Prop where
  ready : file.directory ≠ .blocked
  unwritten : file.directory.read? file.name = none
  tidy : file.temporaryName ∉ file.directory.names

/-- The file store holds what the store in memory holds; `begun` says that a key has been set. -/
structure Mirrors (file : FileStore) (memory : MemoryStore) (begun : Bool) : Prop where
  ready : file.directory ≠ .blocked
  sorted : memory.entries.Sorted
  loaded : file.load = .ok memory.entries
  content : file.directory.read? file.name =
    if begun then some (Json.writeObject memory.entries) else none
  tidy : file.temporaryName ∉ file.directory.names

private theorem Fresh.mirrors (fresh : file.Fresh) : file.Mirrors ⟨[]⟩ false where
  ready := fresh.ready
  sorted := .nil
  loaded := by
    rw [load, fresh.unwritten]
    rfl
  content := fresh.unwritten
  tidy := fresh.tidy

/-! ## One request -/

private theorem Written.mirrors {saved : FileStore} (written : Written file saved memory.entries)
    (sorted : memory.entries.Sorted) : saved.Mirrors memory true where
  ready := written.ready
  sorted := sorted
  loaded := written.load sorted
  content := written.content
  tidy := written.tidy

/-- Nothing is held before a key has been set. -/
theorem Mirrors.begun_of_held (mirrors : file.Mirrors memory begun) {key value : Text}
    (held : memory.entries.get? key = some value) : begun = true := by
  cases begun with
  | true => rfl
  | false =>
    have unwritten : file.directory.read? file.name = none := mirrors.content
    have loaded := mirrors.loaded
    rw [load, unwritten] at loaded
    cases memory
    cases loaded
    cases held

private theorem get_mirrors (mirrors : file.Mirrors memory begun) (key : Text) :
    Store.reply file (.get key) = Store.reply memory (.get key) :=
  reply_get mirrors.loaded key

private theorem set_mirrors (mirrors : file.Mirrors memory begun) (key value : Text) :
    Store.reply file (.set key value) = .done ∧
      (Store.after file (.set key value)).Mirrors (Store.after memory (.set key value)) true := by
  have updated := set_updated file key value
  rw [Store.reply, Store.after]
  generalize Store.set file key value = ending at updated ⊢
  cases updated with
  | unread refused => exact absurd mirrors.loaded refused.unloaded
  | kept loaded nothing => cases nothing
  | blocked loaded due blocked => exact absurd blocked mirrors.ready
  | written loaded due ready written =>
    cases loaded.symm.trans mirrors.loaded
    cases due
    exact ⟨rfl, Written.mirrors written (Table.insert_sorted mirrors.sorted)⟩

/-- The file is written again only when the key is there, and then it is there already. -/
theorem remove_mirrors (mirrors : file.Mirrors memory begun) (key : Text) :
    Store.reply file (.remove key) = .done ∧
      (Store.after file (.remove key)).Mirrors (Store.after memory (.remove key)) begun := by
  have updated := remove_updated file key
  rw [Store.reply, Store.after]
  generalize Store.remove file key = ending at updated ⊢
  cases updated with
  | unread refused => exact absurd mirrors.loaded refused.unloaded
  | blocked loaded due blocked => exact absurd blocked mirrors.ready
  | kept loaded nothing =>
    cases loaded.symm.trans mirrors.loaded
    have same : Store.after memory (.remove key) = memory :=
      congrArg MemoryStore.mk (Table.erase_absent (Option.map_eq_none_iff.mp nothing))
    rw [same]
    exact ⟨rfl, mirrors⟩
  | written loaded due ready written =>
    cases loaded.symm.trans mirrors.loaded
    obtain ⟨value, held, rfl⟩ := Option.map_eq_some_iff.mp due
    have begun : begun = true := mirrors.begun_of_held held
    rw [begun]
    exact ⟨rfl, Written.mirrors written (Table.erase_sorted mirrors.sorted)⟩

private theorem request_mirrors (mirrors : file.Mirrors memory begun) (request : Request) :
    Store.reply file request = Store.reply memory request ∧
      (Store.after file request).Mirrors (Store.after memory request) (begun || request.sets) := by
  cases request with
  | get key =>
    have later : (begun || Request.sets (.get key)) = begun := Bool.or_false begun
    rw [later]
    exact ⟨get_mirrors mirrors key, mirrors⟩
  | set key value =>
    have later : (begun || Request.sets (.set key value)) = true := Bool.or_true begun
    rw [later]
    exact set_mirrors mirrors key value
  | remove key =>
    have later : (begun || Request.sets (.remove key)) = begun := Bool.or_false begun
    rw [later]
    exact remove_mirrors mirrors key

/-! ## Runs -/

private theorem run_mirrors (mirrors : file.Mirrors memory begun) (requests : List Request) :
    Store.replies file requests = Store.replies memory requests ∧
      (Store.run file requests).Mirrors (Store.run memory requests)
        (begun || requests.any Request.sets) := by
  induction requests generalizing file memory begun with
  | nil =>
    rw [List.any_nil, Bool.or_false]
    exact ⟨rfl, mirrors⟩
  | cons request rest ih =>
    obtain ⟨reply, next⟩ := request_mirrors mirrors request
    obtain ⟨replies, last⟩ := ih next
    rw [Bool.or_assoc, ← List.any_cons] at last
    exact ⟨by rw [Store.replies, Store.replies, reply, replies], last⟩

private theorem run_name (file : FileStore) (requests : List Request) :
    (Store.run file requests).name = file.name := by
  induction requests generalizing file with
  | nil => rfl
  | cons request rest ih => exact (ih _).trans (after_name file request)

/-- From a directory in which there is no file yet, or none at all, a file store gives the replies
of an empty store in memory to every list of requests. Until a key is set there is no file, and from
then on it holds the entries of the other store as an object with one member to a line, in the
order of the bytes of their keys; and behind each request the temporary file is gone. -/
theorem refines_memory (fresh : file.Fresh) (requests : List Request) :
    let empty : MemoryStore := ⟨[]⟩
    let memory := Store.run empty requests
    let directory := (Store.run file requests).directory
    Store.replies file requests = Store.replies empty requests ∧
      directory.read? file.name =
        (if requests.any Request.sets then some (Json.writeObject memory.entries) else none) ∧
      (memory.entries.names.map Text.bytes).Pairwise (· < ·) ∧
      file.temporaryName ∉ directory.names := by
  intro empty memory directory
  obtain ⟨replies, mirrors⟩ := run_mirrors fresh.mirrors requests
  have name := run_name file requests
  have content := mirrors.content
  have tidy := mirrors.tidy
  rw [name, Bool.false_or] at content
  rw [temporaryName, name, ← temporaryName] at tidy
  refine ⟨replies, content, ?_, tidy⟩
  rw [Table.names, List.map_map]
  exact List.pairwise_map.mpr (mirrors.sorted.imp Text.bytes_lt_iff.mpr)

/-- Keys and values of all kinds, one of them set twice and one removed again, in a directory that
has to be made first. -/
theorem refines_memory_made :
    let file : FileStore := ⟨"state", "preferences.json", .absent⟩
    let requests : List Request :=
      [.remove "theme", .set "theme" "a \"quoted\"\nline", .set "émile" "\\",
        .set "theme" "\x01", .get "theme", .remove "émile"]
    file.Fresh ∧
      Store.replies file requests =
        [.done, .done, .done, .done, .found (some "\x01".toList), .done] ∧
      (Store.run file requests).directory.read? "preferences.json" =
        some "\x7b\n  \"theme\": \"\\u0001\"\n\x7d".toList := by
  intro file requests
  have fresh : file.Fresh := ⟨nofun, rfl, List.not_mem_nil⟩
  obtain ⟨replies, content, _, _⟩ := refines_memory fresh requests
  exact ⟨fresh, replies, content⟩

end FileStore

end BlogTerminal
