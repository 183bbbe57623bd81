import BlogTerminal.Proofs.Json
import BlogTerminal.Proofs.Table
import BlogTerminal.Store

/-!
The store in a file, one request at a time. Whatever the file holds, what is read of it are entries
in order, and entries in order that are written are read back; so a change that succeeds takes
effect at its key alone, and one that fails leaves everything as it is.
-/

namespace BlogTerminal

/-! ## Lists of requests

Requests to a store, and what a store makes of a list of them, one after the other.
-/

/-- A request to a store. -/
inductive Request where
  | get (key : Text)
  | set (key value : Text)
  | remove (key : Text)
  deriving DecidableEq

/-- What a request is answered with. -/
inductive Reply where
  /-- The value of the key, if it has one. -/
  | found (value : Option Text)
  /-- The change was made. -/
  | done
  | failed (error : StoreError)
  deriving DecidableEq

/-- The request sets a key. -/
def Request.sets : Request → Bool
  | .set _ _ => true
  | _ => false

namespace Store

variable {σ : Type} [Store σ]

/-- The reply to a change. -/
def replyTo (change : Change σ) : Reply :=
  match change.error with
  | some error => .failed error
  | none => .done

/-- The reply to a request. -/
def reply (store : σ) : Request → Reply
  | .get key =>
    match Store.get store key with
    | .ok value => .found value
    | .error error => .failed error
  | .set key value => replyTo (Store.set store key value)
  | .remove key => replyTo (Store.remove store key)

/-- The store behind a request. -/
def after (store : σ) : Request → σ
  | .get _ => store
  | .set key value => (Store.set store key value).store
  | .remove key => (Store.remove store key).store

/-- The replies to a list of requests. -/
def replies (store : σ) : List Request → List Reply
  | [] => []
  | request :: rest => reply store request :: replies (after store request) rest

/-- The store behind a list of requests. -/
def run (store : σ) (requests : List Request) : σ := requests.foldl after store

end Store

/-! ## The store in a file -/

namespace FileStore

open Json (Value)

variable {store saved : FileStore} {entries : Table Text} {path content : Text}
  {error : StoreError}

/-! ### Entries -/

private theorem textEntries_sorted (members : List (Text × Option Text)) :
    (textEntries members).Sorted := by
  refine List.Pairwise.filterMap _ ?_ (Table.ofList_sorted members)
  intro first second below kept held other given
  obtain ⟨_, _, rfl⟩ := Option.map_eq_some_iff.mp held
  obtain ⟨_, _, rfl⟩ := Option.map_eq_some_iff.mp given
  exact below

/-- The file is in order, whatever its text is. -/
theorem entriesOf_sorted (read : entriesOf path content = .ok entries) : entries.Sorted := by
  unfold entriesOf at read
  split at read
  · cases read
  · cases read
    exact textEntries_sorted _
  · cases read

/-- The entries that were written, as members whose values are texts. -/
private theorem entry_encoded (entries : List (Text × Text)) :
    (entries.map Json.encodedMember).filterMap entry? =
      entries.map fun entry => (entry.1, some entry.2) := by
  induction entries with
  | nil => rfl
  | cons entry rest ih =>
    have read : entry? (Json.encodedMember entry) = some (entry.1, some entry.2) := by
      simp only [Json.encodedMember, entry?, Json.encoded, Value.text?, Json.decode_encode,
        Option.map_some]
    rw [List.map_cons, List.filterMap_cons_some read, ih, List.map_cons]

private theorem textEntries_written (sorted : entries.Sorted) :
    textEntries (entries.map fun entry => (entry.1, some entry.2)) = entries := by
  have members : Table.Sorted (entries.map fun entry => (entry.1, some entry.2)) :=
    List.pairwise_map.mpr sorted
  rw [textEntries, Table.ofList_of_sorted members, List.filterMap_map]
  exact List.filterMap_some

/-- Entries in order that were written are read back. -/
theorem entriesOf_writeObject (sorted : entries.Sorted) (path : Text) :
    entriesOf path (Json.writeObject entries) = .ok entries := by
  rw [entriesOf, Json.held_writeObject]
  exact congrArg Except.ok ((congrArg textEntries (entry_encoded entries)).trans
    (textEntries_written sorted))

/-! ### Reading the file -/

/-- Why the content of the file is refused. -/
inductive Refused (store : FileStore) : StoreError → Prop where
  | malformed {content : Text} (given : store.directory.read? store.name = some content)
      (unread : Value.held? content = none) : Refused store (.malformed store.path)
  | notAnObject {content : Text} {value : Value}
      (given : store.directory.read? store.name = some content)
      (read : Value.held? content = some value) (other : ∀ members, value ≠ .object members) :
      Refused store (.notAnObject store.path)

private theorem load_error_iff : store.load = .error error ↔ store.Refused error := by
  constructor
  · intro failed
    unfold load at failed
    split at failed
    · rename_i content given
      unfold entriesOf at failed
      split at failed
      · rename_i unread
        cases failed
        exact .malformed given unread
      · cases failed
      · rename_i value other read
        cases failed
        exact .notAnObject given read other
    · cases failed
  · intro refused
    cases refused with
    | malformed given unread =>
      rw [load, given]
      simp only [entriesOf, unread]
      rfl
    | @notAnObject content value given read other =>
      rw [load, given]
      cases value with
      | object members => exact absurd rfl (other members)
      | null | bool _ | number _ | string _ | array _ =>
        simp only [entriesOf, read]
        rfl

private theorem load_sorted (loaded : store.load = .ok entries) : entries.Sorted := by
  unfold load at loaded
  split at loaded
  · exact entriesOf_sorted loaded
  · cases loaded
    exact .nil

/-! ### Writing the file -/

private theorem stem_temporary (base : Text) : stem (base ++ ".json.tmp") = base ++ ".json" := by
  have reversed : (base ++ ".json.tmp".toList).reverse =
      'p' :: 'm' :: 't' :: '.' :: (".json".toList.reverse ++ base.reverse) := by
    rw [List.reverse_append]
    rfl
  rw [stem, reversed]
  simp

/-- The new file is not written over the old one. -/
theorem temporaryName_other (store : FileStore) : store.temporaryName ≠ store.name := by
  intro same
  have again := stem_temporary (stem store.name)
  rw [← temporaryName, same] at again
  exact absurd (congrArg List.length again) (by simp)

/-- The store behind a change that wrote its entries. The new file has taken the place of the old
one, so it is not left under its own name. -/
structure Written (store saved : FileStore) (entries : Table Text) : Prop where
  place : saved.place = store.place
  name : saved.name = store.name
  ready : saved.directory ≠ .blocked
  content : saved.directory.read? saved.name = some (Json.writeObject entries)
  tidy : saved.temporaryName ∉ saved.directory.names

private theorem save_blocked (blocked : store.directory = .blocked) :
    store.save entries = ⟨store, some .io⟩ := by
  simp only [save, blocked, Directory.write?]

private theorem save_written (ready : store.directory ≠ .blocked) (entries : Table Text) :
    ∃ saved, store.save entries = ⟨saved, none⟩ ∧ Written store saved entries := by
  obtain ⟨files, wrote⟩ : ∃ files : Table Text,
      store.directory.write? store.temporaryName (Json.writeObject entries) =
        some (.holds (files.insert store.temporaryName (Json.writeObject entries))) := by
    cases given : store.directory with
    | absent => exact ⟨[], rfl⟩
    | blocked => exact absurd given ready
    | holds files => exact ⟨files, rfl⟩
  have found : (files.insert store.temporaryName (Json.writeObject entries)).get?
      store.temporaryName = some (Json.writeObject entries) := by
    rw [Table.get_insert, if_pos rfl]
  let renamed := ((files.insert store.temporaryName (Json.writeObject entries)).erase
    store.temporaryName).insert store.name (Json.writeObject entries)
  refine ⟨{ store with directory := .holds renamed }, ?_, rfl, rfl, nofun, ?_, ?_⟩
  · simp only [save, wrote, Directory.rename, found, renamed]
  · rw [Directory.read?, Table.get_insert, if_pos rfl]
  · intro left
    rcases Table.names_insert left with same | before
    · exact temporaryName_other store same
    · exact Table.names_erase before

/-- Entries in order that were written are read back. -/
theorem Written.load (written : Written store saved entries) (sorted : entries.Sorted) :
    saved.load = .ok entries := by
  rw [FileStore.load, written.content]
  exact entriesOf_writeObject sorted _

/-! ### Changes -/

/-- The ways in which a change of the entries can end. -/
inductive Updated (store : FileStore) (change : Table Text → Option (Table Text)) :
    Change FileStore → Prop where
  | unread {error : StoreError} (refused : store.Refused error) :
      Updated store change ⟨store, some error⟩
  | kept {entries : Table Text} (loaded : store.load = .ok entries)
      (nothing : change entries = none) : Updated store change ⟨store, none⟩
  | blocked {entries changed : Table Text} (loaded : store.load = .ok entries)
      (due : change entries = some changed) (blocked : store.directory = .blocked) :
      Updated store change ⟨store, some .io⟩
  | written {entries changed : Table Text} {saved : FileStore} (loaded : store.load = .ok entries)
      (due : change entries = some changed) (ready : store.directory ≠ .blocked)
      (written : Written store saved changed) : Updated store change ⟨saved, none⟩

private theorem update_updated (store : FileStore) (change : Table Text → Option (Table Text)) :
    Updated store change (store.update change) := by
  cases loaded : store.load with
  | error error =>
    rw [update, loaded]
    exact .unread (load_error_iff.mp loaded)
  | ok entries =>
    rw [update, loaded]
    cases due : change entries with
    | none =>
      simp only [due]
      exact .kept loaded due
    | some changed =>
      simp only [due]
      by_cases blocked : store.directory = .blocked
      · rw [save_blocked blocked]
        exact .blocked loaded due blocked
      · obtain ⟨saved, wrote, written⟩ := save_written blocked changed
        rw [wrote]
        exact .written loaded due blocked written

/-! ### Requests -/

variable {key value : Text} {request : Request}

/-- A store that refuses its file reads nothing from it. -/
theorem Refused.unloaded (refused : store.Refused error) : store.load ≠ .ok entries := by
  rw [load_error_iff.mpr refused]
  nofun

private theorem load_blocked (blocked : store.directory = .blocked) : store.load = .ok [] := by
  rw [load, blocked]
  rfl

/-- A key is answered with what the file holds under it. -/
theorem reply_get (loaded : store.load = .ok entries) (key : Text) :
    Store.reply store (.get key) = .found (entries.get? key) := by
  have found : Store.get store key = .ok (entries.get? key) := congrArg (Except.map _) loaded
  rw [Store.reply, found]

private theorem reply_get_failed :
    Store.reply store (.get key) = .failed error ↔ store.Refused error := by
  rw [← load_error_iff]
  cases loaded : store.load with
  | ok entries =>
    rw [reply_get loaded]
    exact ⟨nofun, nofun⟩
  | error cause =>
    have failed : Store.get store key = .error cause := congrArg (Except.map _) loaded
    rw [Store.reply, failed]
    exact ⟨fun same => by cases same; rfl, fun same => by cases same; rfl⟩

/-- Setting a key puts the value among the entries. -/
theorem set_updated (store : FileStore) (key value : Text) :
    Updated store (fun entries => some (entries.insert key value)) (Store.set store key value) :=
  update_updated store _

/-- Removing a key takes its entry away, and changes nothing when there is none. -/
theorem remove_updated (store : FileStore) (key : Text) :
    Updated store (fun entries => (entries.get? key).map fun _ => entries.erase key)
      (Store.remove store key) :=
  update_updated store _

/-- A change fails when the file is refused, or when its entries are due and there can be no
file. -/
theorem updated_failed {change : Table Text → Option (Table Text)} {ending : Change FileStore}
    (updated : Updated store change ending) : Store.replyTo ending = .failed error ↔
      store.Refused error ∨
        error = .io ∧ store.directory = .blocked ∧ (change []).isSome = true := by
  cases updated with
  | @unread cause refused =>
    constructor
    · intro same
      cases same
      exact .inl refused
    · rintro (other | ⟨_, blocked, _⟩)
      · have same := (load_error_iff.mpr refused).symm.trans (load_error_iff.mpr other)
        cases same
        rfl
      · exact absurd (load_blocked blocked) refused.unloaded
  | kept loaded nothing =>
    refine ⟨nofun, ?_⟩
    rintro (refused | ⟨_, blocked, due⟩)
    · exact absurd loaded refused.unloaded
    · cases loaded.symm.trans (load_blocked blocked)
      rw [nothing] at due
      cases due
  | blocked loaded due blocked =>
    constructor
    · intro same
      cases same
      cases loaded.symm.trans (load_blocked blocked)
      exact .inr ⟨rfl, blocked, by rw [due]; rfl⟩
    · rintro (refused | ⟨rfl, _⟩)
      · exact absurd loaded refused.unloaded
      · rfl
  | written loaded due ready written =>
    refine ⟨nofun, ?_⟩
    rintro (refused | ⟨_, blocked, _⟩)
    · exact absurd loaded refused.unloaded
    · exact absurd blocked ready

/-- Any request fails for what the file holds, and setting a key also when there can be no file. -/
theorem reply_failed : Store.reply store request = .failed error ↔
    store.Refused error ∨ error = .io ∧ store.directory = .blocked ∧ request.sets = true := by
  cases request with
  | get key => simp [reply_get_failed, Request.sets]
  | set key value =>
    refine (updated_failed (set_updated store key value)).trans ?_
    simp [Request.sets]
  | remove key =>
    refine (updated_failed (remove_updated store key)).trans ?_
    simp [Request.sets, Table.get?]

private theorem updated_unchanged {change : Table Text → Option (Table Text)}
    {ending : Change FileStore}
    (updated : Updated store change ending) (failed : Store.replyTo ending = .failed error) :
    ending.store = store := by
  cases updated with
  | unread refused | blocked loaded due blocked => rfl
  | kept loaded nothing | written loaded due ready written => cases failed

/-- A request that fails leaves the whole directory as it is. -/
theorem failed_unchanged (failed : Store.reply store request = .failed error) :
    Store.after store request = store := by
  cases request with
  | get key => rfl
  | set key value => exact updated_unchanged (set_updated store key value) failed
  | remove key => exact updated_unchanged (remove_updated store key) failed

/-- A key that was set has its value, and the other keys have theirs. -/
theorem set_done (done : Store.reply store (.set key value) = .done) :
    ∃ entries, store.load = .ok entries ∧
      (Store.after store (.set key value)).load = .ok (entries.insert key value) := by
  have updated := set_updated store key value
  rw [Store.reply] at done
  rw [Store.after]
  generalize Store.set store key value = ending at updated done ⊢
  cases updated with
  | unread refused | blocked loaded due blocked => cases done
  | kept loaded nothing => cases nothing
  | @written entries changed saved loaded due ready written =>
    cases due
    exact ⟨entries, loaded, written.load (Table.insert_sorted (load_sorted loaded))⟩

/-- A key that was removed is gone, and when it was not there the file is left alone. -/
theorem remove_done (done : Store.reply store (.remove key) = .done) :
    ∃ entries, store.load = .ok entries ∧
      (Store.after store (.remove key)).load = .ok (entries.erase key) ∧
      (entries.get? key = none → Store.after store (.remove key) = store) := by
  have updated := remove_updated store key
  rw [Store.reply] at done
  rw [Store.after]
  generalize Store.remove store key = ending at updated done ⊢
  cases updated with
  | unread refused | blocked loaded due blocked => cases done
  | @kept entries loaded nothing =>
    have absent : entries.get? key = none := Option.map_eq_none_iff.mp nothing
    refine ⟨entries, loaded, ?_, fun _ => rfl⟩
    rw [Table.erase_absent absent]
    exact loaded
  | @written entries changed saved loaded due ready written =>
    obtain ⟨value, held, rfl⟩ := Option.map_eq_some_iff.mp due
    have later := written.load (Table.erase_sorted (load_sorted loaded))
    refine ⟨entries, loaded, later, fun absent => ?_⟩
    rw [absent] at held
    cases held

/-- No request changes the name of the file. -/
theorem after_name (store : FileStore) (request : Request) :
    (Store.after store request).name = store.name := by
  have updated_name {change : Table Text → Option (Table Text)} {ending : Change FileStore}
      (updated : Updated store change ending) : ending.store.name = store.name := by
    cases updated with
    | unread refused | kept loaded nothing | blocked loaded due blocked => rfl
    | written loaded due ready written => exact written.name
  cases request with
  | get key => rfl
  | set key value => exact updated_name (set_updated store key value)
  | remove key => exact updated_name (remove_updated store key)

/-- Whatever lies at the path of a file store, and whatever text its file holds: a request that
fails changes nothing. Requests of all kinds fail for the same contents, those that are not JSON and
those of another shape, and apart from that only setting a key fails, where there can be no
directory. A key that was set has its value and one that was removed has none, while the others have
the values they had; and removing a key that is not there leaves the file alone. -/
theorem requests_confined (store : FileStore) :
    (∀ request error, Store.reply store request = .failed error →
        Store.after store request = store) ∧
      (∀ request error, Store.reply store request = .failed error ↔
        store.Refused error ∨
          error = .io ∧ store.directory = .blocked ∧ request.sets = true) ∧
      (∀ key value, Store.reply store (.set key value) = .done →
        Store.reply (Store.after store (.set key value)) (.get key) = .found (some value) ∧
          ∀ other, other ≠ key → Store.reply (Store.after store (.set key value)) (.get other) =
            Store.reply store (.get other)) ∧
      ∀ key, Store.reply store (.remove key) = .done →
        Store.reply (Store.after store (.remove key)) (.get key) = .found none ∧
          (∀ other, other ≠ key → Store.reply (Store.after store (.remove key)) (.get other) =
            Store.reply store (.get other)) ∧
          (Store.reply store (.get key) = .found none →
            Store.after store (.remove key) = store) := by
  refine ⟨fun _ _ => failed_unchanged, fun _ _ => reply_failed, ?_, ?_⟩
  · intro key value done
    obtain ⟨entries, loaded, later⟩ := set_done done
    rw [reply_get later, Table.get_insert, if_pos rfl]
    refine ⟨rfl, fun other different => ?_⟩
    rw [reply_get later, reply_get loaded, Table.get_insert, if_neg different]
  · intro key done
    obtain ⟨entries, loaded, later, kept⟩ := remove_done done
    rw [reply_get later, Table.get_erase, if_pos rfl]
    refine ⟨rfl, fun other different => ?_, fun absent => kept ?_⟩
    · rw [reply_get later, reply_get loaded, Table.get_erase, if_neg different]
    · rw [reply_get loaded] at absent
      exact Reply.found.inj absent

/-- A number is dropped when the file is written again, and a repeated key has its last value. -/
example :
    let content := "\x7b\"a\": 1, \"b\": \"x\", \"b\": \"\\u0079\"\x7d"
    let store : FileStore := ⟨"state", "session.json", .holds [("session.json", content)]⟩
    Store.reply store (.get "b") = .found (some "y".toList) ∧
      (Store.after store (.set "c" "z")).directory.read? "session.json" =
        some "\x7b\n  \"b\": \"y\",\n  \"c\": \"z\"\n\x7d".toList := by
  decide +kernel

end FileStore

end BlogTerminal
