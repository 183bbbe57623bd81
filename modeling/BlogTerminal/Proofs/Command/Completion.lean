import BlogTerminal.Command.Builtin
import BlogTerminal.Proofs.Table
import BlogTerminal.Proofs.Text.Lowercase

/-!
Completion against what has been typed. Whatever is offered begins with it in some case, also
behind the name of a directory, since the slash there is no part of a word. What is typed matters
only by its lowercase, but for the name of a directory in front of a slash, which is taken as it is
spelled.
-/

namespace BlogTerminal

variable {posts : List Post} {path typed other candidate start : Text}

namespace Completion

/-- The directories that can stand in front of a slash, each with what completes their items. -/
def shelves : List (Text × (List Post → Text → List Text)) :=
  [("series/", series), ("tags/", tags), ("posts/", Completion.posts)]

/-- The directories that can stand in front of a slash, with the slash. -/
def shelfNames : List Text := ["series/", "tags/", "posts/"]

private theorem mem_shelfNames : start ∈ shelfNames ↔ ∃ shelf ∈ shelves, shelf.1 = start := by
  simp [shelfNames, shelves, eq_comm]

private theorem behind_append (start rest : Text) (candidates : Text → List Text) :
    behind? start (start ++ rest) candidates = some ((candidates rest).map (start ++ ·)) := by
  have cut : (start ++ rest).after? start = some rest := by
    rw [Text.after?, List.isPrefixOf?_eq_some_iff_append_eq]
  rw [behind?, cut, Option.map_some]

private theorem behind_missing (elsewhere : ¬ start <+: typed) (candidates : Text → List Text) :
    behind? start typed candidates = none := by
  have cut : typed.after? start = none := by
    rw [Option.eq_none_iff_forall_ne_some]
    intro rest found
    exact elsewhere ⟨rest, List.isPrefixOf?_eq_some_iff_append_eq.mp found⟩
  rw [behind?, cut, Option.map_none]

/-! ## What is offered begins with what was typed -/

private theorem filter_continue {slugs : List Text}
    (offered : candidate ∈ slugs.filter (continues typed)) : typed.lower <+: candidate.lower := by
  simpa [continues] using (List.mem_filter.mp offered).2

private theorem posts_continue (offered : candidate ∈ Completion.posts posts typed) :
    typed.lower <+: candidate.lower := by
  rw [Completion.posts, Text.sorted, List.mem_mergeSort] at offered
  exact filter_continue offered

private theorem series_continue (offered : candidate ∈ series posts typed) :
    typed.lower <+: candidate.lower := by
  rw [series, Text.mem_sortedSet] at offered
  exact filter_continue offered

private theorem tags_continue (offered : candidate ∈ tags posts typed) :
    typed.lower <+: candidate.lower := by
  rw [tags, Text.mem_sortedSet] at offered
  exact filter_continue offered

private theorem shelves_continue {shelf : Text × (List Post → Text → List Text)}
    (listed : shelf ∈ shelves)
    (offered : candidate ∈ shelf.2 posts typed) : typed.lower <+: candidate.lower := by
  simp only [shelves, List.mem_cons, List.not_mem_nil, or_false] at listed
  rcases listed with rfl | rfl | rfl
  · exact series_continue offered
  · exact tags_continue offered
  · exact posts_continue offered

private theorem slash_breaks : Text.IsBreak '/' := by decide

/-- The slash behind a directory takes nothing away from its name. -/
theorem directories_continue {directories : List Text}
    (offered : candidate ∈ Completion.directories directories typed) :
    typed.lower <+: candidate.lower := by
  obtain ⟨name, listed, rfl⟩ := List.mem_map.mp offered
  have begins : typed.lower <+: name.lower := filter_continue listed
  have slashed : (name ++ '/' :: []).lower = name.lower ++ '/' :: Text.lower [] :=
    Text.lower_around slash_breaks name []
  exact begins.trans ⟨_, slashed.symm⟩

/-- Items behind a directory continue what was typed behind it. -/
theorem behind_continue {rest : Text} {items : List Text} (slashed : start.getLast? = some '/')
    (continues : ∀ item ∈ items, rest.lower <+: item.lower)
    (offered : candidate ∈ items.map (start ++ ·)) : (start ++ rest).lower <+: candidate.lower := by
  obtain ⟨item, listed, rfl⟩ := List.mem_map.mp offered
  obtain ⟨name, rfl⟩ := List.getLast?_eq_some_iff.mp slashed
  rw [← List.append_cons, ← List.append_cons]
  exact Text.lower_prefix_around slash_breaks name (continues item listed)

/-! ## What is typed matters by its lowercase -/

private theorem continues_congr (same : typed.lower = other.lower) :
    continues typed = continues other := by
  funext candidate
  rw [continues, continues, same]

private theorem shelves_congr (same : typed.lower = other.lower)
    {shelf : Text × (List Post → Text → List Text)} (listed : shelf ∈ shelves) (posts : List Post) :
    shelf.2 posts typed = shelf.2 posts other := by
  have alike := continues_congr same
  simp only [shelves, List.mem_cons, List.not_mem_nil, or_false] at listed
  rcases listed with rfl | rfl | rfl
  · simp only [series, alike]
  · simp only [tags, alike]
  · simp only [Completion.posts, alike]

private theorem mark_ascii : ∀ n < 128,
    ((Char.ofNat n).toLower = '-' → Char.ofNat n = '-') ∧
      ((Char.ofNat n).toLower = '/' → Char.ofNat n = '/') := by
  decide +kernel

private theorem marks_toLower (c : Char) :
    (c.toLower = '-' ↔ c = '-') ∧ (c.toLower = '/' ↔ c = '/') := by
  by_cases ascii : c.toNat < 128
  · obtain ⟨dash, slash⟩ := mark_ascii c.toNat ascii
    rw [Char.ofNat_toNat] at dash slash
    exact ⟨⟨dash, fun same => by rw [same]; rfl⟩, ⟨slash, fun same => by rw [same]; rfl⟩⟩
  · rw [Text.toLower_kept ascii]
    exact ⟨.rfl, .rfl⟩

private theorem slash_map_toLower (text : Text) : '/' ∈ text.map Char.toLower ↔ '/' ∈ text := by
  simp only [List.mem_map, (marks_toLower _).2, exists_eq_right]

private theorem isFlag_map_toLower (text : Text) :
    CommandLine.isFlag (text.map Char.toLower) = CommandLine.isFlag text := by
  cases text with
  | nil => rfl
  | cons c rest =>
    simp [CommandLine.isFlag, eq_comm (a := '-'), (marks_toLower c).1]

end Completion

open Completion

namespace PathCompletion

variable {completion : PathCompletion} {shelf : Text × (List Post → Text → List Text)}

/-! ## Paths with a slash -/

private theorem shelf_slash : ∀ shelf ∈ shelves, shelf.1.getLast? = some '/' := by decide

private theorem candidates_behind (listed : shelf ∈ shelves) (rest : Text) :
    completion.candidates posts path (shelf.1 ++ rest) =
      (shelf.2 posts rest).map (shelf.1 ++ ·) := by
  have slash : '/' ∈ shelf.1 ++ rest :=
    List.mem_append_left _ (List.mem_of_getLast? (shelf_slash shelf listed))
  rw [candidates, if_pos slash]
  simp only [shelves, List.mem_cons, List.not_mem_nil, or_false] at listed
  rcases listed with rfl | rfl | rfl
  · rw [behind_append]
    rfl
  · rw [behind_append, behind_missing (by simp)]
    rfl
  · rw [behind_append, behind_missing (by simp), behind_missing (by simp)]
    rfl

/-- Behind any other directory there is nothing to offer. -/
theorem candidates_elsewhere (slash : '/' ∈ typed)
    (elsewhere : ∀ shelf ∈ shelves, ¬ shelf.1 <+: typed) :
    completion.candidates posts path typed = [] := by
  simp only [shelves, List.forall_mem_cons, List.not_mem_nil, false_imp_iff, implies_true,
    and_true] at elsewhere
  obtain ⟨series, tags, files⟩ := elsewhere
  rw [candidates, if_pos slash, behind_missing series, behind_missing tags, behind_missing files]
  rfl

/-! ## Candidates -/

private theorem candidates_continue (offered : candidate ∈ completion.candidates posts path typed) :
    typed.lower <+: candidate.lower := by
  by_cases slash : '/' ∈ typed
  · by_cases known : ∃ shelf ∈ shelves, shelf.1 <+: typed
    · obtain ⟨shelf, listed, rest, rfl⟩ := known
      rw [candidates_behind listed] at offered
      exact behind_continue (shelf_slash shelf listed)
        (fun item inside => shelves_continue listed inside) offered
    · rw [candidates_elsewhere slash (fun shelf listed begins => known ⟨shelf, listed, begins⟩)]
        at offered
      exact absurd offered List.not_mem_nil
  · rw [candidates, if_neg slash] at offered
    split at offered
    · exact posts_continue offered
    · exact series_continue offered
    · exact tags_continue offered
    · rcases List.mem_append.mp offered with directory | post
      · exact directories_continue directory
      · split at post
        · exact posts_continue post
        · exact absurd post List.not_mem_nil
    · exact absurd offered List.not_mem_nil

/-! ## The case of what is typed -/

/-- Texts with the same letters complete to the same paths, as long as they spell the same directory
in front of a slash. -/
theorem candidates_congr (letters : typed.map Char.toLower = other.map Char.toLower)
    (spelled : ∀ start ∈ shelfNames, start <+: typed ↔ start <+: other) :
    completion.candidates posts path typed = completion.candidates posts path other := by
  have slashes : '/' ∈ typed ↔ '/' ∈ other := by
    rw [← slash_map_toLower typed, letters, slash_map_toLower]
  by_cases slash : '/' ∈ typed
  · by_cases known : ∃ shelf ∈ shelves, shelf.1 <+: typed
    · obtain ⟨shelf, listed, begins⟩ := known
      obtain ⟨rest, rfl⟩ := begins
      obtain ⟨more, rfl⟩ := (spelled shelf.1 (mem_shelfNames.mpr ⟨shelf, listed, rfl⟩)).mp
        (List.prefix_append shelf.1 rest)
      rw [List.map_append, List.map_append, List.append_cancel_left_eq] at letters
      rw [candidates_behind listed, candidates_behind listed,
        shelves_congr (Text.lower_congr letters) listed]
    · have elsewhere : ∀ shelf ∈ shelves, ¬ shelf.1 <+: typed :=
        fun shelf listed begins => known ⟨shelf, listed, begins⟩
      have nowhere : ∀ shelf ∈ shelves, ¬ shelf.1 <+: other := by
        intro shelf listed begins
        have named : shelf.1 ∈ shelfNames := mem_shelfNames.mpr ⟨shelf, listed, rfl⟩
        exact elsewhere shelf listed ((spelled shelf.1 named).mpr begins)
      rw [candidates_elsewhere slash elsewhere, candidates_elsewhere (slashes.mp slash) nowhere]
  · have alike := continues_congr (Text.lower_congr letters)
    rw [candidates, candidates, if_neg slash, if_neg (mt slashes.mpr slash)]
    simp only [Completion.posts, series, tags, Completion.directories, alike]

/-- Behind a directory with a capital letter there is nothing to offer. -/
theorem candidates_capital (known : start ∈ shelfNames) (letters : start <+: typed.map Char.toLower)
    (capital : ¬ start <+: typed) : completion.candidates posts path typed = [] := by
  have slash : '/' ∈ typed := by
    have inside : '/' ∈ start := (by decide : ∀ start ∈ shelfNames, '/' ∈ start) start known
    exact (slash_map_toLower typed).mp (letters.subset inside)
  refine candidates_elsewhere slash fun shelf listed begins => capital ?_
  have small : shelf.1.map Char.toLower = shelf.1 :=
    (by decide : ∀ shelf ∈ shelves, shelf.1.map Char.toLower = shelf.1) shelf listed
  have lower : shelf.1 <+: typed.map Char.toLower := by
    have mapped := begins.map Char.toLower
    rwa [small] at mapped
  -- No directory begins with another one, so the two are the same.
  have apart : ∀ start ∈ shelfNames, ∀ shelf ∈ shelves,
      start <+: shelf.1 ∨ shelf.1 <+: start → start = shelf.1 := by decide
  rw [apart start known shelf listed (List.prefix_or_prefix_of_prefix letters lower)]
  exact begins

end PathCompletion

/-! ## The commands -/

/-- Names in lowercase continue what was typed when its lowercase begins them. -/
theorem lowercase_continue {names : List Text} (small : ∀ name ∈ names, name.lower = name)
    (offered : candidate ∈ names.filter (typed.lower <+: ·)) : typed.lower <+: candidate.lower := by
  obtain ⟨listed, begins⟩ := List.mem_filter.mp offered
  rw [small candidate listed]
  exact of_decide_eq_true begins

/-- The names and aliases in the registry are in lowercase. -/
private theorem registry_lower : ∀ name ∈ Builtin.registry.names, name.lower = name := by
  have small : ∀ name ∈ Builtin.registry.commands.names ++ Builtin.registry.aliases.names,
      name.lower = name := by
    decide +kernel
  exact fun name listed => small name (Text.mem_sortedSet.mp listed)

/-- The names that the registry offers continue what was typed. -/
theorem registry_continue (offered : candidate ∈ Builtin.registry.completions typed) :
    typed.lower <+: candidate.lower := lowercase_continue registry_lower offered

private theorem preview_behind {α : Type} (context : Context α) (rest : Text) :
    Preview.complete context ("posts/".toList ++ rest) =
      (Completion.posts context.posts rest).map ("posts/".toList ++ ·) := by
  rw [Preview.complete, behind_append, Option.getD_some]

private theorem preview_elsewhere {α : Type} (context : Context α)
    (elsewhere : ¬ "posts/".toList <+: typed) :
    Preview.complete context typed = Completion.posts context.posts typed := by
  rw [Preview.complete, behind_missing elsewhere, Option.getD_none]

namespace Builtin

variable {builtin : Builtin}

/-- Whatever a command offers begins with what was typed. -/
theorem offered_continues {context : Context Builtin} (known : context.registry = registry)
    (offered : candidate ∈ builtin.candidates context typed) :
    typed.lower <+: candidate.lower := by
  cases builtin with
  | ls =>
    have complete : candidate ∈ Listing.complete context typed := offered
    rw [Listing.complete] at complete
    split at complete
    · have small : ∀ flag ∈ Listing.flags, flag.lower = flag := by decide
      exact lowercase_continue small complete
    · exact PathCompletion.candidates_continue complete
  | cd =>
    have complete : candidate ∈ Navigation.complete context typed := offered
    exact PathCompletion.candidates_continue complete
  | cat =>
    have complete : candidate ∈ Preview.complete context typed := offered
    by_cases slashed : "posts/".toList <+: typed
    · obtain ⟨rest, rfl⟩ := slashed
      rw [preview_behind] at complete
      exact behind_continue rfl (fun item => posts_continue) complete
    · rw [preview_elsewhere context slashed] at complete
      exact posts_continue complete
  | help =>
    have complete : candidate ∈ context.registry.completions typed := offered
    rw [known] at complete
    exact registry_continue complete
  | theme =>
    have small : ∀ name ∈ Theme.all.map Theme.name, name.lower = name := by decide
    have complete : candidate ∈ Theme.completions typed := offered
    exact lowercase_continue small complete
  | tree | find =>
    have complete : candidate ∈ paths.candidates context.posts context.path typed := offered
    exact PathCompletion.candidates_continue complete
  | grep =>
    have complete : candidate ∈ if typed.isEmpty || CommandLine.isFlag typed then []
        else Completion.posts context.posts typed := offered
    split at complete
    · exact absurd complete List.not_mem_nil
    · exact posts_continue complete
  | history | pwd | whoami | date | echo | clear | exit | superuser | rm | editor | neofetch =>
    exact absurd offered List.not_mem_nil

/-- The commands that complete paths. -/
inductive CompletesPaths : Builtin → Prop where
  | ls : CompletesPaths .ls
  | cd : CompletesPaths .cd
  | cat : CompletesPaths .cat
  | tree : CompletesPaths .tree
  | find : CompletesPaths .find

/-- The directories behind which a command completes items. -/
def completedBehind : Builtin → List Text
  | .cat => ["posts/"]
  | _ => shelfNames

/-- The directories that a path is completed behind are spelled in lowercase. -/
theorem completedBehind_lower (known : start ∈ builtin.completedBehind) :
    start.map Char.toLower = start := by
  have small : ∀ start ∈ shelfNames, start.map Char.toLower = start := by decide
  refine small start ?_
  cases builtin with
  | cat =>
    obtain rfl := List.mem_singleton.mp known
    decide
  | _ => exact known

variable {α : Type} {context : Context α}

/-- Two texts that differ in the case of ASCII letters alone have the same candidates when the same
directories are spelled in front of them. -/
theorem candidates_same_letters (completes : CompletesPaths builtin)
    (letters : typed.map Char.toLower = other.map Char.toLower)
    (spelled : ∀ start ∈ builtin.completedBehind, start <+: typed ↔ start <+: other) :
    builtin.candidates context typed = builtin.candidates context other := by
  have paths (completion : PathCompletion)
      (spelled : ∀ start ∈ shelfNames, start <+: typed ↔ start <+: other) :
      completion.candidates context.posts context.path typed =
        completion.candidates context.posts context.path other :=
    PathCompletion.candidates_congr letters spelled
  cases completes with
  | ls =>
    have flagged : CommandLine.isFlag typed = CommandLine.isFlag other := by
      rw [← isFlag_map_toLower typed, letters, isFlag_map_toLower]
    have complete : Listing.complete context typed = Listing.complete context other := by
      rw [Listing.complete, Listing.complete, flagged, Text.lower_congr letters, paths _ spelled]
    exact complete
  | cd => exact paths Navigation.paths spelled
  | tree | find => exact paths Builtin.paths spelled
  | cat =>
    have complete : Preview.complete context typed = Preview.complete context other := by
      have begins := spelled "posts/" (List.mem_singleton_self _)
      by_cases slashed : "posts/".toList <+: typed
      · obtain ⟨rest, rfl⟩ := slashed
        obtain ⟨more, rfl⟩ := begins.mp (List.prefix_append _ rest)
        rw [List.map_append, List.map_append, List.append_cancel_left_eq] at letters
        simp only [preview_behind, Completion.posts,
          continues_congr (Text.lower_congr letters)]
      · rw [preview_elsewhere context slashed, preview_elsewhere context (mt begins.mpr slashed)]
        simp only [Completion.posts, continues_congr (Text.lower_congr letters)]
    exact complete

/-- Behind a directory with a capital letter nothing is offered, and `cat` takes the directory for
the begin of a slug. -/
theorem candidates_capital (completes : CompletesPaths builtin)
    (known : start ∈ builtin.completedBehind) (letters : start <+: typed.map Char.toLower)
    (capital : ¬ start <+: typed) : builtin.candidates context typed =
      if builtin = .cat then Completion.posts context.posts typed else [] := by
  have paths (completion : PathCompletion) (known : start ∈ shelfNames) :
      completion.candidates context.posts context.path typed = [] :=
    PathCompletion.candidates_capital known letters capital
  cases completes with
  | ls =>
    have unflagged : CommandLine.isFlag typed = false := by
      have named : start ∈ shelfNames := known
      obtain ⟨rest, split⟩ := letters
      rw [← isFlag_map_toLower, ← split]
      simp only [shelfNames, List.mem_cons, List.not_mem_nil, or_false] at named
      rcases named with rfl | rfl | rfl <;> rfl
    have complete : Listing.complete context typed = [] := by
      rw [Listing.complete, unflagged, paths _ known]
      rfl
    exact complete
  | cd => exact paths Navigation.paths known
  | tree | find => exact paths Builtin.paths known
  | cat =>
    obtain rfl : start = "posts/" := List.mem_singleton.mp known
    have complete : Preview.complete context typed = Completion.posts context.posts typed :=
      preview_elsewhere context capital
    exact complete

end Builtin

end BlogTerminal
