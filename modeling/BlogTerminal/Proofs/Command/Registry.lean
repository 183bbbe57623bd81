import BlogTerminal.Command.Context
import BlogTerminal.Proofs.Table
import Mathlib.Data.List.Induction

/-!
What a registry finds behind a list of registrations. The two tables are overwritten by every
command, so each holds what the last command of a name or alias put there; an alias keeps the name
that it was given, and there is always a command of that name.
-/

namespace BlogTerminal

/-- The last item of a list that satisfies `p`. -/
def IsLast {α : Type} (p : α → Prop) (items : List α) (item : α) : Prop :=
  ∃ before behind, items = before ++ item :: behind ∧ p item ∧ ∀ other ∈ behind, ¬ p other

namespace IsLast

variable {α : Type} {p : α → Prop} {items : List α} {item : α}

private theorem mem (last : IsLast p items item) : item ∈ items := by
  obtain ⟨before, behind, rfl, _⟩ := last
  simp

/-- The last item that has the property has it. -/
theorem holds (last : IsLast p items item) : p item := by
  obtain ⟨_, _, _, holds, _⟩ := last
  exact holds

end IsLast

/-! ## Searching from the end -/

section

variable {α : Type} {p : α → Prop} [DecidablePred p] {items : List α} {item : α}

/-- Searching from the end finds the last item. -/
theorem findRev_eq_some_iff : items.findRev? (p ·) = some item ↔ IsLast p items item := by
  rw [List.findRev?_eq_find?_reverse, List.find?_eq_some_iff_append]
  constructor
  · rintro ⟨holds, behind, before, split, fails⟩
    refine ⟨before.reverse, behind.reverse, ?_, by simpa using holds, ?_⟩
    · simpa using congrArg List.reverse split
    · simpa using fails
  · rintro ⟨before, behind, rfl, holds, fails⟩
    exact ⟨by simpa using holds, behind.reverse, before.reverse, by simp, by simpa using fails⟩

private theorem findRev_eq_none_iff : items.findRev? (p ·) = none ↔ ∀ item ∈ items, ¬ p item := by
  rw [List.findRev?_eq_find?_reverse, List.find?_eq_none]
  simp

private theorem findRev_isSome : (items.findRev? (p ·)).isSome = true ↔ ∃ item ∈ items, p item := by
  rw [List.findRev?_eq_find?_reverse, List.find?_isSome]
  simp

variable (p items item)

private theorem findRev_concat :
    (items ++ [item]).findRev? (p ·) = if p item then some item else items.findRev? (p ·) := by
  rw [List.findRev?_eq_find?_reverse, List.findRev?_eq_find?_reverse, List.reverse_concat,
    List.find?_cons]
  by_cases holds : p item <;> simp [holds]

end

variable {α : Type}

namespace Command

/-- The command has a name with this lowercase. -/
def Named (command : Command α) (key : Text) : Prop := command.name.lower = key

/-- The command has an alias with this lowercase. -/
def Aliased (command : Command α) (key : Text) : Prop :=
  ∃ spelling ∈ command.aliases, spelling.lower = key

instance (command : Command α) (key : Text) : Decidable (command.Named key) :=
  inferInstanceAs (Decidable (_ = _))

instance (command : Command α) (key : Text) : Decidable (command.Aliased key) :=
  inferInstanceAs (Decidable (∃ spelling ∈ command.aliases, spelling.lower = key))

end Command

namespace Registry

open Table

/-- What is found for a lowercase name behind a list of registrations: the last command of that
name, or else the last one of the name that the last command with that alias has, or else
nothing. -/
inductive Finds (commands : List (Command α)) (key : Text) : Option (Command α) → Prop where
  | named {command : Command α} (last : IsLast (·.Named key) commands command) :
      Finds commands key (some command)
  | aliased {bearer command : Command α} (unnamed : ∀ other ∈ commands, ¬ other.Named key)
      (bears : IsLast (·.Aliased key) commands bearer)
      (last : IsLast (·.Named bearer.name.lower) commands command) :
      Finds commands key (some command)
  | missing (unnamed : ∀ other ∈ commands, ¬ other.Named key)
      (unaliased : ∀ other ∈ commands, ¬ other.Aliased key) : Finds commands key none

variable {commands : List (Command α)} {command : Command α} {key name : Text}

/-! ## The tables -/

private theorem ofList_concat (commands : List (Command α)) (command : Command α) :
    ofList (commands ++ [command]) = (ofList commands).register command :=
  List.foldl_append

private theorem get_commands (commands : List (Command α)) (key : Text) :
    (ofList commands).commands.get? key = commands.findRev? (·.Named key) := by
  induction commands using List.reverseRecOn with
  | nil => rfl
  | append_singleton before last ih =>
    rw [ofList_concat, findRev_concat, register, get_insert, ih]
    simp only [Command.Named, eq_comm]

/-- All aliases of a command get its name. -/
private theorem get_spelled (spellings : List Text) (table : Table Text) (name key : Text) :
    (spellings.foldl (fun aliases spelling => aliases.insert spelling.lower name) table).get? key =
      if ∃ spelling ∈ spellings, spelling.lower = key then some name else table.get? key := by
  induction spellings generalizing table with
  | nil => simp
  | cons spelling rest ih =>
    rw [List.foldl_cons, ih, get_insert]
    by_cases here : spelling.lower = key
    · have given : ∃ other ∈ spelling :: rest, other.lower = key := ⟨spelling, .head _, here⟩
      rw [if_pos given, if_pos here.symm, ite_self]
    · rw [if_neg (Ne.symm here)]
      simp only [List.mem_cons, exists_eq_or_imp, here, false_or]

private theorem get_aliases (commands : List (Command α)) (key : Text) :
    (ofList commands).aliases.get? key =
      (commands.findRev? (·.Aliased key)).map (·.name.lower) := by
  induction commands using List.reverseRecOn with
  | nil => rfl
  | append_singleton before last ih =>
    rw [ofList_concat, findRev_concat, register, get_spelled, ih]
    by_cases bears : last.Aliased key
    · rw [if_pos bears]
      exact if_pos bears
    · rw [if_neg bears]
      exact if_neg bears

private theorem commands_sorted (commands : List (Command α)) :
    (ofList commands).commands.Sorted := by
  induction commands using List.reverseRecOn with
  | nil => exact .nil
  | append_singleton before last ih =>
    rw [ofList_concat]
    exact insert_sorted ih

/-- So a name that an alias was given stays the name of some command. -/
theorem last_named (commands : List (Command α)) (member : command ∈ commands) :
    ∃ last, IsLast (·.Named command.name.lower) commands last := by
  have given : (commands.findRev? (·.Named command.name.lower)).isSome = true :=
    findRev_isSome.mpr ⟨command, member, rfl⟩
  obtain ⟨last, found⟩ := Option.isSome_iff_exists.mp given
  exact ⟨last, findRev_eq_some_iff.mp found⟩

private theorem mem_commands : (key, command) ∈ (ofList commands).commands ↔
    IsLast (·.Named key) commands command := by
  rw [mem_iff_get (commands_sorted commands), get_commands, findRev_eq_some_iff]

/-! ## Looking up -/

private theorem get_finds (commands : List (Command α)) (name : Text) :
    Finds commands name.lower ((ofList commands).get? name) := by
  rw [get?, get_commands, get_aliases]
  cases named : commands.findRev? (·.Named name.lower) with
  | some command => exact .named (findRev_eq_some_iff.mp named)
  | none =>
    have unnamed := findRev_eq_none_iff.mp named
    cases aliased : commands.findRev? (·.Aliased name.lower) with
    | none => exact .missing unnamed (findRev_eq_none_iff.mp aliased)
    | some bearer =>
      have bears := findRev_eq_some_iff.mp aliased
      obtain ⟨command, last⟩ := last_named commands bears.mem
      have found : (ofList commands).commands.get? bearer.name.lower = some command :=
        (get_commands commands _).trans (findRev_eq_some_iff.mpr last)
      simp only [Option.map_some, Option.bind_some, found]
      exact .aliased unnamed bears last

/-! ## Listing -/

private theorem mem_list : command ∈ (ofList commands).list ↔
    IsLast (·.Named command.name.lower) commands command := by
  rw [list, List.mem_mergeSort, List.mem_map]
  constructor
  · rintro ⟨⟨key, found⟩, member, rfl⟩
    have last := mem_commands.mp member
    have same : found.name.lower = key := last.holds
    rw [same]
    exact last
  · exact fun last => ⟨_, mem_commands.mpr last, rfl⟩

private theorem mem_list_names : key ∈ (ofList commands).list.map (·.name.lower) ↔
    ∃ command ∈ commands, command.Named key := by
  rw [List.mem_map]
  constructor
  · rintro ⟨command, listed, rfl⟩
    exact ⟨command, (mem_list.mp listed).mem, rfl⟩
  · rintro ⟨command, member, rfl⟩
    obtain ⟨last, found⟩ := last_named commands member
    have same : last.name.lower = command.name.lower := found.holds
    refine ⟨last, mem_list.mpr ?_, same⟩
    rw [same]
    exact found

private theorem list_distinct (commands : List (Command α)) :
    ((ofList commands).list.map (·.name.lower)).Nodup := by
  have keys : (ofList commands).commands.map (·.2.name.lower) = (ofList commands).commands.names :=
    List.map_congr_left fun entry member => (mem_commands.mp member).holds
  have ascend : (ofList commands).commands.names.Pairwise (· < ·) :=
    List.pairwise_map.mpr (commands_sorted commands)
  rw [list, ((List.mergeSort_perm _ _).map _).nodup_iff, List.map_map, Function.comp_def, keys]
  refine ascend.imp fun below same => ?_
  rw [same] at below
  exact List.lt_irrefl _ below

private theorem mem_names_iff : name ∈ (ofList commands).names ↔
    ∃ command ∈ commands, command.Named name ∨ command.Aliased name := by
  rw [names, Text.mem_sortedSet, List.mem_append, mem_names_iff_get, mem_names_iff_get,
    get_commands, get_aliases, Option.isSome_map, findRev_isSome, findRev_isSome]
  simp only [and_or_left, exists_or]

private theorem contains_iff : (ofList commands).contains name = true ↔
    name.lower ∈ (ofList commands).names := by
  rw [contains, mem_names_iff]
  have finds := get_finds commands name
  generalize (ofList commands).get? name = found at finds ⊢
  cases finds with
  | named last => simpa using ⟨_, last.mem, .inl last.holds⟩
  | aliased unnamed bears last => simpa using ⟨_, bears.mem, .inr bears.holds⟩
  | missing unnamed unaliased =>
    simp only [Option.isSome_none, Bool.false_eq_true, false_iff, not_exists, not_and, not_or]
    exact fun command member => ⟨unnamed command member, unaliased command member⟩

/-- What a name stands for behind any list of registrations, and what is listed: one command for
each distinct lowercase name, the last one, and the names and aliases in strictly ascending order.
A name is known exactly when it is listed, and completing offers what is listed and continues the
typed text. -/
theorem ofList_finds (commands : List (Command α)) (name typed : Text) :
    let registry := ofList commands
    Finds commands name.lower (registry.get? name) ∧
      ((registry.list.map (·.name.lower)).Nodup ∧
        (∀ key, key ∈ registry.list.map (·.name.lower) ↔
          ∃ command ∈ commands, command.Named key) ∧
        ∀ command, command ∈ registry.list ↔
          IsLast (·.Named command.name.lower) commands command) ∧
      (registry.names.Pairwise (· < ·) ∧
        ∀ listed, listed ∈ registry.names ↔
          ∃ command ∈ commands, command.Named listed ∨ command.Aliased listed) ∧
      (registry.contains name = true ↔ name.lower ∈ registry.names) ∧
      (registry.completions typed).Sublist registry.names ∧
      ∀ listed, listed ∈ registry.completions typed ↔
        listed ∈ registry.names ∧ typed.lower <+: listed := by
  intro registry
  refine ⟨get_finds commands name,
    ⟨list_distinct commands, fun key => mem_list_names, fun command => mem_list⟩,
    ⟨Text.sortedSet_ascends _, fun listed => mem_names_iff⟩, contains_iff,
    List.filter_sublist, fun listed => ?_⟩
  rw [completions, List.mem_filter, decide_eq_true_iff]

end Registry

end BlogTerminal
