import BlogTerminal.Proofs.Path.Resolve

/-!
Walking through the directories. A relative token moves the segments of the current directory one
step for each of its own segments. A directory that has been reached is cut free of the tildes in
front of it, but these lie below every later step and are never seen by one, so walking token by
token ends where the tokens joined by slashes lead at once.
-/

namespace BlogTerminal.Path

section

variable {token first later part : Text} {here parts : List Text}

/-! ## Steps -/

/-- The token is `.`, `..`, or starts with `./` or `../`. -/
def Relative (token : Text) : Prop :=
  token = "." ∨ token = ".." ∨ "./".toList <+: token ∨ "../".toList <+: token

instance (token : Text) : Decidable (Relative token) :=
  inferInstanceAs (Decidable (token = ".".toList ∨ token = "..".toList ∨
    "./".toList <+: token ∨ "../".toList <+: token))

/-- The segments that a relative path leads to from the segments `here`. -/
def walked (here : List Text) (relative : Text) : List Text := (segments relative).foldl step here

private theorem walk_walked (start relative : Text) :
    walk start relative = join (walked (segments start) relative) := by
  have stays (here : List Text) (segment : Text) :
      (if !segment.isEmpty then step here segment else here) = step here segment := by
    cases segment <;> rfl
  have split : walked (segments start) relative = (relative.splitOn '/').foldl
      (fun here segment => if !segment.isEmpty then step here segment else here) (segments start) :=
    List.foldl_filter
  rw [walk, split]
  simp only [stays]

private theorem walked_slash (here : List Text) (first later : Text) :
    walked here (first ++ '/' :: later) = walked (walked here first) later := by
  rw [walked, segments_below, List.foldl_append]
  rfl

private theorem step_proper (proper : ∀ part ∈ here, IsSegment part) (segment : IsSegment part) :
    ∀ other ∈ step here part, IsSegment other := by
  unfold step
  split
  · exact proper
  · split
    · exact fun other member => proper other (List.dropLast_subset here member)
    · exact List.forall_mem_append.mpr ⟨proper, List.forall_mem_singleton.mpr segment⟩

private theorem walked_proper (proper : ∀ part ∈ here, IsSegment part) (relative : Text) :
    ∀ part ∈ walked here relative, IsSegment part :=
  List.foldlRecOn (motive := fun here => ∀ part ∈ here, IsSegment part) (segments relative) step
    proper fun _ proper _ member => step_proper proper (mem_segments member)

/-! ## Tildes in front -/

/-- The segments behind the tildes in front of them. -/
def untilded : List Text → List Text
  | [] => []
  | part :: rest =>
    if part.dropWhile (· == '~') = [] then untilded rest else part.dropWhile (· == '~') :: rest

private theorem untilded_tildes (tildes : part.dropWhile (· == '~') = []) (rest : List Text) :
    untilded (part :: rest) = untilded rest := if_pos tildes

private theorem untilded_name (named : part.dropWhile (· == '~') ≠ []) (rest : List Text) :
    untilded (part :: rest) = part.dropWhile (· == '~') :: rest := if_neg named

/-- Segments whose first one has no tilde in front. -/
theorem untilded_named (named : part.dropWhile (· == '~') ≠ []) (rest : List Text) :
    untilded (part.dropWhile (· == '~') :: rest) = part.dropWhile (· == '~') :: rest := by
  have kept := List.dropWhile_idempotent (· == '~') part
  rw [untilded_name (by rwa [kept]), kept]

private theorem untilded_proper (proper : ∀ part ∈ parts, IsSegment part) :
    ∀ part ∈ untilded parts, IsSegment part := by
  induction parts with
  | nil => exact proper
  | cons part rest ih =>
    obtain ⟨segment, others⟩ := List.forall_mem_cons.mp proper
    by_cases named : part.dropWhile (· == '~') = []
    · rw [untilded_tildes named]
      exact ih others
    · rw [untilded_name named]
      have whole : '/' ∉ part.dropWhile (· == '~') :=
        fun slash => segment.whole (List.dropWhile_subset _ slash)
      exact List.forall_mem_cons.mpr ⟨⟨named, whole⟩, others⟩

/-- Behind the first of several segments comes a slash. -/
theorem join_cons (part next : Text) (more : List Text) :
    join (part :: next :: more) = part ++ '/' :: join (next :: more) := by
  rw [join, List.intercalate_cons_cons, List.append_assoc]
  rfl

/-- Joined segments do not end with a slash. -/
theorem dropEndWhile_join (proper : ∀ part ∈ parts, IsSegment part) :
    Text.dropEndWhile (· == '/') (join parts) = join parts := by
  refine Text.dropEndWhile_kept fun given => ?_
  induction parts with
  | nil => exact absurd rfl given
  | cons part rest ih =>
    obtain ⟨segment, others⟩ := List.forall_mem_cons.mp proper
    cases rest with
    | nil =>
      have ending : (join [part]).getLast given ∈ part := by simp [join]
      have other : (join [part]).getLast given ≠ '/' := fun same => segment.whole (same ▸ ending)
      simpa using other
    | cons next more =>
      have inside : join (next :: more) ≠ [] := by
        intro empty
        have parts := segments_join others
        rw [empty] at parts
        cases parts
      have behind : join (next :: more) <:+ join (part :: next :: more) := by
        rw [join_cons]
        exact (List.suffix_cons _ _).trans (List.suffix_append _ _)
      rw [← behind.getLast inside]
      exact ih others inside

private theorem dropWhile_join (proper : ∀ part ∈ parts, IsSegment part) :
    (join parts).dropWhile (fun c => c == '~' || c == '/') = join (untilded parts) := by
  induction parts with
  | nil => rfl
  | cons part rest ih =>
    obtain ⟨segment, others⟩ := List.forall_mem_cons.mp proper
    have cut := dropWhile_whole segment.whole
    cases rest with
    | nil =>
      rw [join, List.intercalate_singleton, cut]
      by_cases named : part.dropWhile (· == '~') = []
      · rw [untilded_tildes named, named]
        rfl
      · rw [untilded_name named, join, List.intercalate_singleton]
    | cons next more =>
      rw [join_cons, List.dropWhile_append, cut]
      -- The cut goes on behind the slash only when nothing is left of the first segment.
      by_cases named : part.dropWhile (· == '~') = []
      · rw [untilded_tildes named, named]
        exact ih others
      · rw [untilded_name named, join_cons, if_neg (by simpa using named)]

private theorem stripped_join (proper : ∀ part ∈ parts, IsSegment part) :
    stripped (join parts) = join (untilded parts) := by
  rw [stripped, dropWhile_join proper, dropEndWhile_join (untilded_proper proper)]

/-! ## Steps do not see the tildes in front -/

private theorem untilded_append (here rest : List Text) :
    untilded (untilded here ++ rest) = untilded (here ++ rest) := by
  induction here with
  | nil => rfl
  | cons part more ih =>
    by_cases named : part.dropWhile (· == '~') = []
    · rw [untilded_tildes named, ih, List.cons_append, untilded_tildes named]
    · rw [untilded_name named, List.cons_append, List.cons_append, untilded_named named,
        untilded_name named]

private theorem untilded_dropLast (here : List Text) :
    untilded (untilded here).dropLast = untilded here.dropLast := by
  induction here with
  | nil => rfl
  | cons part more ih =>
    by_cases named : part.dropWhile (· == '~') = []
    · rw [untilded_tildes named, ih]
      cases more with
      | nil => rfl
      | cons next others => rw [List.dropLast_cons_cons, untilded_tildes named]
    · rw [untilded_name named]
      cases more with
      | nil => rfl
      | cons next others =>
        rw [List.dropLast_cons_cons, List.dropLast_cons_cons, untilded_named named,
          untilded_name named]

private theorem untilded_untilded (here : List Text) :
    untilded (untilded here) = untilded here := by
  have alone := untilded_append here []
  rwa [List.append_nil, List.append_nil] at alone

private theorem untilded_step (here : List Text) (segment : Text) :
    untilded (step (untilded here) segment) = untilded (step here segment) := by
  unfold step
  split
  · exact untilded_untilded here
  · split
    · exact untilded_dropLast here
    · exact untilded_append here [segment]

private theorem untilded_foldl (parts here : List Text) :
    untilded (parts.foldl step (untilded here)) = untilded (parts.foldl step here) := by
  induction parts generalizing here with
  | nil => exact untilded_untilded here
  | cons part rest ih =>
    -- Both walks lose the same tildes in their first step, and the rest of neither sees them.
    rw [List.foldl_cons, List.foldl_cons, ← ih (step (untilded here) part), untilded_step, ih]

/-! ## Where tokens lead -/

private theorem denoted_relative (relative : Relative token) (path : Text) :
    denoted token (directory path) = join (walked (segments (directory path)) token) := by
  rcases relative with rfl | rfl | relative
  · exact (join_directory path).symm
  · rfl
  · have walks : isRelative token = true := isRelative_iff.mpr relative
    have apart : token ∉ [[], ".".toList, "..", "~", "/"] := by
      intro special
      have absolute : ∀ token ∈ [[], ".".toList, "..", "~", "/"], isRelative token = false := by
        decide
      rw [absolute token special] at walks
      cases walks
    simp only [List.mem_cons, List.not_mem_nil, or_false, not_or] at apart
    simp only [denoted, apart, walks, or_self, if_false, if_true, walk_walked]

private theorem resolve_relative (relative : Relative token) (path : Text) :
    resolve token path = join (untilded (walked (segments (directory path)) token)) := by
  have proper : ∀ part ∈ segments (directory path), IsSegment part := fun _ => mem_segments
  have same : resolve token path = stripped (denoted token (directory path)) := rfl
  rw [same, denoted_relative relative, stripped_join (walked_proper proper token)]

/-- The prompt shows the directory that has been reached. -/
theorem segments_prompt_resolve (token path : Text) :
    segments (directory (prompt (resolve token path))) = segments (resolve token path) := by
  have bare : (resolve token path).dropWhile (· == '~') = resolve token path := stripped_tilde _
  have kept : (resolve token path).dropStart "~" = resolve token path := by
    rcases Text.dropStart_cases (resolve token path) "~" with tilde | ⟨_, same⟩
    · rw [← tilde] at bare
      exact absurd rfl (List.dropWhile_eq_self_iff.mp bare (Nat.succ_pos _))
    · exact same
  rw [directory_prompt, segments_directory, kept]

/-- Whatever follows behind a slash, a relative token stays relative. -/
theorem Relative.slash (relative : Relative first) (later : Text) :
    Relative (first ++ '/' :: later) := by
  refine .inr (.inr ?_)
  rcases relative with rfl | rfl | relative
  · exact .inl ⟨later, rfl⟩
  · exact .inr ⟨later, rfl⟩
  · exact relative.imp (·.trans (List.prefix_append _ _)) (·.trans (List.prefix_append _ _))

/-- Two relative tokens one after the other lead where they lead joined by a slash. -/
theorem resolve_resolve (one : Relative first) (two : Relative later) (path : Text) :
    resolve later (prompt (resolve first path)) = resolve (first ++ '/' :: later) path := by
  have proper : ∀ part ∈ segments (directory path), IsSegment part := fun _ => mem_segments
  have shown : segments (directory (prompt (resolve first path))) =
      untilded (walked (segments (directory path)) first) := by
    rw [segments_prompt_resolve, resolve_relative one,
      segments_join (untilded_proper (walked_proper proper first))]
  calc resolve later (prompt (resolve first path))
      = join (untilded (walked (untilded (walked (segments (directory path)) first)) later)) := by
        rw [resolve_relative two, shown]
    _ = join (untilded (walked (walked (segments (directory path)) first) later)) :=
        congrArg join (untilded_foldl _ _)
    _ = resolve (first ++ '/' :: later) path := by
        rw [← walked_slash, resolve_relative (one.slash later)]

/-! ## Walking token by token -/

/-- Tokens that are joined are relative when the first of them is. -/
theorem Relative.join {token : Text} {rest : List Text} (relative : Relative token) :
    Relative (Path.join (token :: rest)) := by
  cases rest with
  | nil => simpa only [Path.join, List.intercalate_singleton] using relative
  | cons next more =>
    rw [join_cons]
    exact relative.slash _

/-- The directories that are reached by one token after the other. -/
def reached (path : Text) : List Text → List Text
  | [] => []
  | token :: rest => resolve token path :: reached (prompt (resolve token path)) rest

/-- Walking token by token ends where the tokens joined by slashes lead at once. -/
theorem reached_last {tokens : List Text} (given : tokens ≠ [])
    (relative : ∀ token ∈ tokens, Relative token) (path : Text) :
    (reached path tokens).getLast? = some (resolve (join tokens) path) := by
  induction tokens generalizing path with
  | nil => exact absurd rfl given
  | cons token rest ih =>
    obtain ⟨one, others⟩ := List.forall_mem_cons.mp relative
    cases rest with
    | nil => rw [reached, reached, join, List.intercalate_singleton, List.getLast?_singleton]
    | cons next more =>
      have two : Relative (join (next :: more)) := (others next (.head _)).join
      have later := ih (List.cons_ne_nil next more) others (prompt (resolve token path))
      rw [resolve_resolve one two] at later
      rw [join_cons, ← later]
      rfl

/-- Names of tildes, empty segments, and a step that leads above the root. -/
theorem reached_last_tildes :
    let tokens : List Text := ["./~", "./~a//b", "..", "../../../..", ".", "./~c/~/../"]
    (tokens ≠ [] ∧ ∀ token ∈ tokens, Relative token) ∧
      (reached "~~/x" tokens).getLast? = some (resolve (join tokens) "~~/x") ∧
      reached "~~/x" tokens = ["x/~".toList, "x/~/~a/b", "x/~/~a", [], [], "c"] :=
  ⟨by decide, reached_last (by decide) (by decide) _, by decide⟩

end

/-! ## Going up

A directory that has been reached neither begins with a tilde or a slash nor ends with a slash, so
its first segment is a name, and the prompt that shows the directory gives all of its segments back.
A step to the parent then takes the last segment and nothing else, and the way up ends at the root
after as many steps as there are segments.
-/

section

variable {dir : Text}

/-! ### The form of a reached directory -/

/-- No tilde or slash stands in front of the directory, and no slash behind it. -/
structure Trimmed (dir : Text) : Prop where
  start : ∀ c ∈ dir.head?, c ≠ '~' ∧ c ≠ '/'
  ending : ∀ c ∈ dir.getLast?, c ≠ '/'

private theorem stripped_trimmed (dir : Text) : Trimmed (stripped dir) := by
  constructor
  · have cut : (stripped dir).dropWhile (fun c => c == '~' || c == '/') = stripped dir :=
      Text.dropWhile_dropEndWhile (List.dropWhile_idempotent _ dir)
    cases rest : stripped dir with
    | nil => simp
    | cons c more =>
      rw [rest] at cut
      have first := List.dropWhile_eq_self_iff.mp cut (Nat.succ_pos _)
      simpa using first
  · intro c last
    obtain ⟨given, rfl⟩ := List.mem_getLast?_eq_getLast last
    have kept : ¬ ((stripped dir).getLast given == '/') = true :=
      List.rdropWhile_last_not _ _ given
    simpa using kept

private theorem resolve_trimmed (token path : Text) : Trimmed (resolve token path) :=
  stripped_trimmed (denoted token (directory path))

/-- The first segment of a directory is a name without a tilde in front. -/
theorem Trimmed.named (trimmed : Trimmed dir) (given : dir ≠ []) :
    ∃ name rest, segments dir = name :: rest ∧ name ≠ [] ∧ name.dropWhile (· == '~') = name := by
  obtain ⟨c, more, rfl⟩ := List.exists_cons_of_ne_nil given
  obtain ⟨tilde, slash⟩ := trimmed.start c rfl
  obtain ⟨run, rest, starts⟩ : ∃ run rest, segments (c :: more) = (c :: run) :: rest :=
    Text.pieces_start (by simpa using slash)
  exact ⟨c :: run, rest, starts, List.cons_ne_nil c run,
    List.dropWhile_cons_of_neg (by simpa using tilde)⟩

private theorem Trimmed.root_iff (trimmed : Trimmed dir) :
    dir = [] ↔ (segments dir).length = 0 := by
  constructor
  · rintro rfl
    rfl
  · intro none
    by_contra given
    obtain ⟨name, rest, named, _⟩ := trimmed.named given
    rw [List.length_eq_zero_iff.mp none] at named
    cases named

/-! ### One step -/

/-- The parent of a directory has no tilde in front either. -/
theorem Trimmed.untilded_parent (trimmed : Trimmed dir) :
    untilded (segments dir).dropLast = (segments dir).dropLast := by
  by_cases root : dir = []
  · rw [root]
    rfl
  · obtain ⟨name, rest, named, given, kept⟩ := trimmed.named root
    rw [named]
    cases rest with
    | nil => rfl
    | cons next more => rw [List.dropLast_cons_cons, untilded_name (by rwa [kept]), kept]

private theorem walked_up (here : List Text) : walked here ".." = here.dropLast := rfl

/-- A step to the parent takes the last segment of a directory. -/
theorem segments_up (token path : Text) :
    segments (resolve ".." (prompt (resolve token path))) =
      (segments (resolve token path)).dropLast := by
  have proper : ∀ part ∈ (segments (resolve token path)).dropLast, IsSegment part :=
    fun part member => mem_segments (List.dropLast_subset _ member)
  have up : Relative ".." := .inr (.inl rfl)
  rw [resolve_relative up, walked_up, segments_prompt_resolve,
    (resolve_trimmed token path).untilded_parent, segments_join proper]

/-! ### The way up -/

/-- The directory that is reached from where a token leads by a number of steps to the parent. -/
def ascent (token path : Text) : Nat → Text
  | 0 => resolve token path
  | steps + 1 => resolve ".." (prompt (ascent token path steps))

private theorem ascent_resolved (token path : Text) (steps : Nat) :
    ∃ last shown, ascent token path steps = resolve last shown := by
  cases steps with
  | zero => exact ⟨token, path, rfl⟩
  | succ steps => exact ⟨"..", prompt (ascent token path steps), rfl⟩

private theorem ascent_trimmed (token path : Text) (steps : Nat) :
    Trimmed (ascent token path steps) := by
  obtain ⟨last, shown, same⟩ := ascent_resolved token path steps
  rw [same]
  exact resolve_trimmed last shown

private theorem ascent_up (token path : Text) (steps : Nat) :
    segments (ascent token path (steps + 1)) = (segments (ascent token path steps)).dropLast := by
  obtain ⟨last, shown, same⟩ := ascent_resolved token path steps
  rw [ascent, same]
  exact segments_up last shown

private theorem ascent_length (token path : Text) (steps : Nat) :
    (segments (ascent token path steps)).length =
      (segments (resolve token path)).length - steps := by
  induction steps with
  | zero => rfl
  | succ steps ih => rw [ascent_up, List.length_dropLast, ih, Nat.sub_sub]

/-- Every directory on the way up is free of tildes and slashes around it, and has one segment less
than the one before. So the way up ends at the root, after as many steps as the directory where it
begins has segments and not earlier, and stays there. -/
theorem ascent_ends (token path : Text) :
    let dir := ascent token path
    (∀ steps, Trimmed (dir steps)) ∧
      (∀ steps, dir steps ≠ [] →
        (segments (dir steps)).length = (segments (dir (steps + 1))).length + 1) ∧
      ∀ steps, dir steps = [] ↔ (segments (resolve token path)).length ≤ steps := by
  intro dir
  have clean := ascent_trimmed token path
  refine ⟨clean, fun steps given => ?_, fun steps => ?_⟩
  · have some_segment : (segments (dir steps)).length ≠ 0 := mt (clean steps).root_iff.mpr given
    have fewer : (segments (dir (steps + 1))).length = (segments (dir steps)).length - 1 := by
      rw [ascent_up, List.length_dropLast]
    omega
  · rw [(clean steps).root_iff, ascent_length, Nat.sub_eq_zero_iff_le]

/-- Tildes inside, a doubled slash, and a last segment of tildes. -/
example : (List.range 5).map (ascent "~/a//b~/~/~~//" "~/x") =
    ["a//b~/~/~~".toList, "a/b~/~", "a/b~", "a", []] := by
  decide

end

end BlogTerminal.Path
