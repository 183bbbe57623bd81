import BlogTerminal.Path
import BlogTerminal.Proofs.Text.Pieces

/-!
Resolving a token. Whatever the token denotes is stripped of the tildes and slashes around it, which
takes no segment away from a directory of the blog, and slashes behind the token make no difference.
A token without slashes is taken from the root, and above a directory of one segment there is only
the root.
-/

namespace BlogTerminal.Path

/-! ## Segments

Segments that are joined are the segments of the joined path, and so a directory and its prompt path
denote the same place.
-/

section

variable {dir path segment name : Text}

/-- A text that can stand between two slashes. -/
structure IsSegment (text : Text) : Prop where
  given : text ≠ []
  whole : '/' ∉ text

/-- The segments of a path are not empty and hold no slash. -/
theorem mem_segments (member : segment ∈ segments path) : IsSegment segment := by
  obtain ⟨given, clean⟩ := Text.mem_pieces member
  exact ⟨given, fun slash => by simpa using (clean '/' slash).1⟩

/-- Segments that are joined are read back. -/
theorem segments_join {parts : List Text} (proper : ∀ part ∈ parts, IsSegment part) :
    segments (join parts) = parts := by
  refine Text.pieces_intercalate (c := '/') rfl fun part member => ?_
  obtain ⟨given, whole⟩ := proper part member
  refine ⟨given, fun c inside => ?_⟩
  have other : c ≠ '/' := fun same => whole (same ▸ inside)
  simpa using other

@[simp] theorem segments_slash : segments ('/' :: path) = segments path :=
  Text.pieces_cons rfl

/-- Around a slash the segments are those of both sides. -/
theorem segments_below (first rest : Text) :
    segments (first ++ '/' :: rest) = segments first ++ segments rest :=
  Text.pieces_separated rfl

/-- A segment has no segments but itself. -/
theorem segments_of_segment (segment : IsSegment name) : segments name = [name] := by
  refine Text.pieces_clean segment.given fun c member => ?_
  have other : c ≠ '/' := fun same => segment.whole (same ▸ member)
  simpa using other

/-- A path without slashes is one segment or none. -/
theorem segments_whole (whole : '/' ∉ name) :
    segments name = if name = [] then [] else [name] := by
  by_cases empty : name = []
  · rw [if_pos empty, empty]
    rfl
  · rw [if_neg empty]
    exact segments_of_segment ⟨empty, whole⟩

@[simp] theorem segments_directory :
    segments (directory path) = segments (path.dropStart "~") :=
  segments_join fun _ => mem_segments

/-- The prompt path of a directory denotes the same directory. -/
theorem directory_prompt (dir : Text) : directory (prompt dir) = directory dir := by
  unfold prompt
  extract_lets inside
  by_cases root : inside = []
  · simp only [root, List.isEmpty_nil, ↓reduceIte]
    exact root.symm
  · rw [if_neg (by simpa using root)]
    have below : directory ("~/" ++ inside) = join (segments ('/' :: inside)) := rfl
    rw [below, segments_slash, segments_directory]
    rfl

/-- The prompt path of a prompt path is itself. -/
theorem prompt_prompt (dir : Text) : prompt (prompt dir) = prompt dir := by
  rw [prompt, directory_prompt, ← prompt]

/-- The root has one prompt path. -/
theorem prompt_root (root : directory (prompt dir) = []) : prompt dir = "~".toList := by
  rw [directory_prompt] at root
  simp [prompt, root]

end

/-! ## Tokens -/

section

variable {dir token : Text}

/-! ### Tildes and slashes around a directory -/

/-- Dropping the tildes and slashes in front drops no segment, when the first one has no tilde. -/
private theorem segments_dropWhile
    (tilde : ∀ first ∈ (segments dir).head?, first.head? ≠ some '~') :
    segments (dir.dropWhile fun c => c == '~' || c == '/') = segments dir := by
  induction dir with
  | nil => rfl
  | cons c rest ih =>
    by_cases slash : c = '/'
    · subst slash
      rw [segments_slash] at tilde
      rw [List.dropWhile_cons_of_pos (by simp), segments_slash]
      exact ih tilde
    · obtain ⟨run, more, start⟩ : ∃ run more, segments (c :: rest) = (c :: run) :: more :=
        Text.pieces_start (by simpa using slash)
      have other : c ≠ '~' := by
        rintro rfl
        exact tilde ('~' :: run) (by simp [start]) rfl
      rw [List.dropWhile_cons_of_neg (by simp [slash, other])]

/-- What `resolve` leaves of a directory: the tildes and slashes in front and the slashes at the end
are dropped. -/
def stripped (dir : Text) : Text :=
  Text.dropEndWhile (· == '/') (dir.dropWhile fun c => c == '~' || c == '/')

/-- Behind stripping no tilde is left in front. -/
theorem stripped_tilde (dir : Text) : (stripped dir).dropWhile (· == '~') = stripped dir := by
  have start : (dir.dropWhile fun c => c == '~' || c == '/').dropWhile (· == '~') =
      dir.dropWhile fun c => c == '~' || c == '/' := by
    have kept := List.dropWhile_idempotent (fun c => c == '~' || c == '/') dir
    refine List.dropWhile_eq_self_iff.mpr fun given => ?_
    have first := List.dropWhile_eq_self_iff.mp kept given
    simp only [Bool.or_eq_true, not_or] at first
    exact first.1
  exact Text.dropWhile_dropEndWhile start

/-- What is stripped off holds no segment, when the first one behind the tildes has no tilde. -/
theorem segments_stripped
    (tilde : ∀ first ∈ (segments (dir.dropWhile (· == '~'))).head?, first.head? ≠ some '~') :
    segments (stripped dir) = segments (dir.dropWhile (· == '~')) := by
  have cut : (dir.dropWhile (· == '~')).dropWhile (fun c => c == '~' || c == '/') =
      dir.dropWhile fun c => c == '~' || c == '/' :=
    Text.dropWhile_dropWhile (fun c tilde => by simp [tilde]) dir
  have same := segments_dropWhile tilde
  rw [cut] at same
  rw [segments, stripped, Text.pieces_dropEndWhile, ← segments]
  exact same

/-- In a text without slashes only the tildes in front are dropped. -/
theorem dropWhile_whole (whole : '/' ∉ dir) :
    (dir.dropWhile fun c => c == '~' || c == '/') = dir.dropWhile (· == '~') := by
  induction dir with
  | nil => rfl
  | cons c rest ih =>
    simp only [List.mem_cons, not_or] at whole
    have solid : (c == '/') = false := by simpa using Ne.symm whole.1
    simp only [List.dropWhile_cons, solid, Bool.or_false]
    rw [ih whole.2]

private theorem stripped_whole (whole : '/' ∉ dir) : stripped dir = dir.dropWhile (· == '~') := by
  rw [stripped, dropWhile_whole whole]
  refine Text.dropEndWhile_clean fun c member => ?_
  have inside : c ∈ dir := List.dropWhile_subset _ member
  have other : c ≠ '/' := fun same => whole (same ▸ inside)
  simpa using other

/-- A token is relative when it begins with a dot segment and a slash. -/
theorem isRelative_iff :
    isRelative token = true ↔ "./".toList <+: token ∨ "../".toList <+: token := by
  rw [isRelative, Bool.or_eq_true, decide_eq_true_eq, decide_eq_true_eq]

private theorem relative_slash (relative : isRelative token = true) : '/' ∈ token := by
  rcases isRelative_iff.mp relative with start | start
  · exact start.subset (by decide)
  · exact start.subset (by decide)

/-- A token that is not relative and none of the special ones is taken from the root. -/
theorem resolve_typed (ordinary : token ∉ [[], ".".toList, "..", "~", "/"])
    (absolute : ¬ isRelative token = true) (current : Text) :
    resolve token current = stripped token := by
  simp only [List.mem_cons, List.not_mem_nil, or_false, not_or] at ordinary
  have denotes : denoted token (directory current) = token := by
    simp only [denoted, ordinary, absolute, or_self, if_false]
    rfl
  exact congrArg stripped denotes

/-- A token without slashes is taken from the root, unless it is empty or a dot segment. -/
theorem resolve_bare (whole : '/' ∉ token) (given : token ≠ []) (here : token ≠ ".")
    (up : token ≠ "..") (current : Text) : resolve token current = token.dropWhile (· == '~') := by
  by_cases tilde : token = "~"
  · subst tilde
    rfl
  · have slash : token ≠ "/" := by
      rintro rfl
      exact whole (by decide)
    have absolute : ¬ isRelative token = true := fun relative => whole (relative_slash relative)
    have ordinary : token ∉ [[], ".".toList, "..", "~", "/"] := by
      simp only [List.mem_cons, List.not_mem_nil, or_false, not_or]
      exact ⟨given, here, up, tilde, slash⟩
    rw [resolve_typed ordinary absolute, stripped_whole whole]

/-! ### The parent -/

/-- Behind tildes that run into one segment, all segments but the last are tildes. -/
private theorem parent_tildes {first : Text}
    (one : segments (dir.dropWhile (· == '~')) = [first]) :
    ∀ part ∈ (segments dir).dropLast, ∀ c ∈ part, c = '~' := by
  induction dir with
  | nil => exact fun part member => absurd member List.not_mem_nil
  | cons c rest ih =>
    by_cases tilde : c = '~'
    · subst tilde
      rw [List.dropWhile_cons_of_pos (by simp)] at one
      have below := ih one
      cases rest with
      | nil => exact fun part member => absurd member List.not_mem_nil
      | cons d more =>
        by_cases slash : d = '/'
        · subst slash
          have split : segments ('~' :: '/' :: more) = ['~'] :: segments more :=
            segments_below ['~'] more
          rw [segments_slash] at below
          intro part member
          rw [split] at member
          cases inside : segments more with
          | nil => simp [inside] at member
          | cons next others =>
            rw [inside] at member below
            rcases List.mem_cons.mp member with rfl | later
            · simp
            · exact below part later
        · obtain ⟨run, others, here, joined⟩ : ∃ run others,
              segments (d :: more) = (d :: run) :: others ∧
                segments ('~' :: d :: more) = ('~' :: d :: run) :: others :=
            Text.pieces_joined rfl (by simpa using slash)
          intro part member
          rw [joined] at member
          rw [here] at below
          cases others with
          | nil => exact absurd member List.not_mem_nil
          | cons next others =>
            rcases List.mem_cons.mp member with rfl | later
            · intro c inside
              rcases List.mem_cons.mp inside with same | behind
              · exact same
              · exact below _ (.head _) c behind
            · exact below part (.tail _ later)
    · rw [List.dropWhile_cons_of_neg (by simpa using tilde)] at one
      rw [one]
      exact fun part member => absurd member List.not_mem_nil

/-- Above a directory of one segment is the root. -/
theorem resolve_parent {first path : Text}
    (one : segments ((directory path).dropWhile (· == '~')) = [first]) :
    resolve ".." path = [] := by
  have blank : ∀ c ∈ parent (directory path), (c == '~' || c == '/') = true := by
    intro c member
    rcases Text.mem_intercalate member with rfl | ⟨part, listed, inside⟩
    · rfl
    · simp [parent_tildes one part listed c inside]
  have same : resolve ".." path = stripped (parent (directory path)) := rfl
  rw [same, stripped, List.dropWhile_eq_nil_iff.mpr blank]
  rfl

/-! ### Slashes behind a token -/

private theorem stripped_slash (dir : Text) : stripped (dir ++ ['/']) = stripped dir := by
  rw [stripped, List.dropWhile_append]
  by_cases empty : (dir.dropWhile fun c => c == '~' || c == '/').isEmpty
  · rw [if_pos empty, stripped, List.isEmpty_iff.mp empty]
    rfl
  · rw [if_neg empty]
    exact List.rdropWhile_concat_pos _ _ _ rfl

private theorem walk_slash (start relative : Text) :
    walk start (relative ++ ['/']) = walk start relative := by
  have split : (relative ++ ['/']).splitOn '/' = relative.splitOn '/' ++ [[]] :=
    List.splitOnP_append_cons relative [] rfl
  rw [walk, split, List.foldl_append]
  rfl

/-- A directory is its segments with slashes between them. -/
theorem join_directory (path : Text) : join (segments (directory path)) = directory path := by
  rw [segments_directory]
  rfl

/-- A slash behind a token makes it relative only when it is a dot segment. -/
private theorem isRelative_slash (here : token ≠ ".") (up : token ≠ "..") :
    isRelative (token ++ ['/']) = isRelative token := by
  have behind (dots : Text) (other : token ≠ dots) :
      dots ++ ['/'] <+: token ++ ['/'] ↔ dots ++ ['/'] <+: token := by
    rw [List.prefix_concat_iff]
    exact or_iff_right fun same => other (List.append_left_injective ['/'] same).symm
  exact congrArg₂ or (decide_eq_decide.mpr (behind "." here))
    (decide_eq_decide.mpr (behind ".." up))

/-- One more slash behind a token changes nothing, since the walk passes over empty segments. -/
theorem resolve_slash (given : token ≠ []) (current : Text) :
    resolve (token ++ ['/']) current = resolve token current := by
  have unfolded (token : Text) :
      resolve token current = stripped (denoted token (directory current)) := rfl
  by_cases here : token = "."
  · subst here
    have walked : denoted "./" (directory current) = join (segments (directory current)) := rfl
    rw [join_directory] at walked
    exact congrArg stripped walked
  by_cases up : token = ".."
  · subst up
    rfl
  by_cases home : token = "~" ∨ token = "/"
  · rcases home with rfl | rfl <;> rfl
  have slashed : token ++ ['/'] ∉ [[], ".".toList, "..", "~"] := by
    intro special
    have apart : ∀ token ∈ [[], ".".toList, "..", "~"], token.getLast? ≠ some '/' := by decide
    exact apart _ special List.getLast?_concat
  have below : token ++ ['/'] ≠ "/" := fun same => given (List.append_left_injective ['/'] same)
  simp only [List.mem_cons, List.not_mem_nil, or_false, not_or] at slashed home
  rw [unfolded, unfolded]
  simp only [denoted, given, here, up, home, slashed, below, or_self, if_false,
    isRelative_slash here up]
  by_cases relative : isRelative token = true
  · rw [if_pos relative, if_pos relative, walk_slash]
  · rw [if_neg relative, if_neg relative, stripped_slash]

/-- The slashes behind a token change nothing, unless there is nothing before them. -/
theorem resolve_cut {typed : Text} (given : typed.dropEndWhile (· == '/') ≠ []) (current : Text) :
    resolve (typed.dropEndWhile (· == '/')) current = resolve typed current := by
  induction typed using List.reverseRecOn with
  | nil => rfl
  | append_singleton before last ih =>
    have cut : Text.dropEndWhile (· == '/') (before ++ [last]) =
        if (last == '/') = true then Text.dropEndWhile (· == '/') before else before ++ [last] :=
      List.rdropWhile_concat _ before last
    by_cases slash : (last == '/') = true
    · rw [if_pos slash] at cut
      rw [cut] at given ⊢
      rw [beq_iff_eq] at slash
      subst slash
      have inside : before ≠ [] := by
        rintro rfl
        exact given rfl
      rw [ih given, resolve_slash inside]
    · rw [cut, if_neg slash]

end

end BlogTerminal.Path
