import BlogTerminal.Command.TreeView
import Mathlib.Data.List.Forall2

/-!
What stands in front of the labels of an outline. A node is found by its path, the places among
siblings that lead down to it, and the paths of a forest in ascending order are its nodes in
document order. What leads to a label says of the node and of each node above it whether it is the
last of its siblings, so a forest is told by its lines.
-/

namespace BlogTerminal.Outline

/-! ## Labels

The lines of an outline carry its labels and no others: written out, a forest has one line for each
node, in document order.
-/

section

variable {α : Type}

mutual

/-- The labels of a tree, each node before its children. -/
def labels : Outline α → List α
  | .node label children => label :: forestLabels children

/-- The labels of a forest in document order. -/
def forestLabels : List (Outline α) → List α
  | [] => []
  | tree :: rest => labels tree ++ forestLabels rest

end

/-- A property of forests that passes from the children of the first root and from the trees behind
it to the whole forest holds for every forest. -/
@[elab_as_elim]
theorem forest_induction {motive : List (Outline α) → Prop} (nil : motive [])
    (cons : ∀ label children rest, motive children → motive rest →
      motive (.node label children :: rest)) : ∀ forest, motive forest
  | [] => nil
  | .node label children :: rest =>
    cons label children rest (forest_induction nil cons children)
      (forest_induction nil cons rest)

private theorem forestLines_cons (indent : Text) (label : α) (children rest : List (Outline α)) :
    forestLines indent (.node label children :: rest) =
      (indent ++ connector rest.isEmpty, label) ::
        (forestLines (indent ++ bar rest.isEmpty) children ++ forestLines indent rest) := by
  rw [forestLines, lines, List.cons_append]

/-- The lines of a forest carry its labels in document order, whatever stands in front of them. -/
theorem forestLines_labels (indent : Text) (trees : List (Outline α)) :
    (forestLines indent trees).map (·.2) = forestLabels trees := by
  induction trees using forest_induction generalizing indent with
  | nil => rfl
  | cons label children rest inner outer =>
    rw [forestLines_cons, List.map_cons, List.map_append, inner, outer, forestLabels, labels,
      List.cons_append]

/-- The labels of trees made from items are those of each tree. -/
theorem forestLabels_map {β : Type} (entry : β → Outline α) (items : List β) :
    forestLabels (items.map entry) = items.flatMap fun item => labels (entry item) := by
  induction items with
  | nil => rfl
  | cons item rest ih => rw [List.map_cons, forestLabels, ih, List.flatMap_cons]

/-- A tree without children has one label. -/
theorem labels_leaf (label : α) : labels (leaf label) = [label] := rfl

end

/-! ## Connectors -/

section

variable {α : Type}

/-! ### Nodes and their paths -/

/-- The label of the root. -/
def label : Outline α → α
  | .node label _ => label

/-- The trees below the root. -/
def children : Outline α → List (Outline α)
  | .node _ children => children

/-- The trees below the node at a path. Below the empty path stands the whole forest. -/
def treesBelow : (forest : List (Outline α)) → (path : List Nat) → List (Outline α)
  | forest, [] => forest
  | forest, place :: path => treesBelow (forest[place]?.elim [] children) path

/-- The node at a path and its siblings. -/
def siblings (forest : List (Outline α)) (path : List Nat) : List (Outline α) :=
  treesBelow forest path.dropLast

/-- The node at a path. -/
def node? (forest : List (Outline α)) (path : List Nat) : Option (Outline α) :=
  path.getLast?.bind fun place => (siblings forest path)[place]?

/-- The node at a path is the last of its siblings. -/
def isLast (forest : List (Outline α)) (path : List Nat) : Bool :=
  path.getLast?.any fun place => place + 1 == (siblings forest path).length

/-- What leads to the label of the node at a path: from the top down, for each node above it, four
blanks if that node is the last of its siblings and a pipe otherwise, and then the corner if the
node itself is the last of its siblings and the branch otherwise. The node above it at `depth` is
found at the first `depth + 1` places. -/
def leader (forest : List (Outline α)) (path : List Nat) : Text :=
  ((List.range (path.length - 1)).flatMap fun depth =>
    if isLast forest (path.take (depth + 1)) then "    ".toList else "│   ".toList) ++
    if isLast forest path then "└── ".toList else "├── ".toList

/-- The path of the same node when one more tree stands in front of the forest. -/
def later : List Nat → List Nat
  | [] => []
  | place :: path => (place + 1) :: path

mutual

/-- The paths of the nodes of a tree from its root on, in document order. -/
def paths : Outline α → List (List Nat)
  | .node _ children => [] :: forestPaths children

/-- The paths of the nodes of a forest in document order. -/
def forestPaths : List (Outline α) → List (List Nat)
  | [] => []
  | tree :: rest => (paths tree).map (0 :: ·) ++ (forestPaths rest).map later

end

/-- The line belongs to the node at the path, in a forest that is written behind `indent`. -/
structure LineOf (indent : Text) (forest : List (Outline α)) (path : List Nat)
    (line : Text × α) : Prop where
  leads : line.1 = indent ++ leader forest path
  labels : (node? forest path).map label = some line.2

variable {indent : Text} {forest rest : List (Outline α)} {tree : Outline α} {place : Nat}
  {path : List Nat} {line : Text × α}

/-! ### One step down, one tree further -/

private theorem node_nil : node? forest [] = none := rfl

private theorem node_child : node? (tree :: rest) (0 :: place :: path) =
    node? tree.children (place :: path) := by
  rw [node?, List.getLast?_cons_cons]
  rfl

private theorem node_later :
    node? (tree :: rest) ((place + 1) :: path) = node? rest (place :: path) := by
  cases path with
  | nil => exact List.getElem?_cons_succ
  | cons next more => rfl

private theorem isLast_first : isLast (tree :: rest) [0] = rest.isEmpty := by
  cases rest <;> simp [isLast, siblings, treesBelow]

private theorem isLast_child : isLast (tree :: rest) (0 :: place :: path) =
    isLast tree.children (place :: path) := by
  rw [isLast, List.getLast?_cons_cons]
  rfl

private theorem isLast_later : isLast (tree :: rest) ((place + 1) :: path) =
    isLast rest (place :: path) := by
  cases path with
  | nil => simp [isLast, siblings, treesBelow]
  | cons next more => rfl

private theorem connector_spelt (last : Bool) :
    connector last = if last then "└── ".toList else "├── ".toList := rfl

private theorem bar_spelt (last : Bool) :
    bar last = if last then "    ".toList else "│   ".toList := rfl

private theorem leader_first : leader (tree :: rest) [0] = connector rest.isEmpty := by
  rw [leader, isLast_first, connector_spelt]
  rfl

private theorem leader_child : leader (tree :: rest) (0 :: place :: path) =
    bar rest.isEmpty ++ leader tree.children (place :: path) := by
  have above (depth : Nat) : isLast (tree :: rest) ((0 :: place :: path).take (depth + 1 + 1)) =
      isLast tree.children ((place :: path).take (depth + 1)) := isLast_child
  have top : isLast (tree :: rest) ((0 :: place :: path).take (0 + 1)) = rest.isEmpty :=
    isLast_first
  have levels : (0 :: place :: path).length - 1 = (place :: path).length - 1 + 1 := rfl
  rw [leader, levels, List.range_succ_eq_map, List.flatMap_cons, List.flatMap_map, top,
    isLast_child, bar_spelt, List.append_assoc]
  simp only [Nat.succ_eq_add_one, above]
  rfl

private theorem leader_later : leader (tree :: rest) ((place + 1) :: path) =
    leader rest (place :: path) := by
  have above (depth : Nat) : isLast (tree :: rest) (((place + 1) :: path).take (depth + 1)) =
      isLast rest ((place :: path).take (depth + 1)) := isLast_later
  simp only [leader, above, isLast_later, List.length_cons]

/-- The line of a node below the first tree, where the bar of that tree belongs to the indent. -/
theorem LineOf.child {label : α} {children : List (Outline α)}
    (written : LineOf (indent ++ bar rest.isEmpty) children path line) :
    LineOf indent (.node label children :: rest) (0 :: path) line := by
  obtain ⟨leads, labels⟩ := written
  cases path with
  | nil => cases labels
  | cons place more =>
    refine ⟨?_, ?_⟩
    · rw [leads, leader_child, List.append_assoc]
      rfl
    · rw [node_child]
      exact labels

/-- The line of a node in the later trees. -/
theorem LineOf.later (written : LineOf indent rest path line) :
    LineOf indent (tree :: rest) (later path) line := by
  obtain ⟨leads, labels⟩ := written
  cases path with
  | nil => cases labels
  | cons place more =>
    refine ⟨?_, ?_⟩
    · rw [leads, Outline.later, leader_later]
    · rw [Outline.later, node_later, labels]

/-! ### The nodes in document order -/

private theorem forestPaths_cons (label : α) (children rest : List (Outline α)) :
    forestPaths (.node label children :: rest) =
      [0] :: ((forestPaths children).map (0 :: ·) ++ (forestPaths rest).map later) := by
  rw [forestPaths, paths, List.map_cons, List.cons_append]

private theorem treesBelow_nil (path : List Nat) :
    treesBelow ([] : List (Outline α)) path = [] := by
  induction path with
  | nil => rfl
  | cons place path ih => exact ih

private theorem node_of_nil (path : List Nat) : node? ([] : List (Outline α)) path = none := by
  rw [node?, siblings, treesBelow_nil]
  cases path.getLast? <;> rfl

@[simp] theorem later_eq_nil : later path = [] ↔ path = [] := by
  cases path <;> simp [later]

@[simp] theorem later_eq_succ {more : List Nat} :
    later path = (place + 1) :: more ↔ path = place :: more := by
  cases path <;> simp [later]

@[simp] theorem later_ne_zero {more : List Nat} : later path ≠ 0 :: more := by
  cases path <;> simp [later]

/-- The paths are those at which a node stands. -/
theorem mem_forestPaths : path ∈ forestPaths forest ↔ (node? forest path).isSome = true := by
  induction forest using forest_induction generalizing path with
  | nil => simp [forestPaths, node_of_nil]
  | cons label children rest inner outer =>
    rw [forestPaths_cons]
    match path with
    | [] => simp [outer, node_nil]
    | [0] => simp [node?, siblings, treesBelow]
    | 0 :: place :: more =>
      rw [node_child]
      simp [inner, Outline.children]
    | (place + 1) :: more =>
      rw [node_later]
      simp [outer]

private theorem forestPaths_given (member : path ∈ forestPaths forest) : path ≠ [] := by
  rintro rfl
  exact absurd (mem_forestPaths.mp member) (by simp [node_nil])

private theorem lt_later (given : path ≠ []) (more : List Nat) : 0 :: more < later path := by
  obtain ⟨place, rest, rfl⟩ := List.exists_cons_of_ne_nil given
  exact List.cons_lt_cons_iff.mpr (.inl (Nat.succ_pos place))

private theorem later_lt_later {other : List Nat} (before : path < other) :
    later path < later other := by
  cases before with
  | nil => exact List.nil_lt_cons _ _
  | rel less => exact List.Lex.rel (Nat.succ_lt_succ less)
  | cons less => exact List.Lex.cons less

/-- The paths ascend, so that each node stands before the nodes below it and those before its later
siblings. -/
theorem forestPaths_sorted (forest : List (Outline α)) :
    (forestPaths forest).Pairwise (· < ·) := by
  induction forest using forest_induction with
  | nil => exact .nil
  | cons label children rest inner outer =>
    have ahead : ∀ path ∈ (forestPaths rest).map later, ∀ more : List Nat, 0 :: more < path := by
      rintro _ member more
      obtain ⟨path, listed, rfl⟩ := List.mem_map.mp member
      exact lt_later (forestPaths_given listed) more
    have down : ∀ path ∈ (forestPaths children).map (0 :: ·), [0] < path := by
      rintro _ member
      obtain ⟨path, listed, rfl⟩ := List.mem_map.mp member
      obtain ⟨place, more, rfl⟩ := List.exists_cons_of_ne_nil (forestPaths_given listed)
      exact List.Lex.cons .nil
    rw [forestPaths_cons, List.pairwise_cons, List.pairwise_append]
    refine ⟨?_, ?_, ?_, ?_⟩
    · intro path member
      rcases List.mem_append.mp member with below | behind
      · exact down path below
      · exact ahead path behind []
    · exact inner.map _ fun _ _ before => List.Lex.cons before
    · exact outer.map _ fun _ _ before => later_lt_later before
    · intro _ below path behind
      obtain ⟨more, _, rfl⟩ := List.mem_map.mp below
      exact ahead path behind more

/-- Written out, a forest has the line of each node in its place. -/
theorem forestLines_written (indent : Text) (forest : List (Outline α)) :
    List.Forall₂ (LineOf indent forest) (forestPaths forest) (forestLines indent forest) := by
  induction forest using forest_induction generalizing indent with
  | nil => exact .nil
  | cons label children rest inner outer =>
    have first : LineOf indent (.node label children :: rest) [0]
        (indent ++ connector rest.isEmpty, label) := ⟨by rw [leader_first], rfl⟩
    have down : List.Forall₂ (LineOf indent (.node label children :: rest))
        ((forestPaths children).map (0 :: ·))
        (forestLines (indent ++ bar rest.isEmpty) children) :=
      List.forall₂_map_left_iff.mpr ((inner _).imp fun _ _ => LineOf.child)
    have further : List.Forall₂ (LineOf indent (.node label children :: rest))
        ((forestPaths rest).map later) (forestLines indent rest) :=
      List.forall₂_map_left_iff.mpr ((outer indent).imp fun _ _ => LineOf.later)
    rw [forestPaths_cons, forestLines_cons]
    exact .cons first (List.rel_append down further)

/-! ### Telling a forest by its lines -/

private theorem connector_injective : Function.Injective connector := by
  unfold Function.Injective
  decide

@[simp] theorem length_connector (last : Bool) : (connector last).length = 4 := by
  cases last <;> rfl

@[simp] theorem length_bar (last : Bool) : (bar last).length = 4 := by
  cases last <;> rfl

/-- What leads to a label is longer than the indent by one connector at least. -/
theorem forestLines_deep (indent : Text) (forest : List (Outline α)) :
    ∀ line ∈ forestLines indent forest, indent.length + 4 ≤ line.1.length := by
  induction forest using forest_induction generalizing indent with
  | nil => exact fun _ member => absurd member List.not_mem_nil
  | cons label children rest inner outer =>
    intro line member
    rw [forestLines_cons] at member
    rcases List.mem_cons.mp member with rfl | member
    · simp
    · rcases List.mem_append.mp member with below | behind
      · have deeper := inner _ line below
        rw [List.length_append, length_bar] at deeper
        omega
      · exact outer indent line behind

/-- The lines below the first root are those that are longer than its own in front of the next line
that is not. -/
theorem forestLines_below (indent : Text) (last : Bool) (children rest : List (Outline α)) :
    (forestLines (indent ++ bar last) children ++ forestLines indent rest).takeWhile
        (fun line => indent.length + 4 < line.1.length) =
      forestLines (indent ++ bar last) children := by
  have inside : ∀ line ∈ forestLines (indent ++ bar last) children,
      decide (indent.length + 4 < line.1.length) = true := by
    intro line member
    have deeper := forestLines_deep _ children line member
    rw [List.length_append, length_bar] at deeper
    exact decide_eq_true (by omega)
  have outside : (forestLines indent rest).takeWhile
      (fun line => indent.length + 4 < line.1.length) = [] := by
    match rest with
    | [] => rfl
    | .node label more :: others =>
      rw [forestLines_cons]
      exact List.takeWhile_cons_of_neg (by simp)
  rw [List.takeWhile_append_of_pos inside, outside, List.append_nil]

/-- Forests that are written alike are the same. -/
theorem forestLines_injective (indent : Text) :
    Function.Injective (forestLines indent : List (Outline α) → List (Text × α)) := by
  intro forest
  induction forest using forest_induction generalizing indent with
  | nil =>
    intro other same
    match other with
    | [] => rfl
    | .node _ below :: behind =>
      rw [forestLines_cons] at same
      cases same
  | cons label children rest inner outer =>
    intro other same
    match other with
    | [] =>
      rw [forestLines_cons] at same
      cases same
    | .node _ below :: behind =>
      rw [forestLines_cons, forestLines_cons] at same
      obtain ⟨first, others⟩ := List.cons.inj same
      obtain ⟨leads, rfl⟩ := Prod.mk.inj first
      have last : rest.isEmpty = behind.isEmpty :=
        connector_injective (List.append_cancel_left leads)
      rw [last] at others
      have nested := congrArg
        (List.takeWhile fun line => indent.length + 4 < line.1.length) others
      rw [forestLines_below, forestLines_below] at nested
      rw [nested] at others
      rw [inner _ nested, outer _ (List.append_cancel_left others)]

/-- A forest is written with one line for each node, in document order. What leads to a label is one
group for each node above, blank when that node is the last of its siblings and a pipe otherwise,
and a connector, the corner when the node itself is the last of its siblings and the branch
otherwise. No other forest has these lines. -/
theorem forest_written (indent : Text) (forest : List (Outline α)) :
    ((forestPaths forest).Pairwise (· < ·) ∧
      ∀ path, path ∈ forestPaths forest ↔ (node? forest path).isSome = true) ∧
      List.Forall₂ (LineOf indent forest) (forestPaths forest) (forestLines indent forest) ∧
      ∀ other, forestLines indent other = forestLines indent forest ↔ other = forest := by
  refine ⟨⟨forestPaths_sorted forest, fun _ => mem_forestPaths⟩,
    forestLines_written indent forest, fun other => ?_⟩
  exact (forestLines_injective indent).eq_iff

example : forestLines [] [.node 'a' [.node 'b' [leaf 'c'], leaf 'd'], .node 'e' [leaf 'f']] =
    [("├── ".toList, 'a'), ("│   ├── ".toList, 'b'), ("│   │   └── ".toList, 'c'),
      ("│   └── ".toList, 'd'), ("└── ".toList, 'e'), ("    └── ".toList, 'f')] := by
  decide

end

end BlogTerminal.Outline
