import BlogTerminal.Command.Builtin
import BlogTerminal.Proofs.Markup.Reading

/-!
Elements that are harmless to click, whatever text the output around them is made of: styled text,
links into the collection of posts, and buttons with one of a few fixed command lines. A forest is
confined when all its elements are harmless, and each building block of output is as confined as
what is inside it.
-/

namespace BlogTerminal

open Markup

/-- The URL of a post, or of a series or a tag that some post carries. -/
inductive SiteUrl (posts : List Post) : Text → Prop where
  | post {post : Post} (member : post ∈ posts) : SiteUrl posts post.url
  | series {post : Post} {name : Text} (member : post ∈ posts) (named : post.series = some name) :
      SiteUrl posts ("/series/" ++ slugOf name)
  | tag {post : Post} {name : Text} (member : post ∈ posts) (tagged : name ∈ post.tags) :
      SiteUrl posts ("/tags/" ++ slugOf name)

/-- The command lines that buttons carry. -/
def fixedLines : List Text :=
  "ls archives/" :: "ls posts/" :: "ls series/" :: "ls tags/" :: "cd search" ::
    "tree archives/" :: "tree posts/" :: "tree series/" :: "tree tags/" ::
      Theme.all.map fun theme => "theme " ++ theme.name

/-- An element that is styled text, a link into the collection, or a button with a fixed line. The
equals sign is kept out of the classes because a class that ends in one could be read as the name
of the attribute behind it. -/
inductive Harmless (posts : List Post) : Head → Prop where
  | bare (tag : Tag) : Harmless posts (tag, [])
  | styled (tag : Tag) {classes : Text} (plain : '=' ∉ classes) :
      Harmless posts (tag, [.style classes])
  | link {url : Text} (site : SiteUrl posts url) (more : List Attribute) :
      Harmless posts (.a, .href url :: more)
  | button {classes line : Text} (plain : '=' ∉ classes) (fixed : line ∈ fixedLines) :
      Harmless posts (.span, [.style classes, .command line])

/-- All elements of a node are harmless. -/
def Safe (posts : List Post) (node : Node) : Prop := ∀ head ∈ node.heads, Harmless posts head

/-- All elements of a forest are harmless. -/
def Confined (posts : List Post) (nodes : List Node) : Prop := ∀ node ∈ nodes, Safe posts node

variable {posts : List Post} {post : Post} {nodes more : List Node} {node : Node} {tag : Tag}
  {url classes line content : Text}

/-! ## Building blocks -/

@[simp] theorem confined_nil : Confined posts [] := fun _ member => absurd member List.not_mem_nil

@[simp] theorem confined_cons :
    Confined posts (node :: nodes) ↔ Safe posts node ∧ Confined posts nodes :=
  List.forall_mem_cons

@[simp] theorem confined_append :
    Confined posts (nodes ++ more) ↔ Confined posts nodes ∧ Confined posts more :=
  List.forall_mem_append

/-- Entries are confined when each of them is safe. -/
theorem confined_map {β : Type} {entry : β → Node} {items : List β} :
    Confined posts (items.map entry) ↔ ∀ item ∈ items, Safe posts (entry item) :=
  List.forall_mem_map

/-- A part that may be missing is confined when it is confined where it is there. -/
theorem confined_unless {missing : Prop} [Decidable missing] (confined : Confined posts nodes) :
    Confined posts (if missing then [] else nodes) := by
  split
  · exact confined_nil
  · exact confined

/-- A forest is confined when all of its opening tags are harmless. -/
theorem confined_heads : Confined posts nodes ↔ ∀ head ∈ heads nodes, Harmless posts head := by
  simp only [mem_heads, Confined, Safe]
  exact ⟨fun all head ⟨node, member, inside⟩ => all node member head inside,
    fun all node member head inside => all head ⟨node, member, inside⟩⟩

theorem confined_onNewLines : Confined posts (onNewLines nodes) ↔ Confined posts nodes := by
  rw [confined_heads, confined_heads, heads_onNewLines]

theorem confined_joinLines : Confined posts (joinLines nodes) ↔ Confined posts nodes := by
  rw [confined_heads, confined_heads, joinLines, heads_intersperse rfl]

theorem confined_joinSpaced : Confined posts (joinSpaced nodes) ↔ Confined posts nodes := by
  rw [confined_heads, confined_heads, joinSpaced, heads_intersperse rfl]

attribute [simp] confined_onNewLines confined_joinLines confined_joinSpaced

@[simp] theorem safe_text : Safe posts (.text content) := fun _ member =>
  absurd member List.not_mem_nil

@[simp] theorem safe_prose : Safe posts (.prose content) := fun _ member =>
  absurd member List.not_mem_nil

private theorem safe_element {attributes : List Attribute} :
    Safe posts (.element tag attributes nodes) ↔
    Harmless posts (tag, attributes) ∧ Confined posts nodes := by
  rw [confined_heads, Safe, Node.heads, List.forall_mem_cons]

@[simp] theorem safe_row : Safe posts (row nodes) ↔ Confined posts nodes :=
  safe_element.trans ⟨And.right, fun inside => ⟨.bare _, inside⟩⟩

/-- Style classes without an equals sign make no element of their own. -/
theorem safe_styled (plain : '=' ∉ classes) :
    Safe posts (styled tag classes nodes) ↔ Confined posts nodes :=
  safe_element.trans ⟨And.right, fun inside => ⟨.styled _ plain, inside⟩⟩

theorem safe_div (plain : '=' ∉ classes) :
    Safe posts (div classes nodes) ↔ Confined posts nodes :=
  safe_styled plain

/-- A span of text has nothing to click, whatever the text is. -/
theorem safe_span (plain : '=' ∉ classes) : Safe posts (span classes content) :=
  (safe_styled plain).mpr (by simp)

/-- A link to a page of the collection is as safe as its label. -/
theorem safe_link (site : SiteUrl posts url) :
    Safe posts (link url classes nodes) ↔ Confined posts nodes :=
  safe_element.trans ⟨And.right, fun inside => ⟨.link site _, inside⟩⟩

/-- A link to a page of the collection is safe whatever line it carries. -/
theorem safe_commandLink (site : SiteUrl posts url) :
    Safe posts (commandLink url classes line content) :=
  safe_element.mpr ⟨.link site _, by simp⟩

/-- A button that runs one of the fixed lines is safe. -/
theorem safe_button (plain : '=' ∉ classes) (fixed : line ∈ fixedLines) :
    Safe posts (button classes line content) :=
  safe_element.mpr ⟨.button plain fixed, by simp⟩

/-- A literal is searched in the form of a list, which is far quicker to check. -/
theorem unsigned {chars : List Char} (absent : '=' ∉ chars) :
    '=' ∉ (String.ofList chars).toList := by
  rwa [String.toList_ofList]

end BlogTerminal
