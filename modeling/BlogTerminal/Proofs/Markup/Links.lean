import BlogTerminal.Proofs.Markup.Reading

/-!
The links and the clickable elements of written markup. Both are read from the text, and those of a
rendered forest are those of its parts one after the other: each link leads to its URL, and no
other element is taken for a link. An element that can be clicked carries its command line, unless
its own URL ends so that the value behind it is taken for the line.
-/

namespace BlogTerminal.Markup

/-- The URL that an opening tag leads to, which is the value of `href` when it begins an `a`. -/
def linkUrl? (tag : Text × Text) : Option Text :=
  if tag.1 = "a" then (valueOf? "href" tag.2).map unescape else none

/-- The URLs of the links of written markup, in order. -/
def links (written : Text) : List Text := (openingTags written).filterMap linkUrl?

/-- What is found in the elements of a node, in document order. -/
def Node.gather {β : Type} (find : Head → Option β) (node : Node) : List β :=
  node.heads.filterMap find

/-- What is found in the elements of a forest, in document order. -/
def gather {β : Type} (find : Head → Option β) (nodes : List Node) : List β :=
  nodes.flatMap (Node.gather find)

/-- The URL that an element leads to, as a scan finds it. -/
def Head.url? (head : Head) : Option Text := linkUrl? head.found

/-- The clickable element that is read from an element. -/
def Head.click? (head : Head) : Option Clickable := clickable? head.found

/-- The URLs of the links of a node in document order. -/
def Node.urls (node : Node) : List Text := node.heads.filterMap Head.url?

/-- The URLs of the links of a forest in document order. -/
def urls (nodes : List Node) : List Text := nodes.flatMap Node.urls

variable {β : Type} {find : Head → Option β} {nodes more : List Node} {node : Node} {tag : Tag}
  {attributes : List Attribute} {url classes line content : Text}

/-! ## Gathering from a forest -/

private theorem gather_heads (find : Head → Option β) (nodes : List Node) :
    gather find nodes = (heads nodes).filterMap find := by
  induction nodes with
  | nil => rfl
  | cons node rest ih =>
    rw [gather, List.flatMap_cons, ← gather, ih, heads, List.filterMap_append, Node.gather]

@[simp] theorem gather_nil : gather find [] = [] := rfl

@[simp] theorem gather_cons : gather find (node :: nodes) = node.gather find ++ gather find nodes :=
  rfl

@[simp] theorem gather_append :
    gather find (nodes ++ more) = gather find nodes ++ gather find more :=
  List.flatMap_append

/-- What is gathered from entries is gathered entry by entry. -/
@[simp] theorem gather_map {ι : Type} (entry : ι → Node) (items : List ι) :
    gather find (items.map entry) = items.flatMap fun item => (entry item).gather find :=
  List.flatMap_map ..

/-- What is gathered from groups of entries is gathered group by group. -/
theorem gather_flatMap {ι : Type} (entries : ι → List Node) (items : List ι) :
    gather find (items.flatMap entries) = items.flatMap fun item => gather find (entries item) :=
  List.flatMap_assoc

/-- Entries in each of which one thing is found. -/
theorem gather_entries {ι : Type} {entry : ι → Node} {holds : ι → β}
    (each : ∀ item, (entry item).gather find = [holds item]) (items : List ι) :
    gather find (items.map entry) = items.map holds := by
  rw [gather_map, List.map_eq_flatMap]
  exact congrArg (List.flatMap · items) (funext each)

@[simp] theorem gather_onNewLines : gather find (onNewLines nodes) = gather find nodes := by
  rw [gather_heads, heads_onNewLines, ← gather_heads]

@[simp] theorem gather_joinLines : gather find (joinLines nodes) = gather find nodes := by
  rw [gather_heads, joinLines, heads_intersperse rfl, ← gather_heads]

@[simp] theorem gather_joinSpaced : gather find (joinSpaced nodes) = gather find nodes := by
  rw [gather_heads, joinSpaced, heads_intersperse rfl, ← gather_heads]

@[simp] theorem text_gather : (Node.text content).gather find = [] := rfl

@[simp] theorem prose_gather : (Node.prose content).gather find = [] := rfl

@[simp] theorem newline_gather : newline.gather find = [] := rfl

private theorem element_gather_none (missing : find (tag, attributes) = none) :
    (Node.element tag attributes nodes).gather find = gather find nodes := by
  rw [Node.gather, Node.heads, List.filterMap_cons_none missing, gather_heads]

private theorem element_gather_some {item : β} (found : find (tag, attributes) = some item) :
    (Node.element tag attributes nodes).gather find = item :: gather find nodes := by
  rw [Node.gather, Node.heads, List.filterMap_cons_some found, gather_heads]

/-! ## Links -/

private theorem url_anchor (url : Text) (attributes : List Attribute) :
    Head.url? (.a, .href url :: attributes) = some url := by
  have isLink : (Head.found (.a, .href url :: attributes)).1 = "a" := rfl
  have found : valueOf? "href" (Head.found (.a, .href url :: attributes)).2 = some (escape url) :=
    attribute_found (.href url) false _
  rw [Head.url?, linkUrl?, if_pos isLink, found, Option.map_some, unescape_escape_text]

private theorem url_other (other : tag ≠ .a) (attributes : List Attribute) :
    Head.url? (tag, attributes) = none := by
  have noLink : (Head.found (tag, attributes)).1 ≠ "a" := by
    cases tag with
    | a => exact absurd rfl other
    | div | span | p | pre => exact fun same => by cases same
  rw [Head.url?, linkUrl?, if_neg noLink]

/-- The links that are read from rendered markup are those of the forest. -/
theorem links_render (nodes : List Node) : links (render nodes) = urls nodes := by
  rw [links, openingTags_forest, List.filterMap_map]
  exact (gather_heads Head.url? nodes).symm

@[simp] theorem urls_nil : urls [] = [] := rfl

@[simp] theorem urls_cons : urls (node :: nodes) = node.urls ++ urls nodes := rfl

@[simp] theorem urls_append : urls (nodes ++ more) = urls nodes ++ urls more := gather_append

/-- The URLs of entries are those of each entry. -/
@[simp] theorem urls_map {ι : Type} (entry : ι → Node) (items : List ι) :
    urls (items.map entry) = items.flatMap fun item => (entry item).urls :=
  gather_map entry items

/-- The URLs of groups of entries are those of each group. -/
theorem urls_flatMap {ι : Type} (entries : ι → List Node) (items : List ι) :
    urls (items.flatMap entries) = items.flatMap fun item => urls (entries item) :=
  gather_flatMap entries items

/-- Entries with one link each. -/
theorem urls_entries {ι : Type} {entry : ι → Node} {leads : ι → Text}
    (each : ∀ item, (entry item).urls = [leads item]) (items : List ι) :
    urls (items.map entry) = items.map leads :=
  gather_entries each items

@[simp] theorem urls_onNewLines : urls (onNewLines nodes) = urls nodes := gather_onNewLines

@[simp] theorem urls_joinLines : urls (joinLines nodes) = urls nodes := gather_joinLines

@[simp] theorem urls_joinSpaced : urls (joinSpaced nodes) = urls nodes := gather_joinSpaced

@[simp] theorem text_urls : (Node.text content).urls = [] := rfl

@[simp] theorem prose_urls : (Node.prose content).urls = [] := rfl

@[simp] theorem newline_urls : newline.urls = [] := rfl

private theorem element_urls (other : tag ≠ .a) :
    (Node.element tag attributes nodes).urls = urls nodes :=
  element_gather_none (url_other other attributes)

@[simp] theorem row_urls : (row nodes).urls = urls nodes := element_urls (by decide)

@[simp] theorem div_urls : (div classes nodes).urls = urls nodes := element_urls (by decide)

@[simp] theorem span_urls : (span classes content).urls = [] := element_urls (by decide)

@[simp] theorem note_urls : (note content).urls = [] := span_urls

@[simp] theorem errorLine_urls : (errorLine content).urls = [] := span_urls

@[simp] theorem button_urls : (button classes line content).urls = [] := element_urls (by decide)

private theorem anchor_urls (url : Text) (attributes : List Attribute) (nodes : List Node) :
    (Node.element .a (.href url :: attributes) nodes).urls = url :: urls nodes :=
  element_gather_some (url_anchor url attributes)

/-- A link leads to its URL first, and then where its label leads. -/
@[simp] theorem link_urls : (link url classes nodes).urls = url :: urls nodes := anchor_urls ..

/-- A link that also carries a command leads to its URL. -/
@[simp] theorem commandLink_urls : (commandLink url classes line content).urls = [url] :=
  anchor_urls ..

/-! ## Clickable elements -/

/-- The clickable elements that are read from rendered markup are those of the forest. -/
theorem clickables_gather (nodes : List Node) :
    clickables (render nodes) = gather Head.click? nodes :=
  (clickables_render nodes).trans (gather_heads Head.click? nodes).symm

@[simp] theorem row_clicks : (row nodes).gather Head.click? = gather Head.click? nodes :=
  element_gather_none (bare_not_clickable .div)

/-- A styled element has what its children have to click. -/
theorem styled_clicks (plain : '=' ∉ classes) :
    (styled tag classes nodes).gather Head.click? = gather Head.click? nodes :=
  element_gather_none (styled_not_clickable tag plain)

theorem div_clicks (plain : '=' ∉ classes) :
    (div classes nodes).gather Head.click? = gather Head.click? nodes :=
  styled_clicks plain

/-- A span of text has nothing to click. -/
theorem span_clicks (plain : '=' ∉ classes) : (span classes content).gather Head.click? = [] :=
  styled_clicks plain

/-- A button runs its line when it is clicked, and leads nowhere. -/
theorem button_clicks (plain : '=' ∉ classes) :
    (button classes line content).gather Head.click? = [⟨line, none⟩] :=
  element_gather_some (button_clickable plain)

/-- What is read from a link that also carries a command. -/
theorem commandLink_clicks (plain : '=' ∉ classes) (given : url ≠ []) :
    (commandLink url classes line content).gather Head.click? =
      [⟨if Opens "data-cmd" false url then " class=" else line, some url⟩] :=
  element_gather_some (commandLink_clickable plain given)

end BlogTerminal.Markup
