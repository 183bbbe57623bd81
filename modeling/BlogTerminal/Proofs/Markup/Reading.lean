import BlogTerminal.Markup.Reading
import BlogTerminal.Proofs.Markup.Language
import Mathlib.Data.List.Basic

/-!
Reading the elements of rendered markup back. Between tags and inside quotes nothing can be taken
for a tag, so a scan of the written form meets the elements of the forest in document order, each
with the attributes it was given. The value of an attribute is read behind the first quotation mark
whose text in front ends in the name and an equals sign, so only a value that ends so, and not the
attribute that is searched for, can lead the search astray.
-/

namespace BlogTerminal.Markup

/-- An element without what is inside it. -/
abbrev Head := Tag × List Attribute

mutual

/-- The elements of a node in document order. -/
def Node.heads : Node → List Head
  | .text _ => []
  | .prose _ => []
  | .element tag attributes children => (tag, attributes) :: heads children

/-- The elements of a forest in document order. -/
def heads : List Node → List Head
  | [] => []
  | node :: rest => node.heads ++ heads rest

end

/-- An opening tag as a scan finds it. -/
def Head.found (head : Head) : Text × Text := (head.1.name, head.2.flatMap Attribute.render)

variable {nodes : List Node} {text more : Text} {url line classes : Text}

/-! ## The elements of a forest -/

private theorem heads_append (first second : List Node) :
    heads (first ++ second) = heads first ++ heads second := by
  induction first with
  | nil => rfl
  | cons node rest ih => simp only [List.cons_append, heads, ih, List.append_assoc]

/-- The opening tags of a forest are those of its nodes. -/
theorem mem_heads {head : Head} : head ∈ heads nodes ↔ ∃ node ∈ nodes, head ∈ node.heads := by
  induction nodes with
  | nil => simp [heads]
  | cons node rest ih => simp [heads, ih]

/-- Line breaks have no opening tags. -/
theorem heads_onNewLines (nodes : List Node) : heads (onNewLines nodes) = heads nodes := by
  induction nodes with
  | nil => rfl
  | cons node rest ih =>
    rw [onNewLines, List.flatMap_cons, heads_append, ← onNewLines, ih]
    simp [heads, Node.heads, newline]

/-- A separator without opening tags adds none. -/
theorem heads_intersperse {separator : Node} (blank : separator.heads = []) (nodes : List Node) :
    heads (nodes.intersperse separator) = heads nodes := by
  induction nodes with
  | nil => rfl
  | cons node rest ih =>
    cases rest with
    | nil => rfl
    | cons next rest =>
      rw [List.intersperse_cons_cons, heads, heads, blank, ih, List.nil_append]
      rfl

/-! ## Scanning for opening tags -/

/-- Text without an angle bracket holds no tag. -/
theorem openingTags_text (plain : '<' ∉ text) (more : Text) :
    openingTags (text ++ more) = openingTags more := by
  induction text with
  | nil => rfl
  | cons c rest ih =>
    rw [List.mem_cons, not_or] at plain
    have outside : TagScan.restart c = .outside := if_neg (Ne.symm plain.1)
    rw [List.cons_append, openingTags, openingTagsFrom, outside]
    exact ih plain.2

private theorem attributes_scanned (plain : '>' ∉ text) (name content more : Text) :
    openingTagsFrom (.attributes name content) (text ++ '>' :: more) =
      (name, content ++ text) :: openingTags more := by
  induction text generalizing content with
  | nil => simp [openingTagsFrom, openingTags]
  | cons c rest ih =>
    rw [List.mem_cons, not_or] at plain
    rw [List.cons_append, openingTagsFrom, if_neg (Ne.symm plain.1), ih plain.2]
    simp

private theorem attribute_inside (item : Attribute) : '>' ∉ item.render := by
  have known : ∀ name ∈ attributeNames, '>' ∉ name := by decide
  have name := known _ (attribute_known item)
  have value := (escape_unspecial item.value).2.1
  simp [Attribute.render, name, value]

private theorem openingTags_opening (head : Head) (more : Text) :
    openingTags (head.1.opening head.2 ++ more) = head.found :: openingTags more := by
  obtain ⟨tag, attributes⟩ := head
  have named (behind : Text) : openingTags ("<" ++ tag.name ++ behind) =
      openingTagsFrom (.name tag.name) behind := by
    cases tag <;> rfl
  rw [Tag.opening, List.append_assoc, List.append_assoc, named]
  cases attributes with
  | nil => cases tag <;> rfl
  | cons item rest =>
    have inside : '>' ∉ (item :: rest).flatMap Attribute.render := by
      simp only [List.mem_flatMap, not_exists, not_and]
      exact fun item _ => attribute_inside item
    rw [List.flatMap_cons, Attribute.render] at inside ⊢
    have spaced (content behind : Text) (plain : '>' ∉ ' ' :: content) :
        openingTagsFrom (.name tag.name) (' ' :: content ++ ('>' :: behind)) =
          (tag.name, ' ' :: content) :: openingTags behind := by
      have name : tag.name.isEmpty = false := by cases tag <;> rfl
      have space : Text.isWord ' ' = false := rfl
      rw [List.mem_cons, not_or] at plain
      simp only [List.cons_append, openingTagsFrom, name, space]
      exact attributes_scanned plain.2 tag.name [' '] behind
    exact spaced _ _ inside

private theorem openingTags_closing (tag : Tag) (more : Text) :
    openingTags (tag.closing ++ more) = openingTags more := by
  cases tag <;> rfl

/-- A scan of rendered markup finds the elements of the forest in document order. -/
theorem openingTags_render (nodes : List Node) (more : Text) :
    openingTags (render nodes ++ more) = (heads nodes).map Head.found ++ openingTags more := by
  induction nodes using forest_induction generalizing more with
  | nil => rfl
  | text content rest ih =>
    rw [render, Node.render, List.append_assoc, openingTags_text (escape_unspecial content).1, ih]
    rfl
  | prose content rest ih =>
    rw [render, Node.render, List.append_assoc,
      openingTags_text (escapeProse_unspecial content).1, ih]
    rfl
  | element tag attributes children rest inside ih =>
    simp only [render, Node.render, List.append_assoc]
    rw [openingTags_opening (tag, attributes), inside, openingTags_closing, ih]
    simp only [heads, Node.heads, List.cons_append, List.map_cons, List.map_append,
      List.append_assoc]

/-- The opening tags that are read back from written markup are those of the forest, in order. -/
theorem openingTags_forest (nodes : List Node) :
    openingTags (render nodes) = (heads nodes).map Head.found := by
  have scanned := openingTags_render nodes []
  rw [List.append_nil] at scanned
  exact scanned.trans (List.append_nil _)

/-- The clickable elements of rendered markup are those among the elements of the forest. -/
theorem clickables_render (nodes : List Node) :
    clickables (render nodes) = (heads nodes).filterMap fun head => clickable? head.found := by
  rw [clickables, openingTags_forest, List.filterMap_map]
  rfl

/-! ## Where a value can begin -/

/-- The text ends in the name of the attribute and an equals sign, and the name does not begin in
the middle of a word. In front of a quotation mark such a text opens a value of the attribute. -/
def Opens (name : Text) (inWord : Bool) (text : Text) : Prop :=
  ∃ front, front ++ (name ++ ['=']) = text ∧
    (front.getLast?.map Text.isWord).getD inWord = false

variable {name value : Text} {inWord : Bool} {c stop : Char}

private theorem opens_nil : ¬ Opens name inWord [] := by
  rintro ⟨front, split, _⟩
  simp at split

private theorem opens_cons : Opens name inWord (c :: text) ↔
    inWord = false ∧ c :: text = name ++ ['='] ∨ Opens name (Text.isWord c) text := by
  have passed (front : Text) : ((c :: front).getLast?.map Text.isWord).getD inWord =
      (front.getLast?.map Text.isWord).getD (Text.isWord c) := by
    rw [List.getLast?_cons]
    cases front.getLast? <;> rfl
  constructor
  · rintro ⟨front, split, boundary⟩
    cases front with
    | nil => exact .inl ⟨boundary, split.symm⟩
    | cons first front =>
      obtain ⟨rfl, rest⟩ := List.cons.inj split
      exact .inr ⟨front, rest, (passed front).symm.trans boundary⟩
  · rintro (⟨boundary, same⟩ | ⟨front, rfl, boundary⟩)
    · exact ⟨[], same.symm, boundary⟩
    · exact ⟨c :: front, rfl, (passed front).trans boundary⟩

instance decidableOpens (name : Text) : (inWord : Bool) → (text : Text) →
    Decidable (Opens name inWord text)
  | _, [] => isFalse opens_nil
  | _, c :: rest =>
    have := decidableOpens name (Text.isWord c) rest
    decidable_of_iff _ opens_cons.symm

/-- What stands in front of a character that is not in the name makes no difference. -/
theorem opens_past (outside : stop ∉ name ++ ['=']) (front : Text) :
    Opens name inWord (front ++ stop :: text) ↔ Opens name (Text.isWord stop) text := by
  have longer (front : Text) : front ++ stop :: text ≠ name ++ ['='] := by
    intro same
    exact outside (same ▸ by simp)
  induction front generalizing inWord with
  | nil => exact opens_cons.trans (or_iff_right fun ⟨_, same⟩ => longer [] same)
  | cons c front ih =>
    exact opens_cons.trans ((or_iff_right fun ⟨_, same⟩ => longer (c :: front) same).trans ih)

/-- A character that is not written as itself is written as an entity, which ends in a semicolon.
It is part of no word and of no name. -/
private theorem escapeChar_special (c : Char) : escapeChar c = [c] ∨
    (escapeChar c).getLast? = some ';' ∧ Text.isWord c = false ∧
      ∀ name ∈ attributeNames, c ∉ name ++ ['='] := by
  by_cases special : c = '&' ∨ c = '<' ∨ c = '>' ∨ c = '"' ∨ c = '\''
  · refine .inr ?_
    rcases special with rfl | rfl | rfl | rfl | rfl <;> decide
  · simp only [not_or] at special
    exact .inl (by simp [escapeChar, special])

/-- Escaping touches no character of a name, and an entity ends a word like the character that it
is written for. -/
theorem opens_escape (known : name ∈ attributeNames) :
    Opens name inWord (escape text) ↔ Opens name inWord text := by
  have apart : ∀ name ∈ attributeNames, ';' ∉ name ++ ['='] := by decide
  have unescaped : ∀ name ∈ attributeNames, escape (name ++ ['=']) = name ++ ['='] := by decide
  induction text generalizing inWord with
  | nil => exact Iff.rfl
  | cons c rest ih =>
    rw [escape_cons]
    rcases escapeChar_special c with itself | ⟨ends, boundary, foreign⟩
    · have whole : c :: escape rest = name ++ ['='] ↔ c :: rest = name ++ ['='] := by
        have split : c :: escape rest = escape (c :: rest) := by
          rw [escape_cons, itself, List.singleton_append]
        rw [split, ← unescaped name known, escape_injective.eq_iff, unescaped name known]
      rw [itself, List.singleton_append]
      exact opens_cons.trans ((or_congr (and_congr_right fun _ => whole) ih).trans opens_cons.symm)
    · obtain ⟨front, written⟩ := List.getLast?_eq_some_iff.mp ends
      rw [written, List.append_assoc, List.singleton_append]
      calc Opens name inWord (front ++ ';' :: escape rest)
        _ ↔ Opens name false (escape rest) := opens_past (apart name known) front
        _ ↔ Opens name (Text.isWord c) rest := boundary ▸ ih
        _ ↔ Opens name inWord (c :: rest) := (opens_past (foreign name known) []).symm

/-! ## Reading attributes -/

private theorem takeWhile_quote (plain : '"' ∉ text) (more : Text) :
    (text ++ '"' :: more).takeWhile (· != '"') = text := by
  rw [List.takeWhile_append_of_pos]
  · simp
  · intro c member
    simpa using ne_of_mem_of_not_mem member plain

private theorem quoted_closed (plain : '"' ∉ text) (more : Text) :
    quoted? (text ++ '"' :: more) = some text := by
  rw [quoted?, if_pos (by simp), takeWhile_quote plain]

/-- In front of a quotation mark, only a text that is the name and an equals sign is followed by a
value. -/
theorem valueAt_quote (unquoted : '"' ∉ name) (plain : '"' ∉ text) (more : Text) :
    valueAt? name (text ++ '"' :: more) =
      if text = name ++ ['='] then quoted? more else none := by
  by_cases same : text = name ++ ['=']
  · have behind : (text ++ '"' :: more).after? (name ++ "=\"") = some more := by
      rw [Text.after?, List.isPrefixOf?_eq_some_iff_append_eq, same]
      simp
    rw [if_pos same, valueAt?, behind, Option.bind_some]
  · rw [if_neg same, valueAt?, Option.bind_eq_none_iff]
    intro behind found
    have split : text ++ '"' :: more = (name ++ ['=']) ++ '"' :: behind := by
      rw [← List.append_eq_of_isPrefixOf?_eq_some found]
      simp
    have fronts := congrArg (List.takeWhile (· != '"')) split
    rw [takeWhile_quote plain, takeWhile_quote (by simp [unquoted])] at fronts
    exact absurd fronts same

/-- No value begins at a character where the text does not open one. -/
private theorem valueFrom_step (unquoted : '"' ∉ name) (plain : '"' ∉ c :: text)
    (elsewhere : ¬(inWord = false ∧ c :: text = name ++ ['='])) (more : Text) :
    valueFrom? name inWord (c :: text ++ '"' :: more) =
      valueFrom? name (Text.isWord c) (text ++ '"' :: more) := by
  have none_here : (if inWord then none else valueAt? name (c :: text ++ '"' :: more)) = none := by
    cases inWord with
    | true => rfl
    | false =>
      have other : c :: text ≠ name ++ ['='] := fun same => elsewhere ⟨rfl, same⟩
      rw [valueAt_quote unquoted plain, if_neg other]
      rfl
  rw [List.cons_append] at none_here ⊢
  simp only [valueFrom?, none_here]

/-- The first text that opens a value is followed by it. -/
theorem valueFrom_opened (unquoted : '"' ∉ name) (plain : '"' ∉ text)
    (opens : Opens name inWord text) (closed : quoted? more = some value) :
    valueFrom? name inWord (text ++ '"' :: more) = some value := by
  induction text generalizing inWord with
  | nil => exact absurd opens opens_nil
  | cons c rest ih =>
    by_cases here : inWord = false ∧ c :: rest = name ++ ['=']
    · have found := valueAt_quote unquoted plain more
      rw [if_pos here.2, closed, List.cons_append] at found
      rw [here.1, List.cons_append, valueFrom?]
      simp only [Bool.false_eq_true, ↓reduceIte, found]
    · rw [valueFrom_step unquoted plain here]
      rw [List.mem_cons, not_or] at plain
      exact ih plain.2 ((opens_cons.mp opens).resolve_left here)

/-- A part in front of a quotation mark that opens no value is passed over. -/
theorem valueFrom_passed (unquoted : '"' ∉ name) (plain : '"' ∉ text)
    (unopened : ¬ Opens name inWord text) (more : Text) :
    valueFrom? name inWord (text ++ '"' :: more) = valueFrom? name false more := by
  induction text generalizing inWord with
  | nil =>
    have missing := valueAt_quote unquoted plain more
    have boundary : Text.isWord '"' = false := rfl
    rw [if_neg (by simp)] at missing
    rw [List.nil_append] at missing ⊢
    simp only [valueFrom?, missing, ite_self, boundary]
  | cons c rest ih =>
    rw [opens_cons, not_or] at unopened
    rw [valueFrom_step unquoted plain unopened.1]
    rw [List.mem_cons, not_or] at plain
    exact ih plain.2 unopened.2

private theorem render_parts (item : Attribute) (more : Text) : item.render ++ more =
    (' ' :: item.name ++ ['=']) ++ '"' :: (escape item.value ++ '"' :: more) := by
  simp [Attribute.render]

private theorem unquoted_name : ∀ name ∈ attributeNames, '"' ∉ name := by decide

private theorem names_apart : ∀ name ∈ attributeNames, ∀ other ∈ attributeNames,
    other ≠ name → ¬ name <:+ ' ' :: other := by
  decide

/-- An attribute of another name is read over up to its value. -/
theorem name_passed {item : Attribute} (known : name ∈ attributeNames)
    (other : item.name ≠ name) (inWord : Bool) (more : Text) :
    valueFrom? name inWord (item.render ++ more) =
      valueFrom? name false (escape item.value ++ '"' :: more) := by
  have unquoted : '"' ∉ ' ' :: item.name ++ ['='] := by
    simp [unquoted_name _ (attribute_known item)]
  rw [render_parts]
  refine valueFrom_passed (unquoted_name name known) unquoted ?_ _
  rintro ⟨front, split, _⟩
  rw [← List.append_assoc] at split
  have ending := List.append_left_injective ['='] split
  exact names_apart name known item.name (attribute_known item) other ⟨front, ending⟩

/-- An attribute of another name is passed over, unless an equals sign in its value lets it look
like the one that is searched for. -/
theorem attribute_passed {item : Attribute} (known : name ∈ attributeNames)
    (other : item.name ≠ name) (plain : '=' ∉ item.value) (inWord : Bool) (more : Text) :
    valueFrom? name inWord (item.render ++ more) = valueFrom? name false more := by
  rw [name_passed known other]
  refine valueFrom_passed (unquoted_name name known) (escape_unspecial item.value).2.2 ?_ more
  rintro ⟨front, split, _⟩
  exact escape_equals plain (split ▸ by simp)

/-- The value of an attribute is read where the attribute stands. -/
theorem attribute_found (item : Attribute) (inWord : Bool) (more : Text) :
    valueFrom? item.name inWord (item.render ++ more) = some (escape item.value) := by
  have unquoted := unquoted_name _ (attribute_known item)
  have space : Text.isWord ' ' = false := rfl
  have opens : Opens item.name inWord (' ' :: item.name ++ ['=']) := ⟨[' '], rfl, space⟩
  rw [render_parts]
  exact valueFrom_opened unquoted (by simp [unquoted]) opens
    (quoted_closed (escape_unspecial item.value).2.2 more)

private theorem clickable_parts (tag : Text × Text) :
    clickable? tag = (valueOf? "data-cmd" tag.2).map fun command =>
      ⟨unescape command, (if tag.1 = "a" ∨ tag.1 = "A" then (valueOf? "href" tag.2).map unescape
        else none).filter (!·.isEmpty)⟩ :=
  rfl

/-- A link that begins with its URL leads to that URL, whatever it is made to look like. -/
theorem link_href {attributes : List Attribute} {element : Clickable} (given : url ≠ [])
    (clicked : clickable? (Head.found (.a, .href url :: attributes)) = some element) :
    element.href = some url := by
  have found : valueOf? "href" (Head.found (.a, .href url :: attributes)).2 = some (escape url) :=
    attribute_found (.href url) false _
  have isLink : (Head.found (.a, .href url :: attributes)).1 = "a" := rfl
  rw [clickable_parts] at clicked
  obtain ⟨command, _, rfl⟩ := Option.map_eq_some_iff.mp clicked
  rw [found, if_pos (.inl isLink), Option.map_some, unescape_escape_text]
  simp [Option.filter, given]

private theorem style_passed (plain : '=' ∉ classes) (more : Text) :
    valueOf? "data-cmd" ((Attribute.style classes).render ++ more) =
      valueFrom? "data-cmd" false more := by
  have known : "data-cmd".toList ∈ attributeNames := by decide
  have other : "class".toList ≠ "data-cmd".toList := by decide
  exact @attribute_passed "data-cmd" (.style classes) known other plain false more

/-- In front of the style, up to its value, stands only its name. -/
private theorem style_quoted (classes more : Text) :
    quoted? ((Attribute.style classes).render ++ more) = some (escape " class=") := by
  have unquoted : '"' ∉ escape " class=" := (escape_unspecial _).2.2
  rw [render_parts]
  exact quoted_closed unquoted _

/-- A button carries its command and leads nowhere. -/
theorem button_clickable (plain : '=' ∉ classes) :
    clickable? (Head.found (.span, [.style classes, .command line])) = some ⟨line, none⟩ := by
  have found : valueOf? "data-cmd" (Head.found (.span, [.style classes, .command line])).2 =
      some (escape line) := by
    rw [Head.found, List.flatMap_cons, style_passed plain]
    exact attribute_found (.command line) false []
  have noLink : ¬("span".toList = "a".toList ∨ "span".toList = "A".toList) := by decide
  rw [clickable_parts, found, Option.map_some, unescape_escape_text]
  exact congrArg some (congrArg (Clickable.mk line ·) (congrArg _ (if_neg noLink)))

/-- A link that also carries a command, behind its URL and its style. When the URL ends so that it
opens a value of the attribute that carries the line, the text up to the value of the style is
taken for the line. -/
theorem commandLink_clickable (plain : '=' ∉ classes) (given : url ≠ []) :
    clickable? (Head.found (.a, [.href url, .style classes, .command line])) =
      some ⟨if Opens "data-cmd" false url then " class=" else line, some url⟩ := by
  have known : "data-cmd".toList ∈ attributeNames := by decide
  have other : (Attribute.href url).name ≠ "data-cmd" := fun same => by cases same
  have unquoted : '"' ∉ escape url := (escape_unspecial url).2.2
  have read : valueOf? "data-cmd" (Head.found (.a, [.href url, .style classes, .command line])).2 =
      some (escape (if Opens "data-cmd" false url then " class=" else line)) := by
    rw [Head.found, List.flatMap_cons, valueOf?, name_passed known other]
    by_cases opens : Opens "data-cmd" false url
    · rw [if_pos opens]
      refine valueFrom_opened (unquoted_name _ known) unquoted ((opens_escape known).mpr opens) ?_
      exact style_quoted classes _
    · rw [if_neg opens, Attribute.value, valueFrom_passed (unquoted_name _ known) unquoted
        fun escaped => opens ((opens_escape known).mp escaped)]
      exact (style_passed plain _).trans (attribute_found (.command line) false [])
  have isLink : (Head.found (.a, [.href url, .style classes, .command line])).1 = "a" := rfl
  have leads : valueOf? "href" (Head.found (.a, [.href url, .style classes, .command line])).2 =
      some (escape url) := attribute_found (.href url) false _
  rw [clickable_parts, read, leads, if_pos (.inl isLink), Option.map_some, Option.map_some,
    unescape_escape_text, unescape_escape_text]
  simp only [Option.filter, List.isEmpty_eq_false_iff.mpr given, Bool.not_false, ↓reduceIte]

/-- An element with nothing but style cannot be clicked. -/
theorem styled_not_clickable (tag : Tag) (plain : '=' ∉ classes) :
    clickable? (Head.found (tag, [.style classes])) = none := by
  have missing : valueOf? "data-cmd" (Head.found (tag, [.style classes])).2 = none := by
    rw [Head.found, List.flatMap_cons, style_passed plain]
    rfl
  rw [clickable_parts, missing, Option.map_none]

/-- An element without attributes cannot be clicked. -/
theorem bare_not_clickable (tag : Tag) : clickable? (Head.found (tag, [])) = none := rfl

end BlogTerminal.Markup
