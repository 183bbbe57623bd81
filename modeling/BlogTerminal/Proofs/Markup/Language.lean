import BlogTerminal.Markup.Basic

/-!
The language that output is written in: properly nested elements with quoted attributes, and text
between them. The language is described on its own, by the trees that its texts spell; that every
forest of nodes is written in it is then a theorem about `render`.
-/

namespace BlogTerminal.Markup

/-! ## Entities

Escaping leaves nothing in a text that means something in markup, and unescaping undoes it. An
escaped text is made of entities and of characters that stand for themselves, so every fact here
is first one about the written form of a single character. Entities are read back in one pass, which
is the same as replacing one kind of them after the other.
-/

section

/-- The entities that escaping writes. -/
def entities : List Text := ["&amp;", "&lt;", "&gt;", "&quot;", "&#039;"]

/-- Every ampersand of the text begins an entity. -/
def entitiesOnly : Text → Bool
  | [] => true
  | c :: rest => (c != '&' || entities.any (·.isPrefixOf (c :: rest))) && entitiesOnly rest

variable {c d : Char} {text more : Text}

/-! ### Escaping -/

/-- Escaping goes character by character. -/
theorem escape_cons : escape (c :: text) = escapeChar c ++ escape text := rfl

private theorem escapeChar_cases (c : Char) :
    escapeChar c ∈ entities ∨
      escapeChar c = [c] ∧ c ≠ '&' ∧ c ≠ '<' ∧ c ≠ '>' ∧ c ≠ '"' ∧ c ≠ '\'' := by
  unfold escapeChar
  by_cases amp : c = '&'
  · simp [amp, entities]
  by_cases less : c = '<'
  · simp [less, entities]
  by_cases greater : c = '>'
  · simp [greater, entities]
  by_cases quote : c = '"'
  · simp [quote, entities]
  by_cases apostrophe : c = '\''
  · simp [apostrophe, entities]
  · simp [amp, less, greater, quote, apostrophe]

private theorem entities_unspecial {entity : Text} (member : entity ∈ entities) :
    '<' ∉ entity ∧ '>' ∉ entity ∧ '"' ∉ entity ∧ '=' ∉ entity := by
  revert entity
  decide

private theorem escapeChar_unspecial (c : Char) :
    '<' ∉ escapeChar c ∧ '>' ∉ escapeChar c ∧ '"' ∉ escapeChar c := by
  rcases escapeChar_cases c with entity | ⟨itself, _, less, greater, quote, _⟩
  · obtain ⟨noLess, noGreater, noQuote, _⟩ := entities_unspecial entity
    exact ⟨noLess, noGreater, noQuote⟩
  · rw [itself]
    simp [less.symm, greater.symm, quote.symm]

/-- An escaped text holds no character that ends a tag or an attribute value. -/
theorem escape_unspecial (text : Text) :
    '<' ∉ escape text ∧ '>' ∉ escape text ∧ '"' ∉ escape text := by
  simp only [escape, List.mem_flatMap, not_exists, not_and]
  exact ⟨fun c _ => (escapeChar_unspecial c).1, fun c _ => (escapeChar_unspecial c).2.1,
    fun c _ => (escapeChar_unspecial c).2.2⟩

private theorem escape_apostrophe (text : Text) : '\'' ∉ escape text := by
  have known : ∀ entity ∈ entities, '\'' ∉ entity := by decide
  intro member
  obtain ⟨c, _, inside⟩ := List.mem_flatMap.mp member
  rcases escapeChar_cases c with entity | ⟨itself, _, _, _, _, apostrophe⟩
  · exact known _ entity inside
  · rw [itself, List.mem_singleton] at inside
    exact apostrophe inside.symm

/-- Fixed wording holds no brackets when it is written. -/
theorem escapeProse_unspecial (text : Text) : '<' ∉ escapeProse text ∧ '>' ∉ escapeProse text := by
  have each (c : Char) : '<' ∉ escapeProseChar c ∧ '>' ∉ escapeProseChar c := by
    unfold escapeProseChar
    split
    · rename_i quote
      rcases quote with rfl | rfl <;> decide
    · exact ⟨(escapeChar_unspecial c).1, (escapeChar_unspecial c).2.1⟩
  simp only [escapeProse, List.mem_flatMap, not_exists, not_and]
  exact ⟨fun c _ => (each c).1, fun c _ => (each c).2⟩

/-- Escaping writes no equals sign of its own. -/
theorem escape_equals (plain : '=' ∉ text) : '=' ∉ escape text := by
  simp only [escape, List.mem_flatMap, not_exists, not_and]
  intro c member
  rcases escapeChar_cases c with entity | ⟨itself, _⟩
  · exact (entities_unspecial entity).2.2.2
  · rw [itself]
    rintro sign
    exact plain (List.mem_singleton.mp sign ▸ member)

/-! ### Every ampersand begins an entity -/

private theorem entitiesOnly_append (first : entitiesOnly text) (second : entitiesOnly more) :
    entitiesOnly (text ++ more) := by
  induction text with
  | nil => exact second
  | cons c rest ih =>
    simp only [entitiesOnly, Bool.and_eq_true, Bool.or_eq_true, List.any_eq_true,
      List.cons_append] at first ⊢
    obtain ⟨here, behind⟩ := first
    refine ⟨here.imp_right ?_, ih behind⟩
    rintro ⟨entity, known, begins⟩
    rw [List.isPrefixOf_iff_prefix] at begins
    exact ⟨entity, known, List.isPrefixOf_iff_prefix.mpr
      (begins.trans (List.prefix_append (c :: rest) more))⟩

private theorem entitiesOnly_flatMap {α : Type} {write : α → Text} (items : List α)
    (each : ∀ item, entitiesOnly (write item)) : entitiesOnly (items.flatMap write) := by
  induction items with
  | nil => rfl
  | cons item rest ih => exact entitiesOnly_append (each item) ih

private theorem entitiesOnly_escapeChar (c : Char) : entitiesOnly (escapeChar c) := by
  rcases escapeChar_cases c with entity | ⟨itself, amp, _⟩
  · have known : ∀ entity ∈ entities, entitiesOnly entity = true := by decide
    exact known _ entity
  · simp [itself, entitiesOnly, amp]

private theorem entitiesOnly_escape (text : Text) : entitiesOnly (escape text) :=
  entitiesOnly_flatMap text entitiesOnly_escapeChar

private theorem entitiesOnly_escapeProse (text : Text) : entitiesOnly (escapeProse text) := by
  refine entitiesOnly_flatMap text fun c => ?_
  unfold escapeProseChar
  split
  · rename_i quote
    rcases quote with rfl | rfl <;> rfl
  · exact entitiesOnly_escapeChar c

private theorem entitiesOnly_cases (known : entitiesOnly (c :: text)) :
    c ≠ '&' ∨ ∃ entity ∈ entities, ∃ rest, entity ++ rest = c :: text := by
  simp only [entitiesOnly, Bool.and_eq_true, Bool.or_eq_true, bne_iff_ne, List.any_eq_true,
    List.isPrefixOf_iff_prefix] at known
  exact known.1

private theorem entitiesOnly_behind (front : Text) (known : entitiesOnly (front ++ text)) :
    entitiesOnly text := by
  induction front with
  | nil => exact known
  | cons c rest ih =>
    rw [List.cons_append, entitiesOnly, Bool.and_eq_true] at known
    exact ih known.2

/-! ### Unescaping -/

private theorem unescape_cons (plain : c ≠ '&') : unescape (c :: text) = c :: unescape text := by
  rw [unescape.eq_def]
  split <;> simp_all

private theorem unescape_escapeChar (c : Char) (more : Text) :
    unescape (escapeChar c ++ more) = c :: unescape more := by
  unfold escapeChar
  split
  · subst c; rfl
  split
  · subst c; rfl
  split
  · subst c; rfl
  split
  · subst c; rfl
  split
  · subst c; rfl
  · rename_i amp _ _ _ _
    exact unescape_cons amp

private theorem unescape_entity {entity : Text} (known : entity ∈ entities) :
    ∃ c, ∀ more, unescape (entity ++ more) = c :: unescape more := by
  simp only [entities, List.mem_cons, List.not_mem_nil, or_false] at known
  rcases known with rfl | rfl | rfl | rfl | rfl <;> exact ⟨_, fun _ => rfl⟩

/-- A text in which every ampersand begins an entity is read back by itself: no entity reaches
into what follows it. -/
theorem unescape_append {text : Text} (known : entitiesOnly text) (more : Text) :
    unescape (text ++ more) = unescape text ++ unescape more := by
  match text with
  | [] => rfl
  | c :: rest =>
    rcases entitiesOnly_cases known with plain | ⟨entity, member, behind, split⟩
    · have later := unescape_append (entitiesOnly_behind [c] known) more
      rw [List.cons_append, unescape_cons plain, unescape_cons plain, later, List.cons_append]
    · have given : 0 < entity.length := (by decide : ∀ entity ∈ entities, 0 < entity.length) _ member
      have shorter : behind.length < (c :: rest).length := by
        rw [← split, List.length_append]
        exact Nat.lt_add_of_pos_left given
      rw [← split] at known ⊢
      have later := unescape_append (entitiesOnly_behind entity known) more
      obtain ⟨d, reads⟩ := unescape_entity member
      rw [List.append_assoc, reads, reads, later, List.cons_append]
termination_by text.length
decreasing_by
  · exact Nat.lt_succ_self rest.length
  · exact shorter

/-- A text comes back from its written form. -/
theorem unescape_escape_text (text : Text) : unescape (escape text) = text := by
  induction text with
  | nil => rfl
  | cons c rest ih => rw [escape_cons, unescape_escapeChar, ih]

/-- Two texts are never escaped to the same one. -/
theorem escape_injective : Function.Injective escape := by
  intro first second same
  rw [← unescape_escape_text first, same, unescape_escape_text]

/-! ### Replacements -/

/-- The text with `d` for each occurrence of the pattern, from left to right; the first `skip`
characters belong to an occurrence that has been replaced. -/
def replaceFrom (pattern : Text) (d : Char) : (skip : Nat) → Text → Text
  | _, [] => []
  | skip + 1, _ :: rest => replaceFrom pattern d skip rest
  | 0, c :: rest =>
    if pattern <+: c :: rest then d :: replaceFrom pattern d (pattern.length - 1) rest
    else c :: replaceFrom pattern d 0 rest

/-- One replacement after the other. -/
def replaceAll (replacements : List (Text × Char)) (text : Text) : Text :=
  replacements.foldl (fun text next => replaceFrom next.1 next.2 0 text) text

/-- The entities with what they stand for, the one of the ampersand last. -/
def decodings : List (Text × Char) :=
  [("&lt;", '<'), ("&gt;", '>'), ("&quot;", '"'), ("&#039;", '\''), ("&#39;", '\''), ("&amp;", '&')]

/-- A replacement brings about no new occurrence of a text without the character that is put in. -/
theorem prefix_of_replaced {pattern front : Text} (absent : d ∉ front)
    (begins : front <+: replaceFrom pattern d 0 text) : front <+: text := by
  induction front generalizing text with
  | nil => exact List.nil_prefix
  | cons a front ih =>
    rw [List.mem_cons, not_or] at absent
    cases text with
    | nil => exact begins
    | cons c rest =>
      rw [replaceFrom] at begins
      split at begins
      · exact absurd (List.cons_prefix_cons.mp begins).1.symm absent.1
      · obtain ⟨same, behind⟩ := List.cons_prefix_cons.mp begins
        exact List.cons_prefix_cons.mpr ⟨same, ih absent.2 behind⟩

/-- A character at which no pattern begins stays, when no replacement puts in a character from
behind the front of a pattern. -/
theorem replaceAll_kept {replacements : List (Text × Char)}
    (apart : ∀ done ∈ replacements, ∀ next ∈ replacements, done.2 ∉ next.1.tail)
    (elsewhere : ∀ next ∈ replacements, ¬ next.1 <+: c :: text) :
    replaceAll replacements (c :: text) = c :: replaceAll replacements text := by
  induction replacements generalizing text with
  | nil => rfl
  | cons done later ih =>
    obtain ⟨here, others⟩ := List.forall_mem_cons.mp elsewhere
    have kept :
        replaceFrom done.1 done.2 0 (c :: text) = c :: replaceFrom done.1 done.2 0 text := by
      rw [replaceFrom, if_neg here]
    have still : ∀ next ∈ later, ¬ next.1 <+: c :: replaceFrom done.1 done.2 0 text := by
      intro next member begins
      refine others next member ?_
      have absent := apart done (.head _) next (.tail _ member)
      cases pattern : next.1 with
      | nil => exact List.nil_prefix
      | cons a behind =>
        rw [pattern] at begins absent
        obtain ⟨same, continues⟩ := List.cons_prefix_cons.mp begins
        exact List.cons_prefix_cons.mpr ⟨same, prefix_of_replaced absent continues⟩
    have rest := ih (fun first member next listed =>
      apart first (.tail _ member) next (.tail _ listed)) still
    rw [replaceAll, List.foldl_cons, kept]
    exact rest

/-- Reading the entities back in one pass is replacing them one kind after the other, as long as
that of the ampersand comes last. -/
theorem unescape_replaceAll (text : Text) : unescape text = replaceAll decodings text := by
  induction text using unescape.induct with
  | case1 rest ih | case2 rest ih | case3 rest ih | case4 rest ih | case5 rest ih | case6 rest ih =>
    rw [unescape, ih]
    rfl
  | case7 c rest less greater quote long short amp ih =>
    have apart : ∀ done ∈ decodings, ∀ next ∈ decodings, done.2 ∉ next.1.tail := by decide
    have elsewhere : ∀ next ∈ decodings, ¬ next.1 <+: c :: rest := by
      simp only [decodings, List.forall_mem_cons, List.not_mem_nil, false_imp_iff, implies_true,
        and_true]
      refine ⟨?_, ?_, ?_, ?_, ?_, ?_⟩ <;> rintro ⟨behind, same⟩ <;>
        obtain ⟨ampersand, continues⟩ := List.cons.inj same
      · exact less behind ampersand.symm continues.symm
      · exact greater behind ampersand.symm continues.symm
      · exact quote behind ampersand.symm continues.symm
      · exact long behind ampersand.symm continues.symm
      · exact short behind ampersand.symm continues.symm
      · exact amp behind ampersand.symm continues.symm
    rw [replaceAll_kept apart elsewhere, ← ih, unescape] <;> assumption
  | case8 => rfl

/-! ### The written form of a text -/

/-- The escaped form of a text holds no sign that means something in markup but ampersands, each of
which begins an entity, and the text comes back from it, whether its entities are read in one pass
or replaced one kind after the other. -/
theorem escape_readable (text : Text) :
    unescape (escape text) = text ∧ replaceAll decodings (escape text) = text ∧
      (∀ sign ∈ ['<', '>', '"', '\''], sign ∉ escape text) ∧
      ∀ front behind, escape text = front ++ '&' :: behind →
        ∃ entity ∈ entities, entity <+: '&' :: behind := by
  have restored := unescape_escape_text text
  have replaced : replaceAll decodings (escape text) = text := by
    rw [← unescape_replaceAll, restored]
  obtain ⟨less, greater, quote⟩ := escape_unspecial text
  refine ⟨restored, replaced, ?_, ?_⟩
  · simp only [List.forall_mem_cons, List.not_mem_nil, false_imp_iff, implies_true, and_true]
    exact ⟨less, greater, quote, escape_apostrophe text⟩
  · intro front behind split
    have known := entitiesOnly_escape text
    rw [split] at known
    rcases entitiesOnly_cases (entitiesOnly_behind front known) with other | begun
    · exact absurd rfl other
    · obtain ⟨entity, member, rest, spelled⟩ := begun
      exact ⟨entity, member, rest, spelled⟩

/-- A text that looks like an entity is not taken for one when it is read back. -/
example : unescape (escape "&amp;lt;'&#39;") = "&amp;lt;'&#39;" := by decide

end

/-! ## The language -/

/-- A piece of written markup. Nothing in it is escaped or read back. -/
inductive Piece where
  | text (written : Text)
  | element (name : Text) (attributes : List (Text × Text)) (children : List Piece)

/-- An attribute as it is spelled in a tag, with the space before it. -/
def spellAttribute (item : Text × Text) : Text :=
  " " ++ item.1 ++ "=\"" ++ item.2 ++ "\""

mutual

/-- The text of a piece of markup. -/
def Piece.spell : Piece → Text
  | .text written => written
  | .element name attributes children =>
    "<" ++ name ++ attributes.flatMap spellAttribute ++ ">" ++ spell children ++
      "</" ++ name ++ ">"

/-- The text of a forest. -/
def spell : List Piece → Text
  | [] => []
  | piece :: rest => piece.spell ++ spell rest

end

/-- The names of the elements that occur. -/
def elementNames : List Text := ["div", "span", "a", "p", "pre"]

/-- The names of the attributes that occur. -/
def attributeNames : List Text := ["class", "href", "data-cmd"]

/-- The attribute is one of those that occur, and its value cannot end the quotes or the tag. -/
def IsAttribute (item : Text × Text) : Prop :=
  item.1 ∈ attributeNames ∧ '<' ∉ item.2 ∧ '>' ∉ item.2 ∧ '"' ∉ item.2

mutual

/-- The piece belongs to the language. -/
def Piece.IsLegal : Piece → Prop
  | .text written => '<' ∉ written ∧ '>' ∉ written ∧ entitiesOnly written
  | .element name attributes children =>
    name ∈ elementNames ∧ (∀ item ∈ attributes, IsAttribute item) ∧ AreLegal children

/-- All pieces belong to the language. -/
def AreLegal : List Piece → Prop
  | [] => True
  | piece :: rest => piece.IsLegal ∧ AreLegal rest

end

/-- The text spells a forest of the language, and every ampersand in it begins an entity, also
inside attribute values. -/
def IsMarkup (html : Text) : Prop :=
  (∃ pieces, AreLegal pieces ∧ spell pieces = html) ∧ entitiesOnly html

/-! ### What is rendered -/

/-- Induction over a forest: its first piece is text, fixed wording, or an element with a forest
inside. -/
@[elab_as_elim] theorem forest_induction {motive : List Node → Prop} (nil : motive [])
    (text : ∀ content rest, motive rest → motive (.text content :: rest))
    (prose : ∀ content rest, motive rest → motive (.prose content :: rest))
    (element : ∀ tag attributes children rest, motive children → motive rest →
      motive (.element tag attributes children :: rest)) : ∀ nodes, motive nodes
  | [] => nil
  | .text content :: rest => text content rest (forest_induction nil text prose element rest)
  | .prose content :: rest => prose content rest (forest_induction nil text prose element rest)
  | .element tag attributes children :: rest =>
    element tag attributes children rest (forest_induction nil text prose element children)
      (forest_induction nil text prose element rest)

mutual

/-- A node as it is read back from its written form. -/
def Node.piece : Node → Piece
  | .text content => .text (escape content)
  | .prose content => .text (escapeProse content)
  | .element tag attributes children =>
    .element tag.name (attributes.map fun item => (item.name, escape item.value)) (pieces children)

/-- A forest as it is read back from its written form. -/
def pieces : List Node → List Piece
  | [] => []
  | node :: rest => node.piece :: pieces rest

end

/-- What is rendered is what the pieces of the forest spell. -/
theorem spell_pieces (nodes : List Node) : spell (pieces nodes) = render nodes := by
  induction nodes using forest_induction with
  | nil => rfl
  | text content rest ih =>
    simp only [pieces, Node.piece, spell, Piece.spell, render, Node.render, ih]
  | prose content rest ih =>
    simp only [pieces, Node.piece, spell, Piece.spell, render, Node.render, ih]
  | element tag attributes children rest inside ih =>
    have spelled : (attributes.map fun item => (item.name, escape item.value)).flatMap
        spellAttribute = attributes.flatMap Attribute.render := by
      rw [List.flatMap_map]
      rfl
    simp only [pieces, Node.piece, spell, Piece.spell, render, Node.render, Tag.opening,
      Tag.closing, spelled, inside, ih, List.append_assoc]

private theorem tag_known (tag : Tag) : tag.name ∈ elementNames := by
  cases tag <;> decide

/-- Every attribute has one of the names of the language. -/
theorem attribute_known (item : Attribute) : item.name ∈ attributeNames := by
  cases item with
  | style _ => exact .head _
  | href _ => exact .tail _ (.head _)
  | command _ => exact .tail _ (.tail _ (.head _))

/-- The pieces of every forest are legal. -/
theorem pieces_legal (nodes : List Node) : AreLegal (pieces nodes) := by
  induction nodes using forest_induction with
  | nil => trivial
  | text content rest ih =>
    obtain ⟨noLess, noGreater, _⟩ := escape_unspecial content
    exact ⟨⟨noLess, noGreater, entitiesOnly_escape content⟩, ih⟩
  | prose content rest ih =>
    obtain ⟨noLess, noGreater⟩ := escapeProse_unspecial content
    exact ⟨⟨noLess, noGreater, entitiesOnly_escapeProse content⟩, ih⟩
  | element tag attributes children rest inside ih =>
    refine ⟨⟨tag_known tag, ?_, inside⟩, ih⟩
    intro written member
    obtain ⟨item, _, rfl⟩ := List.mem_map.mp member
    exact ⟨attribute_known item, escape_unspecial item.value⟩

private theorem entitiesOnly_attribute (item : Attribute) : entitiesOnly item.render := by
  have name : entitiesOnly item.name := by cases item <;> rfl
  refine entitiesOnly_append (entitiesOnly_append (entitiesOnly_append (entitiesOnly_append ?_ name)
    ?_) (entitiesOnly_escape item.value)) ?_ <;> rfl

private theorem entitiesOnly_opening (tag : Tag) (attributes : List Attribute) :
    entitiesOnly (tag.opening attributes) := by
  have name : entitiesOnly tag.name := by cases tag <;> rfl
  refine entitiesOnly_append (entitiesOnly_append (entitiesOnly_append ?_ name)
    (entitiesOnly_flatMap attributes entitiesOnly_attribute)) ?_ <;> rfl

private theorem entitiesOnly_render (nodes : List Node) : entitiesOnly (render nodes) := by
  induction nodes using forest_induction with
  | nil => rfl
  | text content rest ih => exact entitiesOnly_append (entitiesOnly_escape content) ih
  | prose content rest ih => exact entitiesOnly_append (entitiesOnly_escapeProse content) ih
  | element tag attributes children rest inside ih =>
    have closing : entitiesOnly tag.closing := by cases tag <;> rfl
    exact entitiesOnly_append (entitiesOnly_append
      (entitiesOnly_append (entitiesOnly_opening tag attributes) inside) closing) ih

/-- Whatever is rendered is written in the language of output. -/
theorem render_markup (nodes : List Node) : IsMarkup (render nodes) :=
  ⟨⟨pieces nodes, pieces_legal nodes, spell_pieces nodes⟩, entitiesOnly_render nodes⟩

/-! ### Pieces one behind the other -/

/-- Forests beside each other are written one behind the other. -/
theorem render_append (nodes others : List Node) :
    render (nodes ++ others) = render nodes ++ render others := by
  induction nodes with
  | nil => rfl
  | cons node rest ih => rw [List.cons_append, render, ih, render, List.append_assoc]

/-- Forests made from items are written item by item. -/
theorem render_flatMap {β : Type} (nodes : β → List Node) (items : List β) :
    render (items.flatMap nodes) = items.flatMap fun item => render (nodes item) := by
  induction items with
  | nil => rfl
  | cons item rest ih => rw [List.flatMap_cons, render_append, ih, List.flatMap_cons]

/-- Pieces joined as markup are joined as text. -/
theorem render_intersperse (separator : Node) (nodes : List Node) :
    render (nodes.intersperse separator) =
      separator.render.intercalate (nodes.map Node.render) := by
  induction nodes with
  | nil => rfl
  | cons node rest ih =>
    cases rest with
    | nil =>
      rw [List.map_singleton, List.intercalate_singleton, List.intersperse_singleton, render,
        render, List.append_nil]
    | cons next more =>
      rw [List.map_cons, List.map_cons, List.intercalate_cons_cons, ← List.map_cons, ← ih,
        List.intersperse_cons_cons, render, render, List.append_assoc]

/-- Pieces with line breaks between them are written with line breaks between them. -/
theorem render_joinLines (nodes : List Node) :
    render (joinLines nodes) = ['\n'].intercalate (nodes.map Node.render) :=
  render_intersperse newline nodes

/-- Pieces with spaces between them are written with spaces between them. -/
theorem render_joinSpaced (nodes : List Node) :
    render (joinSpaced nodes) = [' '].intercalate (nodes.map Node.render) :=
  render_intersperse (.text [' ']) nodes

/-- Pieces on lines of their own are written with a line break before each. -/
theorem render_onNewLines (nodes : List Node) :
    render (onNewLines nodes) = nodes.flatMap fun node => "\n".toList ++ node.render := by
  rw [onNewLines, render_flatMap]
  refine congrArg nodes.flatMap (funext fun node => ?_)
  rw [render, render, render, List.append_nil]
  rfl

end BlogTerminal.Markup
