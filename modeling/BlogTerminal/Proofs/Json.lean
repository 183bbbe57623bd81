import BlogTerminal.Json
import BlogTerminal.Proofs.Text.Pieces

/-!
What is written as JSON is read back unchanged: texts, lists of texts, and objects of texts.
-/

namespace BlogTerminal.Json

/-! ## Strings

Encoding a text and decoding it gives the text back. A character is encoded as itself, as a
backslash with a letter, or, for most control characters, by its number; which of these it is can be
told from the front of the encoded form, so the decoder never takes two characters for one.
-/

/-- The characters that have an escape of their own, each with the letter behind the backslash. -/
def shortEscapes : List (Char × Char) :=
  [('"', '"'), ('\\', '\\'), ('\x08', 'b'), ('\t', 't'), ('\n', 'n'), ('\x0c', 'f'), ('\r', 'r')]

/-- The form that a character has in an encoded text. -/
inductive Encoding : Char → Text → Prop where
  | short {c letter : Char} (listed : (c, letter) ∈ shortEscapes) : Encoding c ['\\', letter]
  | numbered {c : Char} (small : c.toNat < 32) :
      Encoding c ['\\', 'u', '0', '0', hexDigit (c.toNat / 16), hexDigit (c.toNat % 16)]
  | plain {c : Char} (unquoted : c ≠ '"') (unslashed : c ≠ '\\') (large : 32 ≤ c.toNat) :
      Encoding c [c]

private theorem encodeChar_encoding (c : Char) : Encoding c (encodeChar c) := by
  by_cases quote : c = '"'
  · subst quote
    exact .short (by decide)
  by_cases slash : c = '\\'
  · subst slash
    exact .short (by decide)
  by_cases backspace : c = '\x08'
  · subst backspace
    exact .short (by decide)
  by_cases tab : c = '\t'
  · subst tab
    exact .short (by decide)
  by_cases newline : c = '\n'
  · subst newline
    exact .short (by decide)
  by_cases feed : c = '\x0c'
  · subst feed
    exact .short (by decide)
  by_cases carriage : c = '\r'
  · subst carriage
    exact .short (by decide)
  simp only [encodeChar, quote, slash, backspace, tab, newline, feed, carriage, ↓reduceIte]
  by_cases small : c.toNat < 32
  · rw [if_pos small]
    exact .numbered small
  · rw [if_neg small]
    exact .plain quote slash (by omega)

/-! ### Decoding -/

private theorem hexValue_hexDigit : ∀ n < 16, hexValue? (hexDigit n) = some n := by
  decide

/-- The digits of a control character spell its number. -/
theorem unit_control {n : Nat} (small : n < 32) :
    unit? '0' '0' (hexDigit (n / 16)) (hexDigit (n % 16)) = some n := by
  have zero : hexValue? '0' = some 0 := by decide
  have high := hexValue_hexDigit (n / 16) (by omega)
  have low := hexValue_hexDigit (n % 16) (by omega)
  simp only [unit?, zero, high, low, Option.pure_def, Option.bind_eq_bind, Option.bind_some]
  congr 1
  omega

private theorem escaped_short :
    ∀ pair ∈ shortEscapes, pair.2 ≠ 'u' ∧ escaped? pair.2 = some pair.1 := by
  decide

private theorem decode_short {letter : Char} (other : letter ≠ 'u') (rest : Text) :
    decode ('\\' :: letter :: rest) =
      match escaped? letter with
      | some char => (decode rest).map (char :: ·)
      | none => none :=
  decode.eq_4 letter rest fun _ _ _ _ _ same _ => other same

private theorem decode_plain {c : Char} (unslashed : c ≠ '\\') (rest : Text) :
    decode (c :: rest) = (decode rest).map (c :: ·) := by
  rw [decode]
  · exact fun _ _ _ _ _ same _ => unslashed same
  · exact fun _ _ same _ => unslashed same
  · exact fun same _ => unslashed same

/-- A number below the surrogates stands for a character of its own, also in front of another
number. -/
private theorem decode_numbered {a b c d : Char} {n : Nat} (spelled : unit? a b c d = some n)
    (small : n < 0xD800) (rest : Text) :
    decode ('\\' :: 'u' :: a :: b :: c :: d :: rest) = (decode rest).map (Char.ofNat n :: ·) := by
  have high : isHighSurrogate n = false := by
    simp only [isHighSurrogate, Bool.and_eq_false_iff, decide_eq_false_iff_not]
    omega
  have low : isLowSurrogate n = false := by
    simp only [isLowSurrogate, Bool.and_eq_false_iff, decide_eq_false_iff_not]
    omega
  -- The decoder looks ahead for the second half of a pair before it takes the number alone.
  by_cases numbered : ∃ e f g h behind, rest = '\\' :: 'u' :: e :: f :: g :: h :: behind
  · obtain ⟨e, f, g, h, behind, rfl⟩ := numbered
    rw [decode.eq_2 a b c d n e f g h behind spelled, high, low]
    rfl
  · rw [decode.eq_3 a b c d rest n spelled
      fun e f g h behind same => numbered ⟨e, f, g, h, behind, same⟩, high, low]
    rfl

private theorem decode_encodeChar (c : Char) (rest : Text) :
    decode (encodeChar c ++ rest) = (decode rest).map (c :: ·) := by
  have form := encodeChar_encoding c
  generalize encodeChar c = encoded at form
  cases form with
  | @short letter listed =>
    obtain ⟨other, same⟩ := escaped_short _ listed
    rw [List.cons_append, List.cons_append, decode_short other, same]
    rfl
  | numbered small =>
    have spelled := unit_control small
    have decoded := decode_numbered spelled (by omega) rest
    rw [Char.ofNat_toNat] at decoded
    exact decoded
  | plain unquoted unslashed large => exact decode_plain unslashed rest

/-- Decoding gives back every text that was encoded. -/
theorem decode_encode (text : Text) : decode (encode text) = some text := by
  induction text with
  | nil => rfl
  | cons c rest ih =>
    rw [encode, List.flatMap_cons, decode_encodeChar, ← encode, ih, Option.map_some]

/-! ## Lists of texts

The scan gives one token for each text, since an encoded body never ends the string it stands in;
the tokens are those of an array; and decoding its strings gives the texts.
-/

/-- The shortest spelling of a token. -/
def Token.written : Token → Text
  | .openObject => ['{']
  | .closeObject => ['}']
  | .openArray => ['[']
  | .closeArray => [']']
  | .colon => [':']
  | .comma => [',']
  | .string body => '"' :: body ++ ['"']
  | .number spelling => spelling
  | .word letters => letters

/-- The text consists of tokens with nothing between them. -/
def IsCompact (text : Text) : Prop :=
  ∃ tokens, tokens? text = some tokens ∧ text = tokens.flatMap Token.written

/-- The tokens of the items of an array behind the first one. -/
def laterTokens (texts : List Text) : List Token :=
  texts.flatMap fun text => [.comma, .string (encode text)]

/-- The tokens of the items of an array of texts. -/
def itemTokens : List Text → List Token
  | [] => []
  | first :: rest => .string (encode first) :: laterTokens rest

/-- The tokens of an array of texts. -/
def arrayTokens (texts : List Text) : List Token :=
  .openArray :: itemTokens texts ++ [.closeArray]

/-! ### Scanning -/

private theorem tokens_silent {scan next : Scan} {c : Char}
    (silent : scan.step? c = some ([], next))
    (rest : Text) : scan.tokens? (c :: rest) = next.tokens? rest := by
  rw [Scan.tokens?, silent]
  simp

private theorem tokens_complete {scan next : Scan} {c : Char} {token : Token}
    (complete : scan.step? c = some ([token], next)) (rest : Text) :
    scan.tokens? (c :: rest) = (next.tokens? rest).map (token :: ·) := by
  rw [Scan.tokens?, complete]
  rfl

private theorem escapable_short :
    ∀ pair ∈ shortEscapes, pair.2 ≠ 'u' ∧ isEscapable pair.2 := by
  decide

private theorem hexDigit_isHexDigit : ∀ n < 16, isHexDigit (hexDigit n) := by
  decide

private theorem digits_step {c : Char} (hex : isHexDigit c) (body : Text) (missing : Nat) :
    (Scan.digits body (missing + 1)).step? c = some ([], .digits (c :: body) missing) := by
  simp [Scan.step?, hex]

private theorem digits_end {c : Char} (hex : isHexDigit c) (body : Text) :
    (Scan.digits body 0).step? c = some ([], .string (c :: body)) := by
  simp [Scan.step?, hex]

/-- The scan stays inside a string over the encoded form of a character. -/
theorem string_encodeChar (c : Char) (body rest : Text) :
    (Scan.string body).tokens? (encodeChar c ++ rest) =
      (Scan.string ((encodeChar c).reverse ++ body)).tokens? rest := by
  have form := encodeChar_encoding c
  generalize encodeChar c = encoded at form
  have slash : (Scan.string body).step? '\\' = some ([], .escape ('\\' :: body)) := rfl
  cases form with
  | @short letter listed =>
    obtain ⟨other, escapable⟩ := escapable_short _ listed
    have letterStep : (Scan.escape ('\\' :: body)).step? letter =
        some ([], .string (letter :: '\\' :: body)) := by
      simp only [Scan.step?, if_neg other, if_pos escapable]
    rw [List.cons_append, tokens_silent slash, List.cons_append, tokens_silent letterStep]
    rfl
  | numbered small =>
    have zero : isHexDigit '0' := by decide
    have high := hexDigit_isHexDigit (c.toNat / 16) (by omega)
    have low := hexDigit_isHexDigit (c.toNat % 16) (by omega)
    have number : (Scan.escape ('\\' :: body)).step? 'u' =
        some ([], .digits ('u' :: '\\' :: body) 3) := rfl
    simp only [List.cons_append, List.nil_append, tokens_silent slash, tokens_silent number,
      tokens_silent (digits_step zero _ _), tokens_silent (digits_step high _ _),
      tokens_silent (digits_end low _)]
    rfl
  | plain unquoted unslashed large =>
    have step : (Scan.string body).step? c = some ([], .string (c :: body)) := by
      simp only [Scan.step?, if_neg unquoted, if_neg unslashed, if_neg (Nat.not_lt.mpr large)]
    rw [List.cons_append, tokens_silent step]
    rfl

/-- The scan stays inside a string over all of its encoded body and ends it at the quote. -/
theorem string_scanned (body text rest : Text) :
    (Scan.string body).tokens? (encode text ++ '"' :: rest) =
      (Scan.between.tokens? rest).map (.string (body.reverse ++ encode text) :: ·) := by
  induction text generalizing body with
  | nil =>
    have quote : (Scan.string body).step? '"' = some ([.string body.reverse], .between) := rfl
    rw [encode, List.flatMap_nil, List.nil_append, tokens_complete quote, List.append_nil]
  | cons c more ih =>
    rw [encode, List.flatMap_cons, List.append_assoc, string_encodeChar, ← encode, ih]
    simp

private theorem quote_scanned (text rest : Text) :
    Scan.between.tokens? (quote text ++ rest) =
      (Scan.between.tokens? rest).map (.string (encode text) :: ·) := by
  have opened : Scan.between.step? '"' = some ([], .string []) := rfl
  have shape : quote text ++ rest = '"' :: (encode text ++ '"' :: rest) := by simp [quote]
  rw [shape, tokens_silent opened, string_scanned]
  rfl

/-- The items behind a first one, each with a comma in front of it, are scanned one by one. -/
theorem items_scanned {α : Type} {write : α → Text} {spelled : α → List Token}
    (scanned : ∀ item rest, Scan.between.tokens? (write item ++ rest) =
      (Scan.between.tokens? rest).map (spelled item ++ ·))
    (items : List α) (rest : Text) :
    Scan.between.tokens? (items.flatMap (fun item => ',' :: write item) ++ rest) =
      (Scan.between.tokens? rest).map
        ((items.flatMap fun item => .comma :: spelled item) ++ ·) := by
  have comma : Scan.between.step? ',' = some ([.comma], .between) := rfl
  induction items with
  | nil => simp
  | cons item more ih =>
    rw [List.flatMap_cons, List.append_assoc, List.cons_append, tokens_complete comma, scanned, ih]
    simp [Function.comp_def]

private theorem later_scanned (texts : List Text) (rest : Text) :
    Scan.between.tokens? (texts.flatMap (fun text => ',' :: quote text) ++ rest) =
      (Scan.between.tokens? rest).map (laterTokens texts ++ ·) := by
  have scanned (text rest : Text) : Scan.between.tokens? (quote text ++ rest) =
      (Scan.between.tokens? rest).map ([.string (encode text)] ++ ·) := quote_scanned text rest
  exact items_scanned scanned texts rest

/-- Between the items of a list there is a comma in front of each but the first. -/
theorem intercalate_items {α : Type} (write : α → Text) (first : α) (rest : List α) :
    [','].intercalate ((first :: rest).map write) =
      write first ++ rest.flatMap fun item => ',' :: write item := by
  rw [List.map_cons, Text.intercalate_cons, List.flatMap_map]
  rfl

/-- Scanning a written array gives its tokens. -/
theorem tokens_writeArray (texts : List Text) :
    tokens? (writeArray texts) = some (arrayTokens texts) := by
  have opened : Scan.between.step? '[' = some ([.openArray], .between) := rfl
  have closed : Scan.between.tokens? [']'] = some [.closeArray] := rfl
  have shape : writeArray texts = '[' :: ([','].intercalate (texts.map quote) ++ [']']) := by
    simp [writeArray]
  rw [shape, tokens?, tokens_complete opened]
  cases texts with
  | nil => rfl
  | cons first rest =>
    rw [intercalate_items, List.append_assoc, quote_scanned, later_scanned, closed]
    rfl

/-- A written array has nothing between its tokens. -/
theorem writeArray_compact (texts : List Text) : IsCompact (writeArray texts) := by
  refine ⟨_, tokens_writeArray texts, ?_⟩
  cases texts with
  | nil => rfl
  | cons first rest =>
    rw [writeArray, intercalate_items]
    simp [arrayTokens, itemTokens, laterTokens, Token.written, quote, List.flatMap_assoc]

/-! ### Reading -/

/-- A text as the value that is read for it. -/
def encoded (text : Text) : Value := .string (encode text)

private theorem later_read (frames : List Frame) (items : List Value) (value : Value)
    (texts : List Text) :
    (laterTokens texts ++ [Token.closeArray]).foldlM Partial.step?
        ⟨.array items :: frames, .behind value⟩ =
      some ⟨frames, .behind (.array ((value :: items).reverse ++ texts.map encoded))⟩ := by
  induction texts generalizing items value with
  | nil =>
    rw [List.map_nil, List.append_nil]
    rfl
  | cons text more ih =>
    have read := ih (value :: items) (encoded text)
    rw [List.reverse_cons, List.append_assoc] at read
    exact read

/-- The tokens of an array of texts are read as the array of their encoded forms. -/
theorem ofTokens_arrayTokens (texts : List Text) :
    Value.ofTokens? (arrayTokens texts) = some (.array (texts.map encoded)) := by
  cases texts with
  | nil => rfl
  | cons first rest =>
    have opened : (arrayTokens (first :: rest)).foldlM Partial.step? ⟨[], .value⟩ =
        (laterTokens rest ++ [Token.closeArray]).foldlM Partial.step?
          ⟨[.array []], .behind (encoded first)⟩ := rfl
    rw [Value.ofTokens?, opened, later_read]
    rfl

private theorem texts_encoded (texts : List Text) :
    (Value.array (texts.map encoded)).texts? = some texts := by
  rw [Value.texts?]
  induction texts with
  | nil => rfl
  | cons text more ih =>
    rw [List.map_cons, List.mapM_cons, encoded, Value.text?, decode_encode, ih]
    rfl

/-- A list of texts that was written as an array is read back as it was. -/
theorem texts_writeArray (texts : List Text) :
    (Value.ofText? (writeArray texts)).bind Value.texts? = some texts := by
  rw [Value.ofText?, tokens_writeArray, Option.bind_some, ofTokens_arrayTokens, Option.bind_some,
    texts_encoded]

/-! ## Objects of texts

Objects are read back with all their members in order. The line breaks and blanks between the
members are between tokens, where the scan passes over them; the tokens are those of an object; and
since encoded texts decode, the object can be held.
-/

/-- The tokens of a member of an object of texts. -/
def memberTokens (member : Text × Text) : List Token :=
  [.string (encode member.1), .colon, .string (encode member.2)]

/-- The tokens of the members of an object behind the first one. -/
def laterMembers (members : List (Text × Text)) : List Token :=
  members.flatMap fun member => .comma :: memberTokens member

/-- The tokens of an object of texts. -/
def objectTokens : List (Text × Text) → List Token
  | [] => [.openObject, .closeObject]
  | first :: rest => .openObject :: memberTokens first ++ (laterMembers rest ++ [.closeObject])

/-! ### Scanning -/

/-- A written member stands on a line of its own, and its tokens are its key, a colon and its
value. -/
theorem member_scanned (member : Text × Text) (rest : Text) :
    Scan.between.tokens? (writeMember member ++ rest) =
      (Scan.between.tokens? rest).map (memberTokens member ++ ·) := by
  have line : Scan.between.step? '\n' = some ([], .between) := rfl
  have blank : Scan.between.step? ' ' = some ([], .between) := rfl
  have colon : Scan.between.step? ':' = some ([.colon], .between) := rfl
  have shape : writeMember member ++ rest = '\n' :: ' ' :: ' ' ::
      (quote member.1 ++ ':' :: ' ' :: (quote member.2 ++ rest)) := by
    simp [writeMember]
  rw [shape, tokens_silent line, tokens_silent blank, tokens_silent blank, quote_scanned,
    tokens_complete colon, tokens_silent blank, quote_scanned]
  simp [memberTokens, Function.comp_def]

/-- Scanning a written object gives its tokens. -/
theorem tokens_writeObject (members : List (Text × Text)) :
    tokens? (writeObject members) = some (objectTokens members) := by
  have opened : Scan.between.step? '{' = some ([.openObject], .between) := rfl
  have closed : Scan.between.tokens? ['\n', '}'] = some [.closeObject] := rfl
  cases members with
  | nil => rfl
  | cons first rest =>
    have shape : writeObject (first :: rest) =
        '{' :: ([','].intercalate ((first :: rest).map writeMember) ++ ['\n', '}']) := rfl
    rw [shape, tokens?, tokens_complete opened, intercalate_items, List.append_assoc,
      member_scanned, items_scanned member_scanned, closed]
    rfl

/-! ### Reading -/

/-- A member of an object of texts as it is read. -/
def encodedMember (member : Text × Text) : Text × Value := (encode member.1, encoded member.2)

private theorem members_read (members : List (Text × Value)) (key : Text) (value : Value)
    (later : List (Text × Text)) :
    (laterMembers later ++ [Token.closeObject]).foldlM Partial.step?
        ⟨[.object members key], .behind value⟩ =
      some ⟨[], .behind
        (.object (((key, value) :: members).reverse ++ later.map encodedMember))⟩ := by
  induction later generalizing members key value with
  | nil =>
    rw [List.map_nil, List.append_nil]
    rfl
  | cons member more ih =>
    have read := ih ((key, value) :: members) (encode member.1) (encoded member.2)
    rw [List.reverse_cons, List.append_assoc] at read
    exact read

/-- The tokens of an object of texts are read as the object of their encoded forms. -/
theorem ofTokens_objectTokens (members : List (Text × Text)) :
    Value.ofTokens? (objectTokens members) = some (.object (members.map encodedMember)) := by
  cases members with
  | nil => rfl
  | cons first rest =>
    have opened : (objectTokens (first :: rest)).foldlM Partial.step? ⟨[], .value⟩ =
        (laterMembers rest ++ [Token.closeObject]).foldlM Partial.step?
          ⟨[.object [] (encode first.1)], .behind (encoded first.2)⟩ := rfl
    rw [Value.ofTokens?, opened, members_read]
    rfl

/-! ### Holding -/

private theorem membersHoldable_encoded (room : Nat) (members : List (Text × Text)) :
    Value.membersHoldable room (members.map encodedMember) = true := by
  induction members with
  | nil => rfl
  | cons member more ih =>
    rw [List.map_cons, encodedMember, encoded, Value.membersHoldable, Value.isHoldable,
      decode_encode, decode_encode, ih]
    rfl

/-- An object of texts that was written is read back, and can be held. -/
theorem held_writeObject (members : List (Text × Text)) :
    Value.held? (writeObject members) = some (.object (members.map encodedMember)) := by
  have read : Value.ofText? (writeObject members) =
      some (.object (members.map encodedMember)) := by
    rw [Value.ofText?, tokens_writeObject, Option.bind_some, ofTokens_objectTokens]
  have holdable : Value.isHoldable Value.nestingLimit (.object (members.map encodedMember)) =
      true := by
    rw [Value.isHoldable, membersHoldable_encoded]
    rfl
  rw [Value.held?, read, Option.filter_some, if_pos holdable]

end BlogTerminal.Json
