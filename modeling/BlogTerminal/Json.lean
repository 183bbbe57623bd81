import BlogTerminal.Text.Basic

/-!
JSON as far as it is written and read here: lists and objects of texts are written, and any value is
read.
-/

namespace BlogTerminal.Json

/-! ## Strings

The body of a JSON string, between its quotation marks. Encoding escapes the quotation mark, the
backslash and the control characters and nothing else; decoding reads every escape, and refuses a
surrogate that is not part of a pair.
-/

/-- The lowercase hexadecimal digit of a number below sixteen. -/
def hexDigit (n : Nat) : Char := Nat.digitChar n

/-- The value of a hexadecimal digit of either case. -/
def hexValue? (c : Char) : Option Nat :=
  if '0' ≤ c ∧ c ≤ '9' then some (c.toNat - '0'.toNat)
  else if 'a' ≤ c ∧ c ≤ 'f' then some (c.toNat - 'a'.toNat + 10)
  else if 'A' ≤ c ∧ c ≤ 'F' then some (c.toNat - 'A'.toNat + 10)
  else none

/-- The sixteen-bit unit that four hexadecimal digits spell. -/
def unit? (a b c d : Char) : Option Nat := do
  pure ((((← hexValue? a) * 16 + (← hexValue? b)) * 16 + (← hexValue? c)) * 16 + (← hexValue? d))

/-- The encoded form of a character. -/
def encodeChar (c : Char) : Text :=
  if c = '"' then "\\\""
  else if c = '\\' then "\\\\"
  else if c = '\x08' then "\\b"
  else if c = '\t' then "\\t"
  else if c = '\n' then "\\n"
  else if c = '\x0c' then "\\f"
  else if c = '\r' then "\\r"
  else if c.toNat < 32 then "\\u00" ++ [hexDigit (c.toNat / 16), hexDigit (c.toNat % 16)]
  else [c]

/-- The encoded form of a text. -/
def encode (text : Text) : Text := text.flatMap encodeChar

/-- The character behind a backslash, but for the escapes with digits. -/
def escaped? (c : Char) : Option Char :=
  if c = '"' ∨ c = '\\' ∨ c = '/' then some c
  else if c = 'b' then some '\x08'
  else if c = 'f' then some '\x0c'
  else if c = 'n' then some '\n'
  else if c = 'r' then some '\r'
  else if c = 't' then some '\t'
  else none

/-- The unit is the first half of a surrogate pair. -/
def isHighSurrogate (unit : Nat) : Bool := 0xD800 ≤ unit && unit < 0xDC00

/-- The unit is the second half of a surrogate pair. -/
def isLowSurrogate (unit : Nat) : Bool := 0xDC00 ≤ unit && unit < 0xE000

/-- The character that a surrogate pair stands for. -/
def ofSurrogates (high low : Nat) : Char :=
  Char.ofNat (0x10000 + (high - 0xD800) * 0x400 + (low - 0xDC00))

/-- The text that an encoded form stands for. -/
def decode : Text → Option Text
  | '\\' :: 'u' :: a :: b :: c :: d :: rest =>
    match unit? a b c d, rest with
    | none, _ => none
    | some unit, '\\' :: 'u' :: e :: f :: g :: h :: behind =>
      if isHighSurrogate unit then
        match unit? e f g h with
        | some low =>
          if isLowSurrogate low then (decode behind).map (ofSurrogates unit low :: ·) else none
        | none => none
      else if isLowSurrogate unit then none
      else (decode ('\\' :: 'u' :: e :: f :: g :: h :: behind)).map (Char.ofNat unit :: ·)
    | some unit, rest =>
      if isHighSurrogate unit || isLowSurrogate unit then none
      else (decode rest).map (Char.ofNat unit :: ·)
  | '\\' :: c :: rest =>
    match escaped? c with
    | some char => (decode rest).map (char :: ·)
    | none => none
  | ['\\'] => none
  | c :: rest => (decode rest).map (c :: ·)
  | [] => some []

/-! ## Writing

The two forms of JSON that are written: a list of texts on one line, and an object of texts with
one member to a line.
-/

/-- A text as a JSON string. -/
def quote (text : Text) : Text := "\"" ++ encode text ++ "\""

/-- A list of texts as an array on one line. -/
def writeArray (texts : List Text) : Text := "[" ++ [','].intercalate (texts.map quote) ++ "]"

/-- A member of an object on a line of its own. -/
def writeMember (member : Text × Text) : Text :=
  "\n  " ++ quote member.1 ++ ": " ++ quote member.2

/-- Texts by name as an object, each member on a line of its own. -/
def writeObject (members : List (Text × Text)) : Text :=
  if members.isEmpty then ['{', '}']
  else '{' :: [','].intercalate (members.map writeMember) ++ ['\n', '}']

/-! ## Numbers

JSON numbers: their grammar, and whether a number can be held. Numbers are held in binary with a
significand of 53 bits and an exponent below 1024, and one that would round beyond that is refused.
-/

/-- The text is empty or an exponent. -/
def isExponent : Text → Bool
  | [] => true
  | c :: rest =>
    let digits := match rest with
      | '+' :: digits => digits
      | '-' :: digits => digits
      | digits => digits
    (c == 'e' || c == 'E') && !digits.isEmpty && digits.all Char.isDigit

/-- The text is a fraction, an exponent, both in this order, or empty. -/
def isFraction : Text → Bool
  | '.' :: rest => rest.head?.any Char.isDigit && isExponent (rest.dropWhile Char.isDigit)
  | rest => isExponent rest

/-- The text is a number without a sign. Only a zero starts with the digit zero. -/
def isMagnitude : Text → Bool
  | '0' :: rest => isFraction rest
  | c :: rest => c.isDigit && isFraction (rest.dropWhile Char.isDigit)
  | [] => false

/-- The text without a minus sign at its front. -/
def magnitude : Text → Text
  | '-' :: rest => rest
  | rest => rest

/-- The text is a number. -/
def isNumber (text : Text) : Bool := isMagnitude (magnitude text)

/-- The value of a decimal digit. -/
def digitValue (c : Char) : Nat := c.toNat - '0'.toNat

/-- The significand of a whole part, as far as it fits into 64 bits, and the number of digits that
do not. -/
def wholePart (digits : Text) : Nat × Nat :=
  digits.foldl (fun (significand, left) c =>
    if left = 0 ∧ 10 * significand + digitValue c < Nat.pow 2 64 then
      (10 * significand + digitValue c, 0)
    else (significand, left + 1)) (0, 0)

/-- The significand continued by the digits of a fraction, as far as it fits into 64 bits, and the
number of digits taken; the rest of the fraction is ignored. -/
def fractionPart (significand : Nat) : (digits : Text) → Nat × Nat
  | [] => (significand, 0)
  | c :: rest =>
    if 10 * significand + digitValue c < Nat.pow 2 64 then
      let (all, taken) := fractionPart (10 * significand + digitValue c) rest
      (all, taken + 1)
    else (significand, 0)

/-- The exponent that is written behind its letter. -/
def exponentValue (text : Text) : Int :=
  match text with
  | '-' :: digits => -((Text.toNat? digits).getD 0 : Int)
  | '+' :: digits => (Text.toNat? digits).getD 0
  | digits => (Text.toNat? digits).getD 0

/-- The significand and the power of ten of a number. -/
def scientific (text : Text) : Nat × Int :=
  let whole := (magnitude text).takeWhile Char.isDigit
  let rest := (magnitude text).dropWhile Char.isDigit
  let (significand, left) := wholePart whole
  let digits := match rest with
    | '.' :: fraction => fraction.takeWhile Char.isDigit
    | _ => []
  let (significand, taken) := fractionPart significand digits
  let exponent := match rest.dropWhile fun c => c == '.' || c.isDigit with
    | _ :: digits => exponentValue digits
    | [] => 0
  (significand, left - taken + exponent)

/-- The nearest number with 53 significant bits; a tie goes to the even significand. -/
def roundBinary (n : Nat) : Nat :=
  let unit := Nat.pow 2 (Nat.log2 n - 52)
  let half := n % unit * 2
  let significand := n / unit
  if half < unit ∨ half = unit ∧ significand % 2 = 0 then significand * unit
  else (significand + 1) * unit

/-- The number does not round beyond the largest number that can be held. The significand and the
power of ten are rounded before they are multiplied. -/
def fits (text : Text) : Bool :=
  let (significand, exponent) := scientific text
  significand = 0 || exponent < 0 ||
    exponent ≤ 308 &&
      roundBinary (roundBinary significand * roundBinary (Nat.pow 10 exponent.toNat)) < Nat.pow 2 1024

/-! ## Tokens

The tokens of a JSON text. A scan reads one character at a time and knows what it is inside of;
the bodies of strings are kept in their encoded form.
-/

/-- A token of a JSON text. -/
inductive Token where
  | openObject
  | closeObject
  | openArray
  | closeArray
  | colon
  | comma
  /-- A string, by its encoded body. -/
  | string (body : Text)
  /-- A run of the characters that occur in numbers. -/
  | number (spelling : Text)
  /-- A run of letters. -/
  | word (letters : Text)
  deriving DecidableEq

/-- Where a scan stands. What has been read of the current token is written backwards. -/
inductive Scan where
  | between
  | string (body : Text)
  /-- Behind a backslash in a string. -/
  | escape (body : Text)
  /-- Inside an escape with digits, when `missing + 1` digits are to come. -/
  | digits (body : Text) (missing : Nat)
  | number (spelling : Text)
  | word (letters : Text)

/-- The characters that may stand between tokens. -/
def isSpace (c : Char) : Bool := c == ' ' || c == '\t' || c == '\n' || c == '\r'

/-- The characters that occur in numbers. -/
def isNumeric (c : Char) : Bool :=
  c.isDigit || c == '-' || c == '+' || c == '.' || c == 'e' || c == 'E'

/-- A hexadecimal digit. -/
def isHexDigit (c : Char) : Bool := c.isDigit || 'a' ≤ c && c ≤ 'f' || 'A' ≤ c && c ≤ 'F'

/-- The characters that may stand behind a backslash, but for `u`. -/
def isEscapable (c : Char) : Bool := c ∈ "\"\\/bfnrt".toList

namespace Scan

/-- The token that `c` is or begins, behind a complete token. -/
def start? (c : Char) : Option (List Token × Scan) :=
  if isSpace c then some ([], between)
  else if c = '{' then some ([.openObject], between)
  else if c = '}' then some ([.closeObject], between)
  else if c = '[' then some ([.openArray], between)
  else if c = ']' then some ([.closeArray], between)
  else if c = ':' then some ([.colon], between)
  else if c = ',' then some ([.comma], between)
  else if c = '"' then some ([], string [])
  else if c.isDigit || c == '-' then some ([], number [c])
  else if c.isAlpha then some ([], word [c])
  else none

/-- The tokens completed by the next character, and where the scan stands behind it. -/
def step? : Scan → Char → Option (List Token × Scan)
  | between, c => start? c
  | string body, c =>
    if c = '"' then some ([.string body.reverse], between)
    else if c = '\\' then some ([], escape (c :: body))
    else if c.toNat < 32 then none
    else some ([], string (c :: body))
  | escape body, c =>
    if c = 'u' then some ([], digits (c :: body) 3)
    else if isEscapable c then some ([], string (c :: body))
    else none
  | digits body missing, c =>
    if isHexDigit c then
      match missing with
      | 0 => some ([], string (c :: body))
      | missing + 1 => some ([], digits (c :: body) missing)
    else none
  | number spelling, c =>
    if isNumeric c then some ([], number (c :: spelling))
    else (start? c).map fun (tokens, scan) => (.number spelling.reverse :: tokens, scan)
  | word letters, c =>
    if c.isAlpha then some ([], word (c :: letters))
    else (start? c).map fun (tokens, scan) => (.word letters.reverse :: tokens, scan)

/-- The token completed by the end of the text. -/
def finish? : Scan → Option (List Token)
  | between => some []
  | number spelling => some [.number spelling.reverse]
  | word letters => some [.word letters.reverse]
  | _ => none

/-- The tokens of a text from a given point on. -/
def tokens? : Scan → Text → Option (List Token)
  | scan, [] => scan.finish?
  | scan, c :: rest =>
    (scan.step? c).bind fun (tokens, next) => (next.tokens? rest).map (tokens ++ ·)

end Scan

/-- The tokens of a text, if it consists of tokens. -/
def tokens? (text : Text) : Option (List Token) := Scan.between.tokens? text

/-! ## Values

JSON values and their reading. A value keeps its strings encoded and its numbers as spelled, so
reading checks the grammar alone; whether a value can be held is a question of its own, since parts
that nobody asks for are never held.
-/

/-- A JSON value with encoded strings. -/
inductive Value where
  | null
  | bool (value : Bool)
  | number (spelling : Text)
  | string (body : Text)
  | array (items : List Value)
  | object (members : List (Text × Value))

/-- The value that a single token stands for. -/
def Value.ofToken? : Token → Option Value
  | .string body => some (.string body)
  | .number spelling => if isNumber spelling then some (.number spelling) else none
  | .word letters =>
    if letters = "true" then some (.bool true)
    else if letters = "false" then some (.bool false)
    else if letters = "null" then some .null
    else none
  | _ => none

/-- A collection that has been opened; what it holds so far is written backwards. -/
inductive Frame where
  | array (items : List Value)
  /-- An object that waits for the value of `key`. -/
  | object (members : List (Text × Value)) (key : Text)

/-- What may come next. -/
inductive Place where
  /-- A value. -/
  | value
  /-- The first item of an array, or its end. -/
  | firstItem
  /-- The first key of an object, or its end. -/
  | firstKey
  /-- A key behind a comma. -/
  | key (members : List (Text × Value))
  /-- The colon behind a key. -/
  | colon (members : List (Text × Value)) (key : Text)
  /-- Whatever may follow the value that has just been completed. -/
  | behind (value : Value)

/-- A value that has been read in part: the open collections, the innermost first, and what may
come next. -/
structure Partial where
  frames : List Frame
  place : Place

namespace Partial

/-- The value that begins with the token. -/
def open? (frames : List Frame) (token : Token) : Option Partial :=
  match token with
  | .openArray => some ⟨.array [] :: frames, .firstItem⟩
  | .openObject => some ⟨frames, .firstKey⟩
  | token => (Value.ofToken? token).map fun value => ⟨frames, .behind value⟩

/-- What follows a complete value inside the innermost collection. -/
def continue? (value : Value) : List Frame → Token → Option Partial
  | .array items :: frames, .comma => some ⟨.array (value :: items) :: frames, .value⟩
  | .array items :: frames, .closeArray => some ⟨frames, .behind (.array (value :: items).reverse)⟩
  | .object members key :: frames, .comma => some ⟨frames, .key ((key, value) :: members)⟩
  | .object members key :: frames, .closeObject =>
    some ⟨frames, .behind (.object ((key, value) :: members).reverse)⟩
  | _, _ => none

/-- The reading behind the next token. -/
def step? (state : Partial) (token : Token) : Option Partial :=
  match state.place, token with
  | .value, token => open? state.frames token
  | .firstItem, .closeArray =>
    match state.frames with
    | _ :: frames => some ⟨frames, .behind (.array [])⟩
    | [] => none
  | .firstItem, token => open? state.frames token
  | .firstKey, .closeObject => some ⟨state.frames, .behind (.object [])⟩
  | .firstKey, .string body => some ⟨state.frames, .colon [] body⟩
  | .key members, .string body => some ⟨state.frames, .colon members body⟩
  | .colon members key, .colon => some ⟨.object members key :: state.frames, .value⟩
  | .behind value, token => continue? value state.frames token
  | _, _ => none

/-- The value, when it is complete. -/
def value? : Partial → Option Value
  | ⟨[], .behind value⟩ => some value
  | _ => none

end Partial

namespace Value

/-- The value that a list of tokens spells. -/
def ofTokens? (tokens : List Token) : Option Value :=
  (tokens.foldlM Partial.step? ⟨[], .value⟩).bind Partial.value?

/-- The value that a text spells. -/
def ofText? (text : Text) : Option Value := (tokens? text).bind ofTokens?

/-- The text of a string. -/
def text? : Value → Option Text
  | string body => decode body
  | _ => none

/-- The texts of an array of strings. -/
def texts? : Value → Option (List Text)
  | array items => items.mapM text?
  | _ => none

mutual

/-- The value can be held: its strings decode, its numbers fit, and its collections are nested at
most `room` deep. -/
def isHoldable (room : Nat) : Value → Bool
  | null => true
  | bool _ => true
  | number spelling => fits spelling
  | string body => (decode body).isSome
  | array items => room != 0 && areHoldable (room - 1) items
  | object members => room != 0 && membersHoldable (room - 1) members

/-- All the items can be held. -/
def areHoldable (room : Nat) : List Value → Bool
  | [] => true
  | item :: rest => isHoldable room item && areHoldable room rest

/-- All the members can be held. -/
def membersHoldable (room : Nat) : List (Text × Value) → Bool
  | [] => true
  | (key, value) :: rest =>
    (decode key).isSome && isHoldable room value && membersHoldable room rest

end

/-- How deep the collections of a held value may be nested. -/
def nestingLimit : Nat := 127

/-- The value that a text spells, when it can be held. -/
def held? (text : Text) : Option Value := (ofText? text).filter (isHoldable nestingLimit)

end Value

end BlogTerminal.Json
