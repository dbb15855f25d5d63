import WarehouseAdmin.Json.Printer

/-!
# Reading JSON

A document's text is first cut into tokens, and the tokens are then read from left to right.

## Main definitions

* `Json.Token` — a token.
* `Json.readUnits` — the inside of a string literal, as code units.
* `Json.spelled` — the text that code units spell.
* `Json.isNumber` — the number grammar.
* `Json.tokens?` — a text as tokens.
* `Json.Frame` — an open array or object.
* `Json.Progress` — what has been read, and so what may come next.
* `Json.Progress.advance?` — one token.
* `Json.read?` — a whole text.
-/

namespace WarehouseAdmin.Json

/-! ## Tokens

There are the six structural characters, the three literal names, numbers and string literals.  Only
the four blanks of the format may stand between them.
-/

/-- A token of a document's text. -/
inductive Token where
  | beginObject
  | endObject
  | beginArray
  | endArray
  | colon
  | comma
  | null
  | bool (b : Bool)
  | number (literal : String)
  | string (text : Text)

/-! ### String literals -/

/-- The value of a hexadecimal digit of either case. -/
def hexDigit? (c : Char) : Option Nat :=
  if '0' ≤ c && c ≤ '9' then some (c.toNat - '0'.toNat)
  else if 'a' ≤ c && c ≤ 'f' then some (c.toNat - 'a'.toNat + 10)
  else if 'A' ≤ c && c ≤ 'F' then some (c.toNat - 'A'.toNat + 10)
  else none

/-- The character that a two-character escape stands for. -/
def escaped? (c : Char) : Option Nat :=
  if c = '"' || c = '\\' || c = '/' then some c.toNat
  else if c = 'b' then some 0x8
  else if c = 'f' then some 0xC
  else if c = 'n' then some 0xA
  else if c = 'r' then some 0xD
  else if c = 't' then some 0x9
  else none

/-- The sixteen-bit unit that four hexadecimal digits name. -/
def unit? (h₃ h₂ h₁ h₀ : Char) : Option Nat :=
  match hexDigit? h₃, hexDigit? h₂, hexDigit? h₁, hexDigit? h₀ with
  | some d₃, some d₂, some d₁, some d₀ => some (d₃ * 4096 + d₂ * 256 + d₁ * 16 + d₀)
  | _, _, _, _ => none

/-- The code unit that stands for a character of a literal; a control character may not. -/
def raw? (c : Char) : Option Nat :=
  if c.toNat < 0x20 then none else some c.toNat

/-- Reads the inside of a string literal up to its closing quote, and gives what follows.  A
character gives its code point, a `\u` escape the sixteen-bit unit it names. -/
def readUnits : List Char → Option (List Nat × List Char)
  | [] => none
  | '"' :: s => some ([], s)
  | '\\' :: 'u' :: h₃ :: h₂ :: h₁ :: h₀ :: s =>
    (unit? h₃ h₂ h₁ h₀).bind fun unit =>
      (readUnits s).map fun (units, rest) => (unit :: units, rest)
  | '\\' :: c :: s =>
    (escaped? c).bind fun unit => (readUnits s).map fun (units, rest) => (unit :: units, rest)
  | c :: s =>
    (raw? c).bind fun unit => (readUnits s).map fun (units, rest) => (unit :: units, rest)

/-- The closing quote has been read, so less is left. -/
theorem length_lt_of_readUnits {s rest : List Char} {units : List Nat}
    (h : readUnits s = some (units, rest)) : rest.length < s.length := by
  fun_induction readUnits s generalizing units rest with
  | case1 => simp at h
  | case2 => simp_all
  | case3 _ _ _ _ _ ih =>
    simp only [Option.bind_eq_some_iff, Option.map_eq_some_iff] at h
    obtain ⟨_, _, ⟨us, r⟩, hr, h⟩ := h
    have := ih hr
    simp_all
    omega
  | case4 _ _ _ ih | case5 _ _ _ _ _ ih =>
    simp only [Option.bind_eq_some_iff, Option.map_eq_some_iff] at h
    obtain ⟨_, _, ⟨us, r⟩, hr, h⟩ := h
    have := ih hr
    simp_all
    omega

/-- The text that code units spell.  A high surrogate and the low one after it spell one character;
any other surrogate spells none. -/
def spelled : List Nat → Option (List Char)
  | [] => some []
  | high :: low :: units =>
    if 0xD800 ≤ high && high < 0xDC00 then
      if 0xDC00 ≤ low && low < 0xE000 then
        (spelled units).map (Char.ofNat (0x10000 + (high - 0xD800) * 0x400 + (low - 0xDC00)) :: ·)
      else none
    else if 0xDC00 ≤ high && high < 0xE000 then none
    else (spelled (low :: units)).map (Char.ofNat high :: ·)
  | [unit] => if 0xD800 ≤ unit && unit < 0xE000 then none else some [Char.ofNat unit]

/-! ### Numbers -/

/-- At least one digit, and nothing else. -/
def isDigits (s : List Char) : Bool :=
  !s.isEmpty && s.all Char.isDigit

/-- An exponent: nothing, or `e`, an optional sign and digits. -/
def isExponent : List Char → Bool
  | [] => true
  | e :: s =>
    (e = 'e' || e = 'E') &&
      match s with
      | '+' :: digits => isDigits digits
      | '-' :: digits => isDigits digits
      | digits => isDigits digits

/-- The number grammar: an optional minus sign, a whole part without leading zeros, an optional
fraction with at least one digit, and an optional exponent. -/
def isNumber (literal : List Char) : Bool :=
  let unsigned := match literal with
    | '-' :: s => s
    | s => s
  let whole := unsigned.takeWhile Char.isDigit
  let wholeFits := isDigits whole && (whole.length = 1 || whole.head? != some '0')
  wholeFits &&
    match unsigned.dropWhile Char.isDigit with
    | '.' :: s => isDigits (s.takeWhile Char.isDigit) && isExponent (s.dropWhile Char.isDigit)
    | s => isExponent s

/-! ### The text as tokens -/

/-- The blanks of the format: space, tab, line feed and carriage return. -/
def isSpace (c : Char) : Bool :=
  c = ' ' || c = '\t' || c = '\n' || c = '\r'

/-- The characters that numbers and literal names are written with. -/
def isWordChar (c : Char) : Bool :=
  c.isAlphanum || c = '+' || c = '-' || c = '.'

/-- The token that a run of word characters is. -/
def word? (word : List Char) : Option Token :=
  if word = ['n', 'u', 'l', 'l'] then some .null
  else if word = ['t', 'r', 'u', 'e'] then some (.bool true)
  else if word = ['f', 'a', 'l', 's', 'e'] then some (.bool false)
  else if isNumber word then some (.number (String.ofList word))
  else none

/-- The token that a structural character is. -/
def structural? (c : Char) : Option Token :=
  if c = '{' then some .beginObject
  else if c = '}' then some .endObject
  else if c = '[' then some .beginArray
  else if c = ']' then some .endArray
  else if c = ':' then some .colon
  else if c = ',' then some .comma
  else none

/-- Dropping a run leaves no more than there was. -/
theorem length_dropWhile_le {α : Type} (p : α → Bool) (s : List α) :
    (s.dropWhile p).length ≤ s.length :=
  (List.dropWhile_sublist p).length_le

/-- A text as tokens, if it is cut into tokens at all. -/
def tokens? : List Char → Option (List Token)
  | [] => some []
  | c :: s =>
    if isSpace c then tokens? s
    else if c = '"' then
      match h : readUnits s with
      | none => none
      | some (units, rest) =>
        have := length_lt_of_readUnits h
        (tokens? rest).map (.string ((spelled units).map String.ofList) :: ·)
    else if isWordChar c then
      have := length_dropWhile_le isWordChar s
      (word? (c :: s.takeWhile isWordChar)).bind fun token =>
        (tokens? (s.dropWhile isWordChar)).map (token :: ·)
    else
      (structural? c).bind fun token => (tokens? s).map (token :: ·)
termination_by s => s.length

/-! ## Reading tokens

The arrays and objects that are still open are kept on a stack, so documents may nest to any depth
and the reader ends with the tokens.
-/

/-- An array or object that is still open, with what it holds so far, latest first. -/
inductive Frame where
  | array (items : List Json)
  /-- An object whose member `name` is being read. -/
  | object (members : List (Text × Json)) (name : Text)

/-- How far a document has been read inside the frames that enclose the place. -/
inductive Progress where
  /-- A value must come. -/
  | value (outer : List Frame)
  /-- An array has just begun: a first item or its end must come. -/
  | firstItem (outer : List Frame)
  /-- An object has just begun: a first name or its end must come. -/
  | firstName (outer : List Frame)
  /-- A name must come. -/
  | name (members : List (Text × Json)) (outer : List Frame)
  /-- The colon after a name must come. -/
  | colon (members : List (Text × Json)) (name : Text) (outer : List Frame)
  /-- A value has been read. -/
  | complete (value : Json) (outer : List Frame)

namespace Progress

/-- A token where a value must come. -/
def begin? (outer : List Frame) : Token → Option Progress
  | .null => some (.complete .null outer)
  | .bool b => some (.complete (.bool b) outer)
  | .number literal => some (.complete (.number literal) outer)
  | .string text => some (.complete (.string text) outer)
  | .beginArray => some (.firstItem outer)
  | .beginObject => some (.firstName outer)
  | _ => none

/-- One token, if it may come here. -/
def advance? : Progress → Token → Option Progress
  | .value outer, token => begin? outer token
  | .firstItem outer, .endArray => some (.complete (.array []) outer)
  | .firstItem outer, token => begin? (.array [] :: outer) token
  | .firstName outer, .endObject => some (.complete (.object []) outer)
  | .firstName outer, .string key => some (.colon [] key outer)
  | .name members outer, .string key => some (.colon members key outer)
  | .colon members key outer, .colon => some (.value (.object members key :: outer))
  | .complete document (.array items :: outer), .comma =>
    some (.value (.array (document :: items) :: outer))
  | .complete document (.array items :: outer), .endArray =>
    some (.complete (.array (document :: items).reverse) outer)
  | .complete document (.object members key :: outer), .comma =>
    some (.name ((key, document) :: members) outer)
  | .complete document (.object members key :: outer), .endObject =>
    some (.complete (.object ((key, document) :: members).reverse) outer)
  | _, _ => none

end Progress

/-- The document that a text is, with nothing but blanks around it. -/
def read? (s : String) : Option Json := do
  match ← (← tokens? s.toList).foldlM Progress.advance? (.value []) with
  | .complete value [] => return value
  | _ => none

end WarehouseAdmin.Json
