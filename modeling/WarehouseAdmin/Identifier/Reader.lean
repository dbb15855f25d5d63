import WarehouseAdmin.Identifier.Basic

/-!
# Reading identifiers

An identifier is written as parts joined by dots, and a signature's argument types stand in
parentheses behind the last part.  A part is either quoted and kept as it is, or a run of characters
without a blank inside it, which is folded to upper case.  Argument types are separated by the
commas that stand outside of inner parentheses.

The text is first read as a `Shape`, whatever its number of parts, and the shape is then fitted to a
depth: to the one the caller asks for, or to the one that the shape itself has.

## Main definitions

* `Identifier.Fault`, `Identifier.Malformed` — why a text is no identifier.
* `Identifier.Shape.ofText` — a text's parts and argument texts.
* `Identifier.ofText` — the identifier that a text is.
* `AccountScoped.ofText`, `DatabaseScoped.ofText`, `SchemaScoped.ofText`, `Signature.ofText` — the
  same at one depth.
-/

namespace WarehouseAdmin

namespace Identifier

/-! ## Faults -/

/-- Why a text is no identifier. -/
inductive Fault where
  | blankText
  | unclosedQuote
  | emptyPart
  /-- An unquoted part with a blank inside it. -/
  | blankInside (part : String)
  /-- A character that neither continues a part nor ends it. -/
  | unexpected (c : Char)
  | unexpectedAfterArguments (c : Char)
  | emptyArgument
  | unclosedArguments
  /-- Arguments behind a name with the wrong number of parts. -/
  | argumentsNeedThreeParts (found : Nat)
  | needsOneToThreeParts (found : Nat)
  | needsParts (expected found : Nat)
  | argumentsNotAllowed
  | argumentsMissing
  deriving DecidableEq

/-- A text that is no identifier, and why. -/
structure Malformed where
  input : String
  fault : Fault
  deriving DecidableEq

def Fault.reason : Fault → String
  | .blankText => "identifier is empty"
  | .unclosedQuote => "unterminated quoted part"
  | .emptyPart => "empty name part"
  | .blankInside part => "unquoted part '" ++ part ++ "' contains whitespace"
  | .unexpected c => "unexpected character '" ++ toString c ++ "'"
  | .unexpectedAfterArguments c =>
    "unexpected character '" ++ toString c ++ "' after argument list"
  | .emptyArgument => "empty argument type"
  | .unclosedArguments => "unbalanced argument list"
  | .argumentsNeedThreeParts found =>
    "argument list requires 3 name parts, found " ++ toString found
  | .needsOneToThreeParts found => "expected 1 to 3 name parts, found " ++ toString found
  | .needsParts expected found =>
    "expected " ++ toString expected ++ " name parts, found " ++ toString found
  | .argumentsNotAllowed => "unexpected argument list"
  | .argumentsMissing => "missing argument list"

def Malformed.reason (e : Malformed) : String :=
  e.fault.reason

def Malformed.message (e : Malformed) : String :=
  "Invalid identifier syntax '" ++ e.input ++ "': " ++ e.reason

/-! ## Parts -/

/-- The characters that an unquoted part is made of. -/
def isPartChar (c : Char) : Bool :=
  c ≠ '.' && c ≠ '(' && c ≠ '"'

/-- An unquoted part from the characters it is made of: blanks around it do not count, and its ASCII
letters are folded to upper case. -/
def unquotedPart (run : List Char) : Except Fault String :=
  let part := Text.trim run
  if part.isEmpty then .error .emptyPart
  else if part.any Text.isBlank then .error (.blankInside (String.ofList part))
  else .ok (String.ofList (part.map Char.toUpper))

/-- Reads one part, and gives what follows it. -/
def readPart : List Char → Except Fault (String × List Char)
  | '"' :: s =>
    match Text.readEnclosed '"' s with
    | none => .error .unclosedQuote
    | some (part, rest) => .ok (String.ofList part, rest)
  | s => (unquotedPart (s.takeWhile isPartChar)).map (·, s.dropWhile isPartChar)

/-- Reading a part leaves no more text than there was. -/
theorem length_le_of_readPart {s rest : List Char} {part : String}
    (h : readPart s = .ok (part, rest)) : rest.length ≤ s.length := by
  unfold readPart at h
  split at h
  next s =>
    split at h
    next => simp at h
    next inside tail hr =>
      have := Text.length_lt_of_readEnclosed hr
      simp only [Except.ok.injEq, Prod.mk.injEq] at h
      simp only [← h.2, List.length_cons]
      omega
  next =>
    simp only [Except.map] at h
    split at h
    next => simp at h
    next =>
      simp only [Except.ok.injEq, Prod.mk.injEq] at h
      rw [← h.2]
      exact (List.dropWhile_sublist _).length_le

/-! ## Arguments -/

/-- Puts a character in front of the first piece. -/
def consHead (c : Char) : List (List Char) × Option (List Char) →
    List (List Char) × Option (List Char)
  | (pieces, rest) => (pieces.modifyHead (c :: ·), rest)

/-- Cuts an argument list at its commas, after its opening parenthesis and `depth` further ones that
are still open.  Gives the pieces and what follows the closing parenthesis, if there is one. -/
def cutArguments (depth : Nat) : List Char → List (List Char) × Option (List Char)
  | [] => ([[]], none)
  | '(' :: s => consHead '(' (cutArguments (depth + 1) s)
  | ')' :: s =>
    match depth with
    | 0 => ([[]], some s)
    | depth + 1 => consHead ')' (cutArguments depth s)
  | ',' :: s =>
    match depth with
    | 0 =>
      let (pieces, rest) := cutArguments 0 s
      ([] :: pieces, rest)
    | depth + 1 => consHead ',' (cutArguments (depth + 1) s)
  | c :: s => consHead c (cutArguments depth s)

/-- Reads an argument list after its opening parenthesis, and gives what follows it.  A blank piece
is a fault unless it is the only one. -/
def readArguments (s : List Char) : Except Fault (List String × List Char) :=
  let (pieces, rest?) := cutArguments 0 s
  let isBlankPiece (piece : List Char) := piece.all Text.isBlank
  if pieces.dropLast.any isBlankPiece then .error .emptyArgument
  else
    match rest? with
    | none => .error .unclosedArguments
    | some rest =>
      match pieces with
      | [piece] => .ok (if isBlankPiece piece then [] else [String.ofList piece], rest)
      | _ =>
        if pieces.any isBlankPiece then .error .emptyArgument
        else .ok (pieces.map String.ofList, rest)

/-! ## Shapes -/

/-- The parts of a written name, and its argument texts if it has an argument list. -/
structure Shape where
  parts : List String
  arguments : Option (List String)
  deriving DecidableEq

/-- Reads the argument list that ends a name. -/
def readSignatureEnd (s : List Char) : Except Fault (List String) :=
  match readArguments s with
  | .error e => .error e
  | .ok (arguments, []) => .ok arguments
  | .ok (_, c :: _) => .error (.unexpectedAfterArguments c)

/-- Reads the parts of a name up to its end. -/
def readParts (s : List Char) : Except Fault Shape :=
  match h : readPart s with
  | .error e => .error e
  | .ok (part, []) => .ok ⟨[part], none⟩
  | .ok (part, '.' :: rest) =>
    have := length_le_of_readPart h
    (readParts rest).map fun shape => ⟨part :: shape.parts, shape.arguments⟩
  | .ok (part, '(' :: rest) => (readSignatureEnd rest).map fun types => ⟨[part], some types⟩
  | .ok (_, c :: _) => .error (.unexpected c)
termination_by s.length

/-- The shape of a written name.  Blanks around it do not count. -/
def Shape.ofText (s : String) : Except Fault Shape :=
  let trimmed := Text.trim s.toList
  if trimmed.isEmpty then .error .blankText else readParts trimmed

/-! ## Shapes fitted to a depth -/

/-- The identifier of a shape, at the depth that the shape has. -/
def ofShape : Shape → Except Fault Identifier
  | ⟨[name], none⟩ => .ok (.account ⟨name⟩)
  | ⟨[db, name], none⟩ => .ok (.database ⟨db, name⟩)
  | ⟨[db, sch, name], none⟩ => .ok (.schema ⟨db, sch, name⟩)
  | ⟨[db, sch, name], some types⟩ =>
    .ok (.signature (SchemaScoped.withArguments ⟨db, sch, name⟩ types))
  | ⟨parts, some _⟩ => .error (.argumentsNeedThreeParts parts.length)
  | ⟨parts, none⟩ => .error (.needsOneToThreeParts parts.length)

/-- Says of which text a fault was found. -/
def blame {α : Type} (input : String) : Except Fault α → Except Malformed α :=
  Except.mapError (⟨input, ·⟩)

/-- The identifier that a text is, at whatever depth. -/
def ofText (s : String) : Except Malformed Identifier :=
  blame s ((Shape.ofText s).bind ofShape)

end Identifier

open Identifier (Shape Malformed blame)

def AccountScoped.ofShape : Shape → Except Identifier.Fault AccountScoped
  | ⟨_, some _⟩ => .error .argumentsNotAllowed
  | ⟨[name], none⟩ => .ok ⟨name⟩
  | ⟨parts, none⟩ => .error (.needsParts 1 parts.length)

def DatabaseScoped.ofShape : Shape → Except Identifier.Fault DatabaseScoped
  | ⟨_, some _⟩ => .error .argumentsNotAllowed
  | ⟨[database, name], none⟩ => .ok ⟨database, name⟩
  | ⟨parts, none⟩ => .error (.needsParts 2 parts.length)

def SchemaScoped.ofShape : Shape → Except Identifier.Fault SchemaScoped
  | ⟨_, some _⟩ => .error .argumentsNotAllowed
  | ⟨[database, schema, name], none⟩ => .ok ⟨database, schema, name⟩
  | ⟨parts, none⟩ => .error (.needsParts 3 parts.length)

def Signature.ofShape : Shape → Except Identifier.Fault Signature
  | ⟨_, none⟩ => .error .argumentsMissing
  | ⟨[database, schema, name], some types⟩ =>
    .ok (SchemaScoped.withArguments ⟨database, schema, name⟩ types)
  | ⟨parts, some _⟩ => .error (.needsParts 3 parts.length)

/-- The name of an object directly in the account that a text is. -/
def AccountScoped.ofText (s : String) : Except Malformed AccountScoped :=
  blame s ((Shape.ofText s).bind AccountScoped.ofShape)

/-- The name of an object directly in a database that a text is. -/
def DatabaseScoped.ofText (s : String) : Except Malformed DatabaseScoped :=
  blame s ((Shape.ofText s).bind DatabaseScoped.ofShape)

/-- The name of an object in a schema that a text is. -/
def SchemaScoped.ofText (s : String) : Except Malformed SchemaScoped :=
  blame s ((Shape.ofText s).bind SchemaScoped.ofShape)

/-- The signature that a text is. -/
def Signature.ofText (s : String) : Except Malformed Signature :=
  blame s ((Shape.ofText s).bind Signature.ofShape)

end WarehouseAdmin
