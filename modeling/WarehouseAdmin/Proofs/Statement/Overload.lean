import WarehouseAdmin.Proofs.Identifier.Origin
import WarehouseAdmin.Proofs.Statement.Dropping

/-!
# The overload that a statement creates

A `CREATE FUNCTION` statement takes the types of its arguments as texts, and no rule looks at them.
The signature of the function is made from these texts: they are brought into normal form, and those
that are blank are left out.  When the signature is written, its types stand behind each other with
commas, and when it is read they are cut there again.

So two things can come between a declared argument and the type in the signature: a type that is
blank is not there, and a type with a comma of its own comes back as two.  Neither can happen
otherwise, and the order is never touched.

## Main statements

* `CreateFunction.signature_names_overload` — the signature, what it is read as, and the drop of it.
* `CreateFunction.signature_of_torn_types` — an accepted statement whose signature has another
  number of types.
-/

namespace WarehouseAdmin

open Described Identifier Text

namespace Signature

variable {texts : List String}

/-- Every text gives a type when none is blank. -/
theorem normalForms_eq_map_iff :
    normalForms texts = texts.map ArgumentType.normalize ↔ ∀ s ∈ texts, ¬ IsBlank s.toList := by
  rw [normalForms, List.filter_eq_self, List.forall_mem_map]
  simp [ArgumentType.normalize_eq_empty_iff]

theorem length_normalForms_eq_iff :
    (normalForms texts).length = texts.length ↔ ∀ s ∈ texts, ¬ IsBlank s.toList := by
  have all : (texts.map ArgumentType.normalize).length = texts.length := List.length_map _
  rw [← normalForms_eq_map_iff, normalForms, List.filter_eq_self, ← all,
    List.length_filter_eq_length_iff]

/-- The normal forms are pieces when the texts are: a blank text is one, though it gives no type. -/
theorem forall_normalForms_isPiece_iff :
    (∀ s ∈ normalForms texts, IsPiece s.toList) ↔ ∀ s ∈ texts, IsPiece s.toList := by
  simp only [normalForms, List.mem_filter, List.mem_map, decide_eq_true_eq]
  constructor
  · intro h s mem
    by_cases blank : IsBlank s.toList
    · exact isPiece_of_isBlank blank
    · exact isPiece_normalize_iff.mp
        (h _ ⟨⟨s, mem, rfl⟩, mt ArgumentType.normalize_eq_empty_iff.mp blank⟩)
  · rintro h _ ⟨⟨s, mem, rfl⟩, -⟩
    exact isPiece_normalize_iff.mpr (h s mem)

/-- A signature is read back when the texts that it keeps are pieces. -/
theorem Keeps.ofText_text_iff {id : Signature} (keeps : id.Keeps texts) :
    Identifier.ofText (id : Identifier).text = .ok (id : Identifier) ↔
      ∀ s ∈ texts, IsPiece s.toList := by
  rw [Identifier.ofText_text_iff, ← forall_normalForms_isPiece_iff, ← keeps, List.forall_mem_map]
  simp [Identifier.arguments?]

end Signature

namespace CreateFunction

/-- The types of the arguments, as they are declared. -/
def dataTypes (statement : CreateFunction) : List String :=
  statement.parameters.map (·.dataType)

theorem keeps_signature (statement : CreateFunction) :
    statement.signature.Keeps statement.dataTypes :=
  Signature.keeps_withArguments statement.name statement.dataTypes

/-- The drop of the function that a statement creates. -/
def undo (statement : CreateFunction) : DropCompute .function :=
  .ofName statement.signature

theorem text_signature (statement : CreateFunction) :
    (statement.signature : Identifier).text = (statement.name : Identifier).text ++ "(" ++
      ", ".intercalate (Signature.normalForms statement.dataTypes) ++ ")" := by
  rw [← statement.keeps_signature, String.append_assoc, String.append_assoc]
  show dotted _ ++ Identifier.argumentList statement.signature.arguments = _
  rw [Identifier.argumentList, String.append_assoc]
  rfl

/-- What an accepted statement creates has a name. -/
theorem isValid_signature (statement : CreateFunction)
    (accepted : (clause statement).validate = .ok ()) :
    (statement.signature : Identifier).isValid := by
  have named :=
    Described.accepted_iff statement |>.mp accepted (.identifier "name") (by simp [layout])
  exact (passes_identifier_iff statement rfl).mp named

/-- **The signature names the overload as far as the types can be told apart.**

1. The signature has the name of the function, and its types are the normal forms of the declared
   ones, in order and without the blank ones.
2. So there is one type for each argument if and only if no declared type is blank.
3. The text of the signature is read as the signature if and only if in each declared type the
   parentheses are well nested and no comma stands outside of them.
4. If the statement is accepted, so is the drop of what it creates, and it is written with these
   types. -/
theorem signature_names_overload (statement : CreateFunction) :
    statement.signature.base = statement.name ∧
    statement.signature.arguments.map (·.text) = Signature.normalForms statement.dataTypes ∧
    (statement.signature.arguments.map (·.text) = statement.dataTypes.map ArgumentType.normalize ↔
      ∀ type ∈ statement.dataTypes, ¬ IsBlank type.toList) ∧
    (statement.signature.arguments.length = statement.parameters.length ↔
      ∀ type ∈ statement.dataTypes, ¬ IsBlank type.toList) ∧
    (ofText (statement.signature : Identifier).text = .ok (statement.signature : Identifier) ↔
      ∀ type ∈ statement.dataTypes, WellNested type.toList ∧ ¬ HasOuterComma type.toList) ∧
    ((clause statement).validate = .ok () →
      ∀ {κ : Type} (client : Client κ), 1 ≤ client.nestingLimit →
      client.prepare (clause statement.undo) = .ok ("DROP FUNCTION " ++
        (statement.name : Identifier).text ++ "(" ++
          ", ".intercalate (Signature.normalForms statement.dataTypes) ++ ")")) := by
  have keeps := statement.keeps_signature
  refine ⟨rfl, keeps, ?_, ?_, keeps.ofText_text_iff, ?_⟩
  · rw [keeps]
    exact Signature.normalForms_eq_map_iff
  · have kept : statement.signature.arguments.length =
        (Signature.normalForms statement.dataTypes).length := by
      rw [← keeps, List.length_map]
    have declared : statement.parameters.length = statement.dataTypes.length :=
      (List.length_map _).symm
    rw [kept, declared]
    exact Signature.length_normalForms_eq_iff
  · intro accepted κ client room
    have prepared : client.prepare (Drop.compute statement.undo).clause =
        .ok (" ".intercalate ["DROP FUNCTION", (statement.signature : Identifier).text]) :=
      Drop.prepare_eq_ok_iff.mpr ⟨statement.isValid_signature accepted, Nat.zero_le 1, room, rfl⟩
    have text : " ".intercalate ["DROP FUNCTION", (statement.signature : Identifier).text] =
        "DROP FUNCTION " ++ (statement.name : Identifier).text ++ "(" ++
          ", ".intercalate (Signature.normalForms statement.dataTypes) ++ ")" := by
      rw [String.intercalate_cons_cons, String.intercalate_singleton, text_signature]
      simp [String.append_assoc]
    rw [← text]
    exact prepared

/-- A statement declares two types, one of them blank and the other with a comma of its own.  It is
accepted, its signature has one type, and the text of the signature is not read as the signature. -/
theorem signature_of_torn_types :
    let statement := (((ofName ⟨"DB", "S", "F"⟩ "VARCHAR").withBody "1").withParameter
      (.ofName "A" " ")).withParameter (.ofName "B" "X, Y")
    (clause statement).validate = .ok () ∧ statement.parameters.length = 2 ∧
      statement.signature.arguments.map (·.text) = ["X, Y"] ∧
      (statement.signature : Identifier).text = "DB.S.F(X, Y)" ∧
      ofText "DB.S.F(X, Y)" =
        .ok (SchemaScoped.withArguments ⟨"DB", "S", "F"⟩ ["X", "Y"] : Identifier) ∧
      (SchemaScoped.withArguments ⟨"DB", "S", "F"⟩ ["X", "Y"] : Identifier) ≠
        statement.signature := by
  decide +kernel

end CreateFunction

end WarehouseAdmin
