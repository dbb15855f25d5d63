import WarehouseAdmin.Proofs.Identifier.RoundTrip

/-!
# What the text of an identifier says

Names come in many spellings, and `Identifier.text` picks one.  This module asks what can be seen
from the one that is picked.

For identifiers that were read, everything.  The reader takes the types of a signature from pieces,
and their normal forms are pieces too, so what it returns can be read again; two spellings mean the
same if and only if they are written in the same way.

For identifiers that were put together, everything but one thing.  The parts and the argument list
are seen in every text, also in those that cannot be read: `WrittenName.eq_of_text_eq` asks nothing
of the list.  But a list is written with commas between its types, and a type that is no piece can
hold one.  So two lists of types are confused exactly when they are the same text cut in different
places.

## Main statements

* `text_is_canonical` — texts that are read.
* `share_text_iff` — identifiers that have one text.
-/

namespace WarehouseAdmin

open Text (IsBlank)

namespace ArgumentType

/-- The types of a list as they are written, without the parentheses around them. -/
def joined (types : List ArgumentType) : String :=
  ", ".intercalate (types.map (·.text))

theorem toList_joined (types : List ArgumentType) :
    (joined types).toList = Identifier.insideText types := by
  simp [joined, Identifier.insideText, String.toList_intercalate, Function.comp_def]

theorem joined_eq_joined_iff {types types' : List ArgumentType} :
    joined types = joined types' ↔ Identifier.insideText types = Identifier.insideText types' := by
  rw [← String.toList_inj, toList_joined, toList_joined]

/-- No type is empty, so only the empty list leaves nothing between the parentheses. -/
theorem joined_eq_empty_iff {types : List ArgumentType} : joined types = "" ↔ types = [] := by
  constructor
  · intro empty
    cases types with
    | nil => rfl
    | cons t ts =>
        rw [← String.toList_inj, toList_joined, Identifier.insideText, List.map_cons] at empty
        have text : t.text.toList = [] := by
          cases ts with
          | nil => simpa using empty
          | cons u us => simp at empty
        exact absurd (String.toList_inj.mp text) t.ne_empty
  · rintro rfl
    rfl

end ArgumentType

namespace Part

/-- A part can be told from how it is written. -/
theorem written_injective : Function.Injective written :=
  Function.LeftInverse.injective value_written

end Part

namespace Identifier

open ArgumentType (joined joined_eq_joined_iff joined_eq_empty_iff)

variable {a b id : Identifier}

theorem parts_ne_nil (id : Identifier) : id.parts ≠ [] := by
  cases id <;> simp [parts]

/-- The level is the number of parts, and whether arguments count. -/
theorem level_eq_of_parts_of_arguments (parts : a.parts = b.parts)
    (arguments : a.arguments?.isSome = b.arguments?.isSome) : a.level = b.level := by
  cases a <;> cases b <;> simp_all [Identifier.parts, arguments?, level]

/-- An identifier is its parts and the types of its arguments. -/
theorem eq_of_parts_of_arguments (parts : a.parts = b.parts)
    (arguments : a.arguments? = b.arguments?) :
    a = b := by
  rcases a with ⟨⟨_⟩⟩ | ⟨⟨_, _⟩⟩ | ⟨⟨_, _, _⟩⟩ | ⟨⟨_, _, _, _⟩⟩ <;>
    rcases b with ⟨⟨_⟩⟩ | ⟨⟨_, _⟩⟩ | ⟨⟨_, _, _⟩⟩ | ⟨⟨_, _, _, _⟩⟩ <;>
    simp_all [Identifier.parts, arguments?]

/-! ## Texts that are read -/

/-- Whatever was read, the types of its arguments are pieces. -/
theorem isPiece_of_read {s : String} (read : ofText s = .ok id) {types : List ArgumentType}
    (list : id.arguments? = some types) : ∀ t ∈ types, IsPiece t.text.toList := by
  obtain ⟨w, -, -, denotes⟩ := ofText_eq_ok_iff_denotes.mp read
  exact denotes.isPiece list

/-- What was read is read again from how it is written. -/
theorem ofText_text_of_read {s : String} (read : ofText s = .ok id) : ofText id.text = .ok id := by
  rw [ofText_text_iff]
  intro types list
  exact isPiece_of_read read list

/-- **Texts that are read have a canonical form.**

1. The identifier that a text is read as is read again from its own text.
2. So two texts are read as the same identifier if and only if it has the same text both times.
3. This includes signatures, because their types were pieces: each is a text in normal form that is
   not blank, its parentheses are well nested, and no comma stands outside of them. -/
theorem text_is_canonical {s : String} {id : Identifier} (read : ofText s = .ok id) :
    ofText id.text = .ok id ∧
    (∀ s' id', ofText s' = .ok id' → (id = id' ↔ id.text = id'.text)) ∧
    ∀ types, id.arguments? = some types → ∀ t ∈ types,
      ¬ IsBlank t.text.toList ∧ ArgumentType.normalize t.text = t.text ∧
        WellNested t.text.toList ∧ ¬ HasOuterComma t.text.toList := by
  have again := ofText_text_of_read read
  refine ⟨again, ?_, ?_⟩
  · intro s' id' read'
    constructor
    · rintro rfl
      rfl
    · intro same
      have again' := ofText_text_of_read read'
      rw [← same, again] at again'
      exact Except.ok.inj again'
  · intro types list t mem
    obtain ⟨nested, uncut⟩ := isPiece_of_read read list t mem
    refine ⟨?_, t.normal, nested, uncut⟩
    rw [← ArgumentType.normalize_eq_empty_iff, t.normal]
    exact t.ne_empty

/-- Blanks, case and quotes are lost, and what is left is read as the same signature. -/
theorem text_is_canonical_signature :
    let s := " db.\"select\".f ( number(38,  0), varchar)"
    let id : Identifier :=
      SchemaScoped.withArguments ⟨"DB", "select", "F"⟩ ["NUMBER(38, 0)", "VARCHAR"]
    ofText s = .ok id ∧ ofText id.text = .ok id := by
  intro s id
  have read : ofText s = .ok id := by decide +kernel
  exact ⟨read, (text_is_canonical read).1⟩

/-! ## Identifiers that have one text -/

theorem writtenName_eq_iff : writtenName a = writtenName b ↔
    a.parts = b.parts ∧ a.arguments?.map insideText = b.arguments?.map insideText := by
  rw [writtenName, writtenName, WrittenName.mk.injEq,
    (List.map_injective_iff.mpr Part.written_injective).eq_iff]

/-- The parts and what stands in the parentheses are seen in the text. -/
theorem text_eq_text_iff : a.text = b.text ↔
    a.parts = b.parts ∧ a.arguments?.map joined = b.arguments?.map joined := by
  have names : a.text = b.text ↔ writtenName a = writtenName b := by
    rw [← String.toList_inj, ← text_writtenName, ← text_writtenName]
    constructor
    · intro equal
      apply WrittenName.eq_of_text_eq (wellFormed_of_mem_writtenName a)
        (wellFormed_of_mem_writtenName b)
      · simpa [writtenName] using a.parts_ne_nil
      · simpa [writtenName] using b.parts_ne_nil
      · exact equal
    · intro equal
      rw [equal]
  rw [names, writtenName_eq_iff]
  cases a.arguments? <;> cases b.arguments? <;> simp [joined_eq_joined_iff]

/-- Only the empty list is written as nothing, so it is not taken for another one. -/
theorem arguments_eq_of_joined_eq (empty : ∀ types, a.arguments? = some types → types = [])
    (lists : a.arguments?.map joined = b.arguments?.map joined) : a.arguments? = b.arguments? := by
  cases list : a.arguments? with
  | none => simpa [list, eq_comm] using lists
  | some types =>
      obtain rfl := empty types list
      rw [list, Option.map_some, eq_comm, Option.map_eq_some_iff] at lists
      obtain ⟨types', list', nothing⟩ := lists
      rw [list', joined_eq_empty_iff.mp nothing]

/-- **Identifiers share a text exactly when they have the same level, the same parts, and the same
types once these are joined with commas.**

1. So identifiers of different levels never share a text.
2. An identifier without arguments shares its text with no other one.
3. Two different signatures share a text only if they have the same parts, and the same joined types
   cut into different lists. -/
theorem share_text_iff (a b : Identifier) :
    (a.text = b.text ↔ a.level = b.level ∧ a.parts = b.parts ∧
      a.arguments?.map joined = b.arguments?.map joined) ∧
    (a.level ≠ b.level → a.text ≠ b.text) ∧
    ((∀ types, a.arguments? = some types → types = []) → (a.text = b.text ↔ a = b)) ∧
    ∀ types types', a.arguments? = some types → b.arguments? = some types' → a ≠ b →
      a.text = b.text → a.parts = b.parts ∧ joined types = joined types' ∧ types ≠ types' := by
  have levels (same : a.text = b.text) : a.level = b.level := by
    obtain ⟨parts, lists⟩ := text_eq_text_iff.mp same
    apply level_eq_of_parts_of_arguments parts
    simpa using congrArg Option.isSome lists
  refine ⟨?_, mt levels, ?_, ?_⟩
  · constructor
    · intro same
      exact ⟨levels same, text_eq_text_iff.mp same⟩
    · rintro ⟨-, seen⟩
      exact text_eq_text_iff.mpr seen
  · intro empty
    constructor
    · intro same
      obtain ⟨parts, lists⟩ := text_eq_text_iff.mp same
      exact eq_of_parts_of_arguments parts (arguments_eq_of_joined_eq empty lists)
    · rintro rfl
      rfl
  · intro types types' list list' different same
    obtain ⟨parts, lists⟩ := text_eq_text_iff.mp same
    rw [list, list', Option.map_some, Option.map_some, Option.some.injEq] at lists
    refine ⟨parts, lists, ?_⟩
    rintro rfl
    exact different (eq_of_parts_of_arguments parts (list.trans list'.symm))

/-- One type with a comma in it, and two types. -/
example :
    let f : SchemaScoped := ⟨"DB", "S", "F"⟩
    let one : Identifier := f.withArguments ["number(38, 0)"]
    let two : Identifier := f.withArguments ["number(38", "0)"]
    one.text = "DB.S.F(NUMBER(38, 0))" ∧ two.text = one.text ∧ two ≠ one := by
  decide +kernel

end Identifier

end WarehouseAdmin
