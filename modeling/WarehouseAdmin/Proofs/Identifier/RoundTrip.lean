import WarehouseAdmin.Proofs.Identifier.Basic
import WarehouseAdmin.Proofs.Identifier.Reading

/-!
# Reading what identifiers are written as

An identifier is written in one way, and `writtenName` is that way taken apart.  So whether it can
be read again is a question about the grammar only.  Parts never are a problem: a plain part is a
word in upper case, and everything else is quoted.  Argument types are written as they are, and a
type that is not a piece is torn apart or runs into its neighbours.

For the failure no search through the other readings is needed.  Every reading of the text takes its
types from pieces, and the normal form of a piece is a piece (`isPiece_normalize_iff`), because it
keeps all parentheses and commas.  A type that is not a piece is therefore in no reading at all.

## Main statements

* `ofText_text_iff` — an identifier is read back exactly when its argument types are pieces.
* `ofText_text_round_trip` — the same by level, for every name and every list of argument texts.
-/

namespace WarehouseAdmin

open Text (IsBlank IsWord)

/-! ## Parts as they are written -/

namespace Part

open Identifier (WrittenPart isPartChar)

/-- A plain part stands for itself, and any other part stands in quotes. -/
def written (part : String) : WrittenPart :=
  if isPlain part then .unquoted part.toList else .quoted part.toList

theorem text_written (part : String) : (written part).text = (write part).toList := by
  unfold written write
  split <;> simp [WrittenPart.text]

theorem isPartChar_of_continuesPlain {c : Char} (h : continuesPlain c = true) :
    isPartChar c = true := by
  have code := toNat_of_continuesPlain h
  simp only [isPartChar, ne_eq, Bool.and_eq_true, decide_eq_true_eq]
  refine ⟨⟨?_, ?_⟩, ?_⟩ <;> rintro rfl <;> revert code <;> decide

theorem wellFormed_written (part : String) : (written part).WellFormed := by
  unfold written
  split
  next plain =>
    refine ⟨fun c hc => isPartChar_of_continuesPlain (continuesPlain_of_mem plain c hc), ?_⟩
    rw [(isWord_of_isPlain plain).trim_eq]
    exact isWord_of_isPlain plain
  next => trivial

/-- **A written part means the part.** -/
theorem value_written (part : String) : (written part).value = part := by
  unfold written
  split
  next plain =>
    have fixed : part.toList.map Char.toUpper = part.toList.map id :=
      List.map_congr_left fun c hc => toUpper_of_continuesPlain (continuesPlain_of_mem plain c hc)
    rw [WrittenPart.value, (isWord_of_isPlain plain).trim_eq, fixed]
    simp
  next => simp [WrittenPart.value]

end Part

namespace Identifier

/-! ## Types as they are written -/

/-- The characters that decide whether a text is a piece. -/
def isStructural (c : Char) : Bool :=
  c = '(' || c = ')' || c = ','

/-- Any other character leaves the parentheses as they are. -/
theorem moves_of_not_isStructural {c : Char} (h : isStructural c = false) (d : Nat) :
    Moves d c d := by
  simp only [isStructural, Bool.or_eq_false_iff, decide_eq_false_iff_not] at h
  exact ⟨by simp [h], fun comma => absurd comma h.2⟩

theorem pieceFrom_filter {d : Nat} {s : List Char} :
    PieceFrom d (s.filter isStructural) ↔ PieceFrom d s := by
  induction s generalizing d with
  | nil => rfl
  | cons c s ih =>
      cases hc : isStructural c with
      | false =>
          rw [List.filter_cons_of_neg (by simp [hc]), ih]
          exact (pieceFrom_cons (moves_of_not_isStructural hc d)).symm
      | true =>
          rw [List.filter_cons_of_pos hc]
          -- A character that does not move ends the piece on both sides.
          by_cases inside : ∃ d', Moves d c d'
          · obtain ⟨d', moves⟩ := inside
            rw [pieceFrom_cons moves, pieceFrom_cons moves, ih]
          · exact iff_of_false (mt PieceFrom.exists_moves inside) (mt PieceFrom.exists_moves inside)

theorem toNat_of_isStructural {c : Char} (h : isStructural c = true) :
    c.toNat = 40 ∨ c.toNat = 41 ∨ c.toNat = 44 := by
  simp only [isStructural, Bool.or_eq_true, decide_eq_true_eq] at h
  rcases h with (rfl | rfl) | rfl <;> decide

theorem isStructural_of_isBlank {c : Char} (blank : Text.isBlank c = true) :
    isStructural c = false := by
  rw [Bool.eq_false_iff]
  intro h
  have code := toNat_of_isStructural h
  rw [Text.isBlank_of_visible (by omega)] at blank
  exact absurd blank (by decide)

theorem toUpper_of_isStructural {c : Char} (h : isStructural c = true) : c.toUpper = c := by
  have code := toNat_of_isStructural h
  exact Text.toUpper_of_not_small (by omega)

/-- A structural character is no letter, so it is not the upper case of anything else. -/
theorem isStructural_toUpper (c : Char) : isStructural c.toUpper = isStructural c := by
  rw [Bool.eq_iff_iff]
  constructor
  · intro h
    have noLetter : ¬ (97 ≤ c.toNat ∧ c.toNat ≤ 122) := by
      intro letter
      have code := toNat_of_isStructural h
      rw [Text.toNat_toUpper, if_pos letter] at code
      omega
    rwa [Text.toUpper_of_not_small noLetter] at h
  · intro h
    rwa [toUpper_of_isStructural h]

/-- **Normal forms keep the pieces.**  A text and its normal form have the same parentheses and
commas, in the same order. -/
theorem isPiece_normalize_iff {s : String} :
    IsPiece (ArgumentType.normalize s).toList ↔ IsPiece s.toList := by
  have same := ArgumentType.filter_normalize (fun _ => isStructural_of_isBlank)
    isStructural_toUpper (fun _ => toUpper_of_isStructural) s
  rw [← pieceFrom_zero_iff, ← pieceFrom_zero_iff, ← pieceFrom_filter, same, pieceFrom_filter]

/-- What is written between the parentheses of an argument list. -/
def insideText (types : List ArgumentType) : List Char :=
  [',', ' '].intercalate (types.map (·.text.toList))

theorem toList_argumentList (types : List ArgumentType) :
    (argumentList types).toList = WrittenName.ending (some (insideText types)) := by
  simp [argumentList, insideText, WrittenName.ending, String.toList_intercalate, Function.comp_def]

/-- The pieces of a written argument list: the space behind a comma is in front of the next type. -/
def writtenPieces : List ArgumentType → List (List Char)
  | [] => []
  | t :: ts => t.text.toList :: ts.map (' ' :: ·.text.toList)

theorem intercalate_writtenPieces (types : List ArgumentType) :
    [','].intercalate (writtenPieces types) = insideText types := by
  have step (s : List Char) (ts : List ArgumentType) :
      [','].intercalate (s :: ts.map (' ' :: ·.text.toList)) =
        [',', ' '].intercalate (s :: ts.map (·.text.toList)) := by
    induction ts generalizing s with
    | nil => simp
    | cons t ts ih =>
        -- The space goes over from the separator to the piece behind it.
        have tail := ih (' ' :: t.text.toList)
        have spaced : [',', ' '].intercalate ((' ' :: t.text.toList) :: ts.map (·.text.toList)) =
            ' ' :: [',', ' '].intercalate (t.text.toList :: ts.map (·.text.toList)) := by
          cases ts <;> simp
        rw [List.map_cons, List.map_cons, List.intercalate_cons_cons, List.intercalate_cons_cons,
          tail, spaced]
        simp
  cases types with
  | nil => rfl
  | cons t ts => exact step t.text.toList ts

theorem isPiece_cons_space {s : List Char} : IsPiece (' ' :: s) ↔ IsPiece s := by
  rw [← pieceFrom_zero_iff, ← pieceFrom_zero_iff]
  exact pieceFrom_cons (moves_of_not_isStructural (by decide) 0)

/-- Types are not blank, with or without a space in front of them. -/
theorem not_isBlank_of_mem_writtenPieces {types : List ArgumentType} :
    ∀ p ∈ writtenPieces types, ¬ IsBlank p := by
  have filled (t : ArgumentType) : ¬ IsBlank t.text.toList := by
    rw [← ArgumentType.normalize_eq_empty_iff, t.normal]
    exact t.ne_empty
  cases types with
  | nil => simp [writtenPieces]
  | cons t ts =>
      simp only [writtenPieces, List.mem_cons, List.mem_map]
      rintro p (rfl | ⟨u, -, rfl⟩) blank
      · exact filled t blank
      · exact filled u fun c hc => blank c (by simp [hc])

/-- The pieces of a written argument list have the types that were written as their normal forms. -/
theorem map_normalize_writtenPieces (types : List ArgumentType) :
    ((writtenPieces types).map String.ofList).map ArgumentType.normalize = types.map (·.text) := by
  have spaced (u : ArgumentType) :
      ArgumentType.normalize (String.ofList (' ' :: u.text.toList)) = u.text := by
    rw [ArgumentType.normalize_cons_blank (by decide), String.ofList_toList, u.normal]
  cases types with
  | nil => rfl
  | cons t ts =>
      rw [writtenPieces, List.map_cons, List.map_cons, List.map_cons, List.map_map, List.map_map,
        String.ofList_toList, t.normal]
      exact congrArg (t.text :: ·) (List.map_congr_left fun u _ => spaced u)

theorem argumentTexts_insideText {types : List ArgumentType}
    (h : ∀ t ∈ types, IsPiece t.text.toList) :
    ArgumentTexts (insideText types) ((writtenPieces types).map String.ofList) := by
  cases types with
  | nil => exact Or.inl ⟨by simp [insideText, IsBlank], rfl⟩
  | cons t ts =>
      refine Or.inr ⟨writtenPieces (t :: ts),
        ⟨intercalate_writtenPieces _, by simp [writtenPieces], ?_⟩,
        not_isBlank_of_mem_writtenPieces, rfl⟩
      simp only [writtenPieces, List.mem_cons, List.mem_map]
      rintro p (rfl | ⟨u, hu, rfl⟩)
      · exact h t (by simp)
      · exact isPiece_cons_space.mpr (h u (by simp [hu]))

/-- A text of an argument list is a piece. -/
theorem ArgumentTexts.isPiece {inside : List Char} {texts : List String}
    (h : ArgumentTexts inside texts) : ∀ t ∈ texts, IsPiece t.toList := by
  rcases h with ⟨-, rfl⟩ | ⟨pieces, cut, -, rfl⟩
  · simp
  · simpa using cut.isPiece

/-! ## Identifiers as they are written -/

/-- The text of an identifier, taken apart. -/
def writtenName (id : Identifier) : WrittenName :=
  ⟨id.parts.map Part.written, id.arguments?.map insideText⟩

theorem text_writtenName (id : Identifier) : (writtenName id).text = id.text.toList := by
  have parts :
      (id.parts.map Part.written).map (·.text) = (id.parts.map Part.write).map String.toList := by
    simp [Part.text_written]
  have front :
      (dotted id.parts).toList = ['.'].intercalate ((writtenName id).parts.map (·.text)) := by
    rw [writtenName, parts, dotted, String.toList_intercalate]
    rfl
  rw [WrittenName.text, ← front, writtenName, Identifier.text]
  cases id.arguments? with
  | none => simp [WrittenName.ending]
  | some types => simp [toList_argumentList]

/-- A text that is not empty and has no blank at its ends. -/
structure HasSolidEnds (s : List Char) : Prop where
  ne_nil : s ≠ []
  first : ∀ c ∈ s.head?, Text.isBlank c = false
  last : ∀ c ∈ s.getLast?, Text.isBlank c = false

theorem HasSolidEnds.append {s t : List Char} (hs : HasSolidEnds s) (ht : HasSolidEnds t)
    (m : List Char) : HasSolidEnds (s ++ m ++ t) := by
  refine ⟨by simp [hs.ne_nil], ?_, ?_⟩
  · rw [List.append_assoc, List.head?_append_of_ne_nil _ hs.ne_nil]
    exact hs.first
  · rw [List.getLast?_append_of_ne_nil _ ht.ne_nil]
    exact ht.last

/-- What stands between two characters that are not blank. -/
theorem hasSolidEnds_between {c d : Char} (hc : Text.isBlank c = false)
    (hd : Text.isBlank d = false) (m : List Char) : HasSolidEnds (c :: m ++ [d]) := by
  refine ⟨by simp, ?_, ?_⟩
  · rw [List.cons_append, List.head?_cons]
    rintro e ⟨⟩
    exact hc
  · rw [List.getLast?_concat]
    rintro e ⟨⟩
    exact hd

theorem hasSolidEnds_written (part : String) : HasSolidEnds (Part.written part).text := by
  unfold Part.written
  split
  next plain =>
    have word := Part.isWord_of_isPlain plain
    exact ⟨word.1, fun c hc => word.2 c (List.mem_of_mem_head? hc),
      fun c hc => word.2 c (List.mem_of_mem_getLast? hc)⟩
  next => exact hasSolidEnds_between (by decide) (by decide) _

/-- Parts joined by dots begin with the first and end with the last of them. -/
theorem hasSolidEnds_dotted {parts : List String} (ne : parts ≠ []) :
    HasSolidEnds (['.'].intercalate ((parts.map Part.written).map (·.text))) := by
  induction parts with
  | nil => exact absurd rfl ne
  | cons p ps ih =>
      cases ps with
      | nil => simpa using hasSolidEnds_written p
      | cons q ps =>
          have tail := ih (by simp)
          simpa using (hasSolidEnds_written p).append tail ['.']

/-- The text of an identifier has no blank at its ends, so trimming does not touch it. -/
theorem hasSolidEnds_text (id : Identifier) : HasSolidEnds id.text.toList := by
  have ne : id.parts ≠ [] := by cases id <;> simp [parts]
  have front := hasSolidEnds_dotted ne
  rw [← text_writtenName, WrittenName.text, writtenName]
  cases id.arguments? with
  | none => simpa [WrittenName.ending] using front
  | some types =>
      have list : HasSolidEnds (WrittenName.ending (some (insideText types))) :=
        hasSolidEnds_between (by decide) (by decide) _
      simpa using front.append list []

theorem text_ne_empty (id : Identifier) : id.text ≠ "" := by
  simpa using (hasSolidEnds_text id).ne_nil

theorem trim_text (id : Identifier) : Text.trim id.text.toList = id.text.toList :=
  Text.trim_eq_self (hasSolidEnds_text id).first (hasSolidEnds_text id).last

/-! ## Reading written identifiers -/

theorem wellFormed_of_mem_writtenName (id : Identifier) :
    ∀ p ∈ (writtenName id).parts, p.WellFormed := by
  intro p hp
  obtain ⟨part, -, rfl⟩ := List.mem_map.mp hp
  exact Part.wellFormed_written part

/-- An identifier is denoted by what it is written as, if its types can be told apart. -/
theorem denotes_writtenName {id : Identifier}
    (h : ∀ types, id.arguments? = some types → ∀ t ∈ types, IsPiece t.text.toList) :
    (writtenName id).Denotes id := by
  have values : id.parts.map (WrittenPart.value ∘ Part.written) = id.parts.map fun part => part :=
    List.map_congr_left fun part _ => Part.value_written part
  refine ⟨by rw [writtenName, List.map_map, values, List.map_id'], ?_⟩
  unfold writtenName
  cases list : id.arguments? with
  | none => exact .none
  | some types =>
      exact .some ⟨_, argumentTexts_insideText (h types list),
        (map_normalize_writtenPieces types).symm⟩

/-- The types of an identifier that was read are pieces. -/
theorem WrittenName.Denotes.isPiece {w : WrittenName} {id : Identifier} (d : w.Denotes id)
    {types : List ArgumentType} (list : id.arguments? = some types) :
    ∀ t ∈ types, IsPiece t.text.toList := by
  have arguments := d.arguments
  rw [list] at arguments
  obtain ⟨a, b⟩ := w
  cases arguments with
  | some h =>
      obtain ⟨texts, htexts, names⟩ := h
      -- Whatever text was read, its types are the normal forms of pieces.
      intro t ht
      have : t.text ∈ texts.map ArgumentType.normalize := by
        rw [← names]
        exact List.mem_map_of_mem ht
      obtain ⟨u, hu, hn⟩ := List.mem_map.mp this
      rw [← hn]
      exact isPiece_normalize_iff.mpr (htexts.isPiece u hu)

/-- **An identifier is read back exactly when its argument types are pieces.** -/
theorem ofText_text_iff (id : Identifier) :
    ofText id.text = .ok id ↔
      ∀ types, id.arguments? = some types → ∀ t ∈ types, IsPiece t.text.toList := by
  rw [ofText_eq_ok_iff_denotes]
  constructor
  · rintro ⟨w, -, -, denotes⟩ types list
    exact denotes.isPiece list
  · intro h
    have denotes := denotes_writtenName h
    refine ⟨writtenName id, denotes.wellFormed (wellFormed_of_mem_writtenName id), ?_, denotes⟩
    rw [text_writtenName, trim_text]

/-- **The round trip of identifiers.**

1. An identifier without a signature is read back from its text, whatever its parts are.
2. A signature that was put together from any parts and any argument texts is read back exactly when
   the parentheses of each stored type are well nested and no comma stands outside of them.
3. Every other signature is not read at all or is read as a different identifier. -/
theorem ofText_text_round_trip :
    (∀ id : AccountScoped, ofText (Identifier.text id) = .ok id) ∧
    (∀ id : DatabaseScoped, ofText (Identifier.text id) = .ok id) ∧
    (∀ id : SchemaScoped, ofText (Identifier.text id) = .ok id) ∧
    ∀ (base : SchemaScoped) (texts : List String),
      let id : Identifier := base.withArguments texts
      let separable := ∀ t ∈ (base.withArguments texts).arguments,
        WellNested t.text.toList ∧ ¬ HasOuterComma t.text.toList
      (ofText id.text = .ok id ↔ separable) ∧
        (¬ separable → (∃ e, ofText id.text = .error e) ∨
          ∃ id', id' ≠ id ∧ ofText id.text = .ok id') := by
  refine ⟨fun id => (ofText_text_iff _).mpr (by simp [arguments?]),
    fun id => (ofText_text_iff _).mpr (by simp [arguments?]),
    fun id => (ofText_text_iff _).mpr (by simp [arguments?]), fun base texts => ?_⟩
  intro id separable
  have exact : ofText id.text = .ok id ↔ separable := by
    rw [ofText_text_iff]
    constructor
    · intro h
      exact h _ rfl
    · rintro h types list
      obtain rfl := Option.some.inj list
      exact h
  refine ⟨exact, fun torn => ?_⟩
  cases read : ofText id.text with
  | error e => exact Or.inl ⟨e, rfl⟩
  | ok id' =>
      refine Or.inr ⟨id', ?_, rfl⟩
      rintro rfl
      exact torn (exact.mp read)

end Identifier

end WarehouseAdmin
