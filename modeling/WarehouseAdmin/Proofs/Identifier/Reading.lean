import WarehouseAdmin.Proofs.Identifier.Grammar
import Mathlib.Data.List.TakeWhile

/-!
# Reading identifiers is what the grammar says

The readers are related to the grammar one at a time, from the inside out.  Each gets one equation
of the form "it succeeds with this result exactly when the input is this text and the remainder that
follows it", and the next reader uses the equation as it stands.  Nothing is said about the faults
of the inner readers: a text that the grammar rejects has no result, and what has no result has a
fault.

## Main statements

* `readPart_eq_ok_iff`, `readArguments_eq_ok_iff`, `readSignatureEnd_eq_ok_iff` — the inner readers.
* `exists_writtenName_of_readParts`, `readParts_text` — the reader of names, in both directions.
* `ofText_eq_ok_iff_denotes`, `ofText_accepts_exactly_the_grammar` — the reader of identifiers.
-/

namespace WarehouseAdmin.Identifier

open Text (IsBlank IsWord)

/-! ## Reading parts -/

/-- An unquoted part is a word between blanks, folded to upper case. -/
theorem unquotedPart_eq_ok_iff {run : List Char} {part : String} :
    unquotedPart run = .ok part ↔
      IsWord (Text.trim run) ∧ part = String.ofList ((Text.trim run).map Char.toUpper) := by
  unfold unquotedPart
  dsimp only
  split
  next empty =>
    have : Text.trim run = [] := by simpa using empty
    simp [IsWord, this]
  next nonempty =>
    split
    next blank =>
      obtain ⟨c, hc, hb⟩ := List.any_eq_true.mp blank
      constructor
      · intro h
        simp at h
      · rintro ⟨word, -⟩
        exact absurd hb (by simp [word.2 c hc])
    next noBlank =>
      have word : IsWord (Text.trim run) :=
        ⟨by simpa using nonempty, by simpa using noBlank⟩
      simp [word, eq_comm]

/-- A quote opens a quoted part. -/
theorem readPart_quote (s : List Char) :
    readPart ('"' :: s) =
      match Text.readEnclosed '"' s with
      | none => .error .unclosedQuote
      | some (part, rest) => .ok (String.ofList part, rest) := rfl

/-- Anything else begins an unquoted part. -/
theorem readPart_of_head_ne {s : List Char} (h : s.head? ≠ some '"') :
    readPart s = (unquotedPart (s.takeWhile isPartChar)).map (·, s.dropWhile isPartChar) := by
  rw [readPart]
  rintro t rfl
  exact h rfl

/-- A well formed unquoted part does not begin with a quote. -/
theorem WrittenPart.head?_ne_quote {run rest : List Char}
    (h : (WrittenPart.unquoted run).WellFormed) :
    (run ++ rest).head? ≠ some '"' := by
  cases run with
  | nil => exact absurd rfl (ne_nil_of_trim_ne_nil h.2.1)
  | cons c run =>
      intro first
      have := h.1 c (by simp)
      rw [Option.some.inj first] at this
      exact absurd this (by decide)

/-- **Reading a part** succeeds exactly on a well formed part that ends where the remainder begins.
-/
theorem readPart_eq_ok_iff {s rest : List Char} {part : String} :
    readPart s = .ok (part, rest) ↔
      ∃ p : WrittenPart, p.WellFormed ∧ p.EndsBefore rest ∧ s = p.text ++ rest ∧
        p.value = part := by
  constructor
  · intro h
    by_cases quote : s.head? = some '"'
    · obtain ⟨t, rfl⟩ := List.head?_eq_some_iff.mp quote
      rw [readPart_quote] at h
      split at h
      next => simp at h
      next inside tail read =>
        obtain ⟨rfl, rfl⟩ := Prod.mk.inj (Except.ok.inj h)
        obtain ⟨rfl, ends⟩ := Text.readEnclosed_eq_some_iff.mp read
        exact ⟨.quoted inside, trivial, ends, by simp [WrittenPart.text], rfl⟩
    · rw [readPart_of_head_ne quote] at h
      cases read : unquotedPart (s.takeWhile isPartChar) with
      | error fault => simp [read, Except.map] at h
      | ok value =>
          rw [read] at h
          obtain ⟨rfl, rfl⟩ := Prod.mk.inj (Except.ok.inj h)
          obtain ⟨word, rfl⟩ := unquotedPart_eq_ok_iff.mp read
          exact ⟨.unquoted (s.takeWhile isPartChar), ⟨fun c hc => List.mem_takeWhile_imp hc, word⟩,
            Text.eq_false_of_mem_head?_dropWhile, List.takeWhile_append_dropWhile.symm, rfl⟩
  · rintro ⟨p, wf, ends, rfl, rfl⟩
    cases p with
    | quoted inside =>
        have read := Text.readEnclosed_double ends inside
        simp [WrittenPart.text, readPart_quote, read, WrittenPart.value]
    | unquoted run =>
        obtain ⟨runs, rests⟩ := Text.takeWhile_and_dropWhile_append wf.1 ends
        have read := unquotedPart_eq_ok_iff.mpr ⟨wf.2, rfl⟩
        rw [WrittenPart.text, readPart_of_head_ne (WrittenPart.head?_ne_quote wf), runs, rests,
          read]
        rfl

theorem readPart_append {p : WrittenPart} {rest : List Char} (wf : p.WellFormed)
    (ends : p.EndsBefore rest) : readPart (p.text ++ rest) = .ok (p.value, rest) :=
  readPart_eq_ok_iff.mpr ⟨p, wf, ends, rfl, rfl⟩

/-! ## Reading argument lists -/

/-- **Reading an argument list** succeeds exactly on what stands before the parenthesis that closes
it. -/
theorem readArguments_eq_ok_iff {s rest : List Char} {texts : List String} :
    readArguments s = .ok (texts, rest) ↔
      ∃ inside, ArgumentTexts inside texts ∧ s = inside ++ ')' :: rest := by
  constructor
  · intro h
    rcases hcut : cutArguments 0 s with ⟨pieces, rest?⟩
    simp only [readArguments, hcut] at h
    split at h
    next => simp at h
    next front =>
      cases rest? with
      | none => simp at h
      | some tail =>
          obtain ⟨inside, cut, rfl⟩ := cutArguments_eq_some_iff.mp hcut
          dsimp only at h
          split at h
          next piece =>
            obtain rfl : piece = inside := by simpa using cut.joined
            obtain ⟨htexts, rfl⟩ := Prod.mk.inj (Except.ok.inj h)
            refine ⟨piece, ?_, rfl⟩
            by_cases blank : IsBlank piece
            · rw [if_pos (Text.all_isBlank_iff.mpr blank)] at htexts
              exact Or.inl ⟨blank, htexts.symm⟩
            · rw [if_neg (mt Text.all_isBlank_iff.mp blank)] at htexts
              exact Or.inr ⟨[piece], cut, by simpa using blank, by simpa using htexts.symm⟩
          next =>
            split at h
            next => simp at h
            next filled =>
              obtain ⟨rfl, rfl⟩ := Prod.mk.inj (Except.ok.inj h)
              refine ⟨inside, Or.inr ⟨pieces, cut, fun p hp blank => filled ?_, rfl⟩, rfl⟩
              exact List.any_eq_true.mpr ⟨p, hp, Text.all_isBlank_iff.mpr blank⟩
  · rintro ⟨inside, ⟨blank, rfl⟩ | ⟨pieces, cut, filled, rfl⟩, rfl⟩
    · have hcut := (isCut_singleton_of_isBlank blank).cutArguments_eq rest
      simp [readArguments, hcut, Text.all_isBlank_iff.mpr blank]
    · have hcut := cut.cutArguments_eq rest
      have all (ps : List (List Char)) (sub : ps ⊆ pieces) :
          ps.any (·.all Text.isBlank) = false := by
        refine List.any_eq_false.mpr fun p hp blank => ?_
        exact filled p (sub hp) (Text.all_isBlank_iff.mp blank)
      have front := all pieces.dropLast (List.dropLast_subset pieces)
      simp only [readArguments, hcut, front, Bool.false_eq_true, if_false]
      split
      next piece =>
        have := all [piece] (List.Subset.refl _)
        simp at this
        simp [this]
      next => simp [all pieces (List.Subset.refl _)]

/-- A signature ends with the parenthesis that closes its arguments. -/
theorem readSignatureEnd_eq_ok_iff {s : List Char} {texts : List String} :
    readSignatureEnd s = .ok texts ↔
      ∃ inside, ArgumentTexts inside texts ∧ s = inside ++ [')'] := by
  rw [← readArguments_eq_ok_iff, readSignatureEnd]
  split <;> simp_all

/-! ## Reading names -/

/-- A shape that a decomposition has: the values of its parts and the texts of its arguments. -/
structure WrittenName.HasShape (w : WrittenName) (shape : Shape) : Prop where
  parts : shape.parts = w.parts.map (·.value)
  arguments : Option.Rel ArgumentTexts w.arguments shape.arguments

/-- One step of reading a name: a part, and then what the character behind it announces. -/
theorem readParts_eq (s : List Char) :
    readParts s =
      match readPart s with
      | .error e => .error e
      | .ok (part, []) => .ok ⟨[part], none⟩
      | .ok (part, '.' :: rest) =>
        (readParts rest).map fun shape => ⟨part :: shape.parts, shape.arguments⟩
      | .ok (part, '(' :: rest) => (readSignatureEnd rest).map fun types => ⟨[part], some types⟩
      | .ok (_, c :: _) => .error (.unexpected c) := by
  rw [readParts]
  split <;> simp_all

/-- What the reader makes of a text is the shape of one of its decompositions. -/
theorem exists_writtenName_of_readParts {s : List Char} {shape : Shape}
    (h : readParts s = .ok shape) :
    ∃ w : WrittenName, (∀ p ∈ w.parts, p.WellFormed) ∧ w.parts ≠ [] ∧ w.text = s ∧
      w.HasShape shape := by
  -- The text behind a dot is shorter, so the induction is on the length.
  induction hn : s.length using Nat.strongRecOn generalizing s shape with
  | ind n ih =>
      rw [readParts_eq] at h
      split at h
      next => simp at h
      next part read =>
        obtain rfl := Except.ok.inj h
        obtain ⟨p, wf, -, rfl, rfl⟩ := readPart_eq_ok_iff.mp read
        exact ⟨⟨[p], none⟩, by simpa using wf, by simp, WrittenName.text_cons p [] none, rfl, .none⟩
      next part rest read =>
        obtain ⟨p, wf, -, rfl, rfl⟩ := readPart_eq_ok_iff.mp read
        cases tail : readParts rest with
        | error e => simp [tail, Except.map] at h
        | ok shape' =>
            rw [tail] at h
            obtain rfl := Except.ok.inj h
            obtain ⟨⟨ps, a⟩, wfs, ne, rfl, parts, arguments⟩ :=
              ih rest.length (by simp at hn; omega) tail rfl
            obtain ⟨q, qs, rfl⟩ := List.exists_cons_of_ne_nil ne
            refine ⟨⟨p :: q :: qs, a⟩, by simpa using ⟨wf, by simpa using wfs⟩, by simp, ?_, ?_,
              arguments⟩
            · rw [WrittenName.text_cons, WrittenName.text_cons, WrittenName.remainder]
            · simp [parts]
      next part rest read =>
        obtain ⟨p, wf, -, rfl, rfl⟩ := readPart_eq_ok_iff.mp read
        cases list : readSignatureEnd rest with
        | error e => simp [list, Except.map] at h
        | ok texts =>
            rw [list] at h
            obtain rfl := Except.ok.inj h
            obtain ⟨inside, htexts, rfl⟩ := readSignatureEnd_eq_ok_iff.mp list
            exact ⟨⟨[p], some inside⟩, by simpa using wf, by simp,
              WrittenName.text_cons p [] (some inside), rfl, .some htexts⟩
      next => simp at h

/-- Every decomposition is read as its shape. -/
theorem readParts_text {w : WrittenName} {shape : Shape} (wf : ∀ p ∈ w.parts, p.WellFormed)
    (ne : w.parts ≠ []) (h : w.HasShape shape) : readParts w.text = .ok shape := by
  obtain ⟨ps, a⟩ := w
  obtain ⟨values, texts⟩ := shape
  obtain ⟨rfl : values = _, arguments⟩ := h
  obtain ⟨p, ps, rfl⟩ := List.exists_cons_of_ne_nil ne
  dsimp only at arguments wf
  induction ps generalizing p with
  | nil =>
      rw [WrittenName.text_cons, readParts_eq,
        readPart_append (wf p (by simp)) (WrittenName.endsBefore_remainder p a [])]
      cases arguments with
      | none => rfl
      | some htexts =>
          have list := readSignatureEnd_eq_ok_iff.mpr ⟨_, htexts, rfl⟩
          simp [WrittenName.remainder, WrittenName.ending, list, Except.map]
  | cons q ps ih =>
      have tail := ih q (fun r hr => wf r (by simp_all)) (by simp)
      rw [WrittenName.text_cons, readParts_eq,
        readPart_append (wf p (by simp)) (WrittenName.endsBefore_remainder p a (q :: ps))]
      rw [WrittenName.text_cons] at tail
      simp [WrittenName.remainder, tail, Except.map]

/-! ## Reading identifiers -/

/-- A shape is fitted to the identifier that has its parts and the types that its texts name. -/
theorem ofShape_eq_ok_iff {shape : Shape} {id : Identifier} :
    ofShape shape = .ok id ↔
      id.parts = shape.parts ∧
        id.arguments? = shape.arguments.map (·.filterMap ArgumentType.ofText?) := by
  constructor
  · intro h
    unfold ofShape at h
    split at h <;> first
      | (obtain rfl := Except.ok.inj h; exact ⟨rfl, rfl⟩)
      | simp at h
  · rintro ⟨parts, arguments⟩
    obtain ⟨values, texts⟩ := shape
    obtain rfl : id.parts = values := parts
    cases id with
    | signature id =>
        cases texts with
        | none => simp [arguments?] at arguments
        | some texts =>
            obtain ⟨db, sch, name, types⟩ := id
            obtain rfl := Option.some.inj arguments
            rfl
    | account | database | schema =>
        cases texts with
        | none => rfl
        | some texts => simp [arguments?] at arguments

/-- What a decomposition denotes is what its shape is fitted to. -/
theorem WrittenName.denotes_iff {w : WrittenName} {id : Identifier} :
    w.Denotes id ↔ ∃ shape, w.HasShape shape ∧ ofShape shape = .ok id := by
  obtain ⟨ps, a⟩ := w
  constructor
  · rintro ⟨parts, arguments⟩
    dsimp only at arguments
    cases list : id.arguments? with
    | none =>
        rw [list] at arguments
        cases arguments
        exact ⟨⟨_, none⟩, ⟨rfl, .none⟩, ofShape_eq_ok_iff.mpr ⟨parts, list⟩⟩
    | some types =>
        rw [list] at arguments
        obtain ⟨texts, htexts, names⟩ := arguments
        refine ⟨⟨_, some texts⟩, ⟨rfl, .some htexts⟩, ofShape_eq_ok_iff.mpr ⟨parts, ?_⟩⟩
        rw [list, htexts.map_text_eq_iff.mp names]
        rfl
  · rintro ⟨⟨values, texts?⟩, ⟨rfl, arguments⟩, fit⟩
    obtain ⟨parts, list⟩ := ofShape_eq_ok_iff.mp fit
    refine ⟨parts, ?_⟩
    rw [list]
    cases arguments with
    | none => exact .none
    | some htexts => exact .some ⟨_, htexts, htexts.map_text_eq_iff.mpr rfl⟩

theorem blame_eq_ok_iff {α : Type} {s : String} {r : Except Fault α} {a : α} :
    blame s r = .ok a ↔ r = .ok a := by
  cases r <;> simp [blame, Except.mapError]

/-- A fault is found of the text that was given, blanks around it included. -/
theorem exists_fault_of_blame {α : Type} {s : String} {r : Except Fault α} {e : Malformed}
    (h : blame s r = .error e) : ∃ fault, e = ⟨s, fault⟩ := by
  cases r with
  | ok a => simp [blame, Except.mapError] at h
  | error fault => exact ⟨fault, (Except.error.inj h).symm⟩

/-- The reader looks at the text without the blanks around it. -/
theorem ofText_eq_ok_iff {s : String} {id : Identifier} :
    ofText s = .ok id ↔
      Text.trim s.toList ≠ [] ∧
        ∃ shape, readParts (Text.trim s.toList) = .ok shape ∧ ofShape shape = .ok id := by
  rw [ofText, blame_eq_ok_iff, Shape.ofText]
  by_cases empty : Text.trim s.toList = []
  · simp [empty, Except.bind]
  · cases readParts (Text.trim s.toList) <;> simp [empty, Except.bind]

/-- **The reader computes the meaning of the grammar.**  A text is read as an identifier exactly
when it is, without the blanks around it, a well formed name that denotes the identifier. -/
theorem ofText_eq_ok_iff_denotes {s : String} {id : Identifier} :
    ofText s = .ok id ↔
      ∃ w : WrittenName, w.WellFormed ∧ w.text = Text.trim s.toList ∧ w.Denotes id := by
  rw [ofText_eq_ok_iff]
  constructor
  · rintro ⟨-, shape, read, fit⟩
    obtain ⟨w, parts, -, text, hshape⟩ := exists_writtenName_of_readParts read
    have denotes := WrittenName.denotes_iff.mpr ⟨shape, hshape, fit⟩
    exact ⟨w, denotes.wellFormed parts, text, denotes⟩
  · rintro ⟨w, wf, text, denotes⟩
    obtain ⟨shape, hshape, fit⟩ := WrittenName.denotes_iff.mp denotes
    have ne := wf.parts_ne_nil
    rw [← text]
    exact ⟨wf.text_ne_nil, shape, readParts_text wf.parts ne hshape, fit⟩

/-- **The reader accepts exactly the grammar and computes exactly its meaning.**

1. A text is accepted exactly when it is, without the blanks around it, a well formed name.
2. The name is then the only one with that text, the texts of its argument list are the only ones
   that the list has, and the identifier that is returned is the only one that the name denotes.
3. For every other text the reader says of that text what is wrong with it. -/
theorem ofText_accepts_exactly_the_grammar (s : String) :
    ((∃ id, ofText s = .ok id) ↔
      Text.trim s.toList ≠ [] ∧ ∃ w : WrittenName, w.WellFormed ∧ w.text = Text.trim s.toList) ∧
    (∀ w : WrittenName, w.WellFormed → w.text = Text.trim s.toList →
      (∀ w' : WrittenName, w'.WellFormed → w'.text = Text.trim s.toList → w' = w) ∧
        (∀ inside, w.arguments = some inside → ∃! texts, ArgumentTexts inside texts) ∧
        ∃ id, ofText s = .ok id ∧ ∀ id', w.Denotes id' ↔ id' = id) ∧
    ((¬ ∃ w : WrittenName, w.WellFormed ∧ w.text = Text.trim s.toList) →
      ∃ fault, ofText s = .error ⟨s, fault⟩) := by
  have accepted {w : WrittenName} (wf : w.WellFormed) (text : w.text = Text.trim s.toList) :
      ∃ id, ofText s = .ok id ∧ ∀ id', w.Denotes id' ↔ id' = id := by
    obtain ⟨id, denotes⟩ := wf.exists_denotes
    have read := ofText_eq_ok_iff_denotes.mpr ⟨w, wf, text, denotes⟩
    refine ⟨id, read, fun id' => ⟨fun denotes' => ?_, fun equal => equal ▸ denotes⟩⟩
    have read' := ofText_eq_ok_iff_denotes.mpr ⟨w, wf, text, denotes'⟩
    exact Except.ok.inj (read'.symm.trans read)
  refine ⟨⟨?_, ?_⟩, fun w wf text =>
    ⟨fun w' wf' text' => ?_, fun inside list => ?_, accepted wf text⟩, fun none => ?_⟩
  · rintro ⟨id, read⟩
    obtain ⟨w, wf, text, -⟩ := ofText_eq_ok_iff_denotes.mp read
    exact ⟨text ▸ wf.text_ne_nil, w, wf, text⟩
  · rintro ⟨-, w, wf, text⟩
    obtain ⟨id, read, -⟩ := accepted wf text
    exact ⟨id, read⟩
  · exact WrittenName.text_injective wf' wf (text'.trans text.symm)
  · obtain ⟨-, -, texts, htexts⟩ := wf.arguments inside list
    exact ⟨texts, htexts, fun texts' htexts' => htexts'.unique htexts⟩
  · cases read : ofText s with
    | ok id =>
        obtain ⟨w, wf, text, -⟩ := ofText_eq_ok_iff_denotes.mp read
        exact absurd ⟨w, wf, text⟩ none
    | error e =>
        obtain ⟨fault, rfl⟩ := exists_fault_of_blame read
        exact ⟨fault, rfl⟩

end WarehouseAdmin.Identifier
