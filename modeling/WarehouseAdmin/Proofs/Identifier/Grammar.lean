import WarehouseAdmin.Proofs.Identifier.Basic
import WarehouseAdmin.Proofs.Identifier.Parentheses
import WarehouseAdmin.Proofs.Text.Basic
import Mathlib.Data.Option.Basic

/-!
# The grammar of written identifiers

What a text must look like to be an identifier, and what it then means, without a reader in sight.
A `WrittenName` is a text taken apart: its parts as they are written, quoted or not, and what stands
between the parentheses behind the last one.  `WrittenName.WellFormed` is the grammar and
`WrittenName.Denotes` is the meaning.

A part has to be followed by something that cannot belong to it (`WrittenPart.EndsBefore`).  This
one condition is what makes the parts of a text, and with them its decomposition, unique.

## Main statements

* `WrittenPart.append_inj` — a text begins with one part at most.
* `WrittenName.text_injective` — a text has one decomposition at most.
* `ArgumentTexts.unique` — and an argument list has one list of texts at most.
* `WrittenName.WellFormed.exists_denotes` — every well formed name means something.
-/

namespace WarehouseAdmin.Identifier

open Text (IsBlank IsWord)

/-! ## Written parts -/

/-- A part of a name as it is written. -/
inductive WrittenPart where
  /-- Between double quotes; `inside` is what they mean. -/
  | quoted (inside : List Char)
  /-- A run of characters without quotes around it. -/
  | unquoted (run : List Char)
  deriving DecidableEq

namespace WrittenPart

/-- The characters of a part: inside of quotes every quote is doubled. -/
def text : WrittenPart → List Char
  | .quoted inside => '"' :: Text.double '"' inside ++ ['"']
  | .unquoted run => run

/-- Anything can stand in quotes.  Without quotes a part holds no dot, no opening parenthesis and no
quote, and between the blanks around it there is one word. -/
def WellFormed : WrittenPart → Prop
  | .quoted _ => True
  | .unquoted run => (∀ c ∈ run, isPartChar c = true) ∧ IsWord (Text.trim run)

/-- Quoted parts mean what stands between the quotes; the others mean their word in ASCII upper
case. -/
def value : WrittenPart → String
  | .quoted inside => String.ofList inside
  | .unquoted run => String.ofList ((Text.trim run).map Char.toUpper)

/-- The part does not go on in what follows it: there is no second quote, or no further character of
the run. -/
def EndsBefore (rest : List Char) : WrittenPart → Prop
  | .quoted _ => rest.head? ≠ some '"'
  | .unquoted _ => ∀ c ∈ rest.head?, isPartChar c = false

variable {p p' : WrittenPart} {rest rest' : List Char}

/-- A part ends at the end of the text, at a dot and at an opening parenthesis. -/
theorem endsBefore_of_head (h : ∀ c ∈ rest.head?, c = '.' ∨ c = '(') : p.EndsBefore rest := by
  cases p with
  | quoted inside =>
      intro hq
      rcases h '"' hq with h | h <;> exact absurd h (by decide)
  | unquoted run =>
      intro c hc
      rcases h c hc with rfl | rfl <;> decide

theorem ne_nil_of_trim_ne_nil {run : List Char} (h : Text.trim run ≠ []) : run ≠ [] := by
  rintro rfl
  exact h rfl

/-- Neither kind of part can be taken for the other. -/
theorem text_quoted_append_ne {inside run : List Char} (h : (unquoted run).WellFormed) :
    (quoted inside).text ++ rest ≠ (unquoted run).text ++ rest' := by
  obtain ⟨chars, word⟩ := h
  cases run with
  | nil => exact absurd rfl (ne_nil_of_trim_ne_nil word.1)
  | cons c run =>
      intro equal
      have first : '"' = c := (List.cons.inj equal).1
      have := chars c (by simp)
      rw [← first] at this
      exact absurd this (by decide)

/-- **Parts are self-delimiting.**  A text begins with one part at most that ends where it ends. -/
theorem append_inj (wf : p.WellFormed) (wf' : p'.WellFormed) (ends : p.EndsBefore rest)
    (ends' : p'.EndsBefore rest') (equal : p.text ++ rest = p'.text ++ rest') :
    p = p' ∧ rest = rest' := by
  cases p with
  | quoted inside =>
      cases p' with
      | unquoted run' => exact absurd equal (text_quoted_append_ne wf')
      | quoted inside' =>
          have tails : Text.double '"' inside ++ '"' :: rest =
              Text.double '"' inside' ++ '"' :: rest' := by
            simpa [text] using equal
          have left := Text.readEnclosed_double ends inside
          rw [tails, Text.readEnclosed_double ends' inside'] at left
          obtain ⟨rfl, rfl⟩ := Prod.mk.inj (Option.some.inj left)
          exact ⟨rfl, rfl⟩
  | unquoted run =>
      cases p' with
      | quoted inside' => exact absurd equal.symm (text_quoted_append_ne wf)
      | unquoted run' =>
          obtain ⟨runs, rests⟩ := Text.takeWhile_and_dropWhile_append wf.1 ends
          obtain ⟨runs', rests'⟩ := Text.takeWhile_and_dropWhile_append wf'.1 ends'
          rw [text, text] at equal
          rw [equal] at runs rests
          exact ⟨congrArg unquoted (runs.symm.trans runs'), rests.symm.trans rests'⟩

end WrittenPart

/-! ## Argument lists -/

/-- The texts that an argument list consists of: none if it is blank, and otherwise its pieces, none
of which is blank. -/
def ArgumentTexts (inside : List Char) (texts : List String) : Prop :=
  IsBlank inside ∧ texts = [] ∨
    ∃ pieces, IsCut inside pieces ∧ (∀ p ∈ pieces, ¬ IsBlank p) ∧ texts = pieces.map String.ofList

theorem isPiece_of_isBlank {s : List Char} (h : IsBlank s) : IsPiece s := by
  have absent {c : Char} (hc : Text.isBlank c = false) {p : List Char} (hp : p ⊆ s) :
      p.count c = 0 := by
    refine List.count_eq_zero.mpr fun mem => ?_
    have := h c (hp mem)
    simp [hc] at this
  refine ⟨⟨fun p hp => ?_, ?_⟩, ?_⟩
  · rw [absent (by decide) hp.subset]
    exact Nat.zero_le _
  · rw [absent (by decide) (List.Subset.refl s), absent (by decide) (List.Subset.refl s)]
  · rintro ⟨p, r, rfl, -⟩
    have := h ',' (by simp)
    exact absurd this (by decide)

/-- A blank list is one blank piece. -/
theorem isCut_singleton_of_isBlank {s : List Char} (h : IsBlank s) : IsCut s [s] :=
  ⟨by simp, by simp, by simpa using isPiece_of_isBlank h⟩

/-- A blank list has no texts and any other list has all its pieces, so the list fixes them. -/
theorem ArgumentTexts.unique {inside : List Char} {texts texts' : List String}
    (h : ArgumentTexts inside texts) (h' : ArgumentTexts inside texts') : texts = texts' := by
  have conflict {pieces : List (List Char)} (blank : IsBlank inside) (cut : IsCut inside pieces)
      (filled : ∀ p ∈ pieces, ¬ IsBlank p) : False := by
    obtain rfl := cut.unique (isCut_singleton_of_isBlank blank)
    exact filled inside (by simp) blank
  rcases h with ⟨blank, rfl⟩ | ⟨pieces, cut, filled, rfl⟩
  · rcases h' with ⟨-, rfl⟩ | ⟨pieces', cut', filled', -⟩
    · rfl
    · exact absurd (conflict blank cut' filled') id
  · rcases h' with ⟨blank', -⟩ | ⟨pieces', cut', -, rfl⟩
    · exact absurd (conflict blank' cut filled) id
    · rw [cut.unique cut']

/-- No text of an argument list is blank. -/
theorem ArgumentTexts.not_isBlank {inside : List Char} {texts : List String}
    (h : ArgumentTexts inside texts) : ∀ t ∈ texts, ¬ IsBlank t.toList := by
  rcases h with ⟨-, rfl⟩ | ⟨pieces, -, filled, rfl⟩
  · simp
  · simpa using filled

theorem ArgumentTexts.wellNested {inside : List Char} {texts : List String}
    (h : ArgumentTexts inside texts) : WellNested inside := by
  rcases h with ⟨blank, -⟩ | ⟨pieces, cut, -, -⟩
  · exact (isPiece_of_isBlank blank).1
  · exact wellNested_iff_exists_isCut.mpr ⟨pieces, cut⟩

/-- The types that an argument list denotes are those that its texts name. -/
theorem ArgumentTexts.map_text_eq_iff {inside : List Char} {texts : List String}
    {types : List ArgumentType} (h : ArgumentTexts inside texts) :
    types.map (·.text) = texts.map ArgumentType.normalize ↔
      types = texts.filterMap ArgumentType.ofText? := by
  rw [← ArgumentType.map_text_filterMap_ofText? h.not_isBlank]
  exact (List.map_injective_iff.mpr ArgumentType.text_injective).eq_iff

/-! ## Written names -/

/-- A text taken apart: the parts of a name, and what stands in the parentheses behind it. -/
structure WrittenName where
  parts : List WrittenPart
  arguments : Option (List Char)
  deriving DecidableEq

namespace WrittenName

/-- The argument list with its parentheses. -/
def ending : Option (List Char) → List Char
  | none => []
  | some inside => '(' :: inside ++ [')']

/-- Parts joined by dots, and the argument list behind the last one. -/
def text (w : WrittenName) : List Char :=
  ['.'].intercalate (w.parts.map (·.text)) ++ ending w.arguments

/-- **The grammar.**  A name has one to three parts, and only a name of three parts takes arguments.
Parentheses in the argument list are well nested, and it is blank or falls at its outer commas into
pieces that are not. -/
structure WellFormed (w : WrittenName) : Prop where
  parts : ∀ p ∈ w.parts, p.WellFormed
  arity : 1 ≤ w.parts.length ∧ w.parts.length ≤ 3
  arguments : ∀ inside, w.arguments = some inside →
    w.parts.length = 3 ∧ WellNested inside ∧ ∃ texts, ArgumentTexts inside texts

/-- **The meaning.**  Each part has its value.  There are argument types exactly where there is an
argument list, and they are the normal forms of its texts, in order. -/
structure Denotes (w : WrittenName) (id : Identifier) : Prop where
  parts : id.parts = w.parts.map (·.value)
  arguments : Option.Rel
    (fun inside types => ∃ texts, ArgumentTexts inside texts ∧
      types.map (·.text) = texts.map ArgumentType.normalize)
    w.arguments id.arguments?

/-! ### What follows the first part -/

/-- What follows a part: further parts, each behind a dot, and then the argument list. -/
def remainder (arguments : Option (List Char)) : List WrittenPart → List Char
  | [] => ending arguments
  | p :: ps => '.' :: (p.text ++ remainder arguments ps)

theorem text_cons (p : WrittenPart) (ps : List WrittenPart) (arguments : Option (List Char)) :
    text ⟨p :: ps, arguments⟩ = p.text ++ remainder arguments ps := by
  induction ps generalizing p with
  | nil => simp [text, remainder]
  | cons q ps ih =>
      have tail := ih q
      simp only [text, List.map_cons] at tail
      simp [text, remainder, ← tail]

/-- Whatever follows a part, the part ends before it. -/
theorem endsBefore_remainder (p : WrittenPart) (arguments : Option (List Char))
    (ps : List WrittenPart) : p.EndsBefore (remainder arguments ps) := by
  refine WrittenPart.endsBefore_of_head fun c hc => ?_
  cases ps with
  | nil =>
      cases arguments with
      | none => simp [remainder, ending] at hc
      | some inside => exact Or.inr (by simpa [remainder, ending, eq_comm] using hc)
  | cons p ps => exact Or.inl (by simpa [remainder, eq_comm] using hc)

theorem ending_injective : Function.Injective ending := by
  intro a b equal
  cases a with
  | none => cases b <;> simp [ending] at equal ⊢
  | some inside => cases b <;> simp_all [ending]

/-- Only an argument list begins with a parenthesis, so a further part is not mistaken for one. -/
theorem ending_ne_dot (arguments : Option (List Char)) (s : List Char) :
    ending arguments ≠ '.' :: s := by
  cases arguments <;> simp [ending]

/-- A part, and then another one or none, can be seen in a text in one way only. -/
theorem remainder_injective {a a' : Option (List Char)} {ps ps' : List WrittenPart}
    (wf : ∀ p ∈ ps, p.WellFormed) (wf' : ∀ p ∈ ps', p.WellFormed)
    (equal : remainder a ps = remainder a' ps') : ps = ps' ∧ a = a' := by
  induction ps generalizing ps' with
  | nil =>
      cases ps' with
      | nil => exact ⟨rfl, ending_injective equal⟩
      | cons p' ps' => exact absurd equal (ending_ne_dot a _)
  | cons p ps ih =>
      cases ps' with
      | nil => exact absurd equal.symm (ending_ne_dot a' _)
      | cons p' ps' =>
          obtain ⟨rfl, tails⟩ := WrittenPart.append_inj (wf p (by simp)) (wf' p' (by simp))
            (endsBefore_remainder p a ps) (endsBefore_remainder p' a' ps') (List.cons.inj equal).2
          obtain ⟨rfl, rfl⟩ := ih (fun q hq => wf q (by simp [hq]))
            (fun q hq => wf' q (by simp [hq])) tails
          exact ⟨rfl, rfl⟩

/-- Two names with the same text are the same, if their parts are well formed.  Nothing is asked of
the argument lists: they end the texts. -/
theorem eq_of_text_eq {w w' : WrittenName} (wf : ∀ p ∈ w.parts, p.WellFormed)
    (wf' : ∀ p ∈ w'.parts, p.WellFormed) (ne : w.parts ≠ []) (ne' : w'.parts ≠ [])
    (equal : w.text = w'.text) : w = w' := by
  obtain ⟨ps, a⟩ := w
  obtain ⟨ps', a'⟩ := w'
  obtain ⟨p, qs, rfl⟩ := List.exists_cons_of_ne_nil ne
  obtain ⟨p', qs', rfl⟩ := List.exists_cons_of_ne_nil ne'
  rw [text_cons, text_cons] at equal
  obtain ⟨parts, arguments⟩ := remainder_injective wf wf' (congrArg ('.' :: ·) equal)
  exact WrittenName.mk.injEq .. ▸ ⟨parts, arguments⟩

theorem WellFormed.parts_ne_nil {w : WrittenName} (h : w.WellFormed) : w.parts ≠ [] :=
  List.ne_nil_of_length_pos h.arity.1

/-- **Decompositions are unique.**  Two well formed names with the same text are the same. -/
theorem text_injective {w w' : WrittenName} (h : w.WellFormed) (h' : w'.WellFormed)
    (equal : w.text = w'.text) : w = w' :=
  eq_of_text_eq h.parts h'.parts h.parts_ne_nil h'.parts_ne_nil equal

/-! ### Names and identifiers -/

variable {w : WrittenName} {id : Identifier}

/-- An identifier has as many parts as a name may have, so a name that denotes one has too. -/
theorem Denotes.wellFormed (d : w.Denotes id) (parts : ∀ p ∈ w.parts, p.WellFormed) :
    w.WellFormed := by
  have length : w.parts.length = id.parts.length := by
    rw [d.parts, List.length_map]
  refine ⟨parts, ?_, fun inside hinside => ?_⟩
  · rw [length]
    cases id <;> simp [Identifier.parts]
  · have list := d.arguments
    rw [hinside] at list
    cases id with
    | signature id =>
        obtain ⟨texts, htexts, -⟩ := list
        exact ⟨length, htexts.wellNested, texts, htexts⟩
    | account | database | schema => cases list

/-- Every well formed name denotes an identifier. -/
theorem WellFormed.exists_denotes (h : w.WellFormed) : ∃ id, w.Denotes id := by
  obtain ⟨ps, a⟩ := w
  cases a with
  | none =>
      match ps, h.arity with
      | [p], _ => exact ⟨.account ⟨p.value⟩, rfl, .none⟩
      | [p, q], _ => exact ⟨.database ⟨p.value, q.value⟩, rfl, .none⟩
      | [p, q, r], _ => exact ⟨.schema ⟨p.value, q.value, r.value⟩, rfl, .none⟩
  | some inside =>
      obtain ⟨three, -, texts, htexts⟩ := h.arguments inside rfl
      match ps, three with
      | [p, q, r], _ =>
          exact ⟨.signature (SchemaScoped.withArguments ⟨p.value, q.value, r.value⟩ texts), rfl,
            .some ⟨texts, htexts, ArgumentType.map_text_filterMap_ofText? htexts.not_isBlank⟩⟩

/-- A well formed name is not empty: every part holds a quote or a word. -/
theorem WellFormed.text_ne_nil (h : w.WellFormed) : w.text ≠ [] := by
  obtain ⟨ps, a⟩ := w
  obtain ⟨p, ps, rfl⟩ := List.exists_cons_of_length_pos h.arity.1
  have first : p.text ≠ [] := by
    cases p with
    | quoted inside => simp [WrittenPart.text]
    | unquoted run =>
        have wf := h.parts (.unquoted run) (by simp)
        exact WrittenPart.ne_nil_of_trim_ne_nil wf.2.1
  rw [text_cons]
  exact List.append_ne_nil_of_left_ne_nil first _

end WrittenName

end WarehouseAdmin.Identifier
