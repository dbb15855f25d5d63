import WarehouseAdmin.Proofs.Text.Basic
import WarehouseAdmin.Sql.Statement

/-!
# Reading literals back

A literal is read from its opening quote on.  Between single or double quotes a quote that belongs
to the text is written twice, and so every text is read back, in front of everything that does not
begin with the quote.

Between pairs of dollar signs nothing is escaped: the text ends where the first pair stands.  Any
pair in the text is earlier than the closing one, and so is the pair that a dollar sign at the end
of the text makes up with the closing one.  `hasDollars_concat` brings the two cases together: the
text is read back when there is no pair in it even with one more dollar sign behind it.

## Main statements

* `readQuoted_enclose_iff` — texts between quotes.
* `cutAtDollars_eq_some_iff` — what stands before the first pair of dollar signs.
* `Quoting.quote_read_back` — when a quoted text is read back.
-/

namespace WarehouseAdmin

variable {s inside rest : List Char} {c : Char}

/-! ## Between quotes -/

/-- Reads a quoted text from its opening quote on, and gives the text and what follows its closing
quote. -/
def readQuoted (q : Char) : List Char → Option (List Char × List Char)
  | [] => none
  | c :: s => if c = q then Text.readEnclosed q s else none

/-- A text between quotes is read back unless one more quote follows. -/
theorem readQuoted_enclose_iff (q : Char) (t : String) :
    readQuoted q ((Text.enclose q t).toList ++ rest) = some (t.toList, rest) ↔
      rest.head? ≠ some q := by
  rw [Text.toList_enclose, List.append_assoc, List.cons_append, List.singleton_append, readQuoted,
    if_pos rfl, Text.readEnclosed_eq_some_iff]
  exact and_iff_right rfl

/-! ## Between pairs of dollar signs -/

/-- Two dollar signs stand next to each other. -/
def HasDollars (s : List Char) : Prop :=
  ['$', '$'] <:+: s

theorem not_hasDollars_nil : ¬ HasDollars [] := by
  simp [HasDollars]

theorem hasDollars_cons : HasDollars (c :: s) ↔ (c = '$' ∧ s.head? = some '$') ∨ HasDollars s := by
  rw [HasDollars, List.infix_cons_iff, List.cons_prefix_cons, eq_comm, HasDollars]
  cases s with
  | nil => simp
  | cons d s => simp [List.cons_prefix_cons, eq_comm]

/-- One more dollar sign makes up a pair with one at the end. -/
theorem hasDollars_concat : HasDollars (s ++ ['$']) ↔ HasDollars s ∨ s.getLast? = some '$' := by
  have overlap : ['$', '$'] <:+ s ++ ['$'] ↔ s.getLast? = some '$' := by
    rw [List.getLast?_eq_some_iff]
    constructor
    · rintro ⟨s', split⟩
      exact ⟨s', List.append_cancel_right (by simpa using split.symm)⟩
    · rintro ⟨s', rfl⟩
      exact ⟨s', by simp⟩
  rw [HasDollars, List.infix_concat_iff, overlap, or_comm, HasDollars]

/-- Reads up to the first pair of dollar signs, and gives what stands before it and what follows it.
-/
def cutAtDollars : List Char → Option (List Char × List Char)
  | '$' :: '$' :: s => some ([], s)
  | c :: s => (cutAtDollars s).map fun (inside, rest) => (c :: inside, rest)
  | [] => none

/-- Reads a text between pairs of dollar signs from its opening pair on. -/
def readDollarQuoted : List Char → Option (List Char × List Char)
  | '$' :: '$' :: s => cutAtDollars s
  | _ => none

theorem cutAtDollars_cons (h : ¬ (c = '$' ∧ s.head? = some '$')) :
    cutAtDollars (c :: s) = (cutAtDollars s).map fun r => (c :: r.1, r.2) := by
  rw [cutAtDollars]
  rintro t rfl rfl
  exact h ⟨rfl, rfl⟩

/-- What stands before the first pair has no pair in it, and none at its end either. -/
theorem cutAtDollars_append (free : ¬ HasDollars (inside ++ ['$'])) (rest : List Char) :
    cutAtDollars (inside ++ '$' :: '$' :: rest) = some (inside, rest) := by
  induction inside with
  | nil => rfl
  | cons c inside ih =>
      rw [List.cons_append, hasDollars_cons, not_or] at free
      obtain ⟨here, behind⟩ := free
      have apart : ¬ (c = '$' ∧ (inside ++ '$' :: '$' :: rest).head? = some '$') := by
        cases inside <;> simpa using here
      rw [List.cons_append, cutAtDollars_cons apart, ih behind]
      rfl

theorem eq_append_of_cutAtDollars (cut : cutAtDollars s = some (inside, rest)) :
    s = inside ++ '$' :: '$' :: rest ∧ ¬ HasDollars (inside ++ ['$']) := by
  fun_induction cutAtDollars s generalizing inside rest with
  | case1 s =>
      obtain ⟨rfl, rfl⟩ : [] = inside ∧ s = rest := by simpa using cut
      refine ⟨rfl, ?_⟩
      rw [hasDollars_concat]
      simp [not_hasDollars_nil]
  | case2 c s apart ih =>
      obtain ⟨⟨inside, rest⟩, behind, same⟩ := Option.map_eq_some_iff.mp cut
      obtain ⟨rfl, rfl⟩ := Prod.mk.inj same
      obtain ⟨rfl, free⟩ := ih behind
      refine ⟨rfl, ?_⟩
      rw [List.cons_append, hasDollars_cons, not_or]
      refine ⟨?_, free⟩
      rintro ⟨rfl, first⟩
      -- The pair would stand at the front, and there the reader has stopped.
      cases inside with
      | nil => exact apart _ rfl rfl
      | cons d inside =>
          obtain rfl : d = '$' := by simpa using first
          exact apart _ rfl rfl
  | case3 => simp at cut

/-- **A pair of dollar signs ends the text that has none before it**, also none that shares a sign
with it. -/
theorem cutAtDollars_eq_some_iff :
    cutAtDollars s = some (inside, rest) ↔
      s = inside ++ '$' :: '$' :: rest ∧ ¬ HasDollars (inside ++ ['$']) := by
  constructor
  · exact eq_append_of_cutAtDollars
  · rintro ⟨rfl, free⟩
    exact cutAtDollars_append free rest

theorem cutAtDollars_eq_none_iff : cutAtDollars s = none ↔ ¬ HasDollars s := by
  fun_induction cutAtDollars s with
  | case1 s => simp [hasDollars_cons]
  | case2 c s apart ih =>
      have here : ¬ (c = '$' ∧ s.head? = some '$') := by
        rintro ⟨rfl, first⟩
        obtain ⟨s, rfl⟩ := List.head?_eq_some_iff.mp first
        exact apart s rfl rfl
      rw [Option.map_eq_none_iff, ih, hasDollars_cons, or_iff_right here]
  | case3 => simp [not_hasDollars_nil]

namespace Quoting

theorem toList_quote_dollar (t : String) :
    (dollar.quote t).toList = '$' :: '$' :: (t.toList ++ ['$', '$']) := by
  show ("$$" ++ t ++ "$$").toList = _
  simp

/-- A text between pairs of dollar signs is read back when it has no pair and no sign at its end. -/
theorem readDollarQuoted_quote_iff (t : String) :
    readDollarQuoted (dollar.quote t).toList = some (t.toList, []) ↔
      ¬ HasDollars t.toList ∧ t.toList.getLast? ≠ some '$' := by
  rw [toList_quote_dollar, readDollarQuoted, cutAtDollars_eq_some_iff, hasDollars_concat, not_or]
  exact and_iff_right rfl

/-- Any other text is cut off at its first pair, which can share its second sign with the closing
one: a proper part of the text is read, and something is left over. -/
theorem exists_lost_of_quote_dollar {t : String}
    (other : HasDollars t.toList ∨ t.toList.getLast? = some '$') :
    ∃ inside lost rest, readDollarQuoted (dollar.quote t).toList = some (inside, rest) ∧
      t.toList = inside ++ lost ∧ lost ≠ [] ∧ lost ++ ['$', '$'] = '$' :: '$' :: rest ∧
        rest ≠ [] := by
  rw [toList_quote_dollar, readDollarQuoted]
  rw [← hasDollars_concat] at other
  obtain ⟨⟨inside, rest⟩, cut⟩ : ∃ r, cutAtDollars (t.toList ++ ['$', '$']) = some r := by
    rw [← Option.ne_none_iff_exists', ne_eq, cutAtDollars_eq_none_iff, Classical.not_not,
      List.append_cons, hasDollars_concat]
    exact .inl other
  obtain ⟨split, free⟩ := cutAtDollars_eq_some_iff.mp cut
  obtain ⟨lost, text, closing⟩ : ∃ lost, t.toList = inside ++ lost ∧
      lost ++ ['$', '$'] = '$' :: '$' :: rest := by
    rcases List.append_eq_append_iff.mp split with ⟨more, longer, closing⟩ | ⟨lost, text, closing⟩
    · -- The closing pair is the last one, so nothing can be read beyond the text.
      have short := congrArg List.length closing
      simp only [List.length_append, List.length_cons, List.length_nil] at short
      obtain rfl : more = [] := List.length_eq_zero_iff.mp (by omega)
      exact ⟨[], by simpa using longer.symm, closing⟩
    · exact ⟨lost, text, closing.symm⟩
  have some : lost ≠ [] := by
    rintro rfl
    rw [List.append_nil] at text
    exact free (text ▸ other)
  refine ⟨inside, lost, rest, cut, text, some, closing, ?_⟩
  rintro rfl
  have short := congrArg List.length closing
  rw [List.length_append] at short
  exact some (List.length_eq_zero_iff.mp (Nat.add_right_cancel short))

/-- **When a literal is read back.**

1. A text between single or double quotes is read back, with what follows it, unless one more quote
   follows.
2. A text between pairs of dollar signs is read back, with nothing left over, exactly when there is
   no pair in it and no dollar sign at its end.
3. Of any other text the literal holds only a proper part, and the remainder is left outside. -/
theorem quote_read_back (t : String) :
    (∀ rest, readQuoted '\'' ((single.quote t).toList ++ rest) = some (t.toList, rest) ↔
        rest.head? ≠ some '\'') ∧
      (∀ rest, readQuoted '"' ((double.quote t).toList ++ rest) = some (t.toList, rest) ↔
        rest.head? ≠ some '"') ∧
      (readDollarQuoted (dollar.quote t).toList = some (t.toList, []) ↔
        ¬ HasDollars t.toList ∧ t.toList.getLast? ≠ some '$') ∧
      (HasDollars t.toList ∨ t.toList.getLast? = some '$' →
        ∃ inside lost rest, readDollarQuoted (dollar.quote t).toList = some (inside, rest) ∧
          t.toList = inside ++ lost ∧ lost ≠ [] ∧ lost ++ ['$', '$'] = '$' :: '$' :: rest ∧
            rest ≠ []) :=
  ⟨fun _ => readQuoted_enclose_iff '\'' t, fun _ => readQuoted_enclose_iff '"' t,
    readDollarQuoted_quote_iff t, exists_lost_of_quote_dollar⟩

/-- A dollar sign at the end closes the literal together with the first one of the closing pair. -/
example : readDollarQuoted (dollar.quote "return $").toList = some ("return ".toList, ['$']) := by
  decide

end Quoting

end WarehouseAdmin
