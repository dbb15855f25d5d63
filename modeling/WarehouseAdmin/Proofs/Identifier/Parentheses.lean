import WarehouseAdmin.Identifier.Reader

/-!
# Parentheses and outer commas

The types of a signature are separated by commas, and a type may hold commas and parentheses of its
own, as `NUMBER(38, 0)` does.  Only the commas outside of inner parentheses separate.  So a type can
be told from its neighbours exactly when it is a *piece*: its parentheses are well nested and none
of its commas lies outside of them.

`WellNested` and `HasOuterComma` count parentheses in prefixes and know nothing of a reader.  What
connects them with `cutArguments`, which carries the number of open parentheses along, is
`PieceFrom`: the same conditions on a text that begins inside of `d` parentheses.  `pieceFrom_cons`
moves the number over one character, and everything else follows the reader.

## Main statements

* `cutArguments_eq_some_iff` — cutting finds the pieces, and finds nothing else.
* `wellNested_iff_exists_isCut` — every well nested text has a cut at its outer commas.
* `IsCut.unique` — and only one.
-/

namespace WarehouseAdmin.Identifier

/-- No prefix closes more parentheses than it opens, and the whole closes all of them. -/
def WellNested (s : List Char) : Prop :=
  (∀ p, p <+: s → p.count ')' ≤ p.count '(') ∧ s.count '(' = s.count ')'

/-- Some comma stands where all parentheses opened before it are closed again. -/
def HasOuterComma (s : List Char) : Prop :=
  ∃ p r, s = p ++ ',' :: r ∧ p.count '(' = p.count ')'

/-- A text that an argument list cannot tear apart. -/
def IsPiece (s : List Char) : Prop :=
  WellNested s ∧ ¬ HasOuterComma s

/-- The pieces of a text are what stands between its outer commas. -/
structure IsCut (s : List Char) (pieces : List (List Char)) : Prop where
  joined : [','].intercalate pieces = s
  ne_nil : pieces ≠ []
  isPiece : ∀ p ∈ pieces, IsPiece p

/-! ### Pieces that begin inside of parentheses -/

/-- The rest of a piece, read where `d` of its parentheses are open. -/
structure PieceFrom (d : Nat) (s : List Char) : Prop where
  nested : ∀ p, p <+: s → p.count ')' ≤ d + p.count '('
  closed : d + s.count '(' = s.count ')'
  uncut : ∀ p r, s = p ++ ',' :: r → d + p.count '(' ≠ p.count ')'

theorem pieceFrom_zero_iff {s : List Char} : PieceFrom 0 s ↔ IsPiece s := by
  constructor
  · intro h
    refine ⟨⟨fun p hp => by simpa using h.nested p hp, by simpa using h.closed⟩, ?_⟩
    rintro ⟨p, r, hs, hp⟩
    exact h.uncut p r hs (by simpa using hp)
  · rintro ⟨⟨nested, closed⟩, uncut⟩
    exact ⟨fun p hp => by simpa using nested p hp, by simpa using closed,
      fun p r hs hp => uncut ⟨p, r, hs, by simpa using hp⟩⟩

theorem pieceFrom_nil {d : Nat} : PieceFrom d [] ↔ d = 0 := by
  constructor
  · intro h
    simpa using h.closed
  · rintro rfl
    exact ⟨by simp, rfl, by simp⟩

/-- A character inside of a piece takes the number of open parentheses from `d` to `d'`.  The two
differ by what the character opens and closes; a comma is inside only where something is open. -/
structure Moves (d : Nat) (c : Char) (d' : Nat) : Prop where
  balance : d + [c].count '(' = d' + [c].count ')'
  comma : c = ',' → d ≠ 0

/-- Only a closing parenthesis and a comma end a piece, and only where nothing is open. -/
theorem exists_moves_or (d : Nat) (c : Char) :
    (∃ d', Moves d c d') ∨ d = 0 ∧ (c = ')' ∨ c = ',') := by
  by_cases openParen : c = '('
  · exact Or.inl ⟨d + 1, by simp [openParen], by simp [openParen]⟩
  by_cases closeParen : c = ')'
  · cases d with
    | zero => exact Or.inr ⟨rfl, Or.inl closeParen⟩
    | succ d => exact Or.inl ⟨d, by simp [closeParen], by simp [closeParen]⟩
  by_cases comma : c = ','
  · cases d with
    | zero => exact Or.inr ⟨rfl, Or.inr comma⟩
    | succ d => exact Or.inl ⟨d + 1, by simp [comma], by simp⟩
  exact Or.inl ⟨d, by simp [openParen, closeParen], fun h => absurd h comma⟩

theorem pieceFrom_cons {c : Char} {d d' : Nat} {s : List Char} (m : Moves d c d') :
    PieceFrom d (c :: s) ↔ PieceFrom d' s := by
  have balance := m.balance
  have opens (t : List Char) : (c :: t).count '(' = [c].count '(' + t.count '(' := by
    rw [← List.count_append]
    rfl
  have closes (t : List Char) : (c :: t).count ')' = [c].count ')' + t.count ')' := by
    rw [← List.count_append]
    rfl
  constructor
  · intro h
    refine ⟨fun p hp => ?_, ?_, fun p r hs => ?_⟩
    · have := h.nested (c :: p) (List.prefix_cons_inj c |>.mpr hp)
      rw [opens, closes] at this
      omega
    · have := h.closed
      rw [opens, closes] at this
      omega
    · have := h.uncut (c :: p) r (by rw [hs]; rfl)
      rw [opens, closes] at this
      omega
  · intro h
    refine ⟨fun p hp => ?_, ?_, fun p r hs => ?_⟩
    · rcases List.prefix_cons_iff.mp hp with rfl | ⟨t, rfl, ht⟩
      · simp
      · have := h.nested t ht
        rw [opens, closes]
        omega
    · have := h.closed
      rw [opens, closes]
      omega
    · cases p with
      | nil => simpa using m.comma (List.cons.inj hs).1
      | cons e t =>
          obtain ⟨rfl, tail⟩ := List.cons.inj hs
          have := h.uncut t r tail
          rw [opens, closes]
          omega

/-- Inside of a piece every character moves. -/
theorem PieceFrom.exists_moves {c : Char} {d : Nat} {s : List Char} (h : PieceFrom d (c :: s)) :
    ∃ d', Moves d c d' := by
  rcases exists_moves_or d c with moves | ⟨rfl, rfl | rfl⟩
  · exact moves
  · have := h.nested [')'] ⟨s, rfl⟩
    simp at this
  · exact absurd rfl (h.uncut [] s rfl)

/-! ### Cutting -/

@[simp] theorem cutArguments_close {s : List Char} :
    cutArguments 0 (')' :: s) = ([[]], some s) := by
  rw [cutArguments]

@[simp] theorem cutArguments_comma {s : List Char} :
    cutArguments 0 (',' :: s) = ([] :: (cutArguments 0 s).1, (cutArguments 0 s).2) := by
  rw [cutArguments]

/-- A character inside of a piece stays in it. -/
theorem cutArguments_cons {c : Char} {d d' : Nat} (m : Moves d c d') (s : List Char) :
    cutArguments d (c :: s) = consHead c (cutArguments d' s) := by
  have balance := m.balance
  by_cases openParen : c = '('
  · obtain rfl : d + 1 = d' := by simpa [openParen] using balance
    rw [openParen, cutArguments]
  by_cases closeParen : c = ')'
  · obtain rfl : d = d' + 1 := by simpa [closeParen] using balance
    rw [closeParen, cutArguments]
  obtain rfl : d = d' := by simpa [openParen, closeParen] using balance
  by_cases comma : c = ','
  · obtain ⟨e, rfl⟩ := Nat.exists_eq_succ_of_ne_zero (m.comma comma)
    rw [comma, cutArguments]
  rw [cutArguments] <;> assumption

/-- A piece is taken as it is, and cutting goes on outside of all parentheses. -/
theorem cutArguments_append {d : Nat} {p : List Char} (h : PieceFrom d p) (s : List Char) :
    cutArguments d (p ++ s) =
      ((cutArguments 0 s).1.modifyHead (p ++ ·), (cutArguments 0 s).2) := by
  induction p generalizing d with
  | nil =>
      obtain rfl := pieceFrom_nil.mp h
      show cutArguments 0 s = (List.modifyHead id _, _)
      rw [List.modifyHead_id]
      rfl
  | cons c p ih =>
      obtain ⟨d', moves⟩ := h.exists_moves
      rw [List.cons_append, cutArguments_cons moves, ih ((pieceFrom_cons moves).mp h), consHead,
        List.modifyHead_modifyHead]
      rfl

/-- Cutting inside of `d` parentheses gives the rest of one piece and then whole pieces. -/
theorem eq_intercalate_of_cutArguments {d : Nat} {s rest : List Char} {pieces : List (List Char)}
    (h : cutArguments d s = (pieces, some rest)) :
    ∃ p ps, pieces = p :: ps ∧ PieceFrom d p ∧ (∀ q ∈ ps, IsPiece q) ∧
      s = [','].intercalate pieces ++ ')' :: rest := by
  induction s generalizing d pieces with
  | nil => simp [cutArguments] at h
  | cons c s ih =>
      rcases exists_moves_or d c with ⟨d', moves⟩ | ⟨rfl, rfl | rfl⟩
      · rw [cutArguments_cons moves] at h
        rcases hcut : cutArguments d' s with ⟨cut, tail⟩
        rw [hcut] at h
        obtain ⟨rfl, rfl⟩ := Prod.mk.inj h
        obtain ⟨p, ps, rfl, piece, pieces, rfl⟩ := ih hcut
        refine ⟨c :: p, ps, rfl, (pieceFrom_cons moves).mpr piece, pieces, ?_⟩
        cases ps <;> simp
      · obtain ⟨rfl, hr⟩ := Prod.mk.inj (cutArguments_close.symm.trans h)
        obtain rfl := Option.some.inj hr
        exact ⟨[], [], rfl, pieceFrom_nil.mpr rfl, by simp, by simp⟩
      · rw [cutArguments_comma] at h
        rcases hcut : cutArguments 0 s with ⟨cut, tail⟩
        rw [hcut] at h
        obtain ⟨rfl, rfl⟩ := Prod.mk.inj h
        obtain ⟨p, ps, rfl, piece, pieces, rfl⟩ := ih hcut
        refine ⟨[], p :: ps, rfl, pieceFrom_nil.mpr rfl, ?_, by simp⟩
        simpa using ⟨pieceFrom_zero_iff.mp piece, pieces⟩

/-- **Cutting finds exactly the pieces.**  An argument list is read up to the parenthesis that
closes it, and the pieces are those between its outer commas. -/
theorem cutArguments_eq_some_iff {s rest : List Char} {pieces : List (List Char)} :
    cutArguments 0 s = (pieces, some rest) ↔
      ∃ inside, IsCut inside pieces ∧ s = inside ++ ')' :: rest := by
  constructor
  · intro h
    obtain ⟨p, ps, rfl, piece, pieces, hs⟩ := eq_intercalate_of_cutArguments h
    refine ⟨_, ⟨rfl, by simp, ?_⟩, hs⟩
    simpa using ⟨pieceFrom_zero_iff.mp piece, pieces⟩
  · rintro ⟨inside, ⟨rfl, ne, piece⟩, rfl⟩
    induction pieces with
    | nil => exact absurd rfl ne
    | cons p ps ih =>
        have head := pieceFrom_zero_iff.mpr (piece p (by simp))
        cases ps with
        | nil => simp [cutArguments_append head]
        | cons q ps =>
            have tail := ih (by simp) fun r hr => piece r (by simp [hr])
            rw [List.intercalate_cons_cons, List.append_assoc, List.append_assoc,
              cutArguments_append head, List.singleton_append, cutArguments_comma, tail]
            simp

/-! ### The cut of a text -/

theorem IsCut.cutArguments_eq {s : List Char} {pieces : List (List Char)} (h : IsCut s pieces)
    (rest : List Char) : cutArguments 0 (s ++ ')' :: rest) = (pieces, some rest) :=
  cutArguments_eq_some_iff.mpr ⟨s, h, rfl⟩

/-- A text has one cut at most. -/
theorem IsCut.unique {s : List Char} {pieces pieces' : List (List Char)} (h : IsCut s pieces)
    (h' : IsCut s pieces') : pieces = pieces' := by
  exact (Prod.mk.inj ((h.cutArguments_eq []).symm.trans (h'.cutArguments_eq []))).1

theorem intercalate_append {sep : List Char} {ps rs : List (List Char)} (hp : ps ≠ [])
    (hr : rs ≠ []) :
    sep.intercalate (ps ++ rs) = sep.intercalate ps ++ sep ++ sep.intercalate rs := by
  induction ps with
  | nil => exact absurd rfl hp
  | cons p ps ih =>
      cases ps with
      | nil => simp [List.intercalate_cons_of_ne_nil hr]
      | cons q ps =>
          have tail := ih (by simp)
          simp only [List.cons_append] at tail
          simp [tail]

/-- Where nothing is open, a comma separates two well nested texts. -/
theorem wellNested_append_comma {p r : List Char} (h : p.count '(' = p.count ')') :
    WellNested (p ++ ',' :: r) ↔ WellNested p ∧ WellNested r := by
  constructor
  · rintro ⟨nested, closed⟩
    refine ⟨⟨fun t ht => nested t (ht.trans (List.prefix_append p _)), h⟩, fun t ht => ?_, ?_⟩
    · have := nested (p ++ ',' :: t)
        ((List.prefix_append_right_inj p).mpr ((List.prefix_cons_inj ',').mpr ht))
      simp only [List.count_append, List.count_cons] at this
      simpa [h] using this
    · simpa [h] using closed
  · rintro ⟨⟨nested, _⟩, nested', closed'⟩
    refine ⟨fun t ht => ?_, by simpa [h] using closed'⟩
    rcases List.prefix_or_prefix_of_prefix ht (List.prefix_append p (',' :: r))
      with front | ⟨u, rfl⟩
    · exact nested t front
    · have tail := (List.prefix_append_right_inj p).mp ht
      rcases List.prefix_cons_iff.mp tail with rfl | ⟨v, rfl, hv⟩
      · simp [h]
      · simpa [h] using nested' v hv

/-- **The well nested texts are those that have a cut.** -/
theorem wellNested_iff_exists_isCut {s : List Char} :
    WellNested s ↔ ∃ pieces, IsCut s pieces := by
  constructor
  · intro nested
    -- Any outer comma leaves two shorter texts, so the induction is on the length.
    induction hn : s.length using Nat.strongRecOn generalizing s with
    | ind n ih =>
        by_cases outer : HasOuterComma s
        · obtain ⟨p, r, rfl, hp⟩ := outer
          obtain ⟨nestedP, nestedR⟩ := (wellNested_append_comma hp).mp nested
          obtain ⟨ps, front⟩ := ih p.length (by simp at hn; omega) nestedP rfl
          obtain ⟨rs, back⟩ := ih r.length (by simp at hn; omega) nestedR rfl
          refine ⟨ps ++ rs, ?_, by simp [front.ne_nil], fun q hq => ?_⟩
          · rw [intercalate_append front.ne_nil back.ne_nil, front.joined, back.joined]
            simp
          · rcases List.mem_append.mp hq with hq | hq
            · exact front.isPiece q hq
            · exact back.isPiece q hq
        · exact ⟨[s], by simp, by simp, by simpa using ⟨nested, outer⟩⟩
  · rintro ⟨pieces, rfl, ne, piece⟩
    induction pieces with
    | nil => exact absurd rfl ne
    | cons p ps ih =>
        obtain ⟨nestedP, -⟩ := piece p (by simp)
        cases ps with
        | nil => simpa using nestedP
        | cons q ps =>
            have tail := ih (by simp) fun r hr => piece r (by simp [hr])
            rw [List.intercalate_cons_cons, List.append_assoc, List.singleton_append]
            exact (wellNested_append_comma nestedP.2).mpr ⟨nestedP, tail⟩

end WarehouseAdmin.Identifier
