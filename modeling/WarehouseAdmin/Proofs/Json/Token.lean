import WarehouseAdmin.Json.Printer
import WarehouseAdmin.Json.Reader
import WarehouseAdmin.Proofs.Text.Basic

/-!
# Tokens of written documents

A written document is cut into tokens again.  What is needed of the cut is what it does with a text
that goes on: structural characters and string literals are tokens in front of anything, while a
word, which is a literal name or a number, is one in front of what no word goes on into (`Ended`).

## Main statements

* `tokens?_structural`, `tokens?_literal`, `tokens?_word` — one token in front of a rest.
* `isWordChar_of_isNumber` — a number is one run of word characters.
-/

namespace WarehouseAdmin.Json

/-! ### String literals -/

/-- The code of a control character is read back from its four digits. -/
theorem exists_hexUnit {n : Nat} (h : n < 0x20) :
    ∃ h₃ h₂ h₁ h₀, hexUnit n = [h₃, h₂, h₁, h₀] ∧ unit? h₃ h₂ h₁ h₀ = some n := by
  have all : ∀ n < 0x20, hexUnit n = ['0', '0', Nat.digitChar (n / 16), Nat.digitChar (n % 16)] ∧
      unit? '0' '0' (Nat.digitChar (n / 16)) (Nat.digitChar (n % 16)) = some n := by
    decide
  exact ⟨_, _, _, _, all n h⟩

/-- A written character is read as its code. -/
theorem readUnits_literalChar (c : Char) (s : List Char) :
    readUnits (literalChar c ++ s) =
      (readUnits s).map fun (units, rest) => (c.toNat :: units, rest) := by
  unfold literalChar
  split
  next quoted =>
    rcases (by simpa using quoted : c = '"' ∨ c = '\\') with rfl | rfl
    · simp [readUnits, escaped?]
    · simp [readUnits, escaped?]
  next plain =>
    split
    next control =>
      obtain ⟨h₃, h₂, h₁, h₀, written, unit⟩ := exists_hexUnit control
      simp [written, readUnits, unit]
    next printed =>
      simp only [Bool.or_eq_true, decide_eq_true_eq, not_or] at plain
      have raw : raw? c = some c.toNat := if_neg printed
      rw [List.singleton_append, readUnits.eq_def]
      split
      case h_5 _ d t same =>
        obtain ⟨rfl, rfl⟩ := List.cons.inj same
        rw [raw]
        rfl
      all_goals simp_all

/-- The inside of a literal is read as the codes of its characters. -/
theorem readUnits_flatMap_literalChar (s rest : List Char) :
    readUnits (s.flatMap literalChar ++ '"' :: rest) = some (s.map Char.toNat, rest) := by
  induction s with
  | nil => simp [readUnits]
  | cons c s ih =>
      rw [List.flatMap_cons, List.append_assoc, readUnits_literalChar, ih]
      rfl

/-- The codes of characters spell these characters: no code of a character is a surrogate. -/
theorem spelled_map_toNat (s : List Char) : spelled (s.map Char.toNat) = some s := by
  have apart (c : Char) : ¬ (0xD800 ≤ c.toNat ∧ c.toNat < 0xE000) := by
    have : c.toNat < 0xD800 ∨ 0xDFFF < c.toNat ∧ c.toNat < 0x110000 := c.valid
    omega
  induction s with
  | nil => rfl
  | cons c s ih =>
      have := apart c
      cases s with
      | nil => simp [spelled, this, Char.ofNat_toNat]
      | cons d s =>
          rw [List.map_cons, List.map_cons, spelled, if_neg (by simp; omega),
            if_neg (by simp; omega), ← List.map_cons, ih, Char.ofNat_toNat]
          rfl

/-! ### Words -/

/-- Word characters are neither blanks nor quotes. -/
theorem isSpace_and_ne_quote_of_isWordChar {c : Char} (h : isWordChar c = true) :
    isSpace c = false ∧ c ≠ '"' := by
  constructor
  · rw [Bool.eq_false_iff]
    intro space
    simp only [isSpace, Bool.or_eq_true, decide_eq_true_eq] at space
    rcases space with ((rfl | rfl) | rfl) | rfl <;> exact absurd h (by decide)
  · rintro rfl
    exact absurd h (by decide)

theorem isWordChar_of_isDigits {s : List Char} (h : isDigits s = true) :
    ∀ c ∈ s, isWordChar c = true := by
  intro c hc
  rw [isDigits, Bool.and_eq_true, List.all_eq_true] at h
  have digit := h.2 c hc
  simp [isWordChar, Text.isAlphanum_iff, digit]

theorem isWordChar_of_isExponent {s : List Char} (h : isExponent s = true) :
    ∀ c ∈ s, isWordChar c = true := by
  cases s with
  | nil => simp
  | cons e s =>
      simp only [isExponent, Bool.and_eq_true, Bool.or_eq_true, decide_eq_true_eq] at h
      obtain ⟨letter, digits⟩ := h
      refine List.forall_mem_cons.mpr ⟨by rcases letter with rfl | rfl <;> decide, ?_⟩
      split at digits
      · exact List.forall_mem_cons.mpr ⟨by decide, isWordChar_of_isDigits digits⟩
      · exact List.forall_mem_cons.mpr ⟨by decide, isWordChar_of_isDigits digits⟩
      · exact isWordChar_of_isDigits digits

/-- What stands behind a whole number in a number: a fraction, an exponent, or both. -/
theorem isWordChar_of_tail {s : List Char}
    (h : (match s with
      | '.' :: s => isDigits (s.takeWhile Char.isDigit) && isExponent (s.dropWhile Char.isDigit)
      | s => isExponent s) = true) :
    ∀ c ∈ s, isWordChar c = true := by
  split at h
  next s =>
    rw [Bool.and_eq_true] at h
    have parts := List.forall_mem_append.mpr
      ⟨isWordChar_of_isDigits h.1, isWordChar_of_isExponent h.2⟩
    rw [List.takeWhile_append_dropWhile] at parts
    exact List.forall_mem_cons.mpr ⟨by decide, parts⟩
  next => exact isWordChar_of_isExponent h

/-- A number is written with word characters. -/
theorem isWordChar_of_isNumber {s : List Char} (h : isNumber s = true) :
    ∀ c ∈ s, isWordChar c = true := by
  have unsigned {u : List Char} (whole : isDigits (u.takeWhile Char.isDigit) = true)
      (tail : ∀ c ∈ u.dropWhile Char.isDigit, isWordChar c = true) :
      ∀ c ∈ u, isWordChar c = true := by
    have parts := List.forall_mem_append.mpr ⟨isWordChar_of_isDigits whole, tail⟩
    rwa [List.takeWhile_append_dropWhile] at parts
  unfold isNumber at h
  dsimp only at h
  rw [Bool.and_eq_true, Bool.and_eq_true] at h
  obtain ⟨⟨whole, -⟩, tail⟩ := h
  have inside := unsigned whole (isWordChar_of_tail tail)
  split at inside
  next u => exact List.forall_mem_cons.mpr ⟨by decide, inside⟩
  next => exact inside

/-! ### Tokens of a text that goes on -/

variable {token : Token} {rest : List Char}

theorem tokens?_nil : tokens? [] = some [] := by
  rw [tokens?.eq_def]

/-- The structural characters are neither blanks nor quotes, and are in no word. -/
theorem apart_of_structural {c : Char} (h : structural? c = some token) :
    isSpace c = false ∧ c ≠ '"' ∧ isWordChar c = false := by
  have six : c = '\x7b' ∨ c = '\x7d' ∨ c = '[' ∨ c = ']' ∨ c = ':' ∨ c = ',' := by
    refine Decidable.byContradiction fun other => ?_
    simp only [not_or] at other
    simp [structural?, other] at h
  rcases six with rfl | rfl | rfl | rfl | rfl | rfl <;> decide

/-- A structural character is a token, whatever follows it. -/
theorem tokens?_structural {c : Char} (h : structural? c = some token) (s : List Char) :
    tokens? (c :: s) = (tokens? s).map (token :: ·) := by
  obtain ⟨space, quote, word⟩ := apart_of_structural h
  rw [tokens?.eq_def]
  dsimp only
  rw [if_neg (by simp [space]), if_neg quote, if_neg (by simp [word]), h]
  rfl

/-- A string literal is a token, whatever follows it. -/
theorem tokens?_literal (text : Text) (s : List Char) :
    tokens? ((literal text).toList ++ s) = (tokens? s).map (.string text :: ·) := by
  obtain ⟨inside, units, written, read, spells⟩ : ∃ inside units,
      (literal text).toList = '"' :: inside ++ ['"'] ∧
      readUnits (inside ++ '"' :: s) = some (units, s) ∧
      (spelled units).map String.ofList = text := by
    cases text with
    | none =>
        have digits : hexUnit 0xD800 = ['d', '8', '0', '0'] := by decide
        exact ⟨'\\' :: 'u' :: hexUnit 0xD800, [0xD800], by simp [literal],
          by simp [digits, readUnits, unit?, hexDigit?], rfl⟩
    | some t =>
        exact ⟨t.toList.flatMap literalChar, t.toList.map Char.toNat, by simp [literal],
          readUnits_flatMap_literalChar t.toList s, by simp [spelled_map_toNat]⟩
  rw [written, List.append_assoc, List.cons_append, List.singleton_append, tokens?.eq_def]
  dsimp only
  rw [if_neg (by decide), if_pos rfl]
  split
  next none => simp [read] at none
  next units' rest' some =>
    obtain ⟨rfl, rfl⟩ := Prod.mk.inj (Option.some.inj (some.symm.trans read))
    rw [spells]

/-- A text that no word goes on into. -/
def Ended (rest : List Char) : Prop :=
  ∀ c ∈ rest.head?, isWordChar c = false

/-- A run of word characters is a token in front of what no word goes on into. -/
theorem tokens?_word {w : List Char} (h : word? w = some token)
    (chars : ∀ c ∈ w, isWordChar c = true) (ne : w ≠ []) (ended : Ended rest) :
    tokens? (w ++ rest) = (tokens? rest).map (token :: ·) := by
  obtain ⟨c, w, rfl⟩ := List.exists_cons_of_ne_nil ne
  obtain ⟨first, others⟩ := List.forall_mem_cons.mp chars
  obtain ⟨space, quote⟩ := isSpace_and_ne_quote_of_isWordChar first
  obtain ⟨run, remainder⟩ := Text.takeWhile_and_dropWhile_append others ended
  rw [List.cons_append, tokens?.eq_def]
  dsimp only
  rw [if_neg (by simp [space]), if_neg quote, if_pos first, run, remainder, h]
  rfl

end WarehouseAdmin.Json
