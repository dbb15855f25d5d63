import WarehouseAdmin.Proofs.Identifier.Basic
import WarehouseAdmin.Proofs.Text.Basic
import WarehouseAdmin.Sql.Statement
import Mathlib.Data.List.TakeWhile

/-!
# Lexemes of a statement

Whoever executes a statement sees its lexemes: literals, names and single marks.  `lex` is the
reader that takes a text apart into them.  A text is written piece by piece, so what is needed of
the reader is what it does with a text that goes on.

`LexesTo s ts` says that `s` reads as `ts` in front of everything that begins at a boundary, which
is a blank or a mark.  A quote there would double the quote that closes a literal, and a name
character would go on with a name; nothing else can reach back.  Texts in this form are put together
with the rules `LexesTo.append` and `LexesTo.join`, and the reader is not opened again.

## Main statements

* `lexesTo_enclose`, `lexesTo_write` — a quoted text and a part of a name are one lexeme, whatever
  they hold.
* `exists_lexesTo` — a text without quotes has lexemes.
-/

namespace WarehouseAdmin

/-- What a statement consists of. -/
inductive Lexeme where
  /-- A text in single quotes; a doubled quote in it stands for one. -/
  | literal (content : String)
  /-- A text in double quotes, or a run of name characters. -/
  | name (content : String)
  /-- Any other character that is not blank. -/
  | mark (c : Char)
  deriving DecidableEq

namespace Lexeme

/-- The characters of bare names: ASCII letters, digits, the underscore and the dollar sign. -/
def isNameChar (c : Char) : Bool :=
  c.isAlphanum || c = '_' || c = '$'

def isQuote (c : Char) : Bool :=
  c = '\'' || c = '"'

/-- What stands between two quotes. -/
def quoted (quote : Char) (content : String) : Lexeme :=
  if quote = '\'' then .literal content else .name content

/-- The lexemes of a text.  There are none if a quote is not closed. -/
def lex : List Char → Option (List Lexeme)
  | [] => some []
  | c :: s =>
    if Text.isBlank c then lex s
    else if isQuote c then
      match h : Text.readEnclosed c s with
      | none => none
      | some (inside, rest) =>
        have := Text.length_lt_of_readEnclosed h
        (lex rest).map (quoted c (String.ofList inside) :: ·)
    else if isNameChar c then
      have := (List.dropWhile_sublist isNameChar (l := s)).length_le
      (lex (s.dropWhile isNameChar)).map (.name (String.ofList (c :: s.takeWhile isNameChar)) :: ·)
    else (lex s).map (.mark c :: ·)
termination_by s => s.length

/-! ### The reader at one character -/

variable {c : Char} {s rest inside : List Char}

@[simp] theorem lex_nil : lex [] = some [] := by
  rw [lex.eq_def]

theorem lex_blank (h : Text.isBlank c = true) (s : List Char) : lex (c :: s) = lex s := by
  rw [lex.eq_def]
  dsimp only
  rw [if_pos h]

theorem lex_quote (quote : isQuote c = true) (h : Text.readEnclosed c s = some (inside, rest)) :
    lex (c :: s) = (lex rest).map (quoted c (String.ofList inside) :: ·) := by
  have solid : ¬ Text.isBlank c = true := by
    simp only [isQuote, Bool.or_eq_true, decide_eq_true_eq] at quote
    rcases quote with rfl | rfl <;> decide
  rw [lex.eq_def]
  dsimp only
  rw [if_neg solid, if_pos quote]
  split
  next none => simp [none] at h
  next inside' rest' some =>
    obtain ⟨rfl, rfl⟩ := Prod.mk.inj (Option.some.inj (some.symm.trans h))
    rfl

/-- Name characters are neither blanks nor quotes. -/
theorem isBlank_and_isQuote_of_isNameChar (h : isNameChar c = true) :
    Text.isBlank c = false ∧ isQuote c = false := by
  have code : c.toNat = 36 ∨ c.toNat = 95 ∨ 48 ≤ c.toNat ∧ c.toNat ≤ 57 ∨
      65 ≤ c.toNat ∧ c.toNat ≤ 90 ∨ 97 ≤ c.toNat ∧ c.toNat ≤ 122 := by
    simp only [isNameChar, Bool.or_eq_true, Text.isAlphanum_iff, Text.isUpper_iff, Text.isLower_iff,
      Text.isDigit_iff, decide_eq_true_eq] at h
    rcases h with (((upper | lower) | digit) | rfl) | rfl
    · exact Or.inr (Or.inr (Or.inr (Or.inl upper)))
    · exact Or.inr (Or.inr (Or.inr (Or.inr lower)))
    · exact Or.inr (Or.inr (Or.inl digit))
    · exact Or.inr (Or.inl rfl)
    · exact Or.inl rfl
  constructor
  · exact Text.isBlank_of_visible (by omega)
  · rw [Bool.eq_false_iff]
    simp only [isQuote, ne_eq, Bool.or_eq_true, decide_eq_true_eq]
    rintro (rfl | rfl) <;> revert code <;> decide

theorem lex_nameChar (h : isNameChar c = true) (s : List Char) :
    lex (c :: s) = (lex (s.dropWhile isNameChar)).map
      (.name (String.ofList (c :: s.takeWhile isNameChar)) :: ·) := by
  obtain ⟨blank, quote⟩ := isBlank_and_isQuote_of_isNameChar h
  rw [lex.eq_def]
  dsimp only
  rw [if_neg (by simp [blank]), if_neg (by simp [quote]), if_pos h]

/-! ### Boundaries -/

/-- The characters at which everything before them has ended. -/
def isBoundary (c : Char) : Bool :=
  !isQuote c && !isNameChar c

/-- A text that begins at a boundary, or is empty. -/
def Ended (rest : List Char) : Prop :=
  ∀ c ∈ rest.head?, isBoundary c = true

/-- The lexemes of characters at boundaries: blanks leave no trace. -/
def marks (m : List Char) : List Lexeme :=
  (m.filter (!Text.isBlank ·)).map .mark

theorem lex_boundary (h : isBoundary c = true) (s : List Char) :
    lex (c :: s) = (lex s).map (marks [c] ++ ·) := by
  cases blank : Text.isBlank c with
  | true =>
      rw [lex_blank blank]
      simp [marks, blank]
  | false =>
      simp only [isBoundary, Bool.and_eq_true, Bool.not_eq_true'] at h
      rw [lex.eq_def]
      dsimp only
      rw [if_neg (by simp [blank]), if_neg (by simp [h.1]), if_neg (by simp [h.2])]
      simp [marks, blank]

theorem Ended.append (hs : Ended s) (hr : Ended rest) : Ended (s ++ rest) := by
  cases s with
  | nil => exact hr
  | cons c s => exact hs

/-! ### Texts that go on -/

/-- The text has these lexemes in front of everything that begins at a boundary. -/
def LexesTo (s : List Char) (ts : List Lexeme) : Prop :=
  ∀ rest, Ended rest → lex (s ++ rest) = (lex rest).map (ts ++ ·)

variable {t m : List Char} {ts us : List Lexeme}

/-- A text by itself is followed by nothing. -/
theorem LexesTo.lex_eq (h : LexesTo s ts) : lex s = some ts := by
  have whole := h [] (by simp [Ended])
  simpa using whole

theorem lexesTo_nil : LexesTo [] [] := by
  intro rest _
  simp

theorem LexesTo.append (hs : LexesTo s ts) (ht : LexesTo t us) (ended : Ended t) :
    LexesTo (s ++ t) (ts ++ us) := by
  intro rest hrest
  rw [List.append_assoc, hs _ (ended.append hrest), ht rest hrest, Option.map_map]
  congr 1
  funext ws
  exact (List.append_assoc ts us ws).symm

/-- Characters at boundaries can stand in front of any text. -/
theorem LexesTo.delimit (ht : LexesTo t us) (h : ∀ c ∈ m, isBoundary c = true) :
    LexesTo (m ++ t) (marks m ++ us) := by
  induction m with
  | nil => exact ht
  | cons c m ih =>
      have tail := ih fun d hd => h d (by simp [hd])
      intro rest hrest
      -- The character is read by itself, so nothing is asked of what stands behind it.
      have split : marks (c :: m) = marks [c] ++ marks m := by
        rw [marks, marks, marks, ← List.map_append, ← List.filter_append]
        rfl
      rw [List.cons_append, List.cons_append, lex_boundary (h c (by simp)), tail rest hrest,
        Option.map_map, split]
      congr 1
      funext ws
      simp

/-- Characters at boundaries keep two texts apart. -/
theorem LexesTo.join (hs : LexesTo s ts) (ht : LexesTo t us) (ne : m ≠ [])
    (h : ∀ c ∈ m, isBoundary c = true) : LexesTo (s ++ m ++ t) (ts ++ marks m ++ us) := by
  rw [List.append_assoc, List.append_assoc]
  refine hs.append (ht.delimit h) ?_
  obtain ⟨c, m, rfl⟩ := List.exists_cons_of_ne_nil ne
  exact fun d hd => h d (by simp_all)

/-! ### Pieces of one lexeme -/

/-- At a boundary no quote follows. -/
theorem Ended.head?_ne_quote {q : Char} (h : Ended rest) (hq : isQuote q = true) :
    rest.head? ≠ some q := by
  intro first
  have := h q first
  simp [isBoundary, hq] at this

/-- **A quoted text is one lexeme**, whatever it holds. -/
theorem lexesTo_enclose {q : Char} (quote : isQuote q = true) (s : String) :
    LexesTo (Text.enclose q s).toList [quoted q s] := by
  intro rest ended
  have read := Text.readEnclosed_double (ended.head?_ne_quote quote) s.toList
  rw [Text.toList_enclose, List.append_assoc, List.cons_append, List.singleton_append,
    lex_quote quote read, String.ofList_toList]
  rfl

/-- At a boundary no name goes on. -/
theorem Ended.isNameChar_eq_false (h : Ended rest) : ∀ c ∈ rest.head?, isNameChar c = false := by
  intro c hc
  have boundary := h c hc
  rw [isBoundary, Bool.and_eq_true, Bool.not_eq_true', Bool.not_eq_true'] at boundary
  exact boundary.2

/-- A run of name characters is one lexeme. -/
theorem lexesTo_bareName {s : List Char} (ne : s ≠ []) (chars : ∀ c ∈ s, isNameChar c = true) :
    LexesTo s [.name (String.ofList s)] := by
  intro rest ended
  obtain ⟨c, s, rfl⟩ := List.exists_cons_of_ne_nil ne
  obtain ⟨run, remainder⟩ := Text.takeWhile_and_dropWhile_append
    (fun d hd => chars d (List.mem_cons_of_mem c hd)) ended.isNameChar_eq_false
  rw [List.cons_append, lex_nameChar (chars c (by simp)), run, remainder]
  rfl

/-- A text without quotes has lexemes. -/
theorem exists_lexesTo (h : ∀ c ∈ s, isQuote c = false) : ∃ ts, LexesTo s ts := by
  -- A bare name is taken in one step, so the induction is on the length.
  induction hn : s.length using Nat.strongRecOn generalizing s with
  | ind n ih =>
      cases s with
      | nil => exact ⟨[], lexesTo_nil⟩
      | cons c s =>
          cases name : isNameChar c with
          | true =>
              have run : ∀ d ∈ c :: s.takeWhile isNameChar, isNameChar d = true := by
                rintro d (_ | ⟨_, hd⟩)
                · exact name
                · exact List.mem_takeWhile_imp hd
              have shorter := (List.dropWhile_sublist isNameChar (l := s)).length_le
              obtain ⟨ts, tail⟩ := ih (s.dropWhile isNameChar).length (by simp at hn; omega)
                (fun d hd => h d
                  (List.mem_cons_of_mem c ((List.dropWhile_sublist _).subset hd))) rfl
              have ended : Ended (s.dropWhile isNameChar) := by
                intro d hd
                have stop := Text.eq_false_of_mem_head?_dropWhile d hd
                have mem := (List.dropWhile_sublist _).subset (List.mem_of_mem_head? hd)
                simp [isBoundary, h d (List.mem_cons_of_mem c mem), stop]
              -- The name is the longest run, so the remainder begins at a boundary.
              have whole := (lexesTo_bareName (by simp) run).append tail ended
              rw [List.cons_append, List.takeWhile_append_dropWhile] at whole
              exact ⟨_, whole⟩
          | false =>
              obtain ⟨ts, tail⟩ := ih s.length (by simp at hn; omega)
                (fun d hd => h d (List.mem_cons_of_mem c hd)) rfl
              have boundary : ∀ d ∈ [c], isBoundary d = true := by
                simp [isBoundary, name, h c (by simp)]
              exact ⟨_, tail.delimit boundary⟩

/-! ### Parts of names -/

/-- The characters of plain parts are name characters. -/
theorem isNameChar_of_continuesPlain {c : Char} (h : Part.continuesPlain c = true) :
    isNameChar c = true := by
  simp only [Part.continuesPlain, Bool.or_eq_true] at h
  rcases h with ((h | h) | h) | h <;> simp [isNameChar, Text.isAlphanum_iff, h]

/-- **A part of a name is one lexeme**, whatever it holds and however it is written. -/
theorem lexesTo_write (part : String) : LexesTo (Part.write part).toList [.name part] := by
  rw [Part.write]
  split
  next plain =>
    have chars (c : Char) (hc : c ∈ part.toList) : isNameChar c = true :=
      isNameChar_of_continuesPlain (Part.continuesPlain_of_mem plain c hc)
    simpa using lexesTo_bareName (Part.isWord_of_isPlain plain).1 chars
  next => exact lexesTo_enclose (by decide) part

end Lexeme

end WarehouseAdmin
