import WarehouseAdmin.Text.Basic

/-!
# Laws of characters and texts

A quote that belongs to a text is written twice, so the first quote that stands alone closes the
text.  `readEnclosed_eq_some_iff` says that reading undoes writing and accepts nothing else: what it
returns is the one way to see the input as a written inside, its closing quote and a remainder.

The other laws are about what is left alone: by the folding to upper case, by `trim` and by `words`.
-/

namespace WarehouseAdmin.Text

/-! ## Characters by their codes

The classes of characters are told apart by their codes.  Facts about a character are moved to its
code here, so that what is left of a question about classes is arithmetic.
-/

section Codes

variable {c : Char}

theorem isUpper_iff : c.isUpper = true ↔ 65 ≤ c.toNat ∧ c.toNat ≤ 90 :=
  decide_eq_true_iff

theorem isLower_iff : c.isLower = true ↔ 97 ≤ c.toNat ∧ c.toNat ≤ 122 := by
  refine (Bool.and_eq_true _ _).to_iff.trans ?_
  exact and_congr decide_eq_true_iff decide_eq_true_iff

theorem isDigit_iff : c.isDigit = true ↔ 48 ≤ c.toNat ∧ c.toNat ≤ 57 := by
  refine (Bool.and_eq_true _ _).to_iff.trans ?_
  exact and_congr decide_eq_true_iff decide_eq_true_iff

theorem isAlphanum_iff :
    c.isAlphanum = true ↔ (c.isUpper = true ∨ c.isLower = true) ∨ c.isDigit = true := by
  refine (Bool.or_eq_true _ _).to_iff.trans ?_
  exact or_congr_left (Bool.or_eq_true _ _).to_iff

/-- The visible ASCII characters are not blank. -/
theorem isBlank_of_visible (h : 33 ≤ c.toNat ∧ c.toNat ≤ 126) : isBlank c = false := by
  rw [Bool.eq_false_iff]
  simp only [isBlank, ne_eq, Bool.or_eq_true, Bool.and_eq_true, decide_eq_true_eq, beq_iff_eq]
  omega

/-- Only the small ASCII letters are changed by folding to upper case. -/
theorem toUpper_of_not_small (h : ¬ (97 ≤ c.toNat ∧ c.toNat ≤ 122)) : c.toUpper = c := by
  apply Char.toNat_inj.mp
  rw [toNat_toUpper, if_neg h]

end Codes

/-! ## Blanks at the ends and between words

What `trim` and `words` leave alone: a text with no blank at its ends, and every character that is
not blank, in its order.  Putting the words together again adds spaces and nothing else.
-/

/-- A text of which only blanks are the characters; it may be empty. -/
def IsBlank (s : List Char) : Prop :=
  ∀ c ∈ s, isBlank c = true

theorem all_isBlank_iff {s : List Char} : s.all isBlank = true ↔ IsBlank s :=
  List.all_eq_true

instance (s : List Char) : Decidable (IsBlank s) :=
  decidable_of_iff _ all_isBlank_iff

/-! ### Trimming -/

/-- A text that neither begins nor ends with a blank is its own trimmed form. -/
theorem trim_eq_self {s : List Char} (first : ∀ c ∈ s.head?, isBlank c = false)
    (last : ∀ c ∈ s.getLast?, isBlank c = false) : trim s = s := by
  have front : s.dropWhile isBlank = s := by
    cases s with
    | nil => rfl
    | cons c s => simp [first c rfl]
  have back : s.reverse.dropWhile isBlank = s.reverse := by
    cases h : s.reverse with
    | nil => rfl
    | cons c t =>
        have hc : c ∈ s.getLast? := by
          rw [← List.head?_reverse, h]
          rfl
        simp [last c hc]
  rw [trim, front, back, List.reverse_reverse]

/-- A word has no blank to lose. -/
theorem IsWord.trim_eq {w : List Char} (h : IsWord w) : trim w = w :=
  trim_eq_self (fun c hc => h.2 c (List.mem_of_mem_head? hc))
    (fun c hc => h.2 c (List.mem_of_mem_getLast? hc))

/-! ### Words -/

/-- The words of a text hold its characters that are not blank, in order. -/
theorem flatten_words (s : List Char) : (words s).flatten = s.filter fun c => !isBlank c := by
  rw [words, List.flatten_filter_not_isEmpty]
  induction s with
  | nil => rfl
  | cons c s ih =>
      obtain ⟨v, vs, hv⟩ := List.exists_cons_of_ne_nil (List.splitOnP_ne_nil isBlank s)
      rw [List.splitOnP_cons_eq_if_modifyHead]
      cases hc : isBlank c with
      | true => simp [hc, ← ih]
      | false =>
          rw [hv] at ih
          simp [hc, hv, ← ih]

/-- A text has no words exactly when it is blank. -/
theorem words_eq_nil_iff {s : List Char} : words s = [] ↔ IsBlank s := by
  constructor
  · intro h
    have none : s.filter (fun c => !isBlank c) = [] := by
      rw [← flatten_words, h]
      rfl
    simpa [IsBlank] using none
  · intro h
    have none : (words s).flatten = [] := by
      rw [flatten_words]
      simpa [IsBlank] using h
    -- A word is not empty, so no word can stand in a list that flattens to nothing.
    refine List.eq_nil_iff_forall_not_mem.mpr fun w hw => ?_
    exact (isWord_of_mem_words hw).1 (List.flatten_eq_nil_iff.mp none w hw)

/-- A blank in front of a text is no part of any word. -/
theorem words_cons_blank {c : Char} (h : isBlank c = true) (s : List Char) :
    words (c :: s) = words s := by
  rw [words, List.splitOnP_cons_eq_if_modifyHead, if_pos h]
  simp [words]

@[simp] theorem unwords_nil : unwords [] = [] := rfl

theorem unwords_eq_nil_iff {ws : List (List Char)} (h : ∀ w ∈ ws, IsWord w) :
    unwords ws = [] ↔ ws = [] := by
  cases ws with
  | nil => simp
  | cons w ws =>
      have hw := (h w (by simp)).1
      cases ws with
      | nil => simpa [unwords] using hw
      | cons v vs => simp [unwords_cons_cons]

/-- The spaces between words are all that is added to them. -/
theorem filter_unwords {p : Char → Bool} (space : p ' ' = false) (ws : List (List Char)) :
    (unwords ws).filter p = ws.flatten.filter p := by
  induction ws with
  | nil => rfl
  | cons w ws ih =>
      cases ws with
      | nil => simp [unwords]
      | cons v vs =>
          rw [unwords_cons_cons, List.filter_append, List.filter_cons_of_neg (by simp [space]), ih]
          simp

/-! ## Quotes

The remainder behind a quoted text must not begin with the quote.  This is the whole side condition,
and it is the reason why quoted pieces have to be kept apart.  A run of characters of one kind is
delimited in the same way: the remainder must not go on with it.
-/

variable {q c : Char} {s inside rest : List Char}

@[simp] theorem double_nil : double q [] = [] := rfl

@[simp] theorem double_cons_self : double q (q :: s) = q :: q :: double q s := by
  simp [double]

theorem double_cons_of_ne (h : c ≠ q) : double q (c :: s) = c :: double q s := by
  simp [double, h]

@[simp] theorem toList_enclose (q : Char) (s : String) :
    (enclose q s).toList = q :: double q s.toList ++ [q] := by
  simp [enclose]

/-! ### One step of the reader -/

/-- Any character but the quote belongs to the inside, whatever follows. -/
theorem readEnclosed_cons_of_ne (h : c ≠ q) :
    readEnclosed q (c :: s) = (readEnclosed q s).map fun r => (c :: r.1, r.2) := by
  cases s with
  | nil => simp [readEnclosed, h]
  | cons d s => simp [readEnclosed, h]

/-- A doubled quote belongs to the inside. -/
@[simp] theorem readEnclosed_cons_cons_self :
    readEnclosed q (q :: q :: s) = (readEnclosed q s).map fun r => (q :: r.1, r.2) := by
  simp [readEnclosed]

/-- A quote that is not doubled ends the inside. -/
theorem readEnclosed_cons_self (h : rest.head? ≠ some q) :
    readEnclosed q (q :: rest) = some ([], rest) := by
  cases rest with
  | nil => simp [readEnclosed]
  | cons d s =>
      have hd : d ≠ q := by simpa using h
      simp [readEnclosed, hd]

/-! ### Reading undoes writing -/

theorem readEnclosed_double (h : rest.head? ≠ some q) (inside : List Char) :
    readEnclosed q (double q inside ++ q :: rest) = some (inside, rest) := by
  induction inside with
  | nil => exact readEnclosed_cons_self h
  | cons c inside ih =>
      by_cases hc : c = q
      · subst hc
        rw [double_cons_self, List.cons_append, List.cons_append, readEnclosed_cons_cons_self, ih]
        rfl
      · rw [double_cons_of_ne hc, List.cons_append, readEnclosed_cons_of_ne hc, ih]
        rfl

/-- What has been read was written that way. -/
theorem eq_double_of_readEnclosed (h : readEnclosed q s = some (inside, rest)) :
    s = double q inside ++ q :: rest ∧ rest.head? ≠ some q := by
  fun_induction readEnclosed q s generalizing inside rest with
  | case1 => simp at h
  | case2 =>
      obtain ⟨rfl, rfl⟩ : [] = inside ∧ [] = rest := by simpa using h
      simp
  | case3 => simp at h
  | case4 s ih =>
      obtain ⟨⟨i, r⟩, hr, hi⟩ := Option.map_eq_some_iff.mp h
      obtain ⟨rfl, rfl⟩ := Prod.mk.inj hi
      obtain ⟨hs, hhead⟩ := ih hr
      exact ⟨by simp [hs], hhead⟩
  | case5 d s hd =>
      obtain ⟨rfl, rfl⟩ : [] = inside ∧ d :: s = rest := by simpa using h
      exact ⟨rfl, by simpa using hd⟩
  | case6 c d s hc ih =>
      obtain ⟨⟨i, r⟩, hr, hi⟩ := Option.map_eq_some_iff.mp h
      obtain ⟨rfl, rfl⟩ := Prod.mk.inj hi
      obtain ⟨hs, hhead⟩ := ih hr
      exact ⟨by rw [hs, double_cons_of_ne hc]; rfl, hhead⟩

/-- **A quoted text is self-delimiting.**  The reader returns `(inside, rest)` exactly when the
input is the written inside, a closing quote, and a remainder that does not begin with another
quote. -/
theorem readEnclosed_eq_some_iff :
    readEnclosed q s = some (inside, rest) ↔
      s = double q inside ++ q :: rest ∧ rest.head? ≠ some q := by
  constructor
  · exact eq_double_of_readEnclosed
  · rintro ⟨rfl, h⟩
    exact readEnclosed_double h inside

/-! ### Runs -/

/-- **A run is self-delimiting.**  It ends where a character of another kind follows. -/
theorem takeWhile_and_dropWhile_append {p : Char → Bool} {run : List Char}
    (chars : ∀ c ∈ run, p c = true) (stop : ∀ c ∈ rest.head?, p c = false) :
    (run ++ rest).takeWhile p = run ∧ (run ++ rest).dropWhile p = rest := by
  rw [List.takeWhile_append_of_pos chars, List.dropWhile_append_of_pos chars]
  cases rest with
  | nil => simp
  | cons c rest => simp [stop c rfl]

/-- What follows the longest run goes on with a character of another kind. -/
theorem eq_false_of_mem_head?_dropWhile {p : Char → Bool} :
    ∀ c ∈ (s.dropWhile p).head?, p c = false := by
  intro c hc
  have stop := List.head?_dropWhile_not p s
  rw [Option.mem_def.mp hc] at stop
  exact stop

end WarehouseAdmin.Text
