/-!
# Characters and texts

What names, statements and messages ask of a text: where its words end, what it is in another case,
and where a quoted part of it ends.  All of it is decided character by character.

## Main definitions

* `isBlank` — the property `White_Space`, as a Boolean over characters.
* `trim` — a text without the blanks at its two ends.
* `words` — the maximal runs of other characters, in order.
* `lower`, `holds` — a text in lower case, and the search for a phrase in it.
* `double`, `enclose` — the inside of a quoted text as it is written, and the whole of it.
* `readEnclosed` — what stands before the closing quote, and what follows it.

`words_unwords` says that words put together with single spaces come apart again as the same words.
-/

namespace WarehouseAdmin.Text

/-! ## Blanks and words

User text is read word by word, and a word ends at any character with the Unicode property
`White_Space`: the ASCII blanks, the no-break space, the typographic spaces and the line and
paragraph separators.  Zero-width characters do not have the property and stay inside words.
-/

/-- The twenty-five characters with the Unicode property `White_Space`. -/
def isBlank (c : Char) : Bool :=
  let n := c.toNat
  (0x9 ≤ n && n ≤ 0xD) || n == 0x20 || n == 0x85 || n == 0xA0 || n == 0x1680 ||
    (0x2000 ≤ n && n ≤ 0x200A) || n == 0x2028 || n == 0x2029 || n == 0x202F || n == 0x205F ||
    n == 0x3000

/-- A text without the blanks at its two ends. -/
def trim (s : List Char) : List Char :=
  ((s.dropWhile isBlank).reverse.dropWhile isBlank).reverse

/-- The maximal runs of characters that are not blank. -/
def words (s : List Char) : List (List Char) :=
  (s.splitOnP isBlank).filter (!·.isEmpty)

/-- Words put together with single spaces. -/
def unwords (ws : List (List Char)) : List Char :=
  [' '].intercalate ws

/-! ### Words come apart as they were put together -/

/-- A word is a non-empty text without blanks. -/
def IsWord (w : List Char) : Prop :=
  w ≠ [] ∧ ∀ c ∈ w, isBlank c = false

/-- No piece of a split holds a character that was split on. -/
theorem eq_false_of_mem_splitOnP {p : Char → Bool} {s w : List Char} (h : w ∈ s.splitOnP p) :
    ∀ c ∈ w, p c = false := by
  induction s generalizing w with
  | nil => simp_all
  | cons d s ih =>
    rw [List.splitOnP_cons_eq_if_modifyHead] at h
    obtain ⟨v, vs, hv⟩ := List.exists_cons_of_ne_nil (List.splitOnP_ne_nil p s)
    by_cases hd : p d = true <;> simp only [hd, hv, if_true, if_false, List.modifyHead_cons,
      List.mem_cons, Bool.false_eq_true] at h
    · rcases h with rfl | h
      · simp
      · exact ih (by simpa [hv] using h)
    · rcases h with rfl | h
      · simpa [hd] using ih (w := v) (by simp [hv])
      · exact ih (by simp [hv, h])

/-- Every piece that `words` gives is a word. -/
theorem isWord_of_mem_words {s w : List Char} (h : w ∈ words s) : IsWord w := by
  obtain ⟨hw, hne⟩ := List.mem_filter.1 h
  exact ⟨by simpa using hne, eq_false_of_mem_splitOnP hw⟩

theorem unwords_cons_cons (w v : List Char) (ws : List (List Char)) :
    unwords (w :: v :: ws) = w ++ ' ' :: unwords (v :: ws) := by
  simp [unwords]

/-- Words put together with single spaces come apart as they were. -/
theorem words_unwords {ws : List (List Char)} (h : ∀ w ∈ ws, IsWord w) :
    words (unwords ws) = ws := by
  induction ws with
  | nil => rfl
  | cons w ws ih =>
    have hw := h w (by simp)
    cases ws with
    | nil => simp [words, unwords, List.splitOnP_eq_singleton hw.2, hw.1]
    | cons v vs =>
      have tail := ih fun u hu => h u (by simp [hu])
      rw [words] at tail
      rw [unwords_cons_cons, words, List.splitOnP_append_cons _ _ (by decide),
        List.splitOnP_eq_singleton hw.2]
      simp [tail, hw.1]

/-! ## Upper case

Names and types are folded to upper case in ASCII only, which is what `Char.toUpper` does: the
twenty-six small letters move down by thirty-two and every other character stays.
-/

/-- The code of a character in upper case. -/
theorem toNat_toUpper (c : Char) :
    c.toUpper.toNat = if 97 ≤ c.toNat ∧ c.toNat ≤ 122 then c.toNat - 32 else c.toNat := by
  have small : ('a'.val ≤ c.val ∧ c.val ≤ 'z'.val) ↔ 97 ≤ c.toNat ∧ c.toNat ≤ 122 := Iff.rfl
  unfold Char.toUpper
  split
  next h =>
    rw [if_pos (small.1 h)]
    have := small.1 h
    show (c.val + ('A'.val - 'a'.val)).toNat = c.val.toNat - 32
    have shift : ('A'.val - 'a'.val) = 4294967264 := by decide
    have bounds : 97 ≤ c.val.toNat ∧ c.val.toNat ≤ 122 := this
    rw [shift, UInt32.toNat_add]
    have : (4294967264 : UInt32).toNat = 4294967264 := rfl
    omega
  next h => rw [if_neg fun hc => h (small.2 hc)]

/-- Folding a second time changes nothing. -/
theorem toUpper_toUpper (c : Char) : c.toUpper.toUpper = c.toUpper := by
  apply Char.toNat_inj.1
  have once := toNat_toUpper c
  rw [toNat_toUpper c.toUpper]
  split at once <;> split <;> omega

/-- Folding neither makes nor removes a blank. -/
theorem isBlank_toUpper (c : Char) : isBlank c.toUpper = isBlank c := by
  simp only [isBlank, toNat_toUpper]
  split
  next h =>
    rw [Bool.eq_iff_iff]
    simp only [Bool.or_eq_true, Bool.and_eq_true, decide_eq_true_eq, beq_iff_eq]
    omega
  next => rfl

/-- A word in upper case is a word. -/
theorem IsWord.map_toUpper {w : List Char} (h : IsWord w) : IsWord (w.map Char.toUpper) := by
  refine ⟨by simpa using h.1, fun c hc => ?_⟩
  obtain ⟨d, hd, rfl⟩ := List.mem_map.1 hc
  rw [isBlank_toUpper]
  exact h.2 d hd

/-! ## Lower case, as far as ASCII can tell

Messages are searched for ASCII phrases whatever the case of their letters.  For that it matters
which characters have a lower-case form with ASCII letters in it: the ASCII capitals, the Kelvin
sign, whose lower case is `k`, and the dotted capital I, whose lower case is `i` and a combining
dot.  Every other character is kept, since no phrase in ASCII can meet its lower case.
-/

/-- The lower-case form of a character, where ASCII letters occur in it. -/
def lowerChar (c : Char) : List Char :=
  if c = '\u212a' then ['k']
  else if c = '\u0130' then ['i', '\u0307']
  else [c.toLower]

/-- A text in lower case, as far as ASCII can tell. -/
def lower (s : List Char) : List Char :=
  s.flatMap lowerChar

/-- Whether a text holds a phrase. -/
def holds (phrase : List Char) : List Char → Bool
  | [] => phrase.isEmpty
  | c :: s => phrase.isPrefixOf (c :: s) || holds phrase s

theorem holds_iff {phrase s : List Char} : holds phrase s = true ↔ phrase <:+: s := by
  induction s with
  | nil => simp [holds]
  | cons c s ih => rw [holds, Bool.or_eq_true, List.isPrefixOf_iff_prefix, ih, List.infix_cons_iff]

/-! ## Quotes

A quoted text stands between two quote characters, and a quote character inside it is written
twice.  Names are quoted this way with `"` and literals with `'`.
-/

/-- Writes every `q` twice. -/
def double (q : Char) : List Char → List Char
  | [] => []
  | c :: s => if c = q then q :: q :: double q s else c :: double q s

/-- A text between two quotes `q`, with the quotes inside it doubled. -/
def enclose (q : Char) (s : String) : String :=
  String.ofList (q :: double q s.toList ++ [q])

/-- Reads the inside of a quoted text up to the first quote that is not doubled, and gives what
follows that quote.  The opening quote has been read already; without a closing one there is
nothing to give. -/
def readEnclosed (q : Char) : List Char → Option (List Char × List Char)
  | [] => none
  | [c] => if c = q then some ([], []) else none
  | c :: d :: s =>
    if c = q then
      if d = q then (readEnclosed q s).map fun (inside, rest) => (q :: inside, rest)
      else some ([], d :: s)
    else (readEnclosed q (d :: s)).map fun (inside, rest) => (c :: inside, rest)

/-- The closing quote has been read, so less is left. -/
theorem length_lt_of_readEnclosed {q : Char} {s inside rest : List Char}
    (h : readEnclosed q s = some (inside, rest)) : rest.length < s.length := by
  fun_induction readEnclosed q s generalizing inside rest with
  | case1 => simp at h
  | case2 => simp_all
  | case3 => simp at h
  | case4 s ih =>
    simp only [Option.map_eq_some_iff] at h
    obtain ⟨⟨i, r⟩, hr, h⟩ := h
    have := ih hr
    simp_all
    omega
  | case5 => simp_all
  | case6 c d s _ ih =>
    simp only [Option.map_eq_some_iff] at h
    obtain ⟨⟨i, r⟩, hr, h⟩ := h
    have := ih hr
    simp_all
    omega

end WarehouseAdmin.Text
