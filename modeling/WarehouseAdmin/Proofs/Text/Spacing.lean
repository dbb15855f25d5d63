import WarehouseAdmin.Proofs.Text.Basic
import Mathlib.Data.List.Chain
import Mathlib.Data.List.Induction

/-!
# Texts with single spaces

A text is evenly spaced when no blank stands at its ends and its inner blanks are spaces, one at a
time.  These are the texts that are words put together with single spaces (`isSpaced_unwords`), so
such a text comes apart into its words and is put together again as it was
(`IsSpaced.unwords_words`).
-/

namespace WarehouseAdmin.Text

/-- No blank at the ends, and between the words one space. -/
structure IsSpaced (s : List Char) : Prop where
  /-- The text begins with no blank. -/
  head : ∀ c ∈ s.head?, isBlank c = false
  /-- The text ends with no blank. -/
  last : ∀ c ∈ s.getLast?, isBlank c = false
  /-- The only blank is the space. -/
  space : ∀ c ∈ s, isBlank c = true → c = ' '
  /-- No blank follows a blank. -/
  single : s.IsChain fun c d => isBlank c = true → isBlank d = false

variable {s w : List Char}

theorem exists_cons_of_unwords {ws : List (List Char)} (h : unwords ws ≠ []) :
    ∃ w vs, ws = w :: vs := by
  refine List.exists_cons_of_ne_nil ?_
  rintro rfl
  exact h unwords_nil

/-- A character in front of a text goes to its first word. -/
theorem unwords_cons_left (c : Char) (w : List Char) (ws : List (List Char)) :
    unwords ((c :: w) :: ws) = c :: unwords (w :: ws) := by
  cases ws with
  | nil => simp [unwords]
  | cons v vs => rw [unwords_cons_cons, unwords_cons_cons, List.cons_append]

theorem isSpaced_nil : IsSpaced [] :=
  ⟨by simp, by simp, by simp, List.isChain_nil⟩

/-- A word has no blanks at all. -/
theorem IsWord.isSpaced (h : IsWord w) : IsSpaced w where
  head c hc := h.2 c (List.mem_of_mem_head? hc)
  last c hc := h.2 c (List.mem_of_mem_getLast? hc)
  space c hc blank := absurd blank (by simp [h.2 c hc])
  single := by
    refine List.Pairwise.isChain (List.pairwise_of_forall_mem_list fun c _ d hd _ => ?_)
    exact h.2 d hd

/-- A word can be put in front with a space. -/
theorem IsWord.isSpaced_append (h : IsWord w) (hs : IsSpaced s) (ne : s ≠ []) :
    IsSpaced (w ++ ' ' :: s) := by
  obtain ⟨d, s, rfl⟩ := List.exists_cons_of_ne_nil ne
  have first := hs.head d rfl
  have ends : (w ++ ' ' :: d :: s).getLast? = (d :: s).getLast? := by
    rw [List.getLast?_append_of_ne_nil _ (by simp), List.getLast?_cons_cons]
  refine ⟨?_, ?_, ?_, ?_⟩
  · intro c hc
    rw [List.head?_append_of_ne_nil _ h.1] at hc
    exact h.isSpaced.head c hc
  · intro c hc
    exact hs.last c (ends ▸ hc)
  · intro c hc blank
    rcases List.mem_append.mp hc with hc | hc
    · exact h.isSpaced.space c hc blank
    · rcases List.mem_cons.mp hc with rfl | hc
      · rfl
      · exact hs.space c hc blank
  · refine List.isChain_append.mpr ⟨h.isSpaced.single, ?_, ?_⟩
    · exact List.isChain_cons_cons.mpr ⟨fun _ => first, hs.single⟩
    · intro c hc d _ blank
      exact absurd blank (by simp [h.isSpaced.last c hc])

/-- Words put together with single spaces are evenly spaced. -/
theorem isSpaced_unwords {ws : List (List Char)} (h : ∀ w ∈ ws, IsWord w) :
    IsSpaced (unwords ws) := by
  induction ws with
  | nil => exact isSpaced_nil
  | cons w ws ih =>
      have tail := ih fun v hv => h v (by simp [hv])
      cases ws with
      | nil => simpa [unwords] using (h w (by simp)).isSpaced
      | cons v vs =>
          have ne : unwords (v :: vs) ≠ [] := by
            rw [ne_eq, unwords_eq_nil_iff fun u hu => h u (by simp [hu])]
            simp
          rw [unwords_cons_cons]
          exact (h w (by simp)).isSpaced_append tail ne

/-- An evenly spaced text is made of words. -/
theorem IsSpaced.exists_unwords (h : IsSpaced s) :
    ∃ ws, (∀ w ∈ ws, IsWord w) ∧ unwords ws = s := by
  -- A space is taken together with the character in front of it.
  induction s using List.twoStepInduction with
  | nil => exact ⟨[], by simp, rfl⟩
  | singleton c => exact ⟨[[c]], by simpa [IsWord] using h.head c rfl, by simp [unwords]⟩
  | cons_cons c d s skip next =>
      have solid : isBlank c = false := h.head c rfl
      obtain ⟨-, single⟩ := List.isChain_cons_cons.mp h.single
      cases blank : isBlank d with
      | true =>
          obtain rfl := h.space d (by simp) blank
          obtain ⟨e, s, rfl⟩ : ∃ e t, s = e :: t := by
            refine List.exists_cons_of_ne_nil ?_
            rintro rfl
            exact absurd (h.last ' ' rfl) (by decide)
          obtain ⟨after, single⟩ := List.isChain_cons_cons.mp single
          obtain ⟨ws, isWord, put⟩ := skip
            { head := by simpa using after blank
              last := h.last
              space := fun f hf => h.space f (by simp [hf])
              single := single }
          obtain ⟨w, ws, rfl⟩ := exists_cons_of_unwords (put ▸ List.cons_ne_nil e s)
          refine ⟨[c] :: w :: ws, List.forall_mem_cons.mpr ⟨?_, isWord⟩, ?_⟩
          · simpa [IsWord] using solid
          · rw [unwords_cons_cons, put]
            rfl
      | false =>
          obtain ⟨ws, isWord, put⟩ := next d
            { head := by simpa using blank
              last := h.last
              space := fun f hf => h.space f (List.mem_cons_of_mem c hf)
              single := single }
          obtain ⟨w, ws, rfl⟩ := exists_cons_of_unwords (put ▸ List.cons_ne_nil d s)
          obtain ⟨wWord, wsWord⟩ := List.forall_mem_cons.mp isWord
          refine ⟨(c :: w) :: ws, List.forall_mem_cons.mpr ⟨?_, wsWord⟩, ?_⟩
          · exact ⟨List.cons_ne_nil c w, List.forall_mem_cons.mpr ⟨solid, wWord.2⟩⟩
          · rw [unwords_cons_left, put]

/-- An evenly spaced text is its words put together. -/
theorem IsSpaced.unwords_words (h : IsSpaced s) : unwords (words s) = s := by
  obtain ⟨ws, isWord, rfl⟩ := h.exists_unwords
  rw [words_unwords isWord]

end WarehouseAdmin.Text
