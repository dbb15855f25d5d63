import WarehouseAdmin.Text.Basic
import Mathlib.Data.List.Basic

/-!
# Searching in lower case

A text in lower case is not the text with small letters in it: a character may become several, and
what it becomes may depend on what stands around it.  `Lowers` leaves open what characters beyond
ASCII become, as long as no ASCII comes of them.  There are two exceptions, the Kelvin sign and the
dotted capital I, and each puts a small letter into the text that was not in it.

`IsSearchable` says of a phrase that these letters cannot be part of it.  There is no `k` in it; and
an `i` that comes of the dotted capital I has a combining dot behind it, so it would have to be the
last letter.  Such a phrase is found in lower case exactly if it is found with only the ASCII
capitals lowered (`Lowers.infix_iff`).  Nor do commas come of anything else, so it makes no
difference whether they are taken out before or after.

## Main definitions

* `IsLowerForm`, `Lowers` — what a character and a text become in lower case.
* `fold` — a text without its commas and its capitals.
* `Alike` — texts that differ in their commas and in the case of their ASCII letters.

## Main statements

* `Lowers.infix_filter_iff` — a searchable phrase in a text in lower case.
* `Alike.fold_eq` — texts that are alike are folded to the same text.
-/

namespace WarehouseAdmin.Text

variable {c d : Char} {s t form phrase : List Char}

/-! ## Small letters -/

/-- The code of a character with its capital lowered. -/
theorem toNat_toLower (c : Char) :
    c.toLower.toNat = if 65 ≤ c.toNat ∧ c.toNat ≤ 90 then c.toNat + 32 else c.toNat := by
  have capital : (c.val ≥ 'A'.val ∧ c.val ≤ 'Z'.val) ↔ 65 ≤ c.toNat ∧ c.toNat ≤ 90 := Iff.rfl
  unfold Char.toLower
  split
  next h =>
    rw [if_pos (capital.mp h)]
    have bounds : 65 ≤ c.val.toNat ∧ c.val.toNat ≤ 90 := capital.mp h
    have shift : 'a'.val - 'A'.val = 32 := by decide
    show (c.val + ('a'.val - 'A'.val)).toNat = c.val.toNat + 32
    rw [shift, UInt32.toNat_add]
    have : (32 : UInt32).toNat = 32 := rfl
    omega
  next h => rw [if_neg (mt capital.mpr h)]

theorem toLower_of_foreign (foreign : 128 ≤ c.toNat) : c.toLower = c := by
  apply Char.toNat_inj.mp
  rw [toNat_toLower, if_neg (by omega)]

theorem toLower_eq_comma_iff : c.toLower = ',' ↔ c = ',' := by
  rw [← Char.toNat_inj, ← Char.toNat_inj, toNat_toLower]
  have : ','.toNat = 44 := rfl
  split <;> omega

/-! ## Lower case -/

/-- What a character may become in lower case. -/
inductive IsLowerForm : Char → List Char → Prop
  | ascii {c : Char} (ascii : c.toNat < 128) : IsLowerForm c [c.toLower]
  | kelvin : IsLowerForm '\u212a' ['k']
  | dotted : IsLowerForm '\u0130' ['i', '\u0307']
  /-- Of any other character comes something, but no ASCII. -/
  | foreign {c : Char} {form : List Char} (foreign : 128 ≤ c.toNat) (kelvin : c ≠ '\u212a')
      (dotted : c ≠ '\u0130') (some : form ≠ []) (rest : ∀ d ∈ form, 128 ≤ d.toNat) :
        IsLowerForm c form

/-- A text becomes another one in lower case.  One character may become different things in
different places. -/
inductive Lowers : List Char → List Char → Prop
  | nil : Lowers [] []
  | cons {c : Char} {form s t : List Char} (first : IsLowerForm c form) (others : Lowers s t) :
      Lowers (c :: s) (form ++ t)

theorem IsLowerForm.eq_of_ascii (lowered : IsLowerForm c form) (ascii : c.toNat < 128) :
    form = [c.toLower] := by
  cases lowered with
  | ascii => rfl
  | kelvin | dotted => exact absurd ascii (by decide)
  | foreign foreign => omega

/-- A comma comes of nothing but a comma. -/
theorem IsLowerForm.comma_not_mem (lowered : IsLowerForm c form) (other : c ≠ ',') :
    ',' ∉ form := by
  cases lowered with
  | ascii => rwa [List.mem_singleton, eq_comm, toLower_eq_comma_iff]
  | kelvin | dotted => decide
  | foreign _ _ _ _ rest =>
      intro mem
      have := rest ',' mem
      have : ','.toNat = 44 := rfl
      omega

theorem isLowerForm_lowerChar (c : Char) : IsLowerForm c (lowerChar c) := by
  rw [lowerChar]
  split_ifs with kelvin dotted
  · exact kelvin ▸ .kelvin
  · exact dotted ▸ .dotted
  · by_cases ascii : c.toNat < 128
    · exact .ascii ascii
    · have foreign : 128 ≤ c.toNat := Nat.le_of_not_lt ascii
      rw [toLower_of_foreign foreign]
      exact .foreign foreign kelvin dotted (by simp) (by simpa using foreign)

/-- `lower` is lower case as far as ASCII can tell. -/
theorem lowers_lower (s : List Char) : Lowers s (lower s) := by
  induction s with
  | nil => exact .nil
  | cons c s ih => exact .cons (isLowerForm_lowerChar c) ih

/-! ## Phrases -/

/-- No letter that comes of a foreign character can be part of the phrase. -/
structure IsSearchable (phrase : List Char) : Prop where
  ascii : ∀ c ∈ phrase, c.toNat < 128
  kelvin : 'k' ∉ phrase
  dotted : phrase.getLast? ≠ some 'i'

instance (phrase : List Char) : Decidable (IsSearchable phrase) :=
  decidable_of_iff (phrase.all (·.toNat < 128) = true ∧ 'k' ∉ phrase ∧ phrase.getLast? ≠ some 'i')
    ⟨fun h => ⟨by simpa using h.1, h.2.1, h.2.2⟩,
      fun h => ⟨by simpa using h.ascii, h.kelvin, h.dotted⟩⟩

theorem IsSearchable.tail (h : IsSearchable (c :: phrase)) : IsSearchable phrase where
  ascii d mem := h.ascii d (List.mem_cons_of_mem c mem)
  kelvin mem := h.kelvin (List.mem_cons_of_mem c mem)
  dotted last := h.dotted (by simp [List.getLast?_cons, last])

/-- A phrase in ASCII does not begin with a foreign character. -/
theorem IsSearchable.not_prefix (h : IsSearchable phrase) (some : phrase ≠ [])
    (foreign : 128 ≤ d.toNat) :
    ¬ phrase <+: d :: t := by
  cases phrase with
  | nil => exact absurd rfl some
  | cons c phrase =>
      rw [List.cons_prefix_cons]
      rintro ⟨rfl, -⟩
      exact absurd (h.ascii c List.mem_cons_self) (by omega)

/-- In front of a text, foreign characters add no place where the phrase could be. -/
theorem IsSearchable.infix_append_iff (h : IsSearchable phrase) (some : phrase ≠ [])
    (foreign : ∀ d ∈ form, 128 ≤ d.toNat) : phrase <:+: form ++ t ↔ phrase <:+: t := by
  induction form with
  | nil => rfl
  | cons d form ih =>
      obtain ⟨first, others⟩ := List.forall_mem_cons.mp foreign
      rw [List.cons_append, List.infix_cons_iff, ih others]
      exact or_iff_right (h.not_prefix some first)

/-- The letters that come of the two exceptions do not begin the phrase. -/
theorem IsSearchable.not_prefix_form (h : IsSearchable phrase) (some : phrase ≠ [])
    (lowered : IsLowerForm c form) (foreign : 128 ≤ c.toNat) : ¬ phrase <+: form ++ t := by
  cases lowered with
  | ascii ascii => omega
  | foreign _ _ _ nonempty rest =>
      obtain ⟨d, form, rfl⟩ := List.exists_cons_of_ne_nil nonempty
      exact h.not_prefix some (rest d List.mem_cons_self)
  | kelvin =>
      obtain ⟨c, phrase, rfl⟩ := List.exists_cons_of_ne_nil some
      rw [List.singleton_append, List.cons_prefix_cons]
      rintro ⟨rfl, -⟩
      exact h.kelvin List.mem_cons_self
  | dotted =>
      obtain ⟨c, phrase, rfl⟩ := List.exists_cons_of_ne_nil some
      rw [List.cons_append, List.cons_prefix_cons]
      rintro ⟨rfl, behind⟩
      -- The combining dot is not ASCII, so the phrase would have to end in front of it.
      by_cases ends : phrase = []
      · subst ends
        exact h.dotted rfl
      · exact h.tail.not_prefix ends (by decide) behind

/-- Behind the first of them, no character of a form begins the phrase. -/
theorem IsSearchable.infix_form_iff (h : IsSearchable phrase) (some : phrase ≠ [])
    (lowered : IsLowerForm c form) (foreign : 128 ≤ c.toNat) :
      phrase <:+: form ++ t ↔ phrase <:+: t := by
  have no_prefix := h.not_prefix_form (t := t) some lowered foreign
  cases lowered with
  | ascii ascii => omega
  | foreign _ _ _ _ rest => exact h.infix_append_iff some rest
  | kelvin => exact List.infix_cons_iff.trans (or_iff_right no_prefix)
  | dotted =>
      refine List.infix_cons_iff.trans ((or_iff_right no_prefix).trans ?_)
      exact h.infix_append_iff some
        (List.forall_mem_singleton.mpr (by decide : 128 ≤ '\u0307'.toNat))

namespace Lowers

theorem prefix_iff (lowered : Lowers s t) (h : IsSearchable phrase) :
    phrase <+: t ↔ phrase <+: s.map Char.toLower := by
  induction lowered generalizing phrase with
  | nil => rfl
  | @cons c form s t first _ ih =>
      cases phrase with
      | nil => simp
      | cons p phrase =>
          by_cases ascii : c.toNat < 128
          · obtain rfl := first.eq_of_ascii ascii
            rw [List.singleton_append, List.map_cons, List.cons_prefix_cons, List.cons_prefix_cons,
              ih h.tail]
          · have foreign : 128 ≤ c.toNat := Nat.le_of_not_lt ascii
            rw [List.map_cons, toLower_of_foreign foreign]
            exact iff_of_false (h.not_prefix_form (List.cons_ne_nil _ _) first foreign)
              (h.not_prefix (List.cons_ne_nil _ _) foreign)

/-- **A searchable phrase is found in lower case** exactly if it is found with the ASCII capitals
lowered. -/
theorem infix_iff (lowered : Lowers s t) (h : IsSearchable phrase) :
    phrase <:+: t ↔ phrase <:+: s.map Char.toLower := by
  by_cases some : phrase = []
  · subst some
    simp
  induction lowered with
  | nil => rfl
  | @cons c form s t first others ih =>
      rw [List.map_cons, List.infix_cons_iff, ← ih]
      by_cases ascii : c.toNat < 128
      · have here := (Lowers.cons first others).prefix_iff h
        obtain rfl := first.eq_of_ascii ascii
        exact List.infix_cons_iff.trans (or_congr_left here)
      · have foreign : 128 ≤ c.toNat := Nat.le_of_not_lt ascii
        rw [toLower_of_foreign foreign, or_iff_right (h.not_prefix some foreign)]
        exact h.infix_form_iff some first foreign

/-- Commas can be taken out before a text is lowered. -/
theorem filter (lowered : Lowers s t) : Lowers (s.filter (· ≠ ',')) (t.filter (· ≠ ',')) := by
  induction lowered with
  | nil => exact .nil
  | @cons c form s t first _ ih =>
      rw [List.filter_append]
      by_cases comma : c = ','
      · subst comma
        obtain rfl := first.eq_of_ascii (by decide)
        exact ih
      · have kept : form.filter (· ≠ ',') = form := by
          rw [List.filter_eq_self]
          rintro d mem
          exact decide_eq_true fun is => first.comma_not_mem comma (is ▸ mem)
        rw [List.filter_cons_of_pos (by simpa using comma), kept]
        exact .cons first ih

end Lowers

/-! ## Folding -/

/-- A text without its commas and with its ASCII capitals lowered. -/
def fold (s : List Char) : List Char :=
  (s.filter (· ≠ ',')).map Char.toLower

theorem fold_append (s t : List Char) : fold (s ++ t) = fold s ++ fold t := by
  rw [fold, List.filter_append, List.map_append, fold, fold]

theorem fold_cons_of_ne (other : c ≠ ',') : fold (c :: s) = c.toLower :: fold s := by
  rw [fold, List.filter_cons_of_pos (by simpa using other), List.map_cons, fold]

/-- **A searchable phrase is found in lower case without commas** exactly if it is found in the
folded text. -/
theorem Lowers.infix_filter_iff (lowered : Lowers s t) (h : IsSearchable phrase) :
    phrase <:+: t.filter (· ≠ ',') ↔ phrase <:+: fold s :=
  lowered.filter.infix_iff h

/-- Texts that differ only in the case of ASCII letters, and in commas that one of them has and the
other has not. -/
inductive Alike : List Char → List Char → Prop
  | nil : Alike [] []
  | cons {c d : Char} {s t : List Char} (same : c.toLower = d.toLower) (others : Alike s t) :
      Alike (c :: s) (d :: t)
  | delete {s t : List Char} (others : Alike s t) : Alike (',' :: s) t
  | insert {s t : List Char} (others : Alike s t) : Alike s (',' :: t)

theorem Alike.fold_eq (alike : Alike s t) : fold s = fold t := by
  induction alike with
  | nil => rfl
  | delete _ ih | insert _ ih => exact ih
  | @cons c d s t same _ ih =>
      by_cases comma : c = ','
      · subst comma
        obtain rfl := toLower_eq_comma_iff.mp same.symm
        exact ih
      · have comma' : d ≠ ',' := by
          rwa [ne_eq, ← toLower_eq_comma_iff, ← same, toLower_eq_comma_iff]
        rw [fold_cons_of_ne comma, fold_cons_of_ne comma', same, ih]

end WarehouseAdmin.Text
