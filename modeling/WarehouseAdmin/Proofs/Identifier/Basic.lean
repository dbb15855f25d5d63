import WarehouseAdmin.Identifier.Basic
import WarehouseAdmin.Proofs.Text.Basic
import WarehouseAdmin.Proofs.Text.Spacing
import Mathlib.Data.List.Basic

/-!
# Argument types and parts

What is kept of the texts that identifiers are made of.  A type keeps its words in upper case, and
its text can also be told by its characters alone, without folding anything
(`ArgumentType.isNormal_iff`).  A plain part holds no character that a reader would stop at or
change.
-/

namespace WarehouseAdmin.ArgumentType

/-! ## What the normal form of a type keeps

Characters that are neither blank nor ASCII letters stay as they are and in order
(`filter_normalize`), and of a list of texts that are not blank every one names a type
(`map_text_filterMap_ofText?`).
-/

open Text

theorem toList_normalize (s : String) :
    (normalize s).toList = unwords ((words s.toList).map (·.map Char.toUpper)) := by
  simp [normalize]

theorem isWord_of_mem_map_words {s w : List Char}
    (h : w ∈ (words s).map (·.map Char.toUpper)) : IsWord w := by
  obtain ⟨v, hv, rfl⟩ := List.mem_map.mp h
  exact (isWord_of_mem_words hv).map_toUpper

/-- Only a blank text has the empty normal form. -/
theorem normalize_eq_empty_iff {s : String} : normalize s = "" ↔ IsBlank s.toList := by
  rw [← String.toList_inj, toList_normalize, String.toList_empty,
    unwords_eq_nil_iff fun w hw => isWord_of_mem_map_words hw, List.map_eq_nil_iff,
    words_eq_nil_iff]

/-- A blank in front of a text does not change its normal form. -/
theorem normalize_cons_blank {c : Char} (h : isBlank c = true) (s : List Char) :
    normalize (String.ofList (c :: s)) = normalize (String.ofList s) := by
  simp [normalize, words_cons_blank h]

/-- Characters that are neither blank nor ASCII letters pass through the normal form, in order. -/
theorem filter_normalize {p : Char → Bool} (blank : ∀ c, isBlank c = true → p c = false)
    (upper : ∀ c, p c.toUpper = p c) (fixed : ∀ c, p c = true → c.toUpper = c) (s : String) :
    (normalize s).toList.filter p = s.toList.filter p := by
  have drop : (s.toList.filter fun c => !isBlank c).filter p = s.toList.filter p := by
    rw [List.filter_filter]
    refine List.filter_congr fun c _ => ?_
    cases hp : p c with
    | false => rfl
    | true => simpa using mt (blank c) (by simp [hp])
  have fold (t : List Char) : (t.map Char.toUpper).filter p = t.filter p := by
    rw [List.filter_map, show p ∘ Char.toUpper = p from funext upper]
    calc (t.filter p).map Char.toUpper
        = (t.filter p).map id :=
          List.map_congr_left fun c hc => fixed c ((List.mem_filter.mp hc).2)
      _ = t.filter p := List.map_id _
  rw [toList_normalize, filter_unwords (blank ' ' (by decide)), ← List.map_flatten, fold,
    flatten_words, drop]

/-- A type is its text. -/
theorem text_injective : Function.Injective text := by
  rintro ⟨s, _, _⟩ ⟨t, _, _⟩ rfl
  rfl

/-- The types that texts name: their normal forms, without the blank ones. -/
theorem map_text_filterMap (texts : List String) :
    (texts.filterMap ofText?).map (·.text) = (texts.map normalize).filter (· ≠ "") := by
  induction texts with
  | nil => rfl
  | cons t texts ih =>
      rw [List.map_cons]
      by_cases blank : normalize t = ""
      · have unnamed : ofText? t = none := dif_pos blank
        rw [List.filterMap_cons_none unnamed, List.filter_cons_of_neg (by simpa using blank), ih]
      · have named : ofText? t = some ⟨normalize t, normalize_normalize t, blank⟩ := dif_neg blank
        rw [List.filterMap_cons_some named, List.filter_cons_of_pos (by simpa using blank),
          List.map_cons, ih]

/-- The types that texts name, when each of them names one: their normal forms. -/
theorem map_text_filterMap_ofText? {texts : List String}
    (h : ∀ t ∈ texts, ¬ IsBlank t.toList) :
    (texts.filterMap ofText?).map (·.text) = texts.map normalize := by
  rw [map_text_filterMap, List.filter_eq_self]
  intro normal mem
  obtain ⟨t, ht, rfl⟩ := List.mem_map.mp mem
  simpa [normalize_eq_empty_iff] using h t ht

/-! ### Normal forms by their characters -/

/-- A text in normal form, told by its characters: it is not empty, it is evenly spaced, and no
ASCII letter in it is small. -/
structure IsNormal (s : String) : Prop extends IsSpaced s.toList where
  ne_empty : s ≠ ""
  capital : ∀ c ∈ s.toList, c.isLower = false

theorem isSpaced_normalize (s : String) : IsSpaced (normalize s).toList := by
  rw [toList_normalize]
  exact isSpaced_unwords fun w hw => isWord_of_mem_map_words hw

/-- The normal form of a text has no small letter. -/
theorem isLower_of_mem_normalize {s : String} : ∀ c ∈ (normalize s).toList, c.isLower = false := by
  have folded (c : Char) : c.toUpper.isLower = false := by
    rw [Bool.eq_false_iff, ne_eq, isLower_iff, toNat_toUpper]
    split <;> omega
  have none : (normalize s).toList.filter Char.isLower = [] := by
    rw [toList_normalize, filter_unwords (by decide), ← List.map_flatten, List.filter_map]
    simp [Function.comp_def, folded]
  simpa using none

/-- An evenly spaced text without small letters is its own normal form. -/
theorem normalize_eq_self {s : String} (spaced : IsSpaced s.toList)
    (capital : ∀ c ∈ s.toList, c.isLower = false) : normalize s = s := by
  have kept : ∀ w ∈ words s.toList, w.map Char.toUpper = w := by
    intro w hw
    refine (List.map_congr_left fun c hc => ?_).trans (List.map_id w)
    have mem : c ∈ (words s.toList).flatten := List.mem_flatten_of_mem hw hc
    rw [flatten_words] at mem
    have large := capital c (List.mem_of_mem_filter mem)
    exact toUpper_of_not_small (mt isLower_iff.mpr (by simp [large]))
  rw [← String.toList_inj, toList_normalize, List.map_congr_left kept, List.map_id',
    spaced.unwords_words]

/-- The texts of types are those that are normal by their characters. -/
theorem isNormal_iff {s : String} : IsNormal s ↔ ∃ type : ArgumentType, type.text = s := by
  constructor
  · intro h
    exact ⟨⟨s, normalize_eq_self h.toIsSpaced h.capital, h.ne_empty⟩, rfl⟩
  · rintro ⟨type, rfl⟩
    have spaced := isSpaced_normalize type.text
    have capital := isLower_of_mem_normalize (s := type.text)
    rw [type.normal] at spaced capital
    exact ⟨spaced, type.ne_empty, capital⟩

/-- A type is named by its own text. -/
theorem ofText?_text (type : ArgumentType) : ofText? type.text = some type := by
  rw [ofText?]
  split
  next h => exact absurd (type.normal.symm.trans h) type.ne_empty
  next => exact congrArg some (text_injective type.normal)

end WarehouseAdmin.ArgumentType

namespace WarehouseAdmin.Part

/-! ## Plain parts of names

A part that is written as it is consists of ASCII capitals, digits, underscores and dollar signs.
-/

open Text (IsWord)

/-- The codes of the characters that a plain part is made of. -/
theorem toNat_of_continuesPlain {c : Char} (h : continuesPlain c = true) :
    65 ≤ c.toNat ∧ c.toNat ≤ 90 ∨ 48 ≤ c.toNat ∧ c.toNat ≤ 57 ∨ c.toNat = 95 ∨ c.toNat = 36 := by
  simp only [continuesPlain, Bool.or_eq_true, Text.isUpper_iff, Text.isDigit_iff,
    decide_eq_true_eq] at h
  rcases h with ((upper | digit) | rfl) | rfl
  · exact Or.inl upper
  · exact Or.inr (Or.inl digit)
  · exact Or.inr (Or.inr (Or.inl rfl))
  · exact Or.inr (Or.inr (Or.inr rfl))

theorem continuesPlain_of_startsPlain {c : Char} (h : startsPlain c = true) :
    continuesPlain c = true := by
  simp only [startsPlain, Bool.or_eq_true, decide_eq_true_eq] at h
  rcases h with h | h <;> simp [continuesPlain, h]

theorem continuesPlain_of_mem {part : String} (h : isPlain part = true) :
    ∀ c ∈ part.toList, continuesPlain c = true := by
  rw [isPlain, Bool.and_eq_true] at h
  cases hs : part.toList with
  | nil => simp
  | cons c s =>
      have shape := h.1
      rw [hs, hasPlainShape, Bool.and_eq_true, List.all_eq_true] at shape
      rintro d (_ | ⟨_, hd⟩)
      · exact continuesPlain_of_startsPlain shape.1
      · exact shape.2 d hd

theorem isBlank_of_continuesPlain {c : Char} (h : continuesPlain c = true) :
    Text.isBlank c = false := by
  have code := toNat_of_continuesPlain h
  exact Text.isBlank_of_visible (by omega)

theorem toUpper_of_continuesPlain {c : Char} (h : continuesPlain c = true) : c.toUpper = c := by
  have code := toNat_of_continuesPlain h
  exact Text.toUpper_of_not_small (by omega)

/-- A plain part is a word. -/
theorem isWord_of_isPlain {part : String} (h : isPlain part = true) : IsWord part.toList := by
  refine ⟨?_, fun c hc => isBlank_of_continuesPlain (continuesPlain_of_mem h c hc)⟩
  intro empty
  simp [isPlain, empty, hasPlainShape] at h

end WarehouseAdmin.Part
