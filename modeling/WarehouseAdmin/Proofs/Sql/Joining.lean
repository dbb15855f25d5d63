import WarehouseAdmin.Sql.Statement
import Mathlib.Data.List.Basic

/-!
# Joining pieces

A statement is put together in steps: the elements of a list, the fields of a clause, the clause and
its neighbours.  Each step drops the empty pieces and joins the others.  The lemmas here say that
the steps do not show: what has been joined before is joined again as if its pieces stood among the
others.

An empty piece has to be dropped at every step, because a joined text is empty only if no piece is
left in it.  So the lemmas on `String.intercalate` ask that no piece is empty, and those on
`joinTokens` ask nothing.

A value behind its name is no such step: nothing is dropped there (`Link.exists_attach_eq`).

## Main statements

* `joinTokens_map_intercalate`, `joinTokens_flatten` — joining in two steps.
* `joinTokens_splice` — joining some of the pieces first.
-/

namespace WarehouseAdmin

variable {piece : String} {pieces : List String} {piecess : List (List String)}

/-! ## Empty pieces -/

theorem visible_cons_empty : visible ("" :: pieces) = visible pieces := by
  simp [visible]

theorem visible_cons_of_ne (solid : piece ≠ "") :
    visible (piece :: pieces) = piece :: visible pieces := by
  simp [visible, solid]

theorem ne_empty_of_mem_visible (mem : piece ∈ visible pieces) : piece ≠ "" := by
  simpa using (List.mem_filter.mp mem).2

theorem joinTokens_eq_empty (silent : ∀ piece ∈ pieces, piece = "") : joinTokens pieces = "" := by
  have dropped : visible pieces = [] := by simpa [visible] using silent
  rw [joinTokens, dropped]
  rfl

/-- One piece is joined with nothing, also if it is empty. -/
theorem joinTokens_singleton (piece : String) : joinTokens [piece] = piece := by
  by_cases silent : piece = ""
  · rw [joinTokens_eq_empty (by simpa using silent), silent]
  · rw [joinTokens, visible_cons_of_ne silent]
    exact String.intercalate_singleton

theorem joinTokens_empty_cons (pieces : List String) :
    joinTokens ("" :: pieces) = joinTokens pieces := by
  rw [joinTokens, visible_cons_empty, joinTokens]

/-! ## Joining in two steps -/

section Intercalate

variable (separator : String)

theorem intercalate_ne_empty (solid : ∀ piece ∈ pieces, piece ≠ "") (some : pieces ≠ []) :
    separator.intercalate pieces ≠ "" := by
  cases pieces with
  | nil => exact absurd rfl some
  | cons piece pieces =>
      have first : piece ≠ "" := solid piece (by simp)
      cases pieces with
      | nil => simpa using first
      | cons next pieces =>
          rw [String.intercalate_cons_cons]
          simp [first]

/-- Joining in two steps joins everything. -/
theorem intercalate_map_intercalate (some : ∀ pieces ∈ piecess, pieces ≠ []) :
    separator.intercalate (piecess.map separator.intercalate) =
      separator.intercalate piecess.flatten := by
  induction piecess with
  | nil => rfl
  | cons pieces piecess ih =>
      obtain ⟨here, behind⟩ := List.forall_mem_cons.mp some
      rw [List.map_cons, List.flatten_cons]
      by_cases last : piecess = []
      · simp [last]
      · obtain ⟨next, others, rfl⟩ := List.exists_cons_of_ne_nil last
        have more : (next :: others).flatten ≠ [] := by
          simp [behind next (by simp)]
        rw [String.intercalate_cons_of_ne_nil (by simp), ih behind,
          String.intercalate_append_of_ne_nil here more]

/-- The tokens that are dropped are those without pieces. -/
theorem visible_map_intercalate (solid : ∀ pieces ∈ piecess, ∀ piece ∈ pieces, piece ≠ "") :
    visible (piecess.map separator.intercalate) =
      (piecess.filter (· ≠ [])).map separator.intercalate := by
  rw [visible, List.filter_map]
  refine congrArg _ (List.filter_congr fun pieces mem => ?_)
  by_cases none : pieces = []
  · simp [none]
  · simp [none, intercalate_ne_empty separator (solid pieces mem) none]

end Intercalate

theorem joinTokens_map_intercalate (solid : ∀ pieces ∈ piecess, ∀ piece ∈ pieces, piece ≠ "") :
    joinTokens (piecess.map (" ".intercalate ·)) = " ".intercalate piecess.flatten := by
  rw [joinTokens, visible_map_intercalate " " solid, intercalate_map_intercalate " " (by simp),
    List.flatten_filter_ne_nil]

/-- Joining tokens in two steps joins all of them. -/
theorem joinTokens_flatten (piecess : List (List String)) :
    joinTokens (piecess.map joinTokens) = joinTokens piecess.flatten := by
  have inner : piecess.map joinTokens = (piecess.map visible).map (" ".intercalate ·) := by
    rw [List.map_map]
    rfl
  rw [inner, joinTokens_map_intercalate, joinTokens, visible, List.filter_flatten]
  · rfl
  · intro pieces mem piece there
    obtain ⟨pieces, -, rfl⟩ := List.mem_map.mp mem
    exact ne_empty_of_mem_visible there

/-- **Tokens that have been joined before** are joined with their neighbours as if they stood among
them. -/
theorem joinTokens_splice (before inside behind : List String) :
    joinTokens (before ++ [joinTokens inside] ++ behind) =
      joinTokens (before ++ inside ++ behind) := by
  -- The neighbours are joined each with nothing.
  have joined (pieces : List String) :
      (pieces.map fun piece => [piece]).map joinTokens = pieces := by
    simp [joinTokens_singleton, Function.comp_def]
  have alone (pieces : List String) : (pieces.map fun piece => [piece]).flatten = pieces := by
    rw [← List.flatMap_def, List.flatMap_singleton']
  have steps := joinTokens_flatten
    ((before.map fun piece => [piece]) ++ [inside] ++ behind.map fun piece => [piece])
  rwa [List.map_append, List.map_append, joined, joined, List.flatten_append, List.flatten_append,
    alone, alone, List.map_singleton, List.flatten_singleton] at steps

/-! ## A value behind its name -/

namespace Link

variable {name value : String}

/-- Behind a name the link is written in front of every value, also in front of an empty one. -/
theorem exists_attach_eq (link : Link) (named : name ≠ "") :
    ∃ m, ∀ value, link.attach name value = name ++ m ++ value := by
  cases link with
  | equals => exact ⟨" = ", fun _ => if_neg named⟩
  | space => exact ⟨" ", fun _ => if_neg named⟩

theorem attach_ne_empty {link : Link} (named : name ≠ "") : link.attach name value ≠ "" := by
  obtain ⟨m, attached⟩ := link.exists_attach_eq named
  rw [attached]
  simp [named]

end Link

end WarehouseAdmin
