import Mathlib.Data.List.Basic
import Mathlib.Data.List.Forall2

/-!
# Outcomes of runs

A run either fails with an error or succeeds with a result.  The first part takes a successful run
of several steps apart.  The second part compares two runs: they have the same outcome when they
fail with the same error or succeed with related results.  The third part is about lists that are
related element by element, as the steps of a run and their results are.

The last part is about the steps themselves: which of the things that they did still stands in the
end.
-/

namespace WarehouseAdmin

variable {ε α β : Type}

/-! ## Successful runs -/

theorem Except.map_eq_ok_iff {f : α → β} {r : Except ε α} {b : β} :
    r.map f = .ok b ↔ ∃ a, r = .ok a ∧ f a = b := by
  cases r <;> simp [Except.map]

theorem Except.bind_eq_ok_iff {f : α → Except ε β} {r : Except ε α} {b : β} :
    r.bind f = .ok b ↔ ∃ a, r = .ok a ∧ f a = .ok b := by
  cases r <;> simp [Except.bind]

theorem Except.toOption_eq_some_iff {r : Except ε α} {a : α} :
    r.toOption = some a ↔ r = .ok a := by
  cases r <;> simp [Except.toOption]

/-! ## Runs with the same outcome -/

/-- Two runs fail with the same error, or succeed with related results. -/
inductive SameOutcome (P : α → α → Prop) : Except ε α → Except ε α → Prop
  | error (e : ε) : SameOutcome P (.error e) (.error e)
  | ok {a b : α} (h : P a b) : SameOutcome P (.ok a) (.ok b)

namespace SameOutcome

variable {P : α → α → Prop} {Q : β → β → Prop} {r r' : Except ε α}

theorem refl (h : ∀ a, P a a) (r : Except ε α) : SameOutcome P r r := by
  cases r with
  | error e => exact .error e
  | ok a => exact .ok (h a)

theorem bind {f f' : α → Except ε β} (h : SameOutcome P r r')
    (step : ∀ a b, P a b → SameOutcome Q (f a) (f' b)) : SameOutcome Q (r.bind f) (r'.bind f') := by
  cases h with
  | error e => exact .error e
  | ok h => exact step _ _ h

theorem map {f f' : α → β} (h : SameOutcome P r r') (step : ∀ a b, P a b → Q (f a) (f' b)) :
    SameOutcome Q (r.map f) (r'.map f') := by
  cases h with
  | error e => exact .error e
  | ok h => exact .ok (step _ _ h)

end SameOutcome

/-! ## Lists related element by element -/

section Related

variable {R : α → β → Prop} {as : List α} {bs : List β}

/-- Every element of the second list has one in the first. -/
theorem exists_rel_of_mem {b : β} (each : List.Forall₂ R as bs) (mem : b ∈ bs) :
    ∃ a ∈ as, R a b := by
  obtain ⟨i, bound, rfl⟩ := List.getElem_of_mem mem
  have there : i < as.length := by rwa [each.length_eq]
  exact ⟨as[i], List.getElem_mem there, each.get there bound⟩

/-- Every element of the first list has one in the second. -/
theorem exists_rel_of_mem_left {a : α} (each : List.Forall₂ R as bs) (mem : a ∈ as) :
    ∃ b ∈ bs, R a b :=
  exists_rel_of_mem each.flip mem

end Related

/-! ## What stands after a run

The steps of a run happen one after the other, and what one step does a later one can undo.  So a
thing stands after a run when some step did it and no later step has undone it.  What a step does
may depend on the steps before it.

`happenedSince_append_singleton_iff` says that the last step decides, if it is about the matter at
all.  A run is followed step by step with it.
-/

universe u

variable {τ : Type u} {does : List τ → τ → Prop} {undoes : τ → Prop} {steps : List τ}

/-- A step of the run did something behind the steps before it, and no later step has undone it. -/
def HappenedSince (does : List τ → τ → Prop) (undoes : τ → Prop) (steps : List τ) : Prop :=
  ∃ front step back, steps = front ++ step :: back ∧ does front step ∧
    ∀ later ∈ back, ¬ undoes later

theorem not_happenedSince_nil : ¬ HappenedSince does undoes [] := by
  rintro ⟨front, step, back, split, -⟩
  simp at split

/-- The last step decides, if it is about the matter at all. -/
theorem happenedSince_append_singleton_iff (does : List τ → τ → Prop) (undoes : τ → Prop)
    (steps : List τ) (last : τ) :
    HappenedSince does undoes (steps ++ [last]) ↔
      does steps last ∨ HappenedSince does undoes steps ∧ ¬ undoes last := by
  constructor
  · rintro ⟨front, step, back, split, happened, kept⟩
    rcases List.eq_nil_or_concat' back with rfl | ⟨back, final, rfl⟩
    · obtain ⟨rfl, same⟩ := List.append_inj' split rfl
      obtain rfl := List.singleton_inj.mp same
      exact Or.inl happened
    · rw [← List.cons_append, ← List.append_assoc] at split
      obtain ⟨rfl, same⟩ := List.append_inj' split rfl
      obtain rfl := List.singleton_inj.mp same
      exact Or.inr ⟨⟨front, step, back, rfl, happened, fun later mem => kept later (by simp [mem])⟩,
        kept last (by simp)⟩
  · rintro (happened | ⟨⟨front, step, back, rfl, happened, kept⟩, stays⟩)
    · exact ⟨steps, last, [], rfl, happened, by simp⟩
    · refine ⟨front, step, back ++ [last], by simp, happened, fun later mem => ?_⟩
      rcases List.mem_append.mp mem with mem | mem
      · exact kept later mem
      · rwa [List.mem_singleton.mp mem]

/-- It stands as long as no step undoes it. -/
theorem HappenedSince.append {more : List τ} (h : HappenedSince does undoes steps)
    (kept : ∀ later ∈ more, ¬ undoes later) : HappenedSince does undoes (steps ++ more) := by
  obtain ⟨front, step, back, rfl, happened, before⟩ := h
  refine ⟨front, step, back ++ more, by simp, happened, fun later mem => ?_⟩
  rcases List.mem_append.mp mem with mem | mem
  · exact before later mem
  · exact kept later mem

end WarehouseAdmin
