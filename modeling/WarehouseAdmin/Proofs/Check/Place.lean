import WarehouseAdmin.Check.Walk
import WarehouseAdmin.Clause.Basic
import Mathlib.Data.List.Basic

/-!
# Places of a walk

Checking a clause is a duty: the rules of a list are checked on a clause that lies at a path.  A
nested rule hands two duties on to every clause in its field, one with the rules that it gives and
one with the rules that the inner clause declares.  `Duty.Reaches` says which duties follow from one
in this way, and it gives each of them a place.  A place lists the choices on the way: the position
of the nested rule, the position of the inner clause, and which of its two duties.

The order of the walk is the lexicographic order of places.  `ListsInOrder` says of a list that it
holds what belongs to each place, once, in this order; the lists of a walk are put together from
those of its parts with `append` and `below_cons`.

## Main statements

* `Duty.reaches_iff` — a duty that follows is the duty itself or follows from one that it hands on.
* `Duty.Reaches.unique` — a place belongs to one duty.
-/

namespace WarehouseAdmin

/-! ## What counts as set

A value is unset when it is absent, an empty list, or an embedded clause in which everything is
unset.  `isPresent` computes the opposite by going through the fields of embedded clauses.
`Value.Unset` says it once, and rules are stated with it.
-/

/-- A value that does not count as set. -/
inductive Value.Unset : Value → Prop
  | absent : Value.Unset .absent
  | list : Value.Unset (.list [])
  | embedded {clause : Clause} (h : ∀ entry ∈ clause.entries, entry.value.Unset) :
      Value.Unset (.embedded clause)

mutual

theorem Value.isPresent_eq_false_iff : ∀ value : Value, value.isPresent = false ↔ value.Unset
  | .absent => iff_of_true rfl .absent
  | .list [] => iff_of_true rfl .list
  | .list (_ :: _) => by
    refine iff_of_false (by simp [Value.isPresent]) ?_
    intro h
    cases h
  | .embedded ⟨object, entries, rules⟩ => by
    rw [Value.isPresent, Clause.hasFieldsSet, Entry.anyPresent_eq_false_iff entries]
    constructor
    · intro h
      exact .embedded h
    · intro h
      cases h with
      | embedded h => exact h
  | .flag _ | .text _ | .number _ | .identifier _ | .nested _ => by
    refine iff_of_false (by simp [Value.isPresent]) ?_
    intro h
    cases h
termination_by structural value => value

theorem Entry.anyPresent_eq_false_iff : ∀ entries : List Entry,
    Entry.anyPresent entries = false ↔ ∀ entry ∈ entries, entry.value.Unset
  | [] => by simp [Entry.anyPresent]
  | ⟨field, directive, value⟩ :: entries => by
    rw [Entry.anyPresent, Bool.or_eq_false_iff, Value.isPresent_eq_false_iff value,
      Entry.anyPresent_eq_false_iff entries, List.forall_mem_cons]
termination_by structural entries => entries

end

/-- **Presence.**  A value is present unless it is unset. -/
theorem Value.isPresent_iff {value : Value} : value.isPresent = true ↔ ¬ value.Unset := by
  rw [← Value.isPresent_eq_false_iff, Bool.not_eq_false]

instance (value : Value) : Decidable value.Unset :=
  decidable_of_iff _ value.isPresent_eq_false_iff

namespace Clause

/-- The first field of that name is set. -/
def HasSet (clause : Clause) (field : String) : Prop :=
  ∃ entry, clause.entry? field = some entry ∧ ¬ entry.value.Unset

theorem hasSet_iff_isPresent {clause : Clause} {field : String} {entry : Entry}
    (first : clause.entry? field = some entry) :
    clause.HasSet field ↔ entry.value.isPresent = true := by
  rw [Value.isPresent_iff]
  constructor
  · rintro ⟨entry', first', set⟩
    obtain rfl := Option.some.inj (first.symm.trans first')
    exact set
  · intro set
    exact ⟨entry, first, set⟩

instance (clause : Clause) (field : String) : Decidable (clause.HasSet field) :=
  match h : clause.entry? field with
  | none => isFalse fun ⟨entry, first, _⟩ => by simp [h] at first
  | some _ => decidable_of_iff _ (hasSet_iff_isPresent h).symm

/-- How many of the listed fields are set; a field listed twice counts twice. -/
def countSet (clause : Clause) (fields : List String) : Nat :=
  fields.countP (clause.HasSet ·)

end Clause

/-! ## Clauses inside a field -/

/-- The value is this clause, nested or embedded. -/
def Value.Holds (value : Value) (clause : Clause) : Prop :=
  value = .nested clause ∨ value = .embedded clause

theorem Value.Holds.unique {value : Value} {clause clause' : Clause} (h : value.Holds clause)
    (h' : value.Holds clause') : clause = clause' := by
  rcases h with rfl | rfl <;> rcases h' with h' | h' <;> cases h' <;> rfl

/-- The clauses in a value that lies at a path: the value itself, or the items of a list.  Each has
a position and a path of its own. -/
inductive Value.Inner (path : String) : Value → Nat → Clause → String → Prop
  | here {value : Value} {clause : Clause} (holds : value.Holds clause) :
      Value.Inner path value 0 clause path
  | item {items : List Value} {position : Nat} {value : Value} {clause : Clause}
      (item : items[position]? = some value) (holds : value.Holds clause) :
      Value.Inner path (.list items) position clause (itemPath path position)

theorem Value.not_holds_list {items : List Value} {clause : Clause} :
    ¬ (Value.list items).Holds clause := by
  rintro (h | h) <;> cases h

theorem Value.Inner.unique {value : Value} {path path₁ path₂ : String} {position : Nat}
    {clause₁ clause₂ : Clause} (h₁ : value.Inner path position clause₁ path₁)
    (h₂ : value.Inner path position clause₂ path₂) : clause₁ = clause₂ ∧ path₁ = path₂ := by
  cases h₁ with
  | here holds =>
      cases h₂ with
      | here holds' => exact ⟨holds.unique holds', rfl⟩
      | item => exact absurd holds Value.not_holds_list
  | item first holds =>
      cases h₂ with
      | here holds' => exact absurd holds' Value.not_holds_list
      | item second holds' =>
          obtain rfl := Option.some.inj (first.symm.trans second)
          exact ⟨holds.unique holds', rfl⟩

/-- What a rule looks into when it looks into a value: the items of a list, and else the value. -/
def Value.parts : Value → List Value
  | .list items => items
  | value => [value]

/-- The path of a part of a value that lies at `path`. -/
def Value.partPath (path : String) (j : Nat) : Value → String
  | .list _ => itemPath path j
  | _ => path

/-- The clauses in a value are those of its parts that are clauses. -/
theorem Value.inner_iff {value : Value} {path path' : String} {j : Nat} {clause : Clause} :
    value.Inner path j clause path' ↔
      ∃ part, value.parts[j]? = some part ∧ part.Holds clause ∧ path' = value.partPath path j := by
  constructor
  · intro inner
    cases inner with
    | here holds => rcases holds with rfl | rfl <;> exact ⟨_, rfl, by simp [Value.Holds], rfl⟩
    | item at_j holds => exact ⟨_, at_j, holds, rfl⟩
  · rintro ⟨part, part_j, holds, rfl⟩
    cases value with
    | list items => exact .item part_j holds
    | absent | flag | text | number | identifier | nested | embedded =>
        obtain ⟨rfl, rfl⟩ : j = 0 ∧ _ = part := by
          simpa [Value.parts, List.getElem?_singleton] using part_j
        exact .here holds

/-! ## Duties -/

/-- Rules to be checked on a clause that lies at a path. -/
structure Duty where
  clause : Clause
  path : String
  rules : List Rule

/-- What a statement has to be checked for: its own rules. -/
def Clause.duty (clause : Clause) : Duty :=
  ⟨clause, clause.object, clause.rules⟩

namespace Duty

/-- A nested rule hands two duties on to a clause in its field, if the field is set: the rules that
it gives, and then the rules of the clause. -/
inductive Step (d : Duty) : List Nat → Duty → Prop
  | inner {i j k : Nat} {field path : String} {given rules : List Rule} {entry : Entry}
      {clause : Clause} (rule : d.rules[i]? = some (.nested field given))
      (first : d.clause.entry? field = some entry) (set : ¬ entry.value.Unset)
      (inner : entry.value.Inner (fieldPath d.path field) j clause path)
      (turn : [given, clause.rules][k]? = some rules) :
      Step d [i, j, k] ⟨clause, path, rules⟩

/-- The duties that follow from one, each with its place. -/
inductive Reaches (d : Duty) : List Nat → Duty → Prop
  | start : Reaches d [] d
  | inner {place step : List Nat} {e e' : Duty} (h : Reaches d place e) (s : e.Step step e') :
      Reaches d (place ++ step) e'

variable {d e e' : Duty} {place step : List Nat}

/-- What follows from a duty that was handed on follows from the one before it. -/
theorem Reaches.of_step (s : d.Step step e) (h : e.Reaches place e') :
    d.Reaches (step ++ place) e' := by
  induction h with
  | start =>
      rw [List.append_nil]
      exact Reaches.start.inner s
  | inner _ s' ih =>
      rw [← List.append_assoc]
      exact ih.inner s'

/-- A duty that follows is the duty itself or follows from one that it hands on. -/
theorem reaches_iff :
    d.Reaches place e ↔
      place = [] ∧ e = d ∨
        ∃ step rest e', d.Step step e' ∧ e'.Reaches rest e ∧ place = step ++ rest := by
  constructor
  · intro h
    induction h with
    | start => exact Or.inl ⟨rfl, rfl⟩
    | @inner place step e e' h s ih =>
        rcases ih with ⟨rfl, rfl⟩ | ⟨step', rest, m, s', h', rfl⟩
        · exact Or.inr ⟨step, [], e', s, .start, by simp⟩
        · exact Or.inr ⟨step', rest ++ step, m, s', h'.inner s, by simp⟩
  · rintro (⟨rfl, rfl⟩ | ⟨step, rest, e', s, h, rfl⟩)
    · exact .start
    · exact h.of_step s

theorem Step.length_eq (s : d.Step step e) : step.length = 3 := by
  cases s with
  | inner => rfl

theorem Step.unique (s : d.Step step e) (s' : d.Step step e') : e = e' := by
  cases s with
  | inner rule first set inner turn =>
      cases s' with
      | inner rule' first' set' inner' turn' =>
          obtain ⟨rfl, rfl⟩ := Rule.nested.inj (Option.some.inj (rule.symm.trans rule'))
          obtain rfl := Option.some.inj (first.symm.trans first')
          obtain ⟨rfl, rfl⟩ := inner.unique inner'
          obtain rfl := Option.some.inj (turn.symm.trans turn')
          rfl

/-- **A place belongs to one duty.** -/
theorem Reaches.unique (h : d.Reaches place e) (h' : d.Reaches place e') : e = e' := by
  induction h generalizing e' with
  | start =>
      generalize hp : [] = place at h'
      cases h' with
      | start => rfl
      | inner _ s =>
          have := s.length_eq
          simp_all
  | @inner place step m e h s ih =>
      generalize hp : place ++ step = whole at h'
      cases h' with
      | start =>
          have := s.length_eq
          simp_all
      | inner h' s' =>
          -- All steps have one length, so the last one can be cut off in one way only.
          obtain ⟨rfl, rfl⟩ := List.append_inj' hp (s.length_eq.trans s'.length_eq.symm)
          obtain rfl := ih h'
          exact s.unique s'

end Duty

/-! ## Lists in the order of places -/

/-- The list holds what belongs to each place, once, in the order of places. -/
def ListsInOrder {α : Type} (P : List Nat → α → Prop) (vs : List α) : Prop :=
  ∃ found : List (List Nat × α), found.map Prod.snd = vs ∧ found.Pairwise (·.1 < ·.1) ∧
    ∀ place v, (place, v) ∈ found ↔ P place v

/-- What lies below branches that are numbered from `n` on. -/
def Below {α β : Type} (xs : List β) (P : Nat → β → List Nat → α → Prop) (n : Nat)
    (place : List Nat) (v : α) : Prop :=
  ∃ i x rest, xs[i]? = some x ∧ place = (n + i) :: rest ∧ P (n + i) x rest v

/-- The first branch and the others. -/
theorem below_cons_iff {α β : Type} {x : β} {xs : List β} {P : Nat → β → List Nat → α → Prop}
    {n : Nat} {place : List Nat} {v : α} : Below (x :: xs) P n place v ↔
      (∃ rest, place = n :: rest ∧ P n x rest v) ∨ Below xs P (n + 1) place v := by
  constructor
  · rintro ⟨i, y, rest, branch, rfl, h⟩
    cases i with
    | zero =>
        obtain rfl := Option.some.inj branch
        exact Or.inl ⟨rest, rfl, h⟩
    | succ i =>
        rw [show n + (i + 1) = n + 1 + i by omega] at h ⊢
        exact Or.inr ⟨i, y, rest, branch, rfl, h⟩
  · rintro (⟨rest, rfl, h⟩ | ⟨i, y, rest, branch, rfl, h⟩)
    · exact ⟨0, x, rest, rfl, rfl, h⟩
    · rw [show n + 1 + i = n + (i + 1) by omega] at h ⊢
      exact ⟨i + 1, y, rest, branch, rfl, h⟩

theorem not_below_nil {α β : Type} {P : Nat → β → List Nat → α → Prop} {n : Nat} {place : List Nat}
    {v : α} : ¬ Below [] P n place v := by
  rintro ⟨i, x, rest, branch, -⟩
  simp at branch

namespace ListsInOrder

variable {α : Type} {P Q : List Nat → α → Prop} {us vs : List α}

theorem congr (h : ListsInOrder P vs) (same : ∀ place v, Q place v ↔ P place v) :
    ListsInOrder Q vs := by
  obtain ⟨found, values, order, mem⟩ := h
  exact ⟨found, values, order, fun place v => (mem place v).trans (same place v).symm⟩

theorem nil (h : ∀ place v, ¬ P place v) : ListsInOrder P [] :=
  ⟨[], rfl, .nil, fun place v => iff_of_false (by simp) (h place v)⟩

/-- What belongs to one place only. -/
theorem single (v : α) : ListsInOrder (fun place w => place = [] ∧ w = v) [v] :=
  ⟨[([], v)], rfl, by simp, by simp⟩

/-- What lies below the `n`-th branch. -/
theorem under (h : ListsInOrder P vs) (n : Nat) :
    ListsInOrder (fun place v => ∃ rest, place = n :: rest ∧ P rest v) vs := by
  obtain ⟨found, rfl, order, mem⟩ := h
  refine ⟨found.map fun x => (n :: x.1, x.2), by simp [Function.comp_def], ?_, fun place v => ?_⟩
  · rw [List.pairwise_map]
    exact order.imp fun less => List.cons_lt_cons_iff.mpr (Or.inr ⟨rfl, less⟩)
  · constructor
    · intro h
      obtain ⟨⟨rest, w⟩, hmem, equal⟩ := List.mem_map.mp h
      obtain ⟨rfl, rfl⟩ := Prod.mk.inj equal
      exact ⟨rest, rfl, (mem rest w).mp hmem⟩
    · rintro ⟨rest, rfl, h⟩
      exact List.mem_map.mpr ⟨(rest, v), (mem rest v).mpr h, rfl⟩

/-- What lies at earlier places and what lies at later ones. -/
theorem append (hu : ListsInOrder P us) (hv : ListsInOrder Q vs)
    (earlier : ∀ a u b v, P a u → Q b v → a < b) :
    ListsInOrder (fun place v => P place v ∨ Q place v) (us ++ vs) := by
  obtain ⟨front, rfl, order, mem⟩ := hu
  obtain ⟨back, rfl, order', mem'⟩ := hv
  refine ⟨front ++ back, by simp, ?_, fun place v => ?_⟩
  · refine List.pairwise_append.mpr ⟨order, order', fun x hx y hy => ?_⟩
    exact earlier x.1 x.2 y.1 y.2 ((mem x.1 x.2).mp hx) ((mem' y.1 y.2).mp hy)
  · rw [List.mem_append, mem, mem']

/-- There is nothing below no branches. -/
theorem below_nil {β : Type} {P : Nat → β → List Nat → α → Prop} {n : Nat} :
    ListsInOrder (Below [] P n) [] :=
  nil fun _ _ => not_below_nil

/-- The first branch comes before the others. -/
theorem below_cons {β : Type} {P : Nat → β → List Nat → α → Prop} {n : Nat} {x : β} {xs : List β}
    (first : ListsInOrder (P n x) us) (others : ListsInOrder (Below xs P (n + 1)) vs) :
    ListsInOrder (Below (x :: xs) P n) (us ++ vs) := by
  refine ((first.under n).append others ?_).congr fun place v => below_cons_iff
  rintro a u b v ⟨r, rfl, -⟩ ⟨i, y, s, -, rfl, -⟩
  exact List.cons_lt_cons_iff.mpr (Or.inl (by omega))

end ListsInOrder

/-! ## What is found at rules -/

section Found

variable {α : Type} (own : Duty → Rule → List Nat → α → Prop)

/-- Something is found at a rule of a duty, or of one that follows from it.  Its place is that of
the duty, the position of the rule, and what remains of the place at the rule. -/
def Duty.Found (d : Duty) (place : List Nat) (v : α) : Prop :=
  ∃ front e i rule rest, d.Reaches front e ∧ e.rules[i]? = some rule ∧ own e rule rest v ∧
    place = front ++ i :: rest

/-- Something is found in one of the two duties that are handed on to a clause in a value. -/
def Value.Found (value : Value) (path : String) (given : List Rule) (place : List Nat) (v : α) :
    Prop :=
  ∃ j clause path' rest, value.Inner path j clause path' ∧ place = j :: rest ∧
    Below [given, clause.rules] (fun _ rules => Duty.Found own ⟨clause, path', rules⟩) 0 rest v

/-- Something is found at one rule of a duty, or behind it. -/
def Rule.Found (d : Duty) (rule : Rule) (place : List Nat) (v : α) : Prop :=
  own d rule place v ∨ ∃ field given entry, rule = .nested field given ∧
    d.clause.entry? field = some entry ∧ ¬ entry.value.Unset ∧
    entry.value.Found own (fieldPath d.path field) given place v

variable {own}

/-- **What a duty leads to is found at its rules.** -/
theorem Duty.found_iff {d : Duty} {place : List Nat} {v : α} :
    d.Found own place v ↔ Below d.rules (fun _ rule => rule.Found own d) 0 place v := by
  constructor
  · rintro ⟨front, e, i, rule, rest, reach, get, found, rfl⟩
    rcases Duty.reaches_iff.mp reach with ⟨rfl, rfl⟩ | ⟨step, middle, e', step', reach', rfl⟩
    · exact ⟨i, rule, rest, get, by simp, Or.inl found⟩
    · -- The first step names the nested rule, and the rest follows from the duty behind it.
      have behind : e'.Found own (middle ++ i :: rest) v :=
        ⟨middle, e, i, rule, rest, reach', get, found, rfl⟩
      cases step' with
      | @inner i' j k field path given rules entry clause rule' first set inner turn =>
          refine ⟨i', _, j :: k :: (middle ++ i :: rest), rule', by simp, Or.inr ?_⟩
          exact ⟨field, given, entry, rfl, first, set, j, clause, path, _, inner, rfl, k, rules, _,
            turn, by simp, behind⟩
  · rintro ⟨i, rule, rest, get, rfl, found | behind⟩
    · exact ⟨[], d, i, rule, rest, .start, get, found, by simp⟩
    · obtain ⟨field, given, entry, rfl, first, set, j, clause, path, rest, inner, rfl, duty⟩ :=
        behind
      obtain ⟨k, rules, rest, turn, rfl, found⟩ := duty
      obtain ⟨front, e, i', rule', rest, reach, get', found, rfl⟩ := found
      refine ⟨[i, j, k] ++ front, e, i', rule', rest, ?_, get', found, by simp⟩
      exact reach.of_step (.inner get first set inner turn)

end Found

end WarehouseAdmin
