import WarehouseAdmin.Proofs.Check.Completeness

/-!
# The check reports the first misuse

A rule is misused on a clause when it cannot be checked there: it is about a field that the clause
does not have, or it looks into a value of the wrong kind.  `Clause.MisuseAt` says so for one rule,
without the walk, and `Duty.MisuseAt` collects the misuses of everything that a duty leads to.
Behind the place of the rule a misuse has one more position: that of the unknown field among the
fields of the rule, or that of the part of a value that cannot be looked into.

The walk stops at a misuse and drops the violations it has found.  What it reports belongs to the
least of all places, and `ReportsFirst` is the invariant that says so.  It comes with one lemma for
each way in which the walk puts its steps together, so the functions of the walk are followed one by
one.

## Main statements

* `Clause.violations_reports_first_misuse` — when a statement cannot be checked, and what is
  reported.
-/

namespace WarehouseAdmin

/-! ## Misused rules -/

/-- **Misused rules.**  The position is that of the unknown field in the rule, or that of the part
of the value that is of the wrong kind. -/
inductive Clause.MisuseAt (clause : Clause) : Rule → Nat → Misuse → Prop
  /-- The rule is about a field that the clause does not have. -/
  | unknownField {rule : Rule} {j : Nat} {field : String} (about : rule.fields[j]? = some field)
      (unknown : ∀ entry ∈ clause.entries, entry.field ≠ field) :
      clause.MisuseAt rule j (.unknownField clause.object field)
  /-- Something in the field is not an identifier. -/
  | notIdentifier {field : String} {optional : Bool} {entry : Entry} {j : Nat} {part : Value}
      (first : clause.entry? field = some entry) (there : entry.value ≠ .absent)
      (part_j : entry.value.parts[j]? = some part) (h : ∀ id, part ≠ .identifier id) :
      clause.MisuseAt (.validIdentifier field optional) j
        (.misfit clause.object field "ValidIdentifier" part.kind)
  /-- Something in the field, which is set, is not a clause. -/
  | notClause {field : String} {rules : List Rule} {entry : Entry} {j : Nat} {part : Value}
      (first : clause.entry? field = some entry) (set : ¬ entry.value.Unset)
      (part_j : entry.value.parts[j]? = some part) (h : ∀ inner, ¬ part.Holds inner) :
      clause.MisuseAt (.nested field rules) j (.misfit clause.object field "Nested" part.kind)

/-- A misuse of one rule on the clause of a duty. -/
def Duty.OwnMisuse (d : Duty) (rule : Rule) (place : List Nat) (m : Misuse) : Prop :=
  ∃ j, place = [j] ∧ d.clause.MisuseAt rule j m

/-- **The misuses of a duty** are those of its rules, and of the rules of every duty that follows.
-/
def Duty.MisuseAt : Duty → List Nat → Misuse → Prop :=
  Duty.Found Duty.OwnMisuse

/-! ## Runs that report the first -/

/-- It belongs to this place, and whatever else there is belongs to a later one. -/
def IsFirst {α : Type} (P : List Nat → α → Prop) (place : List Nat) (v : α) : Prop :=
  P place v ∧ ∀ place' v', P place' v' → place' = place ∧ v' = v ∨ place < place'

/-- Something belongs to a place itself and not to any below it. -/
def Here {α : Type} (Q : α → Prop) (place : List Nat) (v : α) : Prop :=
  place = [] ∧ Q v

theorem below_here_iff {α β : Type} {xs : List β} {Q : β → α → Prop} {place : List Nat} {v : α} :
    Below xs (fun _ x => Here (Q x)) 0 place v ↔
      ∃ j, place = [j] ∧ ∃ x, xs[j]? = some x ∧ Q x v := by
  constructor
  · rintro ⟨j, x, rest, branch, rfl, rfl, h⟩
    exact ⟨j, by simp, x, branch, h⟩
  · rintro ⟨j, rfl, x, branch, h⟩
    exact ⟨j, x, [], branch, by simp, rfl, h⟩

theorem exists_at_singleton_iff {β : Type} {x : β} {j : Nat} {Q : β → Prop} :
    (∃ y, [x][j]? = some y ∧ Q y) ↔ j = 0 ∧ Q x := by
  cases j <;> simp

/-- The run fails with what belongs to the first place, and it succeeds if no place has anything. -/
def ReportsFirst {ε α : Type} (P : List Nat → ε → Prop) : Except ε α → Prop
  | .ok _ => ∀ place e, ¬ P place e
  | .error e => ∃ place, IsFirst P place e

namespace ReportsFirst

variable {ε α β γ : Type} {P Q : List Nat → ε → Prop} {r : Except ε α}

theorem congr (h : ReportsFirst P r) (same : ∀ place e, Q place e ↔ P place e) :
    ReportsFirst Q r := by
  have equal : Q = P := funext₂ fun place e => propext (same place e)
  rwa [equal]

theorem here {Q : ε → Prop} {e : ε} (only : ∀ e', Q e' ↔ e' = e) :
    ReportsFirst (Here Q) (.error e : Except ε α) :=
  ⟨[], ⟨rfl, (only e).mpr rfl⟩, fun _ e' ⟨root, h⟩ => Or.inl ⟨root, (only e').mp h⟩⟩

theorem map {f : α → β} (h : ReportsFirst P r) : ReportsFirst P (r.map f) := by
  cases r with
  | error e => exact h
  | ok a => exact h

theorem below_nil {Q : Nat → γ → List Nat → ε → Prop} {n : Nat} (a : α) :
    ReportsFirst (Below [] Q n) (.ok a) :=
  fun _ _ => not_below_nil

/-- The first branch is looked at before the others. -/
theorem below_cons {Q : Nat → γ → List Nat → ε → Prop} {n : Nat} {x : γ} {xs : List γ}
    {f : α → Except ε β} (first : ReportsFirst (Q n x) r)
    (others : ∀ a, ReportsFirst (Below xs Q (n + 1)) (f a)) :
    ReportsFirst (Below (x :: xs) Q n) (r.bind f) := by
  cases r with
  | error e =>
      obtain ⟨place, here, least⟩ := first
      refine ⟨n :: place, below_cons_iff.mpr (Or.inl ⟨place, rfl, here⟩), fun place' e' h => ?_⟩
      rcases below_cons_iff.mp h with ⟨rest, rfl, found⟩ | ⟨i, y, rest, -, rfl, -⟩
      · rcases least rest e' found with ⟨rfl, rfl⟩ | less
        · exact Or.inl ⟨rfl, rfl⟩
        · exact Or.inr (List.cons_lt_cons_iff.mpr (Or.inr ⟨rfl, less⟩))
      · exact Or.inr (List.cons_lt_cons_iff.mpr (Or.inl (by omega)))
  | ok a =>
      refine (others a).congr fun place e => ?_
      rw [below_cons_iff]
      refine or_iff_right ?_
      rintro ⟨rest, -, h⟩
      exact first rest e h

/-- A run with one branch only. -/
theorem below_single {Q : Nat → γ → List Nat → ε → Prop} {n : Nat} {x : γ}
    (h : ReportsFirst (Q n x) r) :
    ReportsFirst (Below [x] Q n) r := by
  have run : r = r.bind .ok := by cases r <;> rfl
  rw [run]
  exact below_cons h below_nil

/-- An error at the first branch ends the run. -/
theorem below_cons_of_error {Q : Nat → γ → List Nat → ε → Prop} {n : Nat} {x : γ} {xs : List γ}
    {e : ε} (first : ReportsFirst (Q n x) (.error e : Except ε Empty)) :
    ReportsFirst (Below (x :: xs) Q n) (.error e : Except ε α) :=
  first.below_cons (f := Empty.elim) fun none => none.elim

/-- A second step fails only where the first does not. -/
theorem bind {f : α → Except ε β} (h : ReportsFirst P r)
    (failed : ∀ e, r = .error e → ∀ place e, Q place e ↔ P place e)
    (passed : ∀ a, r = .ok a → ReportsFirst Q (f a)) : ReportsFirst Q (r.bind f) := by
  cases r with
  | error e => exact h.congr (failed e rfl)
  | ok a => exact passed a rfl

/-- A run that looks at one position only. -/
theorem at_zero {Q : ε → Prop} (h : ReportsFirst (Here Q) r) :
    ReportsFirst (fun place e => place = [0] ∧ Q e) r := by
  cases r with
  | error e =>
      obtain ⟨place, ⟨-, here⟩, least⟩ := h
      refine ⟨[0], ⟨rfl, here⟩, ?_⟩
      rintro place' e' ⟨zero, other⟩
      refine Or.inl ⟨zero, ?_⟩
      rcases least [] e' ⟨rfl, other⟩ with ⟨-, same⟩ | less
      · exact same
      · exact absurd less (List.not_lt_nil place)
  | ok a => exact fun place e ⟨_, other⟩ => h [] e ⟨rfl, other⟩

theorem flatMapM {Q : γ → List Nat → ε → Prop} {xs : List γ} {f : γ → Except ε (List α)} {n : Nat}
    (each : ∀ x ∈ xs, ReportsFirst (Q x) (f x)) :
    ReportsFirst (Below xs (fun _ => Q) n) (xs.flatMapM f) := by
  induction xs generalizing n with
  | nil => exact below_nil []
  | cons x xs ih =>
      rw [List.flatMapM_cons]
      refine below_cons (each x (by simp)) fun us => ?_
      exact (ih fun y mem => each y (by simp [mem])).map

theorem mapM {Q : γ → List Nat → ε → Prop} {xs : List γ} {f : γ → Except ε α} {n : Nat}
    (each : ∀ x ∈ xs, ReportsFirst (Q x) (f x)) :
    ReportsFirst (Below xs (fun _ => Q) n) (xs.mapM f) := by
  induction xs generalizing n with
  | nil => exact below_nil []
  | cons x xs ih =>
      rw [List.mapM_cons]
      refine below_cons (each x (by simp)) fun a => ?_
      exact (ih fun y mem => each y (by simp [mem])).map

/-- What a run reports is what belongs to the first place. -/
theorem eq_error_iff (h : ReportsFirst P r) (e : ε) :
    r = .error e ↔ ∃ place, IsFirst P place e := by
  constructor
  · rintro rfl
    exact h
  · rintro ⟨place, here, least⟩
    cases r with
    | ok a => exact absurd here (h place e)
    | error e' =>
        obtain ⟨place', here', least'⟩ := h
        rcases least place' e' here' with ⟨-, rfl⟩ | less
        · rfl
        · rcases least' place e here with ⟨-, rfl⟩ | less'
          · rfl
          · exact absurd (List.lt_trans less less') (List.lt_irrefl place)

theorem exists_eq_error_iff (h : ReportsFirst P r) :
    (∃ e, r = .error e) ↔ ∃ place e, P place e := by
  constructor
  · rintro ⟨e, rfl⟩
    obtain ⟨place, here, -⟩ := h
    exact ⟨place, e, here⟩
  · rintro ⟨place, e, here⟩
    cases r with
    | ok a => exact absurd here (h place e)
    | error e' => exact ⟨e', rfl⟩

end ReportsFirst

/-! ## Rules on one clause -/

variable {clause : Clause} {object field path : String} {rules : List Rule} {value : Value}

/-- The misuse that a clause has no field of that name. -/
def Clause.IsUnknown (clause : Clause) (field : String) (m : Misuse) : Prop :=
  (∀ entry ∈ clause.entries, entry.field ≠ field) ∧ m = .unknownField clause.object field

/-- The misuse that a value is not an identifier. -/
def Value.IsNoIdentifier (object field : String) (value : Value) (m : Misuse) : Prop :=
  (∀ id, value ≠ .identifier id) ∧ m = .misfit object field "ValidIdentifier" value.kind

/-- The misuse that a value is not a clause. -/
def Value.IsNoClause (object field : String) (value : Value) (m : Misuse) : Prop :=
  (∀ inner, ¬ value.Holds inner) ∧ m = .misfit object field "Nested" value.kind

theorem Clause.not_isUnknown_of_first {entry : Entry} (first : clause.entry? field = some entry)
    (m : Misuse) : ¬ clause.IsUnknown field m := by
  rintro ⟨lacks, -⟩
  exact lacks entry (List.mem_of_find?_eq_some first) (by simpa using List.find?_some first)

theorem Clause.lacks_of_first_eq_none (none : clause.entry? field = none) :
    ∀ entry ∈ clause.entries, entry.field ≠ field := by
  unfold Clause.entry? at none
  simpa using none

theorem Entry.first_eq_none_of_lookup {m : Misuse}
    (h : Entry.lookup object clause.entries field = .error m) : clause.entry? field = none := by
  rw [Entry.lookup] at h
  split at h
  next => simp at h
  next first => exact first

theorem Entry.lookup_reports (clause : Clause) (field : String) :
    ReportsFirst (Here (clause.IsUnknown field))
      (Entry.lookup clause.object clause.entries field) := by
  rw [Entry.lookup]
  cases first : clause.entries.find? (·.field == field) with
  | none => exact .here fun m => and_iff_right (Clause.lacks_of_first_eq_none first)
  | some entry => exact fun place m here => Clause.not_isUnknown_of_first first m here.2

/-- The fields of a rule are looked up in order. -/
theorem Entry.lookups_report (clause : Clause) (fields : List String) :
    ReportsFirst (Below fields (fun _ field => Here (clause.IsUnknown field)) 0)
      (fields.mapM (Entry.lookup clause.object clause.entries)) :=
  .mapM fun field _ => Entry.lookup_reports clause field

theorem Value.allValid_reports (items : List Value) (n : Nat) :
    ReportsFirst (Below items (fun _ item => Here (item.IsNoIdentifier object field)) n)
      (Value.allValid object field items) := by
  induction items generalizing n with
  | nil => exact .below_nil true
  | cons item items ih =>
      cases item with
      | identifier id =>
          refine (ih (n + 1)).map.congr fun place m => ?_
          rw [below_cons_iff]
          refine or_iff_right ?_
          rintro ⟨rest, -, -, h, -⟩
          exact h id rfl
      | absent | flag | text | number | nested | embedded | list =>
          exact .below_cons_of_error (.here fun m => and_iff_right (by simp))

theorem Value.identifiersFit_reports (optional : Bool) (there : value ≠ .absent) :
    ReportsFirst (Below value.parts (fun _ part => Here (part.IsNoIdentifier object field)) 0)
      (value.identifiersFit object field optional) := by
  cases value with
  | absent => exact absurd rfl there
  | identifier id =>
      exact (Value.allValid_reports [.identifier id] 0).map (f := fun _ => id.isValid)
  | list items =>
      cases items with
      | nil => exact .below_nil optional
      | cons item items => exact Value.allValid_reports (item :: items) 0
  | flag | text | number | nested | embedded =>
      exact .below_cons_of_error (.here fun m => and_iff_right (by simp))

/-- The misuses of a rule are an unknown field and, for the two rules that look into a value, a part
of the wrong kind. -/
theorem Clause.misuseAt_iff {rule : Rule} {j : Nat} {m : Misuse} : clause.MisuseAt rule j m ↔
    (∃ field, rule.fields[j]? = some field ∧ clause.IsUnknown field m) ∨
    (∃ field optional entry, rule = .validIdentifier field optional ∧
      clause.entry? field = some entry ∧
      entry.value ≠ .absent ∧
      ∃ part, entry.value.parts[j]? = some part ∧ part.IsNoIdentifier clause.object field m) ∨
    ∃ field rules entry, rule = .nested field rules ∧ clause.entry? field = some entry ∧
      ¬ entry.value.Unset ∧
      ∃ part, entry.value.parts[j]? = some part ∧ part.IsNoClause clause.object field m := by
  constructor
  · rintro (⟨about, unknown⟩ | ⟨first, there, part_j, h⟩ | ⟨first, set, part_j, h⟩)
    · exact Or.inl ⟨_, about, unknown, rfl⟩
    · exact Or.inr (Or.inl ⟨_, _, _, rfl, first, there, _, part_j, h, rfl⟩)
    · exact Or.inr (Or.inr ⟨_, _, _, rfl, first, set, _, part_j, h, rfl⟩)
  · rintro (⟨field, about, unknown, rfl⟩ |
      ⟨field, optional, entry, rfl, first, there, part, part_j, h, rfl⟩ |
      ⟨field, rules, entry, rfl, first, set, part, part_j, h, rfl⟩)
    · exact .unknownField about unknown
    · exact .notIdentifier first there part_j h
    · exact .notClause first set part_j h

/-- **The check of one rule reports its first misuse.** -/
theorem Rule.isBroken_reports {d : Duty} {rule : Rule}
    (leaf : ∀ field rules, rule ≠ .nested field rules) :
    ReportsFirst (d.OwnMisuse rule) (rule.isBroken d.clause.object d.clause.entries) := by
  cases rule with
  | required field =>
      refine (Entry.lookup_reports d.clause field).at_zero.map.congr fun place m => ?_
      simp [Duty.OwnMisuse, Clause.misuseAt_iff, Rule.fields, exists_at_singleton_iff]
  | exactlyOneOf fields | atLeastOneOf fields | conflicting fields =>
      refine (Entry.lookups_report d.clause fields).map.map.congr fun place m => ?_
      rw [below_here_iff]
      simp [Duty.OwnMisuse, Clause.misuseAt_iff, Rule.fields]
  | validIdentifier field optional =>
      refine (Entry.lookup_reports d.clause field).at_zero.bind (fun m failed place m => ?_)
        fun value found => ?_
      · have first := Entry.first_eq_none_of_lookup failed
        simp [Duty.OwnMisuse, Clause.misuseAt_iff, Rule.fields, exists_at_singleton_iff, first]
      · obtain ⟨entry, first, rfl⟩ := Entry.lookup_eq_ok_iff.mp found
        have inside (j : Nat) (m : Misuse) :
            d.clause.MisuseAt (.validIdentifier field optional) j m ↔ entry.value ≠ .absent ∧
              ∃ part, entry.value.parts[j]? = some part ∧
                part.IsNoIdentifier d.clause.object field m := by
          simp [Clause.misuseAt_iff, Rule.fields, exists_at_singleton_iff, first,
            Clause.not_isUnknown_of_first first]
        unfold Duty.OwnMisuse
        simp only [inside]
        by_cases there : entry.value = .absent
        · rw [there]
          rintro place m ⟨j, -, there, -⟩
          exact there rfl
        · refine (Value.identifiersFit_reports optional there).map.congr fun place m => ?_
          rw [below_here_iff]
          simp [there]
  | nested field rules => exact absurd rfl (leaf field rules)

theorem Rule.findings_reports {d : Duty} {rule : Rule}
    (leaf : ∀ field rules, rule ≠ .nested field rules) :
    ReportsFirst (rule.Found Duty.OwnMisuse d)
      (rule.findings d.clause.object d.clause.entries d.path) := by
  refine (Rule.isBroken_reports leaf).map.congr fun place m => or_iff_left ?_
  rintro ⟨field, rules, -, rfl, -⟩
  exact leaf field rules rfl

/-! ## Rules about inner clauses -/

/-- A misuse of a nested rule at one part of a value, or inside it. -/
def Value.PartMisuse (object field path : String) (rules : List Rule) (part : Value)
    (place : List Nat) (m : Misuse) : Prop :=
  Here (part.IsNoClause object field) place m ∨ ∃ clause, part.Holds clause ∧
    Below [rules, clause.rules] (fun _ rules => Duty.MisuseAt ⟨clause, path, rules⟩) 0 place m

/-- A misuse of a nested rule at some part of a value. -/
def Value.InnerMisuse (object field path : String) (rules : List Rule) (value : Value) :
    List Nat → Misuse → Prop :=
  Below value.parts (fun j part => part.PartMisuse object field (value.partPath path j) rules) 0

theorem Rule.found_nested_iff {d : Duty} {entry : Entry} {place : List Nat} {m : Misuse}
    (first : d.clause.entry? field = some entry) :
    (Rule.nested field rules).Found Duty.OwnMisuse d place m ↔ ¬ entry.value.Unset ∧
      entry.value.InnerMisuse d.clause.object field (fieldPath d.path field) rules place m := by
  constructor
  · rintro (⟨j, rfl, misuse⟩ | ⟨field', rules', entry', same, first', set, found⟩)
    · cases misuse with
      | unknownField about unknown =>
          obtain ⟨-, rfl⟩ : j = 0 ∧ field = _ := by
            simpa [Rule.fields, List.getElem?_singleton] using about
          exact absurd ⟨unknown, rfl⟩ (Clause.not_isUnknown_of_first first _)
      | notClause first' set part_j h =>
          obtain rfl := Option.some.inj (first.symm.trans first')
          exact ⟨set, j, _, [], part_j, by simp, Or.inl ⟨rfl, h, rfl⟩⟩
    · obtain ⟨rfl, rfl⟩ := Rule.nested.inj same
      obtain rfl := Option.some.inj (first.symm.trans first')
      obtain ⟨j, clause, path', rest, inner, rfl, below⟩ := found
      obtain ⟨part, part_j, holds, rfl⟩ := Value.inner_iff.mp inner
      rw [← Nat.zero_add j] at below
      exact ⟨set, j, part, rest, part_j, by simp, Or.inr ⟨clause, holds, below⟩⟩
  · rintro ⟨set, j, part, rest, part_j, rfl, ⟨rfl, h, rfl⟩ | ⟨clause, holds, below⟩⟩
    · exact Or.inl ⟨j, by simp, .notClause first set part_j h⟩
    · rw [Nat.zero_add] at below ⊢
      refine Or.inr ⟨field, rules, entry, rfl, first, set, j, clause, _, rest, ?_, rfl, below⟩
      exact Value.inner_iff.mpr ⟨part, part_j, holds, rfl⟩

/-- The given rules are checked on an inner clause, and then its own. -/
theorem Value.partMisuse_reports_of_holds (holds : value.Holds clause)
    (walk : ∀ rules,
      ReportsFirst (Duty.MisuseAt ⟨clause, path, rules⟩) (clause.findings path rules)) :
    ReportsFirst (value.PartMisuse object field path rules)
      ((clause.findings path rules).bind fun given =>
        (clause.findings path clause.rules).map (given ++ ·)) := by
  have both : ReportsFirst
      (Below [rules, clause.rules] (fun _ rules => Duty.MisuseAt ⟨clause, path, rules⟩) 0)
      ((clause.findings path rules).bind fun given =>
        (clause.findings path clause.rules).map (given ++ ·)) :=
    .below_cons (walk rules) fun _ => (walk clause.rules).below_single.map
  refine both.congr fun place m => ?_
  constructor
  · rintro (⟨-, h, -⟩ | ⟨clause', holds', below⟩)
    · exact absurd holds (h clause)
    · rwa [holds.unique holds']
  · intro below
    exact Or.inr ⟨clause, holds, below⟩

theorem Value.partMisuse_reports_of_not_holds {α : Type} (h : ∀ clause, ¬ value.Holds clause) :
    ReportsFirst (value.PartMisuse object field path rules)
      (.error (.misfit object field "Nested" value.kind) : Except Misuse α) := by
  have here : ReportsFirst (Here (value.IsNoClause object field))
      (.error (.misfit object field "Nested" value.kind) : Except Misuse α) :=
    .here fun m => and_iff_right h
  refine here.congr fun place m => or_iff_left ?_
  rintro ⟨clause, holds, -⟩
  exact h clause holds

/-! ## The walk -/

theorem Entry.innerFindings_of_first_eq_none {entries : List Entry}
    (none : entries.find? (·.field == field) = none) :
    Entry.innerFindings object path field rules entries = .error (.unknownField object field) := by
  induction entries with
  | nil => rfl
  | cons entry entries ih =>
      obtain ⟨name, directive, value⟩ := entry
      obtain ⟨other, others⟩ : name ≠ field ∧ entries.find? (·.field == field) = .none := by
        simpa using none
      rw [Entry.innerFindings, if_neg other]
      exact ih others

theorem Entry.innerFindings_reports_of_unknown {d : Duty} (unknown : d.clause.entry? field = none) :
    ReportsFirst ((Rule.nested field rules).Found Duty.OwnMisuse d)
      (Entry.innerFindings d.clause.object path field rules d.clause.entries) := by
  have lacks := Clause.lacks_of_first_eq_none unknown
  rw [Entry.innerFindings_of_first_eq_none unknown]
  refine (ReportsFirst.here fun m => and_iff_right lacks).at_zero.congr fun place m => ?_
  simp [Rule.Found, Duty.OwnMisuse, Clause.misuseAt_iff, Rule.fields, exists_at_singleton_iff,
    unknown, Clause.IsUnknown]

mutual

/-- **The walk reports the first misuse.**  This is one induction over the tree, with a statement
for each function of the walk. -/
theorem Clause.findings_reports : ∀ (clause : Clause) (path : String) (rules : List Rule),
    ReportsFirst (Duty.MisuseAt ⟨clause, path, rules⟩) (clause.findings path rules)
  | ⟨object, entries, own⟩, path, rules => by
    let d : Duty := ⟨⟨object, entries, own⟩, path, rules⟩
    have reports : ReportsFirst (Below rules (fun _ rule => rule.Found Duty.OwnMisuse d) 0)
        (Clause.findings path rules ⟨object, entries, own⟩) := by
      -- Only a nested rule leads down the tree; any other rule is checked here.
      refine ReportsFirst.flatMapM fun rule _ => ?_
      cases rule with
      | nested field given =>
          cases first : d.clause.entry? field with
          | none =>
              exact Entry.innerFindings_reports_of_unknown (d := d) first
          | some entry =>
              refine (Entry.innerFindings_reports entries first).congr fun place m => ?_
              exact Rule.found_nested_iff first
      | required | validIdentifier | exactlyOneOf | atLeastOneOf | conflicting =>
          exact Rule.findings_reports (d := d) (by simp)
    exact reports.congr fun place v => Duty.found_iff
termination_by structural clause => clause

theorem Entry.innerFindings_reports : ∀ (entries : List Entry) {object path field : String}
    {rules : List Rule} {entry : Entry}, entries.find? (·.field == field) = some entry →
    ReportsFirst
      (fun place m => ¬ entry.value.Unset ∧ entry.value.InnerMisuse object field path rules place m)
      (Entry.innerFindings object path field rules entries)
  | [], _, _, _, _, _, first => by simp at first
  | ⟨name, directive, value⟩ :: entries, _, _, field, _, entry, first => by
    rw [Entry.innerFindings]
    by_cases same : name = field
    · obtain rfl : ⟨name, directive, value⟩ = entry := by simpa [same] using first
      rw [if_pos same]
      by_cases present : value.isPresent = true
      · rw [if_pos present]
        have set := Value.isPresent_iff.mp present
        exact (Value.findings_reports value).congr fun _ _ => and_iff_right set
      · rw [if_neg present]
        exact fun _ _ found => present (Value.isPresent_iff.mpr found.1)
    · rw [if_neg same]
      exact Entry.innerFindings_reports entries (by simpa [same] using first)
termination_by structural entries => entries

theorem Value.findings_reports : ∀ (value : Value) {object path field : String} {rules : List Rule},
    ReportsFirst (value.InnerMisuse object field path rules)
      (value.findings object path field rules)
  | .nested clause, _, path, _, _ | .embedded clause, _, path, _, _ =>
    (Value.partMisuse_reports_of_holds (by simp [Value.Holds])
      (Clause.findings_reports clause path)).below_single
  | .list items, _, _, _, _ => Value.itemFindings_reports items
  | .absent, _, _, _, _ | .flag _, _, _, _, _ | .text _, _, _, _, _ | .number _, _, _, _, _
  | .identifier _, _, _, _, _ =>
    (Value.partMisuse_reports_of_not_holds (by simp [Value.Holds])).below_single
termination_by structural value => value

theorem Value.itemFindings_reports : ∀ (items : List Value) {object path field : String}
    {rules : List Rule} {position : Nat},
    ReportsFirst
      (Below items (fun j item => item.PartMisuse object field (itemPath path j) rules) position)
      (Value.itemFindings object path field rules position items)
  | [], _, _, _, _, _ => .below_nil []
  | item :: items, _, _, _, _, _ =>
    .below_cons (Value.clauseFindings_reports item) fun _ => (Value.itemFindings_reports items).map
termination_by structural items => items

theorem Value.clauseFindings_reports : ∀ (item : Value) {object path field : String}
    {rules : List Rule}, ReportsFirst (item.PartMisuse object field path rules)
      (item.clauseFindings object path field rules)
  | .nested clause, _, path, _, _ | .embedded clause, _, path, _, _ =>
    Value.partMisuse_reports_of_holds (by simp [Value.Holds]) (Clause.findings_reports clause path)
  | .list _, _, _, _, _ | .absent, _, _, _, _ | .flag _, _, _, _, _ | .text _, _, _, _, _
  | .number _, _, _, _, _ | .identifier _, _, _, _, _ =>
    Value.partMisuse_reports_of_not_holds (by simp [Value.Holds])
termination_by structural item => item

end

/-! ## The check of a statement -/

theorem Clause.validate_eq_misuse_iff {m : Misuse} :
    clause.validate = .error (.misuse m) ↔ clause.violations = .error m := by
  rw [Clause.validate]
  split <;> simp_all

/-- **Misuses come before violations.**  Whatever violations there are, the check fails with a
misuse if and only if there is one, and then with the one that belongs to the first place. -/
theorem Clause.violations_reports_first_misuse (clause : Clause) :
    (∀ m, clause.violations = .error m ↔ ∃ place, IsFirst clause.duty.MisuseAt place m) ∧
    (∀ m, clause.validate = .error (.misuse m) ↔ ∃ place, IsFirst clause.duty.MisuseAt place m) ∧
    ((∃ m, clause.violations = .error m) ↔ ∃ place m, clause.duty.MisuseAt place m) ∧
    ((∃ m, clause.validate = .error (.misuse m)) ↔ ∃ place m, clause.duty.MisuseAt place m) := by
  have reports : ReportsFirst clause.duty.MisuseAt clause.violations :=
    Clause.findings_reports clause clause.object clause.rules
  simp only [Clause.validate_eq_misuse_iff]
  exact ⟨reports.eq_error_iff, reports.eq_error_iff, reports.exists_eq_error_iff,
    reports.exists_eq_error_iff⟩

/-- The violation in the first item is dropped for the second item, which cannot be looked into. -/
example :
    let tag : Clause := ⟨"Tag", [⟨"name", .identifier, .absent⟩], [.required "name"]⟩
    let clause : Clause :=
      ⟨"Table", [⟨"tags", .list, .list [.nested tag, .flag true, .text "x"]⟩], [.nested "tags" []]⟩
    clause.violations = .error (.misfit "Table" "tags" "Nested" "bool") := by
  rfl

end WarehouseAdmin
