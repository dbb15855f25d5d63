import WarehouseAdmin.Proofs.Sql.Nesting
import WarehouseAdmin.Sql.Statement
import Mathlib.Logic.Relation

/-!
# The descent into a statement

A statement is written depth first.  A clause is entered, then its fields are reached one after the
other, and behind each field the clauses in what it holds.  `Clause.visits` lists these events for
the whole tree and knows nothing of texts or limits.  Two of them can go wrong: a clause can lie too
deep, and a field can hold what its directive does not write.

The limit decides only which event goes wrong first.  So every clause has one text, and a run under
any limit gives this text or reports its first fault (`Clause.exists_sql_eq`).  That the run keeps
track of the objects around a place, and gives them up again behind each clause, is what the
induction over the tree carries: `Clause.sqlAt` at any place reports the visits from that place on.

## Main statements

* `Clause.sql_succeeds_or_reports_first_fault` — when a statement is written, and what is reported
  when it is not.
* `Clause.FitsWithin.exists_sql_eq` — clauses that are written under every limit from some level on.
-/

namespace WarehouseAdmin

/-! ## The clauses that are written -/

mutual

/-- The clauses that a value holds: the value itself, or those of its items. -/
def Value.clauses : Value → List Clause
  | .nested clause | .embedded clause => [clause]
  | .list items => Value.allClauses items
  | _ => []
termination_by structural value => value

def Value.allClauses : List Value → List Clause
  | [] => []
  | item :: items => item.clauses ++ Value.allClauses items
termination_by structural items => items

end

/-- The clauses that are written for a field. -/
def Entry.clauses : Entry → List Clause
  | ⟨_, .keyword _, value⟩ | ⟨_, .named _ _ _, value⟩ => value.clauses
  | ⟨_, .sequence _ _, .list items⟩ => Value.allClauses items
  | _ => []

/-- Whether a field holds a value that its directive does not write. -/
def Entry.isMisfit : Entry → Bool
  | ⟨_, .reference _ _, .absent⟩ | ⟨_, .reference _ _, .identifier _⟩ => false
  | ⟨_, .reference _ _, _⟩ => true
  | ⟨_, .sequence _ _, .absent⟩ | ⟨_, .sequence _ _, .list _⟩ => false
  | ⟨_, .sequence _ _, _⟩ => true
  | _ => false

mutual

theorem Value.sizeOf_lt_of_mem_clauses {c : Clause} :
    ∀ {value : Value}, c ∈ value.clauses → sizeOf c < sizeOf value
  | .nested clause, h | .embedded clause, h => by
    obtain rfl := List.mem_singleton.mp h
    simp
  | .list items, h => by
    have : sizeOf c < sizeOf items := Value.sizeOf_lt_of_mem_allClauses h
    simp
    omega
  | .absent, h | .flag _, h | .text _, h | .number _, h | .identifier _, h => by
    simp [Value.clauses] at h

theorem Value.sizeOf_lt_of_mem_allClauses {c : Clause} :
    ∀ {items : List Value}, c ∈ Value.allClauses items → sizeOf c < sizeOf items
  | [], h => by simp [Value.allClauses] at h
  | item :: items, h => by
    rw [Value.allClauses, List.mem_append] at h
    rcases h with h | h
    · have := Value.sizeOf_lt_of_mem_clauses h
      simp
      omega
    · have := Value.sizeOf_lt_of_mem_allClauses h
      simp
      omega

end

theorem Entry.sizeOf_lt_of_mem_clauses {c : Clause} {entry : Entry} (h : c ∈ entry.clauses) :
    sizeOf c < sizeOf entry := by
  obtain ⟨field, directive, value⟩ := entry
  have inside : c ∈ value.clauses := by
    cases directive with
    | fixed | reference => simp [Entry.clauses] at h
    | keyword | named => exact h
    | sequence =>
        cases value with
        | list items => exact h
        | absent | flag | text | number | identifier | nested | embedded =>
          simp [Entry.clauses] at h
  have := Value.sizeOf_lt_of_mem_clauses inside
  simp
  omega

namespace Clause

variable {clause : Clause}

/-- The clauses that are written for the fields of a clause, in order. -/
def inner (clause : Clause) : List Clause :=
  clause.entries.flatMap Entry.clauses

theorem sizeOf_lt_of_mem_inner {c : Clause} (h : c ∈ clause.inner) : sizeOf c < sizeOf clause := by
  obtain ⟨object, entries, rules⟩ := clause
  obtain ⟨entry, mem, h⟩ := List.mem_flatMap.mp h
  have := Entry.sizeOf_lt_of_mem_clauses h
  have := List.sizeOf_lt_of_mem mem
  simp at *
  omega

/-- The height of a clause: one more than the largest height of a clause in it. -/
def height (clause : Clause) : Nat :=
  1 + (clause.inner.attach.map fun ⟨c, _⟩ => c.height).foldr max 0
termination_by clause
decreasing_by
  exact sizeOf_lt_of_mem_inner ‹_›

theorem height_le_succ_iff {d : Nat} :
    clause.height ≤ d + 1 ↔ ∀ c ∈ clause.inner, c.height ≤ d := by
  have below (heights : List Nat) : heights.foldr max 0 ≤ d ↔ ∀ h ∈ heights, h ≤ d := by
    induction heights with
    | nil => simp
    | cons h heights ih => rw [List.foldr_cons, Nat.max_le, ih, List.forall_mem_cons]
  rw [height, Nat.add_comm, Nat.add_le_add_iff_right, below]
  simp

theorem height_pos : 0 < clause.height := by
  rw [height]
  omega

/-- A property that each clause takes over from the clauses in it holds of all clauses. -/
theorem inner_induction {P : Clause → Prop} (step : ∀ clause, (∀ c ∈ clause.inner, P c) → P clause)
    (clause : Clause) : P clause :=
  step clause fun c _ => inner_induction step c
termination_by clause
decreasing_by
  exact sizeOf_lt_of_mem_inner ‹_›

end Clause

/-! ## Visits -/

/-- What writing a statement comes to. -/
inductive Visit where
  /-- A clause is entered.  The objects of the clauses around it are listed from the outermost on.
  -/
  | clause (around : List String)
  /-- A field of the clause of an object is reached. -/
  | field (object : String) (entry : Entry)

/-- The visits of a clause: it is entered, and each of its fields is reached in front of the clauses
that are written for the field. -/
def Clause.visits (around : List String) (clause : Clause) : List Visit :=
  .clause around :: clause.entries.flatMap fun entry =>
    .field clause.object entry ::
      entry.clauses.attach.flatMap fun ⟨inner, _⟩ => inner.visits (around ++ [clause.object])
termination_by clause
decreasing_by
  have := List.sizeOf_lt_of_mem ‹entry ∈ clause.entries›
  have := Entry.sizeOf_lt_of_mem_clauses ‹inner ∈ entry.clauses›
  have : sizeOf clause.entries < sizeOf clause := by
    cases clause
    simp
    omega
  omega

/-- What writing a field of the clause of an object comes to. -/
def Entry.visits (path : List String) (object : String) (entry : Entry) : List Visit :=
  .field object entry :: entry.clauses.flatMap (·.visits path)

theorem Clause.visits_eq (around : List String) (clause : Clause) :
    clause.visits around = .clause around ::
      clause.entries.flatMap (Entry.visits (around ++ [clause.object]) clause.object) := by
  rw [visits]
  congr 2
  funext entry
  simp [Entry.visits]

/-! ## Faults -/

namespace Visit

/-- The error of a visit that goes wrong under a limit. -/
def fault? (limit : Nat) : Visit → Option SqlError
  | .clause around =>
    if around.length = limit then some (.tooDeep around (limit + 1) limit) else none
  | .field object entry =>
    if entry.isMisfit then
      some (.misfit object entry.field entry.directive.kind entry.value.kind)
    else none

theorem fault?_field_eq_none_iff {limit : Nat} {object : String} {entry : Entry} :
    fault? limit (.field object entry) = none ↔ entry.isMisfit = false := by
  cases h : entry.isMisfit <;> simp [fault?, h]

variable {α β : Type} {limit : Nat} {visits visits' : List Visit} {a : α} {b : β}

/-- The outcome of a run that goes through visits: its result, or the first fault. -/
def outcome (limit : Nat) (visits : List Visit) (result : α) : Except SqlError α :=
  match visits.findSome? (fault? limit) with
  | some e => .error e
  | none => .ok result

theorem outcome_map (f : α → β) : (outcome limit visits a).map f = outcome limit visits (f a) := by
  unfold outcome
  cases visits.findSome? (fault? limit) with
  | none => rfl
  | some e => rfl

theorem outcome_bind {f : α → Except SqlError β} (h : f a = outcome limit visits' b) :
    (outcome limit visits a).bind f = outcome limit (visits ++ visits') b := by
  unfold outcome at h ⊢
  rw [List.findSome?_append]
  cases visits.findSome? (fault? limit) with
  | none => exact h
  | some e => rfl

/-- A visit that does not go wrong leaves no trace. -/
theorem outcome_cons {visit : Visit} (h : visit.fault? limit = none) :
    outcome limit (visit :: visits) a = outcome limit visits a := by
  rw [outcome, List.findSome?_cons_of_isNone (by simp [h]), outcome]

theorem outcome_cons_of_fault {visit : Visit} {e : SqlError} (h : visit.fault? limit = some e) :
    outcome limit (visit :: visits) a = .error e := by
  rw [outcome, List.findSome?_cons, h]

theorem outcome_eq_ok_iff {a' : α} :
    outcome limit visits a = .ok a' ↔ visits.findSome? (fault? limit) = none ∧ a = a' := by
  unfold outcome
  cases visits.findSome? (fault? limit) with
  | none => simp
  | some e => simp

theorem outcome_eq_error_iff {e : SqlError} :
    outcome limit visits a = .error e ↔ visits.findSome? (fault? limit) = some e := by
  unfold outcome
  cases visits.findSome? (fault? limit) with
  | none => simp
  | some e => simp

end Visit

/-! ## The run over a tree -/

open Visit (outcome outcome_map outcome_bind outcome_cons outcome_cons_of_fault)

variable {entry : Entry}

/-- A field that fits its directive goes wrong only in the clauses that are written for it. -/
theorem Entry.exists_outcome_of_fits {α : Type} {run : Nesting → Except SqlError α} {a : α}
    (fits : entry.isMisfit = false)
    (h : ∀ place : Nesting, place.InBounds →
      run place = outcome place.limit (entry.clauses.flatMap (·.visits place.path)) a)
    (f : α → String) : ∃ token, ∀ place : Nesting, place.InBounds →
      (run place).map f = outcome place.limit (entry.visits place.path place.current) token := by
  refine ⟨f a, fun place bound => ?_⟩
  rw [h place bound, outcome_map, Entry.visits, outcome_cons]
  simp [Visit.fault?, fits]

theorem Value.sqlAt_embedded (place : Nesting) (quoting : Quoting) (clause : Clause) :
    (Value.embedded clause).sqlAt place quoting false = clause.sqlAt place := by
  rw [Value.sqlAt]
  cases clause.sqlAt place with
  | error e => rfl
  | ok inner => rfl

mutual

/-- **A clause has one text**, and written at any place it gives this text or reports the first
fault of its visits. -/
theorem Clause.exists_sqlAt_eq : ∀ clause : Clause, ∃ text, ∀ place : Nesting, place.InBounds →
    clause.sqlAt place = outcome place.limit (clause.visits place.path) text
  | ⟨object, entries, rules⟩ => by
    obtain ⟨tokens, written⟩ := Entry.exists_tokens_eq entries
    refine ⟨joinTokens tokens, fun place bound => ?_⟩
    rw [Clause.sqlAt, Clause.visits_eq]
    -- Either the clause is one too many, or it can be entered; then its fields are written one
    -- level further in, and the place outside is still there behind them.
    rcases Nat.eq_or_lt_of_le bound with full | room
    · rw [Nesting.enter_of_depth_eq full, outcome_cons_of_fault]
      · rfl
      · exact if_pos (Nesting.length_path.trans full)
    · obtain ⟨inside, entered, limit, bound', path, current⟩ := Nesting.exists_enter_eq object room
      have entries := written inside bound'
      rw [limit, path, current] at entries
      have passed : place.path.length ≠ place.limit := by
        rw [Nesting.length_path]
        omega
      rw [entered, outcome_cons (by simp [Visit.fault?, passed]), ← outcome_map, ← entries]
      rfl

theorem Entry.exists_tokens_eq : ∀ entries : List Entry, ∃ tokens, ∀ place : Nesting,
    place.InBounds → Entry.tokens place entries =
      outcome place.limit (entries.flatMap (Entry.visits place.path place.current)) tokens
  | [] => ⟨[], fun place _ => rfl⟩
  | entry :: entries => by
    obtain ⟨token, head⟩ := Entry.exists_token_eq entry
    obtain ⟨tokens, tail⟩ := Entry.exists_tokens_eq entries
    refine ⟨token :: tokens, fun place bound => ?_⟩
    rw [Entry.tokens, head place bound, List.flatMap_cons]
    refine outcome_bind ?_
    rw [tail place bound, outcome_map]

theorem Entry.exists_token_eq : ∀ entry : Entry, ∃ token, ∀ place : Nesting, place.InBounds →
    entry.token place = outcome place.limit (entry.visits place.path place.current) token
  | ⟨field, .fixed text, value⟩ => ⟨text, fun place _ => rfl⟩
  | ⟨field, .keyword text, value⟩ => by
    obtain ⟨_, run⟩ := Value.exists_sqlAt_eq .bare false value
    cases value with
    | absent | flag | text | number | identifier => exact ⟨_, fun place _ => rfl⟩
    | nested clause => exact Entry.exists_outcome_of_fits rfl run _
    | embedded clause =>
        simp only [Value.sqlAt_embedded] at run
        exact Entry.exists_outcome_of_fits rfl run _
    | list items =>
        cases items with
        | nil => exact ⟨"", fun place _ => rfl⟩
        | cons => exact Entry.exists_outcome_of_fits rfl run _
  | ⟨field, .named name quoting link, value⟩ => by
    obtain ⟨_, run⟩ := Value.exists_sqlAt_eq quoting true value
    obtain ⟨_, alone⟩ := Value.exists_sqlAt_eq quoting false value
    cases value with
    | absent | flag | text | number | identifier => exact ⟨_, fun place _ => rfl⟩
    | nested clause => exact Entry.exists_outcome_of_fits rfl run _
    | embedded clause =>
        -- Whether there are parentheses depends on what stands in them.
        simp only [Value.sqlAt_embedded] at alone
        exact Entry.exists_outcome_of_fits rfl alone _
    | list items =>
        cases items with
        | nil => exact ⟨"", fun place _ => rfl⟩
        | cons => exact Entry.exists_outcome_of_fits rfl run _
  | ⟨field, .reference name link, value⟩ => by
    cases value with
    | absent => exact ⟨"", fun place _ => rfl⟩
    | identifier id => exact ⟨link.attach name id.text, fun place _ => rfl⟩
    | flag | text | number | nested | embedded | list =>
        exact ⟨"", fun place _ => (outcome_cons_of_fault rfl).symm⟩
  | ⟨field, .sequence separator parenthesized, value⟩ => by
    cases value with
    | absent => exact ⟨"", fun place _ => rfl⟩
    | list items =>
        obtain ⟨_, run⟩ := Value.exists_elements_eq .bare items
        cases items with
        | nil => exact ⟨"", fun place _ => rfl⟩
        | cons => exact Entry.exists_outcome_of_fits rfl run _
    | flag | text | number | identifier | nested | embedded =>
        exact ⟨"", fun place _ => (outcome_cons_of_fault rfl).symm⟩

theorem Value.exists_sqlAt_eq (quoting : Quoting) (parenthesized : Bool) : ∀ value : Value,
    ∃ text, ∀ place : Nesting, place.InBounds → value.sqlAt place quoting parenthesized =
      outcome place.limit (value.clauses.flatMap (·.visits place.path)) text
  | .absent => ⟨_, fun place _ => rfl⟩
  | .flag b => ⟨_, fun place _ => rfl⟩
  | .text s => ⟨_, fun place _ => rfl⟩
  | .number n => ⟨_, fun place _ => rfl⟩
  | .identifier id => ⟨_, fun place _ => rfl⟩
  | .nested clause | .embedded clause => by
    obtain ⟨inner, run⟩ := Clause.exists_sqlAt_eq clause
    refine ⟨if parenthesized then inParentheses inner else inner, fun place bound => ?_⟩
    rw [Value.sqlAt, run place bound, outcome_map]
    simp [Value.clauses]
  | .list items => by
    obtain ⟨elements, run⟩ := Value.exists_elements_eq quoting items
    refine ⟨joinElements .comma parenthesized elements, fun place bound => ?_⟩
    rw [Value.sqlAt, run place bound, outcome_map]
    rfl

theorem Value.exists_elements_eq (quoting : Quoting) : ∀ items : List Value,
    ∃ elements, ∀ place : Nesting, place.InBounds → Value.elements place quoting items =
      outcome place.limit ((Value.allClauses items).flatMap (·.visits place.path)) elements
  | [] => ⟨[], fun place _ => rfl⟩
  | item :: items => by
    obtain ⟨element, head⟩ := Value.exists_sqlAt_eq quoting false item
    obtain ⟨elements, tail⟩ := Value.exists_elements_eq quoting items
    refine ⟨element :: elements, fun place bound => ?_⟩
    rw [Value.elements, head place bound, Value.allClauses, List.flatMap_append]
    refine outcome_bind ?_
    rw [tail place bound, outcome_map]

end

namespace Clause

variable {clause : Clause} {limit : Nat}

/-- A whole statement begins outside of all clauses. -/
theorem exists_sql_eq (clause : Clause) :
    ∃ text, ∀ limit, clause.sql limit = outcome limit (clause.visits []) text := by
  obtain ⟨text, written⟩ := clause.exists_sqlAt_eq
  exact ⟨text, fun limit => written (.outermost limit) (Nat.zero_le limit)⟩

/-! ## Runs without a fault -/

/-- The clauses that are written along with a clause: the clause, those in it, and so on. -/
def Contains : Clause → Clause → Prop :=
  Relation.ReflTransGen fun outer c => c ∈ outer.inner

theorem forall_contains_iff {P : Clause → Prop} : (∀ c, clause.Contains c → P c) ↔
    P clause ∧ ∀ inner ∈ clause.inner, ∀ c, inner.Contains c → P c := by
  constructor
  · intro all
    exact ⟨all clause .refl, fun inner mem c contains => all c (.head mem contains)⟩
  · rintro ⟨here, below⟩ c contains
    rcases contains.cases_head with rfl | ⟨inner, mem, contains⟩
    · exact here
    · exact below inner mem c contains

/-- The visits behind a clause, where the limit leaves room for it. -/
theorem visits_faultless_iff_inner {around : List String} (room : around.length < limit) :
    (∀ visit ∈ clause.visits around, visit.fault? limit = none) ↔
      (∀ entry ∈ clause.entries, entry.isMisfit = false) ∧
        ∀ inner ∈ clause.inner, ∀ visit ∈ inner.visits (around ++ [clause.object]),
          visit.fault? limit = none := by
  have passed : Visit.fault? limit (.clause around) = none := by
    simp [Visit.fault?, Nat.ne_of_lt room]
  rw [visits_eq, List.forall_mem_cons, and_iff_right passed]
  simp only [inner, List.mem_flatMap, Entry.visits, List.mem_cons]
  constructor
  · intro all
    refine ⟨fun entry mem => Visit.fault?_field_eq_none_iff.mp (all _ ⟨entry, mem, .inl rfl⟩), ?_⟩
    rintro inner ⟨entry, mem, mem'⟩ visit visited
    exact all visit ⟨entry, mem, .inr ⟨inner, mem', visited⟩⟩
  · rintro ⟨fields, inners⟩ visit ⟨entry, mem, rfl | ⟨inner, mem', visited⟩⟩
    · exact Visit.fault?_field_eq_none_iff.mpr (fields entry mem)
    · exact inners inner ⟨entry, mem, mem'⟩ visit visited

/-- From a place on, nothing goes wrong if every field fits its directive and the clause is not
higher than the room that the limit leaves. -/
theorem visits_faultless_iff (clause : Clause) : ∀ around : List String, around.length ≤ limit →
    ((∀ visit ∈ clause.visits around, visit.fault? limit = none) ↔
      (∀ c, clause.Contains c → ∀ entry ∈ c.entries, entry.isMisfit = false) ∧
        around.length + clause.height ≤ limit) := by
  induction clause using inner_induction with
  | step clause ih =>
      intro around bound
      have positive := clause.height_pos
      rcases Nat.eq_or_lt_of_le bound with full | room
      · have fault : ¬ ∀ visit ∈ clause.visits around, visit.fault? limit = none := by
          rw [visits_eq]
          simp [Visit.fault?, full]
        exact iff_of_false fault fun ⟨_, low⟩ => by omega
      · obtain ⟨rest, rfl⟩ : ∃ rest, limit = around.length + (rest + 1) :=
          ⟨limit - around.length - 1, by omega⟩
        have inside (c : Clause) (mem : c ∈ clause.inner) :=
          ih c mem (around ++ [clause.object]) (by simp)
        rw [visits_faultless_iff_inner room, forall_contains_iff, Nat.add_le_add_iff_left,
          height_le_succ_iff, and_assoc, ← forall₂_and]
        refine and_congr_right fun _ => forall₂_congr fun c mem => ?_
        rw [inside c mem, List.length_append, List.length_singleton]
        refine and_congr_right fun _ => ?_
        omega

/-- **When a statement is written.**  A statement is written if every field that is reached fits its
directive and the clauses are not higher than the limit, and it is the same under all limits that
suffice.  If it is not written, the first fault of its visits is reported. -/
theorem sql_succeeds_or_reports_first_fault (clause : Clause) :
    (∀ limit, (∃ s, clause.sql limit = .ok s) ↔
      (∀ c, clause.Contains c → ∀ entry ∈ c.entries, entry.isMisfit = false) ∧
        clause.height ≤ limit) ∧
    (∀ limit limit' s s', clause.sql limit = .ok s → clause.sql limit' = .ok s' → s = s') ∧
    ∀ limit e, clause.sql limit = .error e ↔
      (clause.visits []).findSome? (Visit.fault? limit) = some e := by
  obtain ⟨text, run⟩ := clause.exists_sql_eq
  refine ⟨fun limit => ?_, fun limit limit' s s' h h' => ?_, fun limit e => ?_⟩
  · have faultless := visits_faultless_iff clause [] (Nat.zero_le limit)
    rw [List.length_nil, Nat.zero_add] at faultless
    rw [← faultless, ← List.findSome?_eq_none_iff, run]
    simp [Visit.outcome_eq_ok_iff]
  · rw [run, Visit.outcome_eq_ok_iff] at h h'
    exact h.2.symm.trans h'.2
  · rw [run, Visit.outcome_eq_error_iff]

/-- The limit decides which of two faults is met: the field behind the inner clause is reached only
where the inner clause can be entered. -/
example :
    let clause : Clause := ⟨"Outer", [⟨"inner", .keyword "WITH", .nested ⟨"Inner", [], []⟩⟩,
      ⟨"tags", .list, .flag true⟩], []⟩
    clause.sql 1 = .error (.tooDeep ["Outer"] 2 1) ∧
      clause.sql 2 = .error (.misfit "Outer" "tags" "list" "bool") :=
  ⟨rfl, rfl⟩

/-! ## Clauses that fit -/

/-- Every field that is reached fits its directive, and there is room for the clause within `d`
levels. -/
def FitsWithin (d : Nat) (clause : Clause) : Prop :=
  (∀ c, clause.Contains c → ∀ entry ∈ c.entries, entry.isMisfit = false) ∧ clause.height ≤ d

end Clause

/-- The field fits its directive, and there is room for the clauses in it within `d` levels. -/
def Entry.FitsWithin (d : Nat) (entry : Entry) : Prop :=
  entry.isMisfit = false ∧ ∀ c ∈ entry.clauses, c.FitsWithin d

namespace Clause

variable {clause : Clause} {limit : Nat}

/-- A clause takes one level, and the rest is for its fields. -/
theorem fitsWithin_succ_iff {d : Nat} :
    clause.FitsWithin (d + 1) ↔ ∀ entry ∈ clause.entries, entry.FitsWithin d := by
  unfold FitsWithin Entry.FitsWithin
  rw [forall_contains_iff, height_le_succ_iff, and_assoc, ← forall₂_and]
  simp only [inner, List.mem_flatMap]
  constructor
  · rintro ⟨here, below⟩ entry mem
    exact ⟨here entry mem, fun c mem' => below c ⟨entry, mem, mem'⟩⟩
  · intro all
    refine ⟨fun entry mem => (all entry mem).1, ?_⟩
    rintro c ⟨entry, mem, mem'⟩
    exact (all entry mem).2 c mem'

theorem FitsWithin.mono {d d' : Nat} (fits : clause.FitsWithin d) (le : d ≤ d') :
    clause.FitsWithin d' :=
  ⟨fits.1, Nat.le_trans fits.2 le⟩

/-- A clause that fits is written, and what is written does not depend on the limit. -/
theorem FitsWithin.exists_sql_eq {d : Nat} (fits : clause.FitsWithin d) :
    ∃ text, ∀ limit, d ≤ limit → clause.sql limit = .ok text := by
  obtain ⟨text, run⟩ := clause.exists_sql_eq
  refine ⟨text, ?_⟩
  intro limit room
  have faultless : ∀ visit ∈ clause.visits [], visit.fault? limit = none := by
    rw [visits_faultless_iff clause [] (Nat.zero_le limit), List.length_nil, Nat.zero_add]
    exact ⟨fits.1, Nat.le_trans fits.2 room⟩
  rw [run, Visit.outcome_eq_ok_iff, List.findSome?_eq_none_iff]
  exact ⟨faultless, rfl⟩

end Clause

end WarehouseAdmin
