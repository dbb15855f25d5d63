import WarehouseAdmin.Proofs.Check.Place
import WarehouseAdmin.Proofs.Outcome

/-!
# The check finds every violation

`Clause.Breaks` says when a rule is broken on a clause, and `Duty.Breach` says what violations
follow from a duty and where.  Neither follows the walk.  The walk is then shown to list exactly
these violations in the order of their places, if it reaches its end:
`Clause.violations_lists_breaches`.

The walk goes down the tree and `Duty.Reaches` grows at its end.  The two meet in `Duty.breach_iff`,
which sorts the breaches of a duty by the rule that they are found at.  For a nested rule these are
the breaches of the duties that it hands on (`Value.InnerBreach`), so each function of the walk has
one predicate that says what it lists.
-/

namespace WarehouseAdmin

/-! ## Broken rules -/

/-- The value is this identifier, or a list with it. -/
def Value.Mentions (value : Value) (id : Identifier) : Prop :=
  value = .identifier id ∨ ∃ items, value = .list items ∧ .identifier id ∈ items

/-- **Broken rules.**  A nested rule is never broken itself. -/
inductive Clause.Breaks (clause : Clause) : Rule → Violation.Kind → Prop
  | required {field : String} (h : ¬ clause.HasSet field) :
      clause.Breaks (.required field) .required
  /-- There is no identifier in the field, and there must be one. -/
  | missingIdentifier {field : String} {entry : Entry} (first : clause.entry? field = some entry)
      (h : entry.value = .absent ∨ entry.value = .list []) :
      clause.Breaks (.validIdentifier field false) .invalidIdentifier
  /-- An identifier in the field ends with an empty part. -/
  | invalidIdentifier {field : String} {optional : Bool} {entry : Entry} {id : Identifier}
      (first : clause.entry? field = some entry) (mention : entry.value.Mentions id)
      (h : id.name = "") :
      clause.Breaks (.validIdentifier field optional) .invalidIdentifier
  | exactlyOneOf {fields : List String} (h : clause.countSet fields ≠ 1) :
      clause.Breaks (.exactlyOneOf fields) .exactlyOneOf
  | atLeastOneOf {fields : List String} (h : clause.countSet fields = 0) :
      clause.Breaks (.atLeastOneOf fields) .atLeastOneOf
  | conflicting {fields : List String} (h : 1 < clause.countSet fields) :
      clause.Breaks (.conflicting fields) .conflicting

/-! ### What the checks of one rule compute -/

variable {clause : Clause} {object field path : String} {fields : List String} {value : Value}
  {items : List Value} {vs : List Violation}

theorem Entry.lookup_eq_ok_iff :
    Entry.lookup object clause.entries field = .ok value ↔
      ∃ entry, clause.entry? field = some entry ∧ entry.value = value := by
  rw [Entry.lookup, Clause.entry?]
  cases clause.entries.find? (·.field == field) <;> simp

theorem Entry.isPresent_of_lookup (h : Entry.lookup object clause.entries field = .ok value) :
    value.isPresent = true ↔ clause.HasSet field := by
  obtain ⟨entry, first, rfl⟩ := Entry.lookup_eq_ok_iff.mp h
  exact (Clause.hasSet_iff_isPresent first).symm

theorem Entry.countP_of_mapM_lookup {values : List Value}
    (h : fields.mapM (Entry.lookup object clause.entries) = .ok values) :
    values.countP Value.isPresent = clause.countSet fields := by
  induction fields generalizing values with
  | nil =>
      obtain rfl : [] = values := Except.ok.inj h
      rfl
  | cons field fields ih =>
      rw [List.mapM_cons] at h
      obtain ⟨value, first, tail⟩ := Except.bind_eq_ok_iff.mp h
      obtain ⟨rest, others, hrest⟩ := Except.bind_eq_ok_iff.mp tail
      obtain rfl := Except.ok.inj hrest
      have present : value.isPresent = decide (clause.HasSet field) := by
        rw [Bool.eq_iff_iff, Entry.isPresent_of_lookup first, decide_eq_true_eq]
      have count := ih others
      rw [Clause.countSet] at count ⊢
      rw [List.countP_cons, List.countP_cons, present, count]

theorem Entry.countPresent_eq_ok {n : Nat}
    (h : Entry.countPresent object clause.entries fields = .ok n) : n = clause.countSet fields := by
  obtain ⟨values, lookups, rfl⟩ := Except.map_eq_ok_iff.mp h
  exact Entry.countP_of_mapM_lookup lookups

theorem Identifier.isValid_eq_false_iff {id : Identifier} : id.isValid = false ↔ id.name = "" := by
  simp [Identifier.isValid]

theorem Value.allValid_eq_ok {valid : Bool} (h : Value.allValid object field items = .ok valid) :
    valid = false ↔ ∃ id, Value.identifier id ∈ items ∧ id.name = "" := by
  induction items generalizing valid with
  | nil =>
      obtain rfl := Except.ok.inj h
      simp
  | cons item items ih =>
      cases item with
      | identifier id =>
          obtain ⟨rest, tail, rfl⟩ := Except.map_eq_ok_iff.mp h
          rw [Bool.and_eq_false_iff, Identifier.isValid_eq_false_iff, ih tail]
          constructor
          · rintro (empty | ⟨id', mem, empty⟩)
            · exact ⟨id, List.mem_cons_self, empty⟩
            · exact ⟨id', List.mem_cons_of_mem _ mem, empty⟩
          · rintro ⟨id', mem, empty⟩
            rcases List.mem_cons.mp mem with same | mem
            · obtain rfl := Value.identifier.inj same
              exact Or.inl empty
            · exact Or.inr ⟨id', mem, empty⟩
      | absent | flag | text | number | nested | embedded | list => simp [Value.allValid] at h

theorem Value.identifiersFit_eq_ok {optional fit : Bool}
    (h : value.identifiersFit object field optional = .ok fit) :
    fit = false ↔
      optional = false ∧ (value = .absent ∨ value = .list []) ∨
        ∃ id, value.Mentions id ∧ id.name = "" := by
  cases value with
  | absent =>
      obtain rfl := Except.ok.inj h
      simp [Value.Mentions]
  | identifier id =>
      obtain rfl := Except.ok.inj h
      simp [Identifier.isValid_eq_false_iff, Value.Mentions]
  | list items =>
      cases items with
      | nil =>
          obtain rfl := Except.ok.inj h
          simp [Value.Mentions]
      | cons item items =>
          rw [Value.identifiersFit] at h
          · rw [Value.allValid_eq_ok h]
            simp [Value.Mentions]
          · simp
  | flag | text | number | nested | embedded => simp [Value.identifiersFit] at h

/-- **The check of one rule** says whether the rule is broken. -/
theorem Rule.isBroken_eq_ok {rule : Rule} {isBroken : Bool} {kind : Violation.Kind}
    (h : rule.isBroken object clause.entries = .ok isBroken) :
    clause.Breaks rule kind ↔ isBroken = true ∧ rule.breach? = some kind := by
  cases rule with
  | required field =>
      obtain ⟨value, first, rfl⟩ := Except.map_eq_ok_iff.mp h
      rw [Bool.not_eq_true', ← Bool.not_eq_true, Entry.isPresent_of_lookup first]
      constructor
      · rintro ⟨⟩
        exact ⟨by assumption, rfl⟩
      · rintro ⟨unset, kind⟩
        obtain rfl := Option.some.inj kind
        exact .required unset
  | validIdentifier field optional =>
      obtain ⟨value, look, tail⟩ := Except.bind_eq_ok_iff.mp h
      obtain ⟨fit, fits, rfl⟩ := Except.map_eq_ok_iff.mp tail
      obtain ⟨entry, first, rfl⟩ := Entry.lookup_eq_ok_iff.mp look
      rw [Bool.not_eq_true', Value.identifiersFit_eq_ok fits]
      constructor
      · intro broken
        cases broken with
        | missingIdentifier first' missing =>
            obtain rfl := Option.some.inj (first.symm.trans first')
            exact ⟨Or.inl ⟨rfl, missing⟩, rfl⟩
        | invalidIdentifier first' mention empty =>
            obtain rfl := Option.some.inj (first.symm.trans first')
            exact ⟨Or.inr ⟨_, mention, empty⟩, rfl⟩
      · rintro ⟨⟨rfl, missing⟩ | ⟨id, mention, empty⟩, kind⟩
        · obtain rfl := Option.some.inj kind
          exact .missingIdentifier first missing
        · obtain rfl := Option.some.inj kind
          exact .invalidIdentifier first mention empty
  | exactlyOneOf fields | atLeastOneOf fields | conflicting fields =>
      obtain ⟨n, count, rfl⟩ := Except.map_eq_ok_iff.mp h
      obtain rfl := Entry.countPresent_eq_ok count
      constructor
      · rintro ⟨⟩
        exact ⟨by simpa, rfl⟩
      · rintro ⟨wrong, kind⟩
        obtain rfl := Option.some.inj kind
        constructor
        simpa using wrong
  | nested field rules =>
      constructor
      · rintro ⟨⟩
      · rintro ⟨-, kind⟩
        simp [Rule.breach?] at kind

/-! ## Breaches -/

/-- A violation that follows from a duty, and its place: that of the duty whose rule is broken, and
then the position of the rule. -/
def Duty.Breach (d : Duty) (place : List Nat) (v : Violation) : Prop :=
  ∃ front e i rule kind, d.Reaches front e ∧ e.rules[i]? = some rule ∧ e.clause.Breaks rule kind ∧
    place = front ++ [i] ∧ v = ⟨kind, e.path, rule.fields⟩

/-- A breach of one of the two duties that are handed on to a clause. -/
def Clause.InnerBreach (clause : Clause) (path : String) (rules : List Rule) (place : List Nat)
    (v : Violation) : Prop :=
  Below [rules, clause.rules] (fun _ rules => Duty.Breach ⟨clause, path, rules⟩) 0 place v

/-- A breach in the clause that a value is. -/
def Value.HeldBreach (value : Value) (path : String) (rules : List Rule) (place : List Nat)
    (v : Violation) : Prop :=
  ∃ clause, value.Holds clause ∧ clause.InnerBreach path rules place v

/-- A breach in one of the clauses of a value. -/
def Value.InnerBreach (value : Value) (path : String) (rules : List Rule) (place : List Nat)
    (v : Violation) : Prop :=
  ∃ j clause path' rest, value.Inner path j clause path' ∧ place = j :: rest ∧
    clause.InnerBreach path' rules rest v

/-- A breach at one rule of a duty, or below it. -/
def Rule.Breach (d : Duty) (rule : Rule) (place : List Nat) (v : Violation) : Prop :=
  (place = [] ∧ ∃ kind, d.clause.Breaks rule kind ∧ v = ⟨kind, d.path, rule.fields⟩) ∨
    ∃ field rules entry, rule = .nested field rules ∧ d.clause.entry? field = some entry ∧
      ¬ entry.value.Unset ∧ entry.value.InnerBreach (fieldPath d.path field) rules place v

theorem Duty.breach_iff_found {d : Duty} {place : List Nat} {v : Violation} :
    d.Breach place v ↔ d.Found (fun e rule rest v =>
      rest = [] ∧ ∃ kind, e.clause.Breaks rule kind ∧ v = ⟨kind, e.path, rule.fields⟩) place v := by
  constructor
  · rintro ⟨front, e, i, rule, kind, reach, get, breaks, rfl, rfl⟩
    exact ⟨front, e, i, rule, [], reach, get, ⟨rfl, kind, breaks, rfl⟩, rfl⟩
  · rintro ⟨front, e, i, rule, rest, reach, get, ⟨rfl, kind, breaks, rfl⟩, rfl⟩
    exact ⟨front, e, i, rule, kind, reach, get, breaks, rfl, rfl⟩

/-- **Breaches are found at the rules of a duty.** -/
theorem Duty.breach_iff {d : Duty} {place : List Nat} {v : Violation} :
    d.Breach place v ↔ Below d.rules (fun _ rule => rule.Breach d) 0 place v := by
  rw [Duty.breach_iff_found, Duty.found_iff]
  simp only [Below, Rule.Found, Value.Found, Rule.Breach, Value.InnerBreach, Clause.InnerBreach,
    Duty.breach_iff_found]

theorem Value.heldBreach_iff_of_holds {rules : List Rule} {place : List Nat} {v : Violation}
    (holds : value.Holds clause) :
    value.HeldBreach path rules place v ↔ clause.InnerBreach path rules place v := by
  constructor
  · rintro ⟨clause', holds', h⟩
    rwa [holds.unique holds']
  · intro h
    exact ⟨clause, holds, h⟩

theorem Value.innerBreach_iff_of_holds {rules : List Rule} {place : List Nat} {v : Violation}
    (holds : value.Holds clause) :
    value.InnerBreach path rules place v ↔
      ∃ rest, place = 0 :: rest ∧ clause.InnerBreach path rules rest v := by
  constructor
  · rintro ⟨j, clause', path', rest, inner, rfl, h⟩
    cases inner with
    | here holds' =>
        rw [holds'.unique holds] at h
        exact ⟨rest, rfl, h⟩
    | item => exact absurd holds Value.not_holds_list
  · rintro ⟨rest, rfl, h⟩
    exact ⟨0, clause, path, rest, .here holds, rfl, h⟩

theorem Value.innerBreach_list_iff {rules : List Rule} {place : List Nat} {v : Violation} :
    (Value.list items).InnerBreach path rules place v ↔
      Below items (fun j item => item.HeldBreach (itemPath path j) rules) 0 place v := by
  constructor
  · rintro ⟨j, clause, path', rest, inner, rfl, h⟩
    cases inner with
    | here holds => exact absurd holds Value.not_holds_list
    | @item _ _ item _ at_j holds =>
        refine ⟨j, item, rest, at_j, by simp, clause, holds, ?_⟩
        rwa [Nat.zero_add]
  · rintro ⟨j, item, rest, at_j, rfl, clause, holds, h⟩
    rw [Nat.zero_add] at h ⊢
    exact ⟨j, clause, _, rest, .item at_j holds, rfl, h⟩

theorem Rule.breach_nested_iff {d : Duty} {entry : Entry} {rules : List Rule} {place : List Nat}
    {v : Violation} (first : d.clause.entry? field = some entry) :
    (Rule.nested field rules).Breach d place v ↔
      ¬ entry.value.Unset ∧ entry.value.InnerBreach (fieldPath d.path field) rules place v := by
  constructor
  · rintro (⟨-, kind, ⟨⟩, -⟩ | ⟨field', rules', entry', same, first', set, h⟩)
    obtain ⟨rfl, rfl⟩ := Rule.nested.inj same
    obtain rfl := Option.some.inj (first.symm.trans first')
    exact ⟨set, h⟩
  · rintro ⟨set, h⟩
    exact Or.inr ⟨field, rules, entry, rfl, first, set, h⟩

/-! ## The walk -/

/-- A rule that is not nested is checked on the clause itself. -/
theorem Rule.findings_lists {d : Duty} {rule : Rule}
    (leaf : ∀ field rules, rule ≠ .nested field rules)
    (h : rule.findings object d.clause.entries d.path = .ok vs) :
      ListsInOrder (rule.Breach d) vs := by
  obtain ⟨isBroken, check, rfl⟩ := Except.map_eq_ok_iff.mp h
  have breach (place : List Nat) (v : Violation) : rule.Breach d place v ↔
      place = [] ∧ ∃ kind, (isBroken = true ∧ rule.breach? = some kind) ∧
        v = ⟨kind, d.path, rule.fields⟩ := by
    simp only [← Rule.isBroken_eq_ok check]
    constructor
    · rintro (here | ⟨field, rules, entry, rfl, -⟩)
      · exact here
      · exact absurd rfl (leaf field rules)
    · exact Or.inl
  cases isBroken with
  | false =>
      refine .nil fun place v h => ?_
      obtain ⟨-, kind, ⟨broken, -⟩, -⟩ := (breach place v).mp h
      simp at broken
  | true =>
      cases breached : rule.breach? with
      | none =>
          refine .nil fun place v h => ?_
          obtain ⟨-, kind', ⟨-, some⟩, -⟩ := (breach place v).mp h
          simp [breached] at some
      | some kind =>
          refine (ListsInOrder.single (Violation.mk kind d.path rule.fields)).congr
            fun place v => ?_
          rw [breach]
          simp_all

/-- The given rules are checked on an inner clause, and then its own. -/
theorem Clause.innerBreach_lists {rules : List Rule}
    (walk : ∀ {rules : List Rule} {us : List Violation}, clause.findings path rules = .ok us →
      ListsInOrder (Duty.Breach ⟨clause, path, rules⟩) us)
    (h : ((clause.findings path rules).bind fun given =>
      (clause.findings path clause.rules).map (given ++ ·)) = .ok vs) :
    ListsInOrder (clause.InnerBreach path rules) vs := by
  obtain ⟨given, first, tail⟩ := Except.bind_eq_ok_iff.mp h
  obtain ⟨own, second, rfl⟩ := Except.map_eq_ok_iff.mp tail
  have both := ListsInOrder.below_cons (n := 0)
    (P := fun _ rules => Duty.Breach ⟨clause, path, rules⟩) (walk first)
    (ListsInOrder.below_cons (walk second) ListsInOrder.below_nil)
  rwa [List.append_nil] at both

/-- Every rule of a list is checked in its turn. -/
theorem ListsInOrder.flatMapM {α β ε : Type} {P : β → List Nat → α → Prop} {xs : List β}
    {f : β → Except ε (List α)} {n : Nat} {vs : List α} (h : xs.flatMapM f = .ok vs)
    (each : ∀ x us, f x = .ok us → ListsInOrder (P x) us) :
    ListsInOrder (Below xs (fun _ => P) n) vs := by
  induction xs generalizing n vs with
  | nil =>
      obtain rfl : [] = vs := Except.ok.inj h
      exact .below_nil
  | cons x xs ih =>
      rw [List.flatMapM_cons] at h
      obtain ⟨us, first, tail⟩ := Except.bind_eq_ok_iff.mp h
      obtain ⟨ws, others, hvs⟩ := Except.bind_eq_ok_iff.mp tail
      obtain rfl := Except.ok.inj hvs
      exact .below_cons (each x us first) (ih others)

mutual

theorem Clause.findings_lists : ∀ (clause : Clause) {path : String} {rules : List Rule}
    {vs : List Violation}, clause.findings path rules = .ok vs →
    ListsInOrder (Duty.Breach ⟨clause, path, rules⟩) vs
  | ⟨object, entries, own⟩, path, rules, vs, h => by
    let d : Duty := ⟨⟨object, entries, own⟩, path, rules⟩
    have lists : ListsInOrder (Below rules (fun _ rule => rule.Breach d) 0) vs := by
      -- Only a nested rule leads down the tree; any other rule is checked here.
      refine ListsInOrder.flatMapM h fun rule us found => ?_
      cases rule with
      | nested field inner =>
          obtain ⟨entry, first, lists⟩ := Entry.innerFindings_lists entries found
          exact lists.congr fun place v => Rule.breach_nested_iff (d := d) first
      | required | validIdentifier | exactlyOneOf | atLeastOneOf | conflicting =>
          exact Rule.findings_lists (d := d) (by simp) found
    exact lists.congr fun place v => Duty.breach_iff
termination_by structural clause => clause

theorem Entry.innerFindings_lists : ∀ (entries : List Entry) {object path field : String}
    {rules : List Rule} {vs : List Violation},
    Entry.innerFindings object path field rules entries = .ok vs →
    ∃ entry, entries.find? (·.field == field) = some entry ∧
      ListsInOrder
        (fun place v => ¬ entry.value.Unset ∧ entry.value.InnerBreach path rules place v) vs
  | [], _, _, _, _, _, h => by simp [Entry.innerFindings] at h
  | ⟨name, directive, value⟩ :: entries, _, _, field, _, _, h => by
    rw [Entry.innerFindings] at h
    by_cases same : name = field
    · rw [if_pos same] at h
      refine ⟨⟨name, directive, value⟩, by simp [same], ?_⟩
      by_cases present : value.isPresent = true
      · rw [if_pos present] at h
        have set := Value.isPresent_iff.mp present
        exact (Value.findings_lists value h).congr fun _ _ => and_iff_right set
      · rw [if_neg present] at h
        obtain rfl := Except.ok.inj h
        exact .nil fun _ _ found => present (Value.isPresent_iff.mpr found.1)
    · rw [if_neg same] at h
      obtain ⟨entry, first, lists⟩ := Entry.innerFindings_lists entries h
      exact ⟨entry, by simpa [same] using first, lists⟩
termination_by structural entries => entries

theorem Value.findings_lists : ∀ (value : Value) {object path field : String} {rules : List Rule}
    {vs : List Violation}, value.findings object path field rules = .ok vs →
    ListsInOrder (value.InnerBreach path rules) vs
  | .nested clause, _, _, _, _, _, h | .embedded clause, _, _, _, _, _, h => by
    have lists := Clause.innerBreach_lists (Clause.findings_lists clause) h
    exact (lists.under 0).congr fun _ _ => Value.innerBreach_iff_of_holds (by simp [Value.Holds])
  | .list items, _, _, _, _, _, h =>
    (Value.itemFindings_lists items h).congr fun _ _ => Value.innerBreach_list_iff
  | .absent, _, _, _, _, _, h | .flag _, _, _, _, _, _, h | .text _, _, _, _, _, _, h
  | .number _, _, _, _, _, _, h | .identifier _, _, _, _, _, _, h => by simp [Value.findings] at h
termination_by structural value => value

theorem Value.itemFindings_lists : ∀ (items : List Value) {object path field : String}
    {rules : List Rule} {position : Nat} {vs : List Violation},
    Value.itemFindings object path field rules position items = .ok vs →
    ListsInOrder (Below items (fun j item => item.HeldBreach (itemPath path j) rules) position) vs
  | [], _, _, _, _, _, _, h => by
    obtain rfl := Except.ok.inj h
    exact .below_nil
  | item :: items, _, _, _, _, _, _, h => by
    obtain ⟨us, first, tail⟩ := Except.bind_eq_ok_iff.mp h
    obtain ⟨ws, others, rfl⟩ := Except.map_eq_ok_iff.mp tail
    exact .below_cons (Value.clauseFindings_lists item first)
      (Value.itemFindings_lists items others)
termination_by structural items => items

theorem Value.clauseFindings_lists : ∀ (item : Value) {object path field : String}
    {rules : List Rule} {vs : List Violation},
    item.clauseFindings object path field rules = .ok vs →
      ListsInOrder (item.HeldBreach path rules) vs
  | .nested clause, _, _, _, _, _, h | .embedded clause, _, _, _, _, _, h => by
    have lists := Clause.innerBreach_lists (Clause.findings_lists clause) h
    exact lists.congr fun _ _ => Value.heldBreach_iff_of_holds (by simp [Value.Holds])
  | .list _, _, _, _, _, _, h | .absent, _, _, _, _, _, h | .flag _, _, _, _, _, _, h
  | .text _, _, _, _, _, _, h | .number _, _, _, _, _, _, h | .identifier _, _, _, _, _, _, h => by
    simp [Value.clauseFindings] at h
termination_by structural item => item

end

/-- **The check is sound, complete and ordered.**  If the walk reaches its end, its violations are
the breaches of what the statement has to be checked for.  There is one for every broken rule at
every place, they stand in the order of the places, and a place belongs to one duty. -/
theorem Clause.violations_lists_breaches {clause : Clause} {vs : List Violation}
    (h : clause.violations = .ok vs) :
    (∃ found : List (List Nat × Violation),
      found.map Prod.snd = vs ∧ found.Pairwise (·.1 < ·.1) ∧
        ∀ place v, (place, v) ∈ found ↔ clause.duty.Breach place v) ∧
    ∀ place d d', clause.duty.Reaches place d → clause.duty.Reaches place d' → d = d' :=
  ⟨clause.findings_lists h, fun _ _ _ reach reach' => reach.unique reach'⟩

/-- Two tags without values, one of them without a name either. -/
theorem Clause.violations_lists_breaches_tags :
    let tag (name : String) : Clause :=
      ⟨"Tag", [⟨"name", .identifier, .identifier (.account ⟨name⟩)⟩,
        ⟨"value", .parameter "VALUE", .absent⟩], [.required "value"]⟩
    let clause : Clause :=
      ⟨"Table", [⟨"tags", .list, .list [.nested (tag "A"), .nested (tag "")]⟩],
        [.nested "tags" [.identifier "name"]]⟩
    let vs : List Violation :=
      [⟨.required, "Table.tags[0]", ["value"]⟩, ⟨.invalidIdentifier, "Table.tags[1]", ["name"]⟩,
        ⟨.required, "Table.tags[1]", ["value"]⟩]
    clause.violations = .ok vs ∧
      (∃ found : List (List Nat × Violation),
        found.map Prod.snd = vs ∧ found.Pairwise (·.1 < ·.1) ∧
          ∀ place v, (place, v) ∈ found ↔ clause.duty.Breach place v) ∧
      ∀ place d d', clause.duty.Reaches place d → clause.duty.Reaches place d' → d = d' := by
  intro tag clause vs
  have checked : clause.violations = .ok vs := by rfl
  exact ⟨checked, Clause.violations_lists_breaches checked⟩

end WarehouseAdmin
