import WarehouseAdmin.Proofs.Check.Verdict
import WarehouseAdmin.Proofs.Outcome
import WarehouseAdmin.Proofs.Sql.Joining
import WarehouseAdmin.Sql.Statement
import Mathlib.Data.List.Perm.Subperm

/-!
# Fields that exclude each other are not written together

The check counts the fields that are set, and the writer decides for itself which fields leave a
token.  The two agree in one direction: a field that is not set leaves no token
(`Entry.token_of_unset`).  The induction follows `Value.Unset`: an embedded clause is unset when
everything in it is, so all its tokens are empty, and then the clause itself is taken for empty and
suppressed with its keyword or its parentheses.

Only a fixed text is written whatever its field holds.  So the agreement ends at an embedded clause
with a fixed text in it, and `Value.EmbedsNoFixed` excludes that.

## Main statements

* `Entry.token_of_unset` — a field that is not set leaves no token.
* `Clause.exclusive_fields_never_written_together` — at most one of several fields that exclude each
  other leaves a token in an accepted statement.
-/

namespace WarehouseAdmin

/-- The field is a fixed text. -/
def Entry.IsFixed (entry : Entry) : Prop :=
  ∃ text, entry.directive = .fixed text

/-- No field is a fixed text in the clause that a value embeds, nor in what is embedded there.  A
value that embeds nothing is not restricted. -/
inductive Value.EmbedsNoFixed : Value → Prop
  | embedded {clause : Clause} (here : ∀ entry ∈ clause.entries, ¬ entry.IsFixed)
      (below : ∀ entry ∈ clause.entries, entry.value.EmbedsNoFixed) :
      Value.EmbedsNoFixed (.embedded clause)
  | other {value : Value} (h : ∀ clause, value ≠ .embedded clause) : Value.EmbedsNoFixed value

/-! ## Runs that write nothing -/

/-- A run fails or writes the empty text. -/
def WritesNothing (run : Except SqlError String) : Prop :=
  run = .ok "" ∨ ∃ e, run = .error e

theorem WritesNothing.map {run : Except SqlError String} (h : WritesNothing run)
    {f : String → String} (keeps : f "" = "") : WritesNothing (run.map f) := by
  rcases h with rfl | ⟨e, rfl⟩
  · exact Or.inl (congrArg Except.ok keeps)
  · exact Or.inr ⟨e, rfl⟩

/-- The fields of a clause are written one by one. -/
theorem Entry.tokens_eq_ok_iff {place : Nesting} {entries : List Entry} {tokens : List String} :
    Entry.tokens place entries = .ok tokens ↔
      List.Forall₂ (fun entry token => entry.token place = .ok token) entries tokens := by
  induction entries generalizing tokens with
  | nil => simp [Entry.tokens, eq_comm]
  | cons entry entries ih =>
      rw [Entry.tokens, Except.bind_eq_ok_iff, List.forall₂_cons_left_iff]
      simp only [Except.map_eq_ok_iff, ih]
      constructor
      · rintro ⟨token, first, rest, others, rfl⟩
        exact ⟨token, rest, first, others, rfl⟩
      · rintro ⟨token, rest, first, others, rfl⟩
        exact ⟨token, first, rest, others, rfl⟩

/-- A written clause is its tokens, joined. -/
theorem Clause.sqlAt_eq_ok_iff {place : Nesting} {clause : Clause} {sql : String} :
    clause.sqlAt place = .ok sql ↔ ∃ inside tokens, place.enter clause.object = .ok inside ∧
      List.Forall₂ (fun entry token => entry.token inside = .ok token) clause.entries tokens ∧
      joinTokens tokens = sql := by
  obtain ⟨object, entries, rules⟩ := clause
  simp only [Clause.sqlAt, Except.bind_eq_ok_iff, Except.map_eq_ok_iff, Entry.tokens_eq_ok_iff,
    exists_and_left]

/-- A clause writes nothing if none of its fields does. -/
theorem Clause.sqlAt_writesNothing {clause : Clause}
    (h : ∀ entry ∈ clause.entries, ∀ place, WritesNothing (entry.token place)) (place : Nesting) :
    WritesNothing (clause.sqlAt place) := by
  cases run : clause.sqlAt place with
  | error e => exact Or.inr ⟨e, rfl⟩
  | ok sql =>
      obtain ⟨inside, tokens, -, written, rfl⟩ := Clause.sqlAt_eq_ok_iff.mp run
      refine Or.inl (congrArg Except.ok (joinTokens_eq_empty fun token mem => ?_))
      obtain ⟨entry, there, wrote⟩ := exists_rel_of_mem written mem
      have silent := h entry there inside
      rw [wrote] at silent
      simpa [WritesNothing] using silent

/-! ## Fields that are not set -/

/-- **A field that is not set leaves no token.**  Writing it fails or gives the empty text, however
deep the embedded clauses nest. -/
theorem Entry.token_of_unset {entry : Entry} (unset : entry.value.Unset)
    (plain : entry.value.EmbedsNoFixed) (free : ¬ entry.IsFixed) (place : Nesting) :
    WritesNothing (entry.token place) := by
  obtain ⟨field, directive, value⟩ := entry
  dsimp only at unset plain
  induction unset generalizing field directive place with
  | absent =>
      cases directive with
      | fixed text => exact absurd ⟨text, rfl⟩ free
      | keyword | named | reference | sequence => exact Or.inl rfl
  | list =>
      cases directive with
      | fixed text => exact absurd ⟨text, rfl⟩ free
      | keyword | named | sequence => exact Or.inl rfl
      | reference => exact Or.inr ⟨_, rfl⟩
  | @embedded clause unset ih =>
      have inner : WritesNothing (clause.sqlAt place) := by
        cases plain with
        | embedded here below =>
            refine Clause.sqlAt_writesNothing (fun entry mem place => ?_) place
            obtain ⟨field, directive, value⟩ := entry
            exact ih _ mem place field directive (below _ mem) (here _ mem)
        | other h => exact absurd rfl (h clause)
      cases directive with
      | fixed text => exact absurd ⟨text, rfl⟩ free
      | keyword | named => exact inner.map (if_pos rfl)
      | reference | sequence => exact Or.inr ⟨_, rfl⟩

/-! ## Fields that exclude each other -/

namespace Clause

variable {clause : Clause} {field field' : String} {fields : List String} {place : Nesting}

/-- A field that is not fixed leaves a token in a clause that is written at a place inside it. -/
def LeavesToken (clause : Clause) (place : Nesting) (field : String) : Prop :=
  ∃ entry ∈ clause.entries, entry.field = field ∧ ¬ entry.IsFixed ∧
    ∃ token, entry.token place = .ok token ∧ token ≠ ""

/-- Where names are not repeated, every field is the first of its name. -/
theorem first_of_nodup (distinct : (clause.entries.map (·.field)).Nodup) {entry : Entry}
    (mem : entry ∈ clause.entries) : clause.entry? entry.field = some entry := by
  obtain ⟨object, entries, rules⟩ := clause
  unfold entry?
  dsimp only at distinct mem ⊢
  induction entries with
  | nil => simp at mem
  | cons first entries ih =>
      obtain ⟨new, distinct⟩ := List.nodup_cons.mp distinct
      rcases List.mem_cons.mp mem with rfl | mem
      · simp
      · have different : first.field ≠ entry.field := by
          intro same
          exact new (List.mem_map.mpr ⟨entry, mem, same.symm⟩)
        rw [List.find?_cons_of_neg (by simpa using different)]
        exact ih distinct mem

theorem hasSet_of_leavesToken (distinct : (clause.entries.map (·.field)).Nodup)
    (plain : ∀ entry ∈ clause.entries, entry.value.EmbedsNoFixed)
    (leaves : clause.LeavesToken place field) : clause.HasSet field := by
  obtain ⟨entry, mem, rfl, free, token, written, visible⟩ := leaves
  refine ⟨entry, first_of_nodup distinct mem, fun unset => ?_⟩
  have silent := Entry.token_of_unset unset (plain entry mem) free place
  rw [written] at silent
  simp [WritesNothing, visible] at silent

theorem eq_of_countSet_le_one (h : clause.countSet fields ≤ 1) (mem : field ∈ fields)
    (mem' : field' ∈ fields) (set : clause.HasSet field) (set' : clause.HasSet field') :
    field = field' := by
  by_contra different
  have both : [field, field'] ⊆ fields.filter (clause.HasSet ·) := by simp [mem, mem', set, set']
  have two : [field, field'].Nodup := by simp [different]
  have many : 2 ≤ clause.countSet fields := by
    rw [countSet, List.countP_eq_length_filter]
    exact (two.subperm both).length_le
  omega

theorem countSet_le_one_of_accepted (accepted : clause.validate = .ok ())
    (rule : .conflicting fields ∈ clause.rules ∨ .exactlyOneOf fields ∈ clause.rules) :
    clause.countSet fields ≤ 1 := by
  by_contra many
  rcases rule with rule | rule
  · refine not_breaks_of_accepted accepted .start rule (.conflicting ?_)
    exact Nat.lt_of_not_le many
  · refine not_breaks_of_accepted accepted .start rule (.exactlyOneOf ?_)
    exact Nat.ne_of_gt (Nat.lt_of_not_le many)

/-- **Fields that exclude each other are never written together.** -/
theorem exclusive_fields_never_written_together
    (distinct : (clause.entries.map (·.field)).Nodup)
    (plain : ∀ entry ∈ clause.entries, entry.value.EmbedsNoFixed) :
    (∀ limit sql, clause.validate = .ok () → clause.sql limit = .ok sql →
      ∃ inside tokens, (Nesting.outermost limit).enter clause.object = .ok inside ∧
        List.Forall₂ (fun entry token => entry.token inside = .ok token) clause.entries tokens ∧
        joinTokens tokens = sql ∧
        ∀ fields, .conflicting fields ∈ clause.rules ∨ .exactlyOneOf fields ∈ clause.rules →
          ∀ field ∈ fields, ∀ field' ∈ fields, clause.LeavesToken inside field →
            clause.LeavesToken inside field' → field = field') ∧
    ∀ entry ∈ clause.entries, entry.value.isPresent = false → ¬ entry.IsFixed →
      ∀ place, entry.token place = .ok "" ∨ ∃ e, entry.token place = .error e := by
  refine ⟨fun limit sql accepted written => ?_, fun entry mem absent free place => ?_⟩
  · obtain ⟨inside, tokens, entered, each, joined⟩ := sqlAt_eq_ok_iff.mp written
    refine ⟨inside, tokens, entered, each, joined, ?_⟩
    intro fields rule field mem field' mem' leaves leaves'
    exact eq_of_countSet_le_one (countSet_le_one_of_accepted accepted rule) mem mem'
      (hasSet_of_leavesToken distinct plain leaves) (hasSet_of_leavesToken distinct plain leaves')
  · exact Entry.token_of_unset (Value.isPresent_eq_false_iff entry.value |>.mp absent)
      (plain entry mem) free place

/-- Of two fields that exclude each other, one embeds a clause that embeds another; nothing in them
is set, and only the other field is written. -/
theorem exclusive_fields_never_written_together_unset :
    let more : Clause := ⟨"More", [⟨"keys", .list, .list []⟩], []⟩
    let set : Clause :=
      ⟨"Set", [⟨"comment", .parameter "COMMENT", .absent⟩,
        ⟨"more", .parameter "MORE", .embedded more⟩], []⟩
    let clause : Clause :=
      ⟨"Alter", [⟨"ALTER", .fixed "ALTER", .absent⟩, ⟨"set", .keyword "SET", .embedded set⟩,
        ⟨"unset", .keyword "UNSET", .list [.text "COMMENT"]⟩], [.exactlyOneOf ["set", "unset"]]⟩
    (clause.entries.map (·.field)).Nodup ∧ (∀ entry ∈ clause.entries, entry.value.EmbedsNoFixed) ∧
      clause.validate = .ok () ∧ clause.sql 3 = .ok "ALTER UNSET COMMENT" ∧
      (∃ inside tokens, (Nesting.outermost 3).enter clause.object = .ok inside ∧
        List.Forall₂ (fun entry token => entry.token inside = .ok token) clause.entries tokens ∧
        joinTokens tokens = "ALTER UNSET COMMENT" ∧
        ∀ fields, .conflicting fields ∈ clause.rules ∨ .exactlyOneOf fields ∈ clause.rules →
          ∀ field ∈ fields, ∀ field' ∈ fields, clause.LeavesToken inside field →
            clause.LeavesToken inside field' → field = field') ∧
      ∀ place, Entry.token place ⟨"set", .keyword "SET", .embedded set⟩ = .ok "" ∨
        ∃ e, Entry.token place ⟨"set", .keyword "SET", .embedded set⟩ = .error e := by
  intro more set clause
  have distinct : (clause.entries.map (·.field)).Nodup := by simp [clause]
  have embedsMore : (Value.embedded more).EmbedsNoFixed :=
    .embedded (by simp [more, Entry.IsFixed, Directive.list])
      (by simpa [more] using Value.EmbedsNoFixed.other (by simp))
  have embedsSet : (Value.embedded set).EmbedsNoFixed := by
    refine .embedded (by simp [set, Entry.IsFixed, Directive.parameter]) ?_
    simpa [set] using ⟨.other (by simp), embedsMore⟩
  have plain : ∀ entry ∈ clause.entries, entry.value.EmbedsNoFixed := by
    simpa [clause] using ⟨.other (by simp), embedsSet, .other (by simp)⟩
  have accepted : clause.validate = .ok () := by rfl
  have written : clause.sql 3 = .ok "ALTER UNSET COMMENT" := by rfl
  have exclusive := exclusive_fields_never_written_together distinct plain
  refine ⟨distinct, plain, accepted, written, exclusive.1 3 _ accepted written, ?_⟩
  exact exclusive.2 ⟨"set", .keyword "SET", .embedded set⟩ (by simp [clause]) (by rfl)
    (by simp [Entry.IsFixed])

end Clause

end WarehouseAdmin
