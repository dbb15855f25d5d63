import WarehouseAdmin.Proofs.Sql.Descent
import WarehouseAdmin.Proofs.Sql.Exclusion
import WarehouseAdmin.Proofs.Sql.Joining

/-!
# Splicing a clause into the one around it

A clause behind an empty keyword leaves no trace of its own: what is written for it are its fields.
So its fields can as well stand in the clause around it, in the same place.  The statement stays the
same, and only one level of nesting is saved.

The fields of a clause are joined before the token of the clause is joined with its neighbours, and
`joinTokens_splice` says that this makes no difference.  For the limit the argument needs texts that
do not depend on the place: `FieldTexts` assigns to each field the text that it leaves wherever
there is room for it, and a statement is the texts of its fields, joined, if it fits
(`FieldTexts.sql_eq_ok_iff`).  What is left to compare are the heights.

## Main statements

* `FieldTexts.sql_eq_ok_iff` — a statement is the texts of its fields, wherever they stand.
* `Clause.fitsWithin_outer_iff` — the room that the clause needs and the room that its fields need.
* `Clause.sql_splice` — the two statements are the same.
-/

namespace WarehouseAdmin

/-! ## Room -/

/-- The number of clauses that can still be entered. -/
def Nesting.room (place : Nesting) : Nat :=
  place.limit - place.depth

theorem Clause.not_fitsWithin_zero (clause : Clause) : ¬ clause.FitsWithin 0 :=
  fun fits => Nat.not_le_of_lt clause.height_pos fits.2

theorem Entry.visits_faultless_iff {entry : Entry} {place : Nesting} (bound : place.InBounds) :
    (∀ visit ∈ entry.visits place.path place.current, visit.fault? place.limit = none) ↔
      entry.FitsWithin place.room := by
  have within (c : Clause) :
      (∀ visit ∈ c.visits place.path, visit.fault? place.limit = none) ↔
        c.FitsWithin place.room := by
    rw [Clause.visits_faultless_iff c place.path (by rwa [Nesting.length_path]),
      Nesting.length_path, Clause.FitsWithin, Nesting.room]
    have : place.depth ≤ place.limit := bound
    refine and_congr_right fun _ => ?_
    omega
  rw [Entry.visits, List.forall_mem_cons, Visit.fault?_field_eq_none_iff, FitsWithin]
  simp only [List.mem_flatMap, ← within]
  refine and_congr_right fun _ => ⟨fun all c mem visit visited => all visit ⟨c, mem, visited⟩, ?_⟩
  rintro all visit ⟨c, mem, visited⟩
  exact all c mem visit visited

/-! ## The texts of fields -/

/-- Texts of fields: each is what the field leaves at any place where there is room for it. -/
def FieldTexts (text : Entry → String) : Prop :=
  ∀ (entry : Entry) (place : Nesting), place.InBounds → ∀ token,
    entry.token place = .ok token ↔ entry.FitsWithin place.room ∧ text entry = token

theorem exists_fieldTexts : ∃ text, FieldTexts text := by
  choose text run using Entry.exists_token_eq
  refine ⟨text, fun entry place bound token => ?_⟩
  rw [run entry place bound, Visit.outcome_eq_ok_iff, List.findSome?_eq_none_iff,
    Entry.visits_faultless_iff bound]

namespace FieldTexts

variable {text : Entry → String} {clause : Clause} {place : Nesting} {sql : String}

theorem forall₂_token_iff (texts : FieldTexts text) (bound : place.InBounds) {entries : List Entry}
    {tokens : List String} :
    List.Forall₂ (fun entry token => entry.token place = .ok token) entries tokens ↔
      (∀ entry ∈ entries, entry.FitsWithin place.room) ∧ entries.map text = tokens := by
  simp only [texts _ place bound, List.forall₂_and_left]
  rw [← List.forall₂_map_left_iff (R := (· = ·)), List.forall₂_eq_eq_eq]

/-- A clause is the texts of its fields, joined, wherever there is room for it. -/
theorem sqlAt_eq_ok_iff (texts : FieldTexts text) (bound : place.InBounds) :
    clause.sqlAt place = .ok sql ↔
      clause.FitsWithin place.room ∧ joinTokens (clause.entries.map text) = sql := by
  rw [Clause.sqlAt_eq_ok_iff]
  rcases Nat.eq_or_lt_of_le bound with full | free
  · have none : ¬ clause.FitsWithin place.room := by
      rw [Nesting.room, full, Nat.sub_self]
      exact clause.not_fitsWithin_zero
    rw [Nesting.enter_of_depth_eq full]
    simp [none]
  · obtain ⟨inside, entered, limit, bound', path, -⟩ := Nesting.exists_enter_eq clause.object free
    have room : place.room = inside.room + 1 := by
      rw [Nesting.room, Nesting.room, limit, Nesting.depth_of_path_eq path]
      omega
    rw [room, Clause.fitsWithin_succ_iff, entered]
    constructor
    · rintro ⟨inside', tokens, same, written, joined⟩
      obtain rfl := Except.ok.inj same
      obtain ⟨fit, rfl⟩ := (texts.forall₂_token_iff bound').mp written
      exact ⟨fit, joined⟩
    · rintro ⟨fit, joined⟩
      exact ⟨inside, _, rfl, (texts.forall₂_token_iff bound').mpr ⟨fit, rfl⟩, joined⟩

theorem sql_eq_ok_iff (texts : FieldTexts text) {limit : Nat} :
    clause.sql limit = .ok sql ↔
      clause.FitsWithin limit ∧ joinTokens (clause.entries.map text) = sql :=
  texts.sqlAt_eq_ok_iff (Nat.zero_le limit : (Nesting.outermost limit).InBounds)

end FieldTexts

/-! ## A clause behind an empty keyword -/

variable {field : String} {value : Value} {c : Clause}

/-- A clause behind an empty keyword is written as the clause alone, whether it is nested or
embedded. -/
theorem Entry.token_unnamed (holds : value = .nested c ∨ value = .embedded c) (place : Nesting) :
    Entry.token place ⟨field, .keyword "", value⟩ = c.sqlAt place := by
  rcases holds with rfl | rfl
  · show ((Value.nested c).sqlAt place .bare false).map (fun inner => joinTokens ["", inner]) = _
    rw [Value.sqlAt]
    cases c.sqlAt place with
    | error e => rfl
    | ok inner =>
      exact congrArg Except.ok ((joinTokens_empty_cons _).trans (joinTokens_singleton inner))
  · show (c.sqlAt place).map (fun inner => if inner = "" then "" else joinTokens ["", inner]) = _
    cases c.sqlAt place with
    | error e => rfl
    | ok inner =>
        show Except.ok (if inner = "" then "" else joinTokens ["", inner]) = _
        rw [joinTokens_empty_cons, joinTokens_singleton]
        split
        next silent => rw [silent]
        next => rfl

theorem Entry.fitsWithin_unnamed_iff (holds : value = .nested c ∨ value = .embedded c) {d : Nat} :
    Entry.FitsWithin d ⟨field, .keyword "", value⟩ ↔ c.FitsWithin d := by
  rcases holds with rfl | rfl <;>
    simp [Entry.FitsWithin, Entry.isMisfit, Entry.clauses, Value.clauses]

/-- What such a clause leaves is what its fields leave, joined. -/
theorem FieldTexts.text_unnamed {text : Entry → String} (texts : FieldTexts text)
    (holds : value = .nested c ∨ value = .embedded c) {d : Nat} (fits : c.FitsWithin d) :
    text ⟨field, .keyword "", value⟩ = joinTokens (c.entries.map text) := by
  have inner : c.sqlAt (.outermost d) = .ok (joinTokens (c.entries.map text)) :=
    texts.sql_eq_ok_iff.mpr ⟨fits, rfl⟩
  have written : Entry.token (.outermost d) ⟨field, .keyword "", value⟩ = _ :=
    (Entry.token_unnamed holds _).trans inner
  exact ((texts _ (.outermost d) (Nat.zero_le d) _).mp written).2

namespace Clause

/-- A clause fits if there is a level for it, and its fields would fit one level further out. -/
theorem fitsWithin_iff_entries {d : Nat} :
    c.FitsWithin d ↔ (∀ entry ∈ c.entries, entry.FitsWithin d) ∧ c.height ≤ d := by
  rw [← fitsWithin_succ_iff, FitsWithin, FitsWithin, and_assoc]
  refine and_congr_right fun _ => ?_
  omega

variable {before behind : List Entry} {object object' : String} {rules rules' : List Rule}

/-- The clause needs a level for itself, and all fields need what they need in the clause around it.
-/
theorem fitsWithin_outer_iff (holds : value = .nested c ∨ value = .embedded c) {limit : Nat} :
    FitsWithin limit ⟨object, before ++ [⟨field, .keyword "", value⟩] ++ behind, rules⟩ ↔
      FitsWithin limit ⟨object', before ++ c.entries ++ behind, rules'⟩ ∧ c.height < limit := by
  cases limit with
  | zero => exact iff_of_false (not_fitsWithin_zero _) fun both => not_fitsWithin_zero _ both.1
  | succ d =>
      rw [fitsWithin_succ_iff, fitsWithin_succ_iff, Nat.lt_succ_iff]
      simp only [List.forall_mem_append, List.forall_mem_singleton]
      rw [Entry.fitsWithin_unnamed_iff holds, fitsWithin_iff_entries]
      tauto

/-- Where all fields fit, the clause fits whose fields are among them. -/
theorem FitsWithin.of_entries {limit : Nat}
    (fits : FitsWithin limit ⟨object, before ++ c.entries ++ behind, rules⟩) :
      c.FitsWithin limit := by
  cases limit with
  | zero => exact absurd fits (not_fitsWithin_zero _)
  | succ d =>
      refine fitsWithin_succ_iff.mpr fun entry mem => ?_
      exact fitsWithin_succ_iff.mp fits entry (by simp [mem])

/-- **A clause behind an empty keyword can be replaced by its fields.**

1. What is written for the clause with the inner clause is written, under the same limit, for the
   clause that has the fields of the inner one in its place.
2. What is written for the latter is written for the former under a limit that allows one level
   more.
3. Without that level, the statements are the same exactly when the inner clause is not as high as
   the limit. -/
theorem sql_splice (holds : value = .nested c ∨ value = .embedded c) (limit : Nat) (sql : String) :
    let outer : Clause := ⟨object, before ++ [⟨field, .keyword "", value⟩] ++ behind, rules⟩
    let flat : Clause := ⟨object', before ++ c.entries ++ behind, rules'⟩
    (outer.sql limit = .ok sql → flat.sql limit = .ok sql) ∧
      (flat.sql limit = .ok sql → outer.sql (limit + 1) = .ok sql) ∧
      (outer.sql limit = .ok sql ↔ flat.sql limit = .ok sql ∧ c.height < limit) := by
  intro outer flat
  obtain ⟨text, texts⟩ := exists_fieldTexts
  have joined {limit : Nat} (fits : flat.FitsWithin limit) :
      joinTokens (outer.entries.map text) = joinTokens (flat.entries.map text) := by
    show joinTokens ((before ++ [_] ++ behind).map text) =
      joinTokens ((before ++ c.entries ++ behind).map text)
    rw [List.map_append, List.map_append, List.map_singleton,
      texts.text_unnamed holds fits.of_entries, joinTokens_splice, List.map_append, List.map_append]
  have exactly (limit : Nat) :
      outer.sql limit = .ok sql ↔ flat.sql limit = .ok sql ∧ c.height < limit := by
    rw [texts.sql_eq_ok_iff, texts.sql_eq_ok_iff, fitsWithin_outer_iff holds]
    constructor
    · rintro ⟨⟨fits, low⟩, written⟩
      exact ⟨⟨fits, (joined fits).symm.trans written⟩, low⟩
    · rintro ⟨⟨fits, written⟩, low⟩
      exact ⟨⟨fits, low⟩, (joined fits).trans written⟩
  refine ⟨fun written => ((exactly limit).mp written).1, fun written => ?_, exactly limit⟩
  obtain ⟨fits, text⟩ := texts.sql_eq_ok_iff.mp written
  have wider := texts.sql_eq_ok_iff.mpr ⟨fits.mono (Nat.le_succ limit), text⟩
  exact (exactly (limit + 1)).mpr ⟨wider, Nat.lt_succ_of_le fits.of_entries.2⟩

/-- An embedded clause in which nothing is set but an empty clause, with fields on both sides.  It
needs three levels, and without the embedded clause it needs two. -/
theorem sql_splice_embedded :
    let c : Clause := ⟨"With", [⟨"force", .keyword "FORCE", .flag false⟩,
      ⟨"more", .keyword "MORE", .nested ⟨"More", [], []⟩⟩], []⟩
    let alter : Entry := ⟨"ALTER", .fixed "ALTER", .absent⟩
    let wait : Entry := ⟨"wait", .parameter "WAIT", .number 5⟩
    let outer : Clause := ⟨"Alter", [alter] ++ [⟨"with", .keyword "", .embedded c⟩] ++ [wait], []⟩
    let flat : Clause := ⟨"Flat", [alter] ++ c.entries ++ [wait], []⟩
    (Value.embedded c = .nested c ∨ Value.embedded c = .embedded c) ∧
      flat.sql 2 = .ok "ALTER MORE WAIT = 5" ∧ outer.sql 3 = .ok "ALTER MORE WAIT = 5" ∧
      outer.sql 2 = .error (.tooDeep ["Alter", "With"] 3 2) := by
  intro c alter wait outer flat
  have holds : Value.embedded c = .nested c ∨ Value.embedded c = .embedded c := .inr rfl
  have written : flat.sql 2 = .ok "ALTER MORE WAIT = 5" := by rfl
  have spliced : flat.sql 2 = .ok "ALTER MORE WAIT = 5" → outer.sql 3 = .ok "ALTER MORE WAIT = 5" :=
    (sql_splice holds 2 _).2.1
  exact ⟨holds, written, spliced written, by rfl⟩

end Clause

end WarehouseAdmin
