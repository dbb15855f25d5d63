import WarehouseAdmin.Proofs.Outcome
import WarehouseAdmin.Proofs.Sql.Joining
import WarehouseAdmin.Proofs.Sql.Lexeme
import WarehouseAdmin.Sql.Statement
import Mathlib.Data.List.Forall2

/-!
# Contents do not change the structure of a statement

Two trees are `Alike` when they differ in contents only: in texts that are written between quotes,
and in the parts of identifiers.  What the two trees hold there is related by a relation `R`, which
is a parameter.  Everything else that is written is the same raw text in both, and it holds no
quotes.

The statements of two such trees have the same lexemes up to `R` (`Clause.sql_noninterference`).
With the relation that always holds this says that no content can add, drop or change a lexeme other
than the one it is in.  Since `R` is arbitrary it says more: where two statements differ, they show
nothing but related contents.

The invariant is `SameShape`, on the text of a clause, of a field or of a value.  It has two halves.
One is about lexemes.  The other says that the texts are empty together, because an empty text is
dropped along with its separator, and this must not depend on contents.
-/

namespace WarehouseAdmin

open Lexeme (LexesTo isQuote isBoundary marks lex)

/-! ## Trees that differ in contents -/

/-- Raw text, which must not open or close a quote. -/
def QuoteFree (s : String) : Prop :=
  ∀ c ∈ s.toList, isQuote c = false

instance (s : String) : Decidable (QuoteFree s) :=
  decidable_of_iff (s.toList.all fun c => !isQuote c) (by simp [QuoteFree])

theorem QuoteFree.append {s t : String} (hs : QuoteFree s) (ht : QuoteFree t) :
    QuoteFree (s ++ t) := by
  intro c hc
  rw [String.toList_append, List.mem_append] at hc
  rcases hc with hc | hc
  · exact hs c hc
  · exact ht c hc

/-- A number is written with digits, and with a sign if it is negative. -/
theorem isDigit_or_sign_of_mem_number {n : Int} {c : Char} (mem : c ∈ (toString n).toList) :
    c.isDigit = true ∨ c = '-' := by
  have digits (n : Nat) (mem : c ∈ n.repr.toList) : c.isDigit = true := by
    rw [Nat.toList_repr] at mem
    exact Nat.isDigit_of_mem_toDigits (by decide) (by decide) mem
  rw [Int.toString_eq_repr, Int.repr_eq_if] at mem
  split at mem
  · exact .inl (digits _ mem)
  · rw [String.toList_append, List.mem_append] at mem
    rcases mem with sign | mem
    · exact .inr (by simpa using sign)
    · exact .inl (digits _ mem)

theorem quoteFree_number (n : Int) : QuoteFree (toString n) := by
  intro c mem
  rcases isDigit_or_sign_of_mem_number mem with digit | rfl
  · have name : Lexeme.isNameChar c = true := by
      simp [Lexeme.isNameChar, Text.isAlphanum_iff, digit]
    exact (Lexeme.isBlank_and_isQuote_of_isNameChar name).2
  · decide

/-- Text that keeps apart what stands before and behind it. -/
def Delimits (m : String) : Prop :=
  m ≠ "" ∧ ∀ c ∈ m.toList, isBoundary c = true

instance (m : String) : Decidable (Delimits m) :=
  decidable_of_iff (m ≠ "" ∧ m.toList.all isBoundary) (by simp [Delimits])

/-- Whether a directive looks into the value of its field.  A fixed text stands alone, and the value
that a directive cannot write is reported by its kind. -/
def Directive.Writes : Directive → Value → Prop
  | .fixed _, _ => False
  | .keyword _, _ | .named _ _ _, _ => True
  | .reference _ _, value => ∃ id, value = .identifier id
  | .sequence _ _, value => ∃ items, value = .list items

section Alike

variable (R : String → String → Prop)

/-- Texts between quotes are related.  Any other text is raw. -/
def Quoting.Alike : Quoting → String → String → Prop
  | .single, s, s' | .double, s, s' => R s s'
  | .dollar, s, s' | .bare, s, s' => s = s' ∧ QuoteFree s

/-- Identifiers of one kind, with related parts.  The types of arguments are raw text. -/
structure Identifier.Alike (id id' : Identifier) : Prop where
  parts : List.Forall₂ R id.parts id'.parts
  arguments : id.arguments? = id'.arguments?
  quoteFree : ∀ types, id.arguments? = some types → ∀ t ∈ types, QuoteFree t.text

mutual

/-- Values that differ in contents only, under one quoting. -/
inductive Value.Alike : Quoting → Value → Value → Prop
  | absent {q : Quoting} : Value.Alike q .absent .absent
  | flag {q : Quoting} (b : Bool) : Value.Alike q (.flag b) (.flag b)
  | text {q : Quoting} {s s' : String} (h : q.Alike R s s') : Value.Alike q (.text s) (.text s')
  | number {q : Quoting} (n : Int) : Value.Alike q (.number n) (.number n)
  | identifier {q : Quoting} {id id' : Identifier} (h : id.Alike R id') :
      Value.Alike q (.identifier id) (.identifier id')
  | nested {q : Quoting} {clause clause' : Clause} (h : Clause.Alike clause clause') :
      Value.Alike q (.nested clause) (.nested clause')
  | embedded {q : Quoting} {clause clause' : Clause} (h : Clause.Alike clause clause') :
      Value.Alike q (.embedded clause) (.embedded clause')
  | list {q : Quoting} {items items' : List Value} (h : Value.AllAlike q items items') :
      Value.Alike q (.list items) (.list items')

inductive Value.AllAlike : Quoting → List Value → List Value → Prop
  | nil {q : Quoting} : Value.AllAlike q [] []
  | cons {q : Quoting} {item item' : Value} {items items' : List Value}
      (head : Value.Alike q item item') (tail : Value.AllAlike q items items') :
      Value.AllAlike q (item :: items) (item' :: items')

/-- Fields with the same name and directive.  What the directive writes differs in contents only. -/
inductive Entry.Alike : Entry → Entry → Prop
  | fixed {field text : String} {value value' : Value} (clean : QuoteFree text) :
      Entry.Alike ⟨field, .fixed text, value⟩ ⟨field, .fixed text, value'⟩
  | keyword {field text : String} {value value' : Value} (clean : QuoteFree text)
      (h : Value.Alike .bare value value') :
      Entry.Alike ⟨field, .keyword text, value⟩ ⟨field, .keyword text, value'⟩
  | named {field name : String} {q : Quoting} {link : Link} {value value' : Value}
      (clean : QuoteFree name) (h : Value.Alike q value value') :
      Entry.Alike ⟨field, .named name q link, value⟩ ⟨field, .named name q link, value'⟩
  | reference {field name : String} {link : Link} {id id' : Identifier} (clean : QuoteFree name)
      (h : id.Alike R id') :
      Entry.Alike ⟨field, .reference name link, .identifier id⟩
        ⟨field, .reference name link, .identifier id'⟩
  | sequence {field : String} {separator : Separator} {parenthesized : Bool}
      {items items' : List Value} (h : Value.AllAlike .bare items items') :
      Entry.Alike ⟨field, .sequence separator parenthesized, .list items⟩
        ⟨field, .sequence separator parenthesized, .list items'⟩
  /-- A value that is not written counts by its kind. -/
  | unwritten {field : String} {directive : Directive} {value value' : Value}
      (fixed : ∀ text, directive ≠ .fixed text) (h : ¬ directive.Writes value)
      (kind : value.kind = value'.kind) :
      Entry.Alike ⟨field, directive, value⟩ ⟨field, directive, value'⟩

inductive Entry.AllAlike : List Entry → List Entry → Prop
  | nil : Entry.AllAlike [] []
  | cons {entry entry' : Entry} {entries entries' : List Entry} (head : Entry.Alike entry entry')
      (tail : Entry.AllAlike entries entries') :
      Entry.AllAlike (entry :: entries) (entry' :: entries')

/-- Clauses that differ in contents only.  Rules are not written. -/
inductive Clause.Alike : Clause → Clause → Prop
  | mk {object : String} {entries entries' : List Entry} {rules rules' : List Rule}
      (h : Entry.AllAlike entries entries') :
      Clause.Alike ⟨object, entries, rules⟩ ⟨object, entries', rules'⟩

end

/-- Lexemes that are the same, or are literals or names with related contents. -/
inductive Lexeme.Agree : Lexeme → Lexeme → Prop
  | same (t : Lexeme) : Lexeme.Agree t t
  | literal {a b : String} (h : R a b) : Lexeme.Agree (.literal a) (.literal b)
  | name {a b : String} (h : R a b) : Lexeme.Agree (.name a) (.name b)

/-- Texts that are empty together and have the same lexemes up to contents. -/
structure SameShape (a b : String) : Prop where
  empty : a = "" ↔ b = ""
  lexes : ∃ ts ts', LexesTo a.toList ts ∧ LexesTo b.toList ts' ∧
    List.Forall₂ (Lexeme.Agree R) ts ts'

end Alike

variable {R : String → String → Prop} {a b a' b' m : String} {as bs : List String}

/-! ## Texts of the same shape -/

namespace SameShape

/-- Raw text has the shape of itself. -/
theorem of_quoteFree (h : QuoteFree a) : SameShape R a a := by
  obtain ⟨ts, lexes⟩ := Lexeme.exists_lexesTo h
  exact ⟨Iff.rfl, ts, ts, lexes, lexes, List.forall₂_same.mpr fun t _ => .same t⟩

theorem nil : SameShape R "" "" :=
  of_quoteFree (by decide)

/-- Texts of one lexeme have the same shape when the lexemes agree. -/
theorem of_lexesTo {t t' : Lexeme} (ne : a ≠ "") (ne' : b ≠ "") (ha : LexesTo a.toList [t])
    (hb : LexesTo b.toList [t']) (agree : Lexeme.Agree R t t') : SameShape R a b :=
  ⟨iff_of_false ne ne', [t], [t'], ha, hb, .cons agree .nil⟩

/-- What keeps texts apart joins texts of the same shape. -/
theorem join (h : SameShape R a b) (h' : SameShape R a' b') (delimits : Delimits m) :
    SameShape R (a ++ m ++ a') (b ++ m ++ b') := by
  obtain ⟨ne, boundary⟩ := delimits
  obtain ⟨-, ts, ts', la, lb, agree⟩ := h
  obtain ⟨-, us, us', la', lb', agree'⟩ := h'
  have ne' : m.toList ≠ [] := by simpa using ne
  refine ⟨by simp [ne], ts ++ marks m.toList ++ us, ts' ++ marks m.toList ++ us', ?_, ?_, ?_⟩
  · simpa using la.join la' ne' boundary
  · simpa using lb.join lb' ne' boundary
  · refine List.rel_append (List.rel_append agree ?_) agree'
    exact List.forall₂_same.mpr fun t _ => .same t

/-- A text in parentheses may stand directly behind another one. -/
theorem append_inParentheses (h : SameShape R a b) (h' : SameShape R a' b') :
    SameShape R (a ++ inParentheses a') (b ++ inParentheses b') := by
  have opened := h.join h' (m := "(") (by decide)
  have closed := opened.join nil (m := ")") (by decide)
  simpa [WarehouseAdmin.inParentheses, String.append_assoc] using closed

theorem inParentheses (h : SameShape R a b) :
    SameShape R (inParentheses a) (inParentheses b) := by
  simpa using nil.append_inParentheses h

theorem inParentheses_if (h : SameShape R a b) (parenthesized : Bool) :
    SameShape R (if parenthesized then WarehouseAdmin.inParentheses a else a)
      (if parenthesized then WarehouseAdmin.inParentheses b else b) := by
  cases parenthesized with
  | true => exact h.inParentheses
  | false => exact h

/-- A value behind a name that is raw text. -/
theorem attach {name : String} (clean : QuoteFree name) (h : SameShape R a b) (link : Link) :
    SameShape R (link.attach name a) (link.attach name b) := by
  unfold Link.attach
  split
  · exact h
  · cases link with
    | equals => exact (of_quoteFree clean).join h (by decide)
    | space => exact (of_quoteFree clean).join h (by decide)

/-- Dropping the empty texts drops the same ones. -/
theorem visible (h : List.Forall₂ (SameShape R) as bs) :
    List.Forall₂ (SameShape R) (visible as) (visible bs) := by
  induction h with
  | nil => exact .nil
  | @cons a b as bs head tail ih =>
      -- Both texts are dropped here, or neither is.
      by_cases empty : a = ""
      · rw [empty, head.empty.mp empty, visible_cons_empty, visible_cons_empty]
        exact ih
      · rw [visible_cons_of_ne empty, visible_cons_of_ne (mt head.empty.mpr empty)]
        exact .cons head ih

theorem intercalate (h : List.Forall₂ (SameShape R) as bs) (delimits : Delimits m) :
    SameShape R (m.intercalate as) (m.intercalate bs) := by
  induction h with
  | nil => simpa using nil
  | cons head tail ih =>
      cases tail with
      | nil => simpa using head
      | cons head' tail' =>
          rw [String.intercalate_cons_cons, String.intercalate_cons_cons]
          exact head.join ih delimits

theorem joinTokens (h : List.Forall₂ (SameShape R) as bs) :
    SameShape R (joinTokens as) (joinTokens bs) :=
  intercalate (visible h) (by decide)

theorem joinElements (h : List.Forall₂ (SameShape R) as bs) (separator : Separator)
    (parenthesized : Bool) :
    SameShape R (joinElements separator parenthesized as)
      (joinElements separator parenthesized bs) := by
  have joined : SameShape R (separator.text.intercalate (WarehouseAdmin.visible as))
      (separator.text.intercalate (WarehouseAdmin.visible bs)) := by
    cases separator with
    | comma => exact intercalate (visible h) (by decide)
    | space => exact intercalate (visible h) (by decide)
  exact joined.inParentheses_if parenthesized

/-! ### Contents -/

theorem enclose_ne_empty (q : Char) (s : String) : Text.enclose q s ≠ "" := by
  intro empty
  have := congrArg String.toList empty
  simp at this

/-- A text has one shape under a quoting, whatever it holds. -/
theorem quote {q : Quoting} (h : q.Alike R a b) : SameShape R (q.quote a) (q.quote b) := by
  cases q with
  | single =>
      exact of_lexesTo (enclose_ne_empty _ a) (enclose_ne_empty _ b)
        (Lexeme.lexesTo_enclose (by decide) a) (Lexeme.lexesTo_enclose (by decide) b) (.literal h)
  | double =>
      exact of_lexesTo (enclose_ne_empty _ a) (enclose_ne_empty _ b)
        (Lexeme.lexesTo_enclose (by decide) a) (Lexeme.lexesTo_enclose (by decide) b) (.name h)
  | dollar =>
      obtain ⟨rfl, clean⟩ := h
      have dollars : QuoteFree "$$" := by decide
      exact of_quoteFree ((dollars.append clean).append dollars)
  | bare =>
      obtain ⟨rfl, clean⟩ := h
      exact of_quoteFree clean

theorem write_ne_empty (part : String) : Part.write part ≠ "" := by
  rw [Part.write]
  split
  next plain =>
    intro empty
    exact (Part.isWord_of_isPlain plain).1 (by simp [empty])
  next => exact enclose_ne_empty _ part

/-- Parts have one shape, also where one of them is quoted and the other is not. -/
theorem write (h : R a b) : SameShape R (Part.write a) (Part.write b) :=
  of_lexesTo (write_ne_empty a) (write_ne_empty b) (Lexeme.lexesTo_write a) (Lexeme.lexesTo_write b)
    (.name h)

/-- Raw texts have the shape of themselves. -/
theorem forall₂_of_quoteFree (h : ∀ s ∈ as, QuoteFree s) : List.Forall₂ (SameShape R) as as :=
  List.forall₂_same.mpr fun s hs => of_quoteFree (h s hs)

theorem identifier {id id' : Identifier} (h : id.Alike R id') : SameShape R id.text id'.text := by
  have parts : SameShape R (Identifier.dotted id.parts) (Identifier.dotted id'.parts) := by
    refine intercalate ?_ (by decide)
    rw [List.forall₂_map_left_iff, List.forall₂_map_right_iff]
    exact h.parts.imp fun _ _ => write
  rw [Identifier.text, Identifier.text, ← h.arguments]
  cases list : id.arguments? with
  | none => exact parts
  | some types =>
      have clean : ∀ s ∈ types.map (·.text), QuoteFree s := by
        intro s hs
        obtain ⟨t, ht, rfl⟩ := List.mem_map.mp hs
        exact h.quoteFree types list t ht
      have inside := intercalate (forall₂_of_quoteFree (R := R) clean) (m := ", ") (by decide)
      exact parts.append_inParentheses inside

theorem number (n : Int) : SameShape R (toString n) (toString n) :=
  of_quoteFree (quoteFree_number n)

end SameShape

/-! ## The walk over two trees -/

/-- A value that is not written is absent or is reported. -/
theorem Entry.token_of_not_writes {field : String} {directive : Directive} {value : Value}
    (fixed : ∀ text, directive ≠ .fixed text) (h : ¬ directive.Writes value) (place : Nesting) :
    Entry.token place ⟨field, directive, value⟩ =
      if value.kind = "absent" then .ok ""
      else .error (place.misfit field directive.kind value.kind) := by
  cases directive with
  | fixed text => exact absurd rfl (fixed text)
  | keyword | named => exact absurd trivial h
  | reference name link =>
      cases value with
      | identifier id => exact absurd ⟨id, rfl⟩ h
      | absent => rfl
      | flag | text | number | nested | embedded | list => rfl
  | sequence separator parenthesized =>
      cases value with
      | list items => exact absurd ⟨items, rfl⟩ h
      | absent => rfl
      | flag | text | number | identifier | nested | embedded => rfl

theorem Directive.writes_congr {directive : Directive} {value value' : Value}
    (kind : value.kind = value'.kind) : directive.Writes value ↔ directive.Writes value' := by
  cases directive with
  | fixed | keyword | named => exact Iff.rfl
  | reference name link => cases value <;> cases value' <;> simp_all [Directive.Writes, Value.kind]
  | sequence => cases value <;> cases value' <;> simp_all [Directive.Writes, Value.kind]

/-- A keyword in front of a text. -/
theorem SameShape.prefixed {text : String} (clean : QuoteFree text) (h : SameShape R a b) :
    SameShape R (WarehouseAdmin.joinTokens [text, a]) (WarehouseAdmin.joinTokens [text, b]) :=
  SameShape.joinTokens (.cons (.of_quoteFree clean) (.cons h .nil))

/-- What is written only around a text that is not empty. -/
theorem SameShape.unless_empty {f : String → String} (h : SameShape R a b)
    (hf : SameShape R (f a) (f b)) :
    SameShape R (if a = "" then "" else f a) (if b = "" then "" else f b) := by
  by_cases empty : a = ""
  · rw [if_pos empty, if_pos (h.empty.mp empty)]
    exact .nil
  · rw [if_neg empty, if_neg (mt h.empty.mpr empty)]
    exact hf

mutual

/-- **The walk keeps shapes.**  Clauses that differ in contents only have the same outcome at every
place. -/
theorem Clause.Alike.sqlAt {clause clause' : Clause} (place : Nesting) : clause.Alike R clause' →
    SameOutcome (SameShape R) (clause.sqlAt place) (clause'.sqlAt place)
  | .mk h => by
    rename_i object _ _ _ _
    -- Both clauses have the same object, so they reach the limit together.
    have enter := SameOutcome.refl (P := Eq) (fun _ => rfl) (place.enter object)
    refine enter.bind fun inside inside' same => ?_
    subst same
    exact (h.tokens inside).map fun _ _ => SameShape.joinTokens

theorem Entry.AllAlike.tokens {entries entries' : List Entry} (place : Nesting) :
    Entry.AllAlike R entries entries' →
    SameOutcome (List.Forall₂ (SameShape R)) (Entry.tokens place entries)
      (Entry.tokens place entries')
  | .nil => .ok .nil
  | .cons head tail =>
    (head.token place).bind fun _ _ same => (tail.tokens place).map fun _ _ rest => .cons same rest

theorem Entry.Alike.token {entry entry' : Entry} (place : Nesting) : entry.Alike R entry' →
    SameOutcome (SameShape R) (entry.token place) (entry'.token place)
  | .fixed clean => .ok (.of_quoteFree clean)
  | .keyword clean h => by
    have written := h.sqlAt place false
    cases h with
    | absent => exact .ok .nil
    | flag b =>
        cases b with
        | true => exact .ok (.of_quoteFree clean)
        | false => exact .ok .nil
    | embedded h =>
        -- A clause without a text takes its keyword along, and it is without one in both trees.
        refine (h.sqlAt place).map fun a b same => ?_
        exact same.unless_empty (f := fun a => joinTokens [_, a]) (same.prefixed clean)
    | list h =>
        cases h with
        | nil => exact .ok .nil
        | cons => exact written.map fun _ _ same => same.prefixed clean
    | text | number | identifier | nested => exact written.map fun _ _ same => same.prefixed clean
  | .named clean h => by
    rename_i name q link _ _
    have written := h.sqlAt place true
    cases h with
    | absent => exact .ok .nil
    | embedded h =>
        refine (h.sqlAt place).map fun a b same => ?_
        exact same.unless_empty (f := fun a => link.attach name (inParentheses a))
          (same.inParentheses.attach clean link)
    | list h =>
        cases h with
        | nil => exact .ok .nil
        | cons => exact written.map fun _ _ same => same.attach clean link
    | text | number | identifier | nested | flag =>
        exact written.map fun _ _ same => same.attach clean link
  | .reference clean h => .ok ((SameShape.identifier h).attach clean _)
  | .sequence h => by
    have written := h.elements place
    cases h with
    | nil => exact .ok .nil
    | cons => exact written.map fun _ _ same => SameShape.joinElements same _ _
  | .unwritten fixed h kind => by
    rw [Entry.token_of_not_writes fixed h,
      Entry.token_of_not_writes fixed (mt (Directive.writes_congr kind).mpr h), kind]
    split
    · exact .ok .nil
    · exact .error _

theorem Value.Alike.sqlAt {value value' : Value} {q : Quoting} (place : Nesting)
    (parenthesized : Bool) : Value.Alike R q value value' →
    SameOutcome (SameShape R) (value.sqlAt place q parenthesized)
      (value'.sqlAt place q parenthesized)
  | .absent => .ok .nil
  | .flag b => by
    refine .ok (.of_quoteFree ?_)
    cases b <;> decide
  | .text h => .ok (SameShape.quote h)
  | .number n => .ok (SameShape.number n)
  | .identifier h => .ok (SameShape.identifier h)
  | .nested h | .embedded h =>
    (h.sqlAt place).map fun _ _ same => same.inParentheses_if parenthesized
  | .list h => (h.elements place).map fun _ _ same =>
    SameShape.joinElements same .comma parenthesized

theorem Value.AllAlike.elements {items items' : List Value} {q : Quoting} (place : Nesting) :
    Value.AllAlike R q items items' →
    SameOutcome (List.Forall₂ (SameShape R)) (Value.elements place q items)
      (Value.elements place q items')
  | .nil => .ok .nil
  | .cons head tail =>
    (head.sqlAt place false).bind fun _ _ same =>
      (tail.elements place).map fun _ _ rest => .cons same rest

end

/-- **Contents cannot change the structure of a statement.**  Two trees that differ in contents only
fail with the same error, or both have statements with the same lexemes up to these contents. -/
theorem Clause.sql_noninterference (R : String → String → Prop) (limit : Nat)
    {clause clause' : Clause} (h : clause.Alike R clause') :
    (∃ e, clause.sql limit = .error e ∧ clause'.sql limit = .error e) ∨
    ∃ s s' ts ts', clause.sql limit = .ok s ∧ clause'.sql limit = .ok s' ∧
      lex s.toList = some ts ∧ lex s'.toList = some ts' ∧ List.Forall₂ (Lexeme.Agree R) ts ts' := by
  have outcome := h.sqlAt (.outermost limit)
  rw [Clause.sql, Clause.sql]
  generalize clause.sqlAt (.outermost limit) = run at outcome ⊢
  generalize clause'.sqlAt (.outermost limit) = run' at outcome ⊢
  cases outcome with
  | error e => exact Or.inl ⟨e, rfl, rfl⟩
  | ok same =>
      obtain ⟨-, ts, ts', lexes, lexes', agree⟩ := same
      exact Or.inr ⟨_, _, ts, ts', rfl, rfl, lexes.lex_eq, lexes'.lex_eq, agree⟩

/-- A harmless name and comment, and a name and a comment that try to end the statement. -/
theorem Clause.sql_noninterference_comment :
    let clause (name comment : String) : Clause :=
      ⟨"CreateSchema", [⟨"create", .fixed "CREATE SCHEMA", .absent⟩,
        ⟨"name", .identifier, .identifier (.database ⟨"DB", name⟩)⟩,
        ⟨"comment", (Directive.parameter "COMMENT").quoted .single, .text comment⟩], []⟩
    let plain := clause "STAGING" "loaded daily"
    let hostile := clause "a\".b; DROP SCHEMA c" "'; DROP SCHEMA c --"
    plain.Alike (fun _ _ => True) hostile ∧
      ((∃ e, plain.sql 32 = .error e ∧ hostile.sql 32 = .error e) ∨
        ∃ s s' ts ts', plain.sql 32 = .ok s ∧ hostile.sql 32 = .ok s' ∧ lex s.toList = some ts ∧
          lex s'.toList = some ts' ∧ List.Forall₂ (Lexeme.Agree fun _ _ => True) ts ts') := by
  intro clause plain hostile
  have alike : plain.Alike (fun _ _ => True) hostile := by
    refine .mk (.cons (.fixed (by decide)) (.cons (.reference (by decide) ?_)
      (.cons (.named (by decide) (.text trivial)) .nil)))
    exact ⟨.cons trivial (.cons trivial .nil), rfl, by simp [Identifier.arguments?]⟩
  exact ⟨alike, Clause.sql_noninterference (fun _ _ => True) 32 alike⟩

end WarehouseAdmin
