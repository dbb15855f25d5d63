import WarehouseAdmin.Proofs.Identifier.RoundTrip
import WarehouseAdmin.Proofs.Sql.Descent
import WarehouseAdmin.Proofs.Sql.Exclusion
import WarehouseAdmin.Proofs.Sql.Noninterference
import WarehouseAdmin.Statement.Function

/-!
# The ends of a statement

Pieces are joined with spaces, and an empty piece is dropped before that.  So a statement should
have no space at its ends if the raw texts in it have none.  Only one of the steps puts a space in
front of a text without looking at it: `Link.attach`, which writes a value behind its name.  Of all
values that are written there, only the empty text that is not quoted leaves nothing
(`Value.eq_of_sqlAt_eq_empty`).  What such a field leaves is a name with its link, and this piece
dangles: it ends with a space.

`Neat` is the invariant of the run.  A text that is written does not begin with a space, and if it
ends with one, then a dangling piece is its last.  Which pieces may dangle is a parameter, so that
the invariant is the same for a clause and for the clauses in it.

## Main statements

* `Clause.writesNeat` — every clause keeps the invariant.
* `Clause.sql_ends` — where a statement has a space at its ends.
-/

namespace WarehouseAdmin

/-- No space at the ends. -/
def Trimmed (s : String) : Prop :=
  s.toList.head? ≠ some ' ' ∧ s.toList.getLast? ≠ some ' '

instance (s : String) : Decidable (Trimmed s) :=
  inferInstanceAs (Decidable (_ ∧ _))

/-! ## Raw texts and dangling pieces -/

mutual

/-- The texts in a value that are written as they are under a quoting. -/
def Value.rawTexts (quoting : Quoting) : Value → List String
  | .text s => if quoting = .bare then [s] else []
  | .list items => Value.allRawTexts quoting items
  | _ => []
termination_by structural value => value

def Value.allRawTexts (quoting : Quoting) : List Value → List String
  | [] => []
  | item :: items => item.rawTexts quoting ++ Value.allRawTexts quoting items
termination_by structural items => items

end

/-- The texts of a field that are written as they are: that of its directive, and those in its value
that are not quoted. -/
def Entry.rawTexts : Entry → List String
  | ⟨_, .fixed text, _⟩ => [text]
  | ⟨_, .keyword text, value⟩ => text :: value.rawTexts .bare
  | ⟨_, .named name quoting _, value⟩ => name :: value.rawTexts quoting
  | ⟨_, .reference name _, _⟩ => [name]
  | ⟨_, .sequence _ _, value⟩ => value.rawTexts .bare

/-- What a field leaves whose value is an empty text that is not quoted: its name and its link. -/
inductive Entry.Dangles : Entry → String → Prop
  | named {field name : String} {link : Link} (h : name ≠ "") :
      Entry.Dangles ⟨field, .named name .bare link, .text ""⟩ (link.attach name "")

namespace Clause

/-- The raw texts of all fields that are written have no space at their ends. -/
def IsTrimmed (clause : Clause) : Prop :=
  ∀ c, clause.Contains c → ∀ entry ∈ c.entries, ∀ s ∈ entry.rawTexts, Trimmed s

/-- A piece dangles in a statement if it is what some field leaves of itself. -/
def Dangles (clause : Clause) (piece : String) : Prop :=
  ∃ c, clause.Contains c ∧ ∃ entry ∈ c.entries, entry.Dangles piece

end Clause

theorem Entry.Dangles.getLast? {entry : Entry} {piece : String} (h : entry.Dangles piece) :
    piece.toList.getLast? = some ' ' := by
  obtain ⟨solid⟩ := h
  unfold Link.attach
  rw [if_neg solid]
  split <;> simp

/-! ## Texts without spaces at their ends -/

theorem trimmed_between {c d : Char} {m : List Char} {s : String} (text : s.toList = c :: m ++ [d])
    (first : c ≠ ' ') (last : d ≠ ' ') : Trimmed s := by
  unfold Trimmed
  rw [text, List.getLast?_concat]
  simp [first, last]

theorem trimmed_of_not_mem {s : String} (h : ' ' ∉ s.toList) : Trimmed s :=
  ⟨fun first => h (List.mem_of_mem_head? first), fun last => h (List.mem_of_mem_getLast? last)⟩

theorem trimmed_inParentheses (s : String) : Trimmed (inParentheses s) :=
  trimmed_between (c := '(') (d := ')') (m := s.toList) (by simp [inParentheses]) (by decide)
    (by decide)

theorem trimmed_quote {quoting : Quoting} {s : String} (raw : quoting = .bare → Trimmed s) :
    Trimmed (quoting.quote s) := by
  cases quoting with
  | single => exact trimmed_between (Text.toList_enclose '\'' s) (by decide) (by decide)
  | double => exact trimmed_between (Text.toList_enclose '"' s) (by decide) (by decide)
  | dollar =>
      refine trimmed_between (c := '$') (d := '$') (m := '$' :: s.toList ++ ['$']) ?_ (by decide)
        (by decide)
      simp [Quoting.quote]
  | bare => exact raw rfl

theorem trimmed_number (n : Int) : Trimmed (toString n) := by
  refine trimmed_of_not_mem fun mem => ?_
  rcases isDigit_or_sign_of_mem_number mem with digit | sign
  · exact absurd digit (by decide)
  · exact absurd sign (by decide)

theorem number_ne_empty (n : Int) : toString n ≠ "" := by
  rw [Int.toString_eq_repr, Int.repr_eq_if]
  split
  · exact Nat.repr_ne_empty
  · simp

theorem trimmed_identifier (id : Identifier) : Trimmed id.text := by
  have solid := Identifier.hasSolidEnds_text id
  constructor
  · intro first
    exact absurd (solid.first ' ' first) (by decide)
  · intro last
    exact absurd (solid.last ' ' last) (by decide)

/-! ## The invariant -/

/-- The text does not begin with a space, and if it ends with one, a dangling piece stands there. -/
structure Neat (dangling : String → Prop) (s : String) : Prop where
  first : s.toList.head? ≠ some ' '
  last : s.toList.getLast? = some ' ' → ∃ piece, dangling piece ∧ piece.toList <:+ s.toList

variable {dangling : String → Prop} {a b name : String} {pieces : List String}

theorem Trimmed.neat (h : Trimmed a) : Neat dangling a :=
  ⟨h.1, fun last => absurd last h.2⟩

/-- A text takes its beginning from what stands in front. -/
theorem head?_append_ne_space (front : a.toList.head? ≠ some ' ') (solid : a ≠ "") (m b : String) :
    (a ++ m ++ b).toList.head? ≠ some ' ' := by
  rwa [String.append_assoc, String.toList_append,
    List.head?_append_of_ne_nil _ (by simpa using solid)]

namespace Neat

theorem empty : Neat dangling "" :=
  Trimmed.neat (by decide)

/-- A text takes its end from what stands behind. -/
theorem join (front : a.toList.head? ≠ some ' ') (solid : a ≠ "") (behind : Neat dangling b)
    (solid' : b ≠ "") (m : String) : Neat dangling (a ++ m ++ b) := by
  refine ⟨head?_append_ne_space front solid m b, ?_⟩
  rw [String.toList_append, List.getLast?_append_of_ne_nil _ (by simpa using solid')]
  intro last
  obtain ⟨piece, dangles, suffix⟩ := behind.last last
  exact ⟨piece, dangles, List.suffix_append_of_suffix suffix⟩

theorem intercalate (m : String) (h : ∀ piece ∈ pieces, Neat dangling piece)
    (solid : ∀ piece ∈ pieces, piece ≠ "") : Neat dangling (m.intercalate pieces) := by
  induction pieces with
  | nil => exact empty
  | cons piece pieces ih =>
      obtain ⟨here, others⟩ := List.forall_mem_cons.mp h
      obtain ⟨solid, solid'⟩ := List.forall_mem_cons.mp solid
      by_cases last : pieces = []
      · rw [last, String.intercalate_singleton]
        exact here
      · rw [String.intercalate_cons_of_ne_nil last]
        exact join here.first solid (ih others solid') (intercalate_ne_empty m solid' last) m

theorem visible (m : String) (h : ∀ piece ∈ pieces, Neat dangling piece) :
    Neat dangling (m.intercalate (visible pieces)) :=
  intercalate m (fun piece mem => h piece (List.mem_of_mem_filter mem)) fun _ =>
    ne_empty_of_mem_visible

theorem joinTokens (h : ∀ piece ∈ pieces, Neat dangling piece) :
    Neat dangling (joinTokens pieces) :=
  visible " " h

theorem joinElements (h : ∀ piece ∈ pieces, Neat dangling piece) (separator : Separator)
    (parenthesized : Bool) : Neat dangling (joinElements separator parenthesized pieces) := by
  cases parenthesized with
  | true => exact (trimmed_inParentheses _).neat
  | false => exact visible separator.text h

/-- A name in front of a value that leaves nothing is a dangling piece. -/
theorem attach {link : Link} (front : Trimmed name) (behind : Neat dangling a)
    (empty : name ≠ "" → a = "" → dangling (link.attach name "")) :
      Neat dangling (link.attach name a) := by
  by_cases unnamed : name = ""
  · have alone : link.attach name a = a := if_pos unnamed
    rwa [alone]
  · obtain ⟨m, attached⟩ := link.exists_attach_eq unnamed
    by_cases silent : a = ""
    · -- Nothing covers the link, and this is how a space comes to an end.
      subst silent
      refine ⟨?_, fun _ => ⟨_, empty unnamed rfl, List.suffix_refl _⟩⟩
      rw [attached]
      exact head?_append_ne_space front.1 unnamed m ""
    · rw [attached]
      exact join front.1 unnamed behind silent m

end Neat

/-! ## Values -/

/-- Every text that is written for the clause, wherever it stands, keeps the invariant. -/
def Clause.WritesNeat (dangling : String → Prop) (clause : Clause) : Prop :=
  ∀ place sql, clause.sqlAt place = .ok sql → Neat dangling sql

variable {quoting : Quoting} {place : Nesting}

mutual

/-- A value keeps the invariant if its raw texts are trimmed and the clauses in it keep it.  The
induction is on lists in lists; it ends at the clauses, which are left to the induction on clauses.
-/
theorem Value.neat_of_sqlAt : ∀ {value : Value} {parenthesized : Bool} {written : String},
    (∀ s ∈ value.rawTexts quoting, Trimmed s) → (∀ c ∈ value.clauses, c.WritesNeat dangling) →
    value.sqlAt place quoting parenthesized = .ok written → Neat dangling written
  | .absent, _, _, _, _, run => by
    obtain rfl := Except.ok.inj run
    exact .empty
  | .flag b, _, _, _, _, run => by
    obtain rfl := Except.ok.inj run
    cases b <;> exact Trimmed.neat (by decide)
  | .text s, _, _, trimmed, _, run => by
    obtain rfl := Except.ok.inj run
    refine (trimmed_quote fun bare => ?_).neat
    exact trimmed s (by simp [Value.rawTexts, bare])
  | .number n, _, _, _, _, run => by
    obtain rfl := Except.ok.inj run
    exact (trimmed_number n).neat
  | .identifier id, _, _, _, _, run => by
    obtain rfl := Except.ok.inj run
    exact (trimmed_identifier id).neat
  | .nested clause, parenthesized, _, _, inner, run
  | .embedded clause, parenthesized, _, _, inner, run => by
    obtain ⟨sql, wrote, rfl⟩ := Except.map_eq_ok_iff.mp run
    cases parenthesized with
    | true => exact (trimmed_inParentheses sql).neat
    | false => exact inner clause (by simp [Value.clauses]) place sql wrote
  | .list items, parenthesized, _, trimmed, inner, run => by
    obtain ⟨elements, wrote, rfl⟩ := Except.map_eq_ok_iff.mp run
    exact .joinElements (Value.neat_of_elements trimmed inner wrote) .comma parenthesized

theorem Value.neat_of_elements : ∀ {items : List Value} {elements : List String},
    (∀ s ∈ Value.allRawTexts quoting items, Trimmed s) →
    (∀ c ∈ Value.allClauses items, c.WritesNeat dangling) →
    Value.elements place quoting items = .ok elements → ∀ element ∈ elements, Neat dangling element
  | [], _, _, _, run => by
    obtain rfl := Except.ok.inj run
    simp
  | item :: items, _, trimmed, inner, run => by
    obtain ⟨element, wrote, run⟩ := Except.bind_eq_ok_iff.mp run
    obtain ⟨elements, wrote', rfl⟩ := Except.map_eq_ok_iff.mp run
    rw [Value.allRawTexts, List.forall_mem_append] at trimmed
    rw [Value.allClauses, List.forall_mem_append] at inner
    exact List.forall_mem_cons.mpr ⟨Value.neat_of_sqlAt trimmed.1 inner.1 wrote,
      Value.neat_of_elements trimmed.2 inner.2 wrote'⟩

end

/-- **What leaves nothing behind a name**: of all values, the empty text that is not quoted.
Clauses and lists stand in parentheses there. -/
theorem Value.eq_of_sqlAt_eq_empty {value : Value} (run : value.sqlAt place quoting true = .ok "") :
    value = .absent ∨ value = .text "" ∧ quoting = .bare := by
  cases value with
  | absent => exact .inl rfl
  | flag b => cases b <;> exact absurd (Except.ok.inj run) (by decide)
  | text s =>
      have silent : quoting.quote s = "" := Except.ok.inj run
      cases quoting with
      | single | double => exact absurd silent (SameShape.enclose_ne_empty _ s)
      | dollar => simp [Quoting.quote] at silent
      | bare => exact .inr ⟨congrArg Value.text silent, rfl⟩
  | number n => exact absurd (Except.ok.inj run) (number_ne_empty n)
  | identifier id => exact absurd (Except.ok.inj run) id.text_ne_empty
  | nested clause | embedded clause =>
      obtain ⟨sql, -, silent⟩ := Except.map_eq_ok_iff.mp run
      simp [inParentheses] at silent
  | list items =>
      obtain ⟨elements, -, silent⟩ := Except.map_eq_ok_iff.mp run
      simp [joinElements, inParentheses] at silent

/-! ## Fields -/

namespace Entry

variable {field text : String} {value : Value} {link : Link} {separator : Separator}
  {parenthesized : Bool}

/-- What a field with a keyword leaves: nothing, the keyword, or the keyword with its value. -/
theorem of_token_keyword (run : token place ⟨field, .keyword text, value⟩ = .ok a) :
    a = "" ∨ a = text ∨
      ∃ written, value.sqlAt place .bare false = .ok written ∧ a = joinTokens [text, written] := by
  cases value with
  | absent => exact .inl (Except.ok.inj run).symm
  | flag b =>
      cases b with
      | true => exact .inr (.inl (Except.ok.inj run).symm)
      | false => exact .inl (Except.ok.inj run).symm
  | text | number | identifier => exact .inr (.inr ⟨_, rfl, (Except.ok.inj run).symm⟩)
  | nested clause =>
      obtain ⟨written, wrote, rfl⟩ := Except.map_eq_ok_iff.mp run
      exact .inr (.inr ⟨written, wrote, rfl⟩)
  | embedded clause =>
      obtain ⟨inner, wrote, rfl⟩ := Except.map_eq_ok_iff.mp run
      split
      next => exact .inl rfl
      next => exact .inr (.inr ⟨inner, (Value.sqlAt_embedded ..).trans wrote, rfl⟩)
  | list items =>
      cases items with
      | nil => exact .inl (Except.ok.inj run).symm
      | cons =>
          obtain ⟨written, wrote, rfl⟩ := Except.map_eq_ok_iff.mp run
          exact .inr (.inr ⟨written, wrote, rfl⟩)

/-- What a field with a name leaves: nothing, or the name with its value. -/
theorem of_token_named (run : token place ⟨field, .named name quoting link, value⟩ = .ok a) :
    a = "" ∨ value ≠ .absent ∧
      ∃ written, value.sqlAt place quoting true = .ok written ∧ a = link.attach name written := by
  cases value with
  | absent => exact .inl (Except.ok.inj run).symm
  | flag | text | number | identifier => exact .inr ⟨nofun, _, rfl, (Except.ok.inj run).symm⟩
  | nested clause =>
      obtain ⟨written, wrote, rfl⟩ := Except.map_eq_ok_iff.mp run
      exact .inr ⟨nofun, written, wrote, rfl⟩
  | embedded clause =>
      obtain ⟨inner, wrote, rfl⟩ := Except.map_eq_ok_iff.mp run
      split
      next => exact .inl rfl
      next => exact .inr ⟨nofun, _, Except.map_eq_ok_iff.mpr ⟨inner, wrote, rfl⟩, rfl⟩
  | list items =>
      cases items with
      | nil => exact .inl (Except.ok.inj run).symm
      | cons =>
          obtain ⟨written, wrote, rfl⟩ := Except.map_eq_ok_iff.mp run
          exact .inr ⟨nofun, written, wrote, rfl⟩

theorem of_token_reference (run : token place ⟨field, .reference name link, value⟩ = .ok a) :
    a = "" ∨ ∃ id : Identifier, a = link.attach name id.text := by
  cases value with
  | absent => exact .inl (Except.ok.inj run).symm
  | identifier id => exact .inr ⟨id, (Except.ok.inj run).symm⟩
  | flag | text | number | nested | embedded | list => nomatch run

theorem of_token_sequence
    (run : token place ⟨field, .sequence separator parenthesized, value⟩ = .ok a) :
    a = "" ∨ ∃ items elements, value = .list items ∧
      Value.elements place .bare items = .ok elements ∧
      a = joinElements separator parenthesized elements := by
  cases value with
  | absent => exact .inl (Except.ok.inj run).symm
  | list items =>
      cases items with
      | nil => exact .inl (Except.ok.inj run).symm
      | cons =>
          obtain ⟨elements, wrote, rfl⟩ := Except.map_eq_ok_iff.mp run
          exact .inr ⟨_, elements, rfl, wrote, rfl⟩
  | flag | text | number | identifier | nested | embedded => nomatch run

/-- A field keeps the invariant if its raw texts are trimmed, the clauses in it keep the invariant,
and what it leaves may dangle. -/
theorem neat_of_token {entry : Entry} (trimmed : ∀ s ∈ entry.rawTexts, Trimmed s)
    (dangles : ∀ piece, entry.Dangles piece → dangling piece)
    (inner : ∀ c ∈ entry.clauses, c.WritesNeat dangling) (run : entry.token place = .ok a) :
    Neat dangling a := by
  obtain ⟨field, directive, value⟩ := entry
  cases directive with
  | fixed text =>
      obtain rfl := Except.ok.inj run
      exact (trimmed text (by simp [rawTexts])).neat
  | keyword text =>
      obtain ⟨keyword, raw⟩ := List.forall_mem_cons.mp trimmed
      rcases of_token_keyword run with rfl | rfl | ⟨written, wrote, rfl⟩
      · exact .empty
      · exact keyword.neat
      · have behind : Neat dangling written := Value.neat_of_sqlAt raw inner wrote
        exact .joinTokens (by simp [keyword.neat, behind])
  | named name quoting link =>
      obtain ⟨front, raw⟩ := List.forall_mem_cons.mp trimmed
      rcases of_token_named run with rfl | ⟨present, written, wrote, rfl⟩
      · exact .empty
      · refine .attach front (Value.neat_of_sqlAt raw inner wrote) ?_
        rintro named rfl
        obtain ⟨rfl, rfl⟩ := (Value.eq_of_sqlAt_eq_empty wrote).resolve_left present
        exact dangles _ (.named named)
  | reference name link =>
      rcases of_token_reference run with rfl | ⟨id, rfl⟩
      · exact .empty
      · have front : Trimmed name := trimmed name (by simp [rawTexts])
        exact .attach front (trimmed_identifier id).neat fun _ silent =>
          absurd silent id.text_ne_empty
  | sequence separator parenthesized =>
      rcases of_token_sequence run with rfl | ⟨items, elements, rfl, wrote, rfl⟩
      · exact .empty
      · exact .joinElements (Value.neat_of_elements trimmed inner wrote) separator parenthesized

end Entry

/-! ## Clauses -/

namespace Clause

variable {clause : Clause} {limit : Nat} {sql : String}

theorem isTrimmed_iff : clause.IsTrimmed ↔
    (∀ entry ∈ clause.entries, ∀ s ∈ entry.rawTexts, Trimmed s) ∧ ∀ c ∈ clause.inner, c.IsTrimmed :=
  forall_contains_iff

/-- **Every clause keeps the invariant** if the raw texts in it are trimmed and what its fields
leave may dangle. -/
theorem writesNeat (clause : Clause) : clause.IsTrimmed →
    (∀ piece, clause.Dangles piece → dangling piece) → clause.WritesNeat dangling := by
  induction clause using inner_induction with
  | step clause ih =>
      intro trimmed dangles place sql run
      obtain ⟨here, below⟩ := isTrimmed_iff.mp trimmed
      obtain ⟨inside, tokens, -, each, rfl⟩ := sqlAt_eq_ok_iff.mp run
      refine .joinTokens fun token mem => ?_
      obtain ⟨entry, there, wrote⟩ := exists_rel_of_mem each mem
      refine Entry.neat_of_token (here entry there) ?_ ?_ wrote
      · exact fun piece leaves => dangles piece ⟨clause, .refl, entry, there, leaves⟩
      · -- What dangles in an inner clause dangles in the clause around it.
        intro c mem
        have within : c ∈ clause.inner := List.mem_flatMap.mpr ⟨entry, there, mem⟩
        refine ih c within (below c within) ?_
        rintro piece ⟨c', contains, leaves⟩
        exact dangles piece ⟨c', .head within contains, leaves⟩

/-- **A space at an end of a statement** whose raw texts are trimmed: there is none at the
beginning, and one at the end exactly if a dangling piece stands there. -/
theorem sql_ends (trimmed : clause.IsTrimmed) (written : clause.sql limit = .ok sql) :
    sql.toList.head? ≠ some ' ' ∧ (sql.toList.getLast? = some ' ' ↔
      ∃ piece, clause.Dangles piece ∧ piece.toList <:+ sql.toList) := by
  have neat : Neat clause.Dangles sql := clause.writesNeat trimmed (fun _ => id) _ sql written
  refine ⟨neat.first, neat.last, ?_⟩
  rintro ⟨piece, ⟨c, -, entry, -, leaves⟩, front, split⟩
  rw [← split, List.getLast?_append, leaves.getLast?]
  rfl

/-- The last field of an inner clause leaves its name and its link, and the empty field behind it
nothing. -/
theorem sql_ends_default :
    let inner : Clause := ⟨"With", [⟨"default", .parameter "DEFAULT", .text ""⟩,
      ⟨"note", .keyword "", .text ""⟩], []⟩
    let clause : Clause := ⟨"Create", [⟨"CREATE", .fixed "CREATE", .absent⟩,
      ⟨"with", .keyword "WITH", .nested inner⟩], []⟩
    clause.IsTrimmed ∧ clause.sql 2 = .ok "CREATE WITH DEFAULT = " ∧
      ∃ piece, clause.Dangles piece ∧ piece.toList <:+ "CREATE WITH DEFAULT = ".toList := by
  intro inner clause
  have below : inner.IsTrimmed := isTrimmed_iff.mpr ⟨by decide, List.forall_mem_nil _⟩
  have trimmed : clause.IsTrimmed :=
    isTrimmed_iff.mpr ⟨by decide, List.forall_mem_singleton.mpr below⟩
  have written : clause.sql 2 = .ok "CREATE WITH DEFAULT = " := by rfl
  exact ⟨trimmed, written, (sql_ends trimmed written).2.mp (by decide)⟩

/-- A parameter with an empty default is written with a space at its end, though none of its raw
texts has one at an end. -/
theorem space_at_end_of_default :
    let clause := Described.clause ((Parameter.ofName "v" "INT").withDefault "")
    clause.IsTrimmed ∧ clause.sql Nesting.defaultLimit = .ok "v INT DEFAULT " ∧
      "v INT DEFAULT ".toList.getLast? = some ' ' := by
  intro clause
  exact ⟨isTrimmed_iff.mpr ⟨by decide, List.forall_mem_nil _⟩, by rfl, by decide⟩

end Clause

end WarehouseAdmin
