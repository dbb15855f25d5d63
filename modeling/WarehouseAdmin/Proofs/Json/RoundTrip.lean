import WarehouseAdmin.Json.Reader
import WarehouseAdmin.Proofs.Json.Token

/-!
# Documents are read as they were written

The reader goes through a text token by token, so it can be stopped and sent on from where it
stands: `resume` is the reader in the middle of a text.  A document is read when the reader, sent
through the document's text from wherever a value is awaited, stands behind that document and
nothing else has changed (`IsRead`).  With this the documents are taken from the inside out, and the
frames that are open around one never have to be known.

## Main statements

* `Elements.resume_write` — what stands between the brackets of an array or an object.
* `read?_render` — a written document is read as itself.
-/

namespace WarehouseAdmin.Json

variable {token : Token} {rest : List Char}

/-! ### The reader in the middle of a text -/

/-- How far the reader gets through a text from where it stands. -/
def resume (progress : Progress) (s : List Char) : Option Progress :=
  (tokens? s).bind fun tokens => tokens.foldlM Progress.advance? progress

variable {progress : Progress} {outer : List Frame}

theorem resume_nil (progress : Progress) : resume progress [] = some progress := by
  rw [resume, tokens?_nil]
  rfl

/-- One token is one step. -/
theorem resume_of_tokens? {s : List Char} (h : tokens? s = (tokens? rest).map (token :: ·)) :
    resume progress s = (progress.advance? token).bind fun next => resume next rest := by
  unfold resume
  rw [h, Option.bind_map, Option.bind_comm]
  refine Option.bind_congr fun tokens _ => ?_
  exact List.foldlM_cons

theorem resume_structural {next : Progress} {c : Char} (h : structural? c = some token)
    (step : progress.advance? token = some next) (s : List Char) :
    resume progress (c :: s) = resume next s := by
  rw [resume_of_tokens? (tokens?_structural h s), step]
  rfl

theorem resume_literal {next : Progress} {text : Text}
    (step : progress.advance? (.string text) = some next) (s : List Char) :
    resume progress ((literal text).toList ++ s) = resume next s := by
  rw [resume_of_tokens? (tokens?_literal text s), step]
  rfl

theorem resume_word {next : Progress} {w : List Char} (h : word? w = some token) (ne : w ≠ [])
    (chars : ∀ c ∈ w, isWordChar c = true) (step : progress.advance? token = some next)
    (ended : Ended rest) : resume progress (w ++ rest) = resume next rest := by
  rw [resume_of_tokens? (tokens?_word h chars ne ended), step]
  rfl

/-! ### Documents -/

/-- A document whose numbers are written as numbers. -/
inductive WellFormed : Json → Prop
  | null : WellFormed .null
  | bool (b : Bool) : WellFormed (.bool b)
  | number {literal : String} (h : isNumber literal.toList = true) : WellFormed (.number literal)
  | string (text : Text) : WellFormed (.string text)
  | array {items : List Json} (each : ∀ item ∈ items, WellFormed item) : WellFormed (.array items)
  | object {members : List (Text × Json)} (each : ∀ member ∈ members, WellFormed member.2) :
    WellFormed (.object members)

/-- The reader awaits a value inside these frames: anywhere, or as the first item of an array. -/
inductive Awaits : Progress → List Frame → Prop
  | value (outer : List Frame) : Awaits (.value outer) outer
  | firstItem (outer : List Frame) : Awaits (.firstItem outer) (.array [] :: outer)

/-- The reader awaits a name behind these members: anywhere, or as the first name of an object. -/
inductive AwaitsName : Progress → List (Text × Json) → List Frame → Prop
  | name (members : List (Text × Json)) (outer : List Frame) :
    AwaitsName (.name members outer) members outer
  | firstName (outer : List Frame) : AwaitsName (.firstName outer) [] outer

theorem Awaits.advance? (h : Awaits progress outer) (other : token ≠ .endArray) :
    progress.advance? token = Progress.begin? outer token := by
  cases h with
  | value => rfl
  | firstItem => cases token <;> first | rfl | exact absurd rfl other

theorem AwaitsName.advance? {members : List (Text × Json)} (h : AwaitsName progress members outer)
    (name : Text) : progress.advance? (.string name) = some (.colon members name outer) := by
  cases h <;> rfl

/-- The reader takes a document's text for the document, wherever a value may stand. -/
def IsRead (document : Json) : Prop :=
  ∀ progress outer rest, Awaits progress outer → Ended rest →
    resume progress (document.render.toList ++ rest) = resume (.complete document outer) rest

/-! ### Arrays and objects -/

/-- A structural character ends every word. -/
theorem ended_structural {c : Char} (h : structural? c = some token) (s : List Char) :
    Ended (c :: s) := by
  simpa [Ended] using (apart_of_structural h).2.2

/-- How the elements of an array or an object are written and read. -/
structure Elements (α : Type) where
  write : α → String
  /-- Where the reader may stand in front of an element, behind the ones it has. -/
  awaits : List α → Progress → Prop
  /-- Where the reader stands behind an element, which comes behind the ones it had. -/
  behind : List α → α → Progress
  /-- Where the reader stands behind the closing bracket. -/
  complete : List α → Progress
  close : Char
  closing : Token
  closes : structural? close = some closing
  last : ∀ done a, (behind done a).advance? closing = some (complete (done ++ [a]))
  more : ∀ done a, ∃ next, (behind done a).advance? .comma = some next ∧ awaits (done ++ [a]) next

/-- **The elements between the brackets** are read one after the other, if each of them is read. -/
theorem Elements.resume_write {α : Type} (kind : Elements α) {a : α} {elements done : List α}
    (read : ∀ b ∈ a :: elements, ∀ done progress rest, kind.awaits done progress → Ended rest →
      resume progress ((kind.write b).toList ++ rest) = resume (kind.behind done b) rest)
    (start : kind.awaits done progress) (rest : List Char) :
    resume progress
        ((",".intercalate ((a :: elements).map kind.write)).toList ++ kind.close :: rest) =
      resume (kind.complete (done ++ a :: elements)) rest := by
  have first := read a (by simp)
  induction elements generalizing a done progress with
  | nil =>
      rw [List.map_singleton, String.intercalate_singleton,
        first _ _ _ start (ended_structural kind.closes rest),
        resume_structural kind.closes (kind.last done a)]
  | cons b elements ih =>
      have comma : structural? ',' = some .comma := rfl
      have text : (",".intercalate ((a :: b :: elements).map kind.write)).toList ++
            kind.close :: rest =
          (kind.write a).toList ++
            ',' :: ((",".intercalate ((b :: elements).map kind.write)).toList ++
              kind.close :: rest) := by
        simp [String.intercalate_cons_cons]
      obtain ⟨next, step, start'⟩ := kind.more done a
      rw [text, first _ _ _ start (ended_structural comma _), resume_structural comma step,
        ih (fun c hc => read c (by simp [hc])) start' (read b (by simp)), List.append_assoc,
        List.singleton_append]

/-- The items of an array. -/
def Elements.items (outer : List Frame) : Elements Json where
  write := render
  awaits done progress := Awaits progress (.array done.reverse :: outer)
  behind done item := .complete item (.array done.reverse :: outer)
  complete items := .complete (.array items) outer
  close := ']'
  closing := .endArray
  closes := rfl
  last done item := by simp [Progress.advance?]
  more done item := ⟨_, rfl, by simpa using Awaits.value _⟩

/-- A member as it is written. -/
def renderMember (member : Text × Json) : String :=
  literal member.1 ++ ":" ++ member.2.render

/-- The members of an object. -/
def Elements.members (outer : List Frame) : Elements (Text × Json) where
  write := renderMember
  awaits done progress := AwaitsName progress done.reverse outer
  behind done member := .complete member.2 (.object done.reverse member.1 :: outer)
  complete members := .complete (.object members) outer
  close := '\x7d'
  closing := .endObject
  closes := rfl
  last done member := by simp [Progress.advance?]
  more done member := ⟨_, rfl, by simpa using AwaitsName.name _ _⟩

theorem renderItems_eq (items : List Json) : renderItems items = items.map render := by
  induction items with
  | nil => rw [renderItems, List.map_nil]
  | cons item items ih => rw [renderItems, ih, List.map_cons]

theorem renderMembers_eq (members : List (Text × Json)) :
    renderMembers members = members.map renderMember := by
  induction members with
  | nil => rw [renderMembers, List.map_nil]
  | cons member members ih => rw [renderMembers, ih, List.map_cons, renderMember]

theorem isRead_array {items : List Json} (each : ∀ item ∈ items, IsRead item) :
    IsRead (.array items) := by
  intro progress outer rest awaits ended
  have beginning : structural? '[' = some .beginArray := rfl
  have ending : structural? ']' = some .endArray := rfl
  have text : (render (.array items)).toList ++ rest =
      '[' :: ((",".intercalate (items.map render)).toList ++ ']' :: rest) := by
    simp [render, renderItems_eq]
  rw [text, resume_structural beginning (awaits.advance? (by nofun))]
  cases items with
  | nil => exact resume_structural ending rfl rest
  | cons item items =>
      have start : (Elements.items outer).awaits [] (.firstItem outer) := .firstItem outer
      refine (Elements.items outer).resume_write ?_ start rest
      intro item' mem done progress rest awaits ended
      exact each item' mem progress _ rest awaits ended

/-- A member is its name, a colon and its value. -/
theorem resume_renderMember {member : Text × Json} {done : List (Text × Json)}
    (value : IsRead member.2) (awaits : AwaitsName progress done outer) (ended : Ended rest) :
    resume progress ((renderMember member).toList ++ rest) =
      resume (.complete member.2 (.object done member.1 :: outer)) rest := by
  have colon : structural? ':' = some .colon := rfl
  have text : (renderMember member).toList ++ rest =
      (literal member.1).toList ++ ':' :: (member.2.render.toList ++ rest) := by
    simp [renderMember]
  rw [text, resume_literal (awaits.advance? member.1), resume_structural colon rfl,
    value _ _ _ (.value _) ended]

theorem isRead_object {members : List (Text × Json)} (each : ∀ member ∈ members, IsRead member.2) :
    IsRead (.object members) := by
  intro progress outer rest awaits ended
  have beginning : structural? '\x7b' = some .beginObject := rfl
  have ending : structural? '\x7d' = some .endObject := rfl
  have text : (render (.object members)).toList ++ rest =
      '\x7b' :: ((",".intercalate (members.map renderMember)).toList ++ '\x7d' :: rest) := by
    simp [render, renderMembers_eq]
  rw [text, resume_structural beginning (awaits.advance? (by nofun))]
  cases members with
  | nil => exact resume_structural ending rfl rest
  | cons member members =>
      have start : (Elements.members outer).awaits [] (.firstName outer) := .firstName outer
      refine (Elements.members outer).resume_write ?_ start rest
      intro member' mem done progress rest awaits ended
      exact resume_renderMember (each member' mem) awaits ended

/-! ### Whole texts -/

/-- A literal name or a number is read in front of what no word goes on into. -/
theorem isRead_word {document : Json} {token : Token}
    (word : word? document.render.toList = some token)
    (chars : document.render.toList.all isWordChar = true) (other : token ≠ .endArray)
    (begins : ∀ outer, Progress.begin? outer token = some (.complete document outer)) :
    IsRead document := by
  intro progress outer rest awaits ended
  refine resume_word word ?_ (List.all_eq_true.mp chars)
    ((awaits.advance? other).trans (begins outer)) ended
  intro empty
  rw [empty] at word
  simp [word?, isNumber, isDigits] at word

theorem WellFormed.isRead {document : Json} (h : WellFormed document) : IsRead document := by
  induction h with
  | null => exact isRead_word rfl rfl (by nofun) fun _ => rfl
  | bool b =>
      cases b with
      | true => exact isRead_word rfl rfl (by nofun) fun _ => rfl
      | false => exact isRead_word rfl rfl (by nofun) fun _ => rfl
  | @number literal h =>
      have word : word? literal.toList = some (.number literal) := by
        have ne {w : List Char} (other : isNumber w = false) : literal.toList ≠ w := by
          rintro rfl
          simp [h] at other
        rw [word?, if_neg (ne (by decide)), if_neg (ne (by decide)), if_neg (ne (by decide)),
          if_pos h, String.ofList_toList]
      exact isRead_word word (List.all_eq_true.mpr (isWordChar_of_isNumber h)) (by nofun)
        fun _ => rfl
  | string text =>
      intro progress outer rest awaits _
      exact resume_literal (awaits.advance? (by nofun)) rest
  | array _ ih => exact isRead_array ih
  | object _ ih => exact isRead_object ih

theorem WellFormed.ofMembers {members : List (String × Json)}
    (each : ∀ member ∈ members, WellFormed member.2) : WellFormed (Json.ofMembers members) := by
  refine .object fun member mem => ?_
  obtain ⟨⟨name, value⟩, given, rfl⟩ := List.mem_map.mp mem
  exact each (name, value) given

theorem wellFormed_ofTexts (texts : List String) : WellFormed (ofTexts texts) := by
  refine .array fun item mem => ?_
  obtain ⟨t, -, rfl⟩ := List.mem_map.mp mem
  exact .string (some t)

/-- Written texts are read as themselves. -/
theorem texts?_ofTexts (texts : List String) : (ofTexts texts).texts? = some texts := by
  show (texts.map ofString).mapM text? = some texts
  induction texts with
  | nil => rfl
  | cons t texts ih =>
      rw [List.map_cons, List.mapM_cons, ih]
      rfl

/-- **A written document is read as itself.** -/
theorem read?_render {document : Json} (h : WellFormed document) :
    read? document.render = some document := by
  have whole := h.isRead _ _ [] (.value []) (by simp [Ended])
  rw [List.append_nil, resume_nil, resume, Option.bind_eq_some_iff] at whole
  obtain ⟨tokens, cut, run⟩ := whole
  simp [read?, cut, run]

end WarehouseAdmin.Json
