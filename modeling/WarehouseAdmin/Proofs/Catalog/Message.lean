import WarehouseAdmin.Catalog.Failure
import WarehouseAdmin.Proofs.Catalog.Failure
import WarehouseAdmin.Proofs.Text.Lower
import WarehouseAdmin.Testing.Sample
import Mathlib.Algebra.GroupWithZero.Nat
import Mathlib.Data.List.Basic
import Mathlib.Data.List.Infix

/-!
# Messages of failures

The backend tells in words that an object may be missing, and these words decide whether a failed
drop may be taken for done.  A failure that was put together from several tells all their messages,
and these are to be kept apart by their numbers.

## Main statements

* `Failure.mentions_iff` — the search for a phrase.
* `Failure.ofBackend_is_classified` — the kind of an answer, and what else is kept of it.
* `Failure.joined_is_numbered` — the lines of a joined failure.
* `Sample.more_lines_than_causes` — a report in which a line has no number.
-/

namespace WarehouseAdmin.Text

/-! ## Lines

A line is a piece between line breaks, and an empty piece is a line, too.  So a text has one line
more than line breaks: the empty text has one, and behind a line break at the end there is an empty
last line.  A reader for whom a line break ends a line would not count that one.

Texts that are put one below the other keep their lines apart, and they stay one line each exactly
if there is no line break in any of them.
-/

variable {s : List Char} {texts : List (List Char)}

/-- The lines of a text: the pieces between its line breaks, with an empty last one counted. -/
def lines (s : List Char) : List (List Char) :=
  s.splitOn '\n'

/-- Texts one below the other. -/
def column (texts : List (List Char)) : List Char :=
  ['\n'].intercalate texts

theorem length_lines (s : List Char) : (lines s).length = s.count '\n' + 1 := by
  induction s with
  | nil => rfl
  | cons c s ih =>
      rw [lines] at ih
      rw [lines, List.splitOn_cons_eq_if_modifyHead]
      by_cases breaks : c = '\n'
      · simp [breaks, ih]
      · simp [breaks, ih]

/-- Texts one below the other keep their lines. -/
theorem lines_column (some : texts ≠ []) : lines (column texts) = texts.flatMap lines := by
  induction texts with
  | nil => exact absurd rfl some
  | cons text texts ih =>
      cases texts with
      | nil => simp [column]
      | cons next texts =>
          rw [column, List.intercalate_cons_cons, List.append_assoc, List.singleton_append, lines,
            List.splitOn_append_cons_self, List.flatMap_cons, ← ih (List.cons_ne_nil _ _)]
          rfl

theorem length_flatMap_lines (texts : List (List Char)) :
    (texts.flatMap lines).length = texts.length + (texts.map (List.count '\n')).sum := by
  induction texts with
  | nil => rfl
  | cons text texts ih =>
      rw [List.flatMap_cons, List.length_append, ih, length_lines, List.length_cons, List.map_cons,
        List.sum_cons]
      omega

/-- **Texts are one line each** exactly if there is no line break in any of them. -/
theorem flatMap_lines_eq_self_iff : texts.flatMap lines = texts ↔ ∀ text ∈ texts, '\n' ∉ text := by
  constructor
  · intro same
    have length := length_flatMap_lines texts
    rw [same, Nat.left_eq_add, List.sum_eq_zero_iff_forall_eq_nat] at length
    intro text mem
    exact List.count_eq_zero.mp (length _ (List.mem_map_of_mem mem))
  · intro free
    induction texts with
    | nil => rfl
    | cons text texts ih =>
        obtain ⟨here, others⟩ := List.forall_mem_cons.mp free
        rw [List.flatMap_cons, lines, List.splitOn_eq_singleton here, ih others,
          List.singleton_append]

end WarehouseAdmin.Text

namespace WarehouseAdmin.Failure

/-! ## The kind of a backend's answer

A message is searched for the words in lower case and without its commas.  Lower case could make up
the words where there are none: some characters beyond ASCII have an ASCII letter in their
lower-case form.  Both phrases are safe from that (`isSearchable_notAuthorizedPhrase`,
`isSearchable_notPerformedPhrase`), so what is found depends on the ASCII letters of the message and
on nothing else in it.
-/

variable {message phrase : String} {s text : List Char}

/-- The kind of failure that a text tells.  The first phrase wins if both occur in it. -/
def told (text : List Char) : Cause.Kind :=
  if notAuthorizedPhrase.toList <:+: text then .notAuthorized
  else if notPerformedPhrase.toList <:+: text then .notPerformed
  else .backend

theorem isSearchable_notAuthorizedPhrase : Text.IsSearchable notAuthorizedPhrase.toList := by
  decide

theorem isSearchable_notPerformedPhrase : Text.IsSearchable notPerformedPhrase.toList := by
  decide

/-- **A message mentions a searchable phrase** exactly if the phrase is in the folded message. -/
theorem mentions_iff (h : Text.IsSearchable phrase.toList) :
    mentions message phrase = true ↔ phrase.toList <:+: Text.fold message.toList := by
  rw [mentions, Text.holds_iff]
  exact (Text.lowers_lower message.toList).infix_filter_iff h

/-- Whatever becomes of a text in lower case, it tells what the folded text tells. -/
theorem told_filter (lowered : Text.Lowers s text) :
    told (text.filter (· ≠ ',')) = told (Text.fold s) := by
  simp only [told, lowered.infix_filter_iff isSearchable_notAuthorizedPhrase,
    lowered.infix_filter_iff isSearchable_notPerformedPhrase]

theorem kind?_ofBackend (code message : String) :
    (ofBackend code message).kind? = some (told (Text.fold message.toList)) := by
  simp only [ofBackend, told, mentions_iff isSearchable_notAuthorizedPhrase,
    mentions_iff isSearchable_notPerformedPhrase]
  split_ifs <;> rfl

/-- What the failure that an answer is says about it. -/
structure IsClassified (code message : String) (failure : Failure) : Prop where
  /-- Its kind is told by the message without commas and ASCII capitals. -/
  kind : failure.kind? = some (told (Text.fold message.toList))
  /-- Any lower-case form of the message without its commas tells the same kind. -/
  lowered : ∀ text, Text.Lowers message.toList text →
    failure.kind? = some (told (text.filter (· ≠ ',')))
  /-- Another message that differs only in commas and in the case of ASCII letters is of the same
  kind. -/
  alike : ∀ code' message', Text.Alike message.toList message'.toList →
    (ofBackend code' message').kind? = failure.kind?
  /-- The message is kept as it is, and so is the code where no phrase is found. -/
  kept : failure = .single (.notAuthorized message) ∨ failure = .single (.notPerformed message) ∨
    failure = .single (.backend code message)

/-- **Case and commas make no difference** to the kind of an answer, and nothing else is overlooked.
-/
theorem ofBackend_is_classified (code message : String) :
    IsClassified code message (ofBackend code message) where
  kind := kind?_ofBackend code message
  lowered text lowered := by rw [kind?_ofBackend, told_filter lowered]
  alike code' message' alike := by rw [kind?_ofBackend, kind?_ofBackend, alike.fold_eq]
  kept := by
    rw [ofBackend]
    split_ifs <;> simp

end WarehouseAdmin.Failure

namespace WarehouseAdmin

/-! ## The lines of a joined failure

A joined failure is reported with its causes one below the other, each behind its number.  A cause
is written as it is, and what it carries comes from elsewhere: a message of the backend may well
have several lines.  Then only the first of them has a number in front of it, and there are more
lines than causes.

The causes have one line each exactly if there is no line break in the texts that they carry, since
the words around these texts are on one line (`Cause.count_numberedText`).
-/

/-! ### Texts of a cause -/

namespace Cause

/-- The texts that a cause carries. -/
def details : Cause → List String
  | notFound object => [object]
  | notAuthorized detail | notPerformed detail => [detail]
  | backend code message => [code, message]
  | cancelled | timedOut _ => []

/-- The number of line breaks in the texts that a cause carries. -/
def breaks (cause : Cause) : Nat :=
  (cause.details.map fun text => text.toList.count '\n').sum

theorem breaks_eq_zero_iff (cause : Cause) :
    cause.breaks = 0 ↔ ∀ text ∈ cause.details, '\n' ∉ text.toList := by
  rw [breaks, List.sum_eq_zero_iff_forall_eq_nat, List.forall_mem_map]
  exact forall₂_congr fun text _ => List.count_eq_zero

/-- A cause as it stands in a report, behind its number. -/
def numberedText (cause : Cause) (position : Nat) : List Char :=
  ("[" ++ toString position ++ "] " ++ cause.message).toList

theorem count_newline_number (n : Nat) : (toString n).toList.count '\n' = 0 := by
  rw [List.count_eq_zero, Nat.toString_eq_repr, Nat.toList_repr]
  exact fun mem => absurd (Nat.isDigit_of_mem_toDigits (by decide) (by decide) mem) (by decide)

/-- **The line breaks of a cause** are those of the texts that it carries. -/
theorem count_numberedText (cause : Cause) (position : Nat) :
    (cause.numberedText position).count '\n' = cause.breaks := by
  unfold numberedText message breaks details
  cases cause with
  | _ =>
    simp only [String.toList_append, String.reduceToList, List.count_append, List.count_cons,
      List.count_nil, Char.reduceBEq, Bool.false_eq_true, if_false, Nat.add_zero, Nat.zero_add]
    simp only [count_newline_number, List.map_cons, List.map_nil, List.sum_cons, List.sum_nil,
      Nat.add_zero, Nat.zero_add]

end Cause

/-! ### Reports -/

namespace Failure

/-- Causes as they stand in a report. -/
def numberedTexts (causes : List Cause) : List (List Char) :=
  (causes.zipIdx 1).map fun entry => entry.1.numberedText entry.2

theorem toList_message_join (failure next : Failure) (others : List Failure) :
    (failure.join (next :: others)).message.toList =
      Text.column (numberedTexts (failure.join (next :: others)).causes) := by
  rw [message, if_pos (isJoined_join_cons failure next others), numbered, String.toList_intercalate,
    List.map_map]
  rfl

theorem map_count_numberedTexts (causes : List Cause) :
    (numberedTexts causes).map (List.count '\n') = causes.map Cause.breaks := by
  calc (numberedTexts causes).map (List.count '\n')
      = (causes.zipIdx 1).map fun entry => entry.1.breaks := by
        simp only [numberedTexts, List.map_map, Function.comp_def, Cause.count_numberedText]
    _ = ((causes.zipIdx 1).map Prod.fst).map Cause.breaks := by
        rw [List.map_map]
        rfl
    _ = causes.map Cause.breaks := by rw [List.zipIdx_map_fst]

/-- The causes stand on one line each exactly if the texts that they carry do. -/
theorem forall_numberedTexts_iff (causes : List Cause) :
    (∀ text ∈ numberedTexts causes, '\n' ∉ text) ↔
      ∀ cause ∈ causes, ∀ text ∈ cause.details, '\n' ∉ text.toList := by
  calc (∀ text ∈ numberedTexts causes, '\n' ∉ text)
      ↔ ∀ n ∈ (numberedTexts causes).map (List.count '\n'), n = 0 := by
        simp only [List.forall_mem_map, List.count_eq_zero]
    _ ↔ ∀ cause ∈ causes, cause.breaks = 0 := by rw [map_count_numberedTexts, List.forall_mem_map]
    _ ↔ ∀ cause ∈ causes, ∀ text ∈ cause.details, '\n' ∉ text.toList :=
        forall₂_congr fun cause _ => cause.breaks_eq_zero_iff

theorem lines_message_join (failure next : Failure) (others : List Failure) :
    Text.lines (failure.join (next :: others)).message.toList =
      (numberedTexts (failure.join (next :: others)).causes).flatMap Text.lines := by
  rw [toList_message_join, Text.lines_column]
  simp [numberedTexts, causes]

theorem length_lines_message_join (failure next : Failure) (others : List Failure) :
    (Text.lines (failure.join (next :: others)).message.toList).length =
      (failure.join (next :: others)).causes.length +
        ((failure.join (next :: others)).causes.map Cause.breaks).sum := by
  rw [lines_message_join, Text.length_flatMap_lines, map_count_numberedTexts, numberedTexts,
    List.length_map, List.length_zipIdx]

/-- The lines in which causes are reported. -/
structure IsNumbered (causes : List Cause) (lines : List (List Char)) : Prop where
  /-- They are the lines of the first cause behind its number, then those of the second, and so on.
  -/
  lines_eq : lines = (numberedTexts causes).flatMap Text.lines
  /-- There are as many as there are causes, and line breaks in the texts that the causes carry. -/
  length_eq : lines.length = causes.length + (causes.map Cause.breaks).sum
  /-- Each cause has one line, behind its number, exactly if no text that a cause carries has a line
  break. -/
  alone_iff : lines = numberedTexts causes ↔
    ∀ cause ∈ causes, ∀ text ∈ cause.details, '\n' ∉ text.toList

/-- **A joined failure is reported cause by cause**, and every line break in a cause makes one line
more. -/
theorem joined_is_numbered (failure next : Failure) (others : List Failure) :
    IsNumbered (failure.join (next :: others)).causes
      (Text.lines (failure.join (next :: others)).message.toList) where
  lines_eq := lines_message_join failure next others
  length_eq := length_lines_message_join failure next others
  alone_iff := by
    rw [lines_message_join, Text.flatMap_lines_eq_self_iff, forall_numberedTexts_iff]

end Failure

/-! ### More lines than causes -/

namespace Sample

/-- The sample failure of a missing object is recognized by its phrase. -/
theorem notAuthorized_eq (object : String) : notAuthorized object =
    .single (.notAuthorized
      ("SQL compilation error:\nObject '" ++ object ++ "' does not exist or not authorized.")) := by
  have ending : Text.fold "' does not exist or not authorized.".toList =
      "' ".toList ++ Failure.notAuthorizedPhrase.toList ++ ".".toList := by
    decide
  have mentioned : Failure.mentions
      ("SQL compilation error:\nObject '" ++ object ++ "' does not exist or not authorized.")
      Failure.notAuthorizedPhrase = true := by
    rw [Failure.mentions_iff Failure.isSearchable_notAuthorizedPhrase, String.toList_append,
      Text.fold_append, ending, ← List.append_assoc, ← List.append_assoc]
    exact List.infix_append _ _ _
  rw [notAuthorized, Failure.ofBackend, if_pos mentioned]

/-- A missing object is reported on two lines, and with a missing database behind it on three. -/
theorem more_lines_than_causes :
    let failure := (notAuthorized "T").join [.notFound "DB1"]
    failure.causes.length = 2 ∧ (Text.lines failure.message.toList).length = 3 ∧
      Text.lines failure.message.toList ≠ Failure.numberedTexts failure.causes := by
  intro failure
  have two : failure.causes.length = 2 := by
    show ((notAuthorized "T").join [.notFound "DB1"]).causes.length = 2
    rw [notAuthorized_eq]
    rfl
  have one : (failure.causes.map Cause.breaks).sum = 1 := by
    show (((notAuthorized "T").join [.notFound "DB1"]).causes.map Cause.breaks).sum = 1
    rw [notAuthorized_eq]
    decide
  have three : (Text.lines failure.message.toList).length = 3 := by
    rw [Failure.length_lines_message_join, two, one]
  refine ⟨two, three, fun same => ?_⟩
  rw [same, Failure.numberedTexts, List.length_map, List.length_zipIdx, two] at three
  exact absurd three (by decide)

end Sample

end WarehouseAdmin
