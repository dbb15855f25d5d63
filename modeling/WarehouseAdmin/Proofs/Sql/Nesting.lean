import WarehouseAdmin.Sql.Nesting
import Mathlib.Data.List.Basic

/-!
# Histories of a nesting

While a statement is written, objects are entered and left one inside the other.  The nesting does
not rely on that: it may be asked to enter, to leave and for an error in any order and as often as
one likes, and not every clause that is left has been entered.

What a request does to the stack is a *move*: an object goes on the stack, or the innermost one
comes off.  A way in and the way out that belongs to it have balanced moves between them, and this
alone tells which objects are still to be left.  The stack is the objects of the ways in that no way
out belongs to (`replay_eq`).  The ways out that belong to no way in are what makes the induction
over the moves work: they take off what was on the stack before.

## Main definitions

* `Move`, `Move.Balanced`, `Move.Closes`, `Move.pending` — changes of the stack, and what they leave
  on it.
* `Request`, `after`, `moves` — what a nesting is asked, and the moves that come of it.
* `IsBoundedStack` — the stack and its limit behind any requests.

## Main statements

* `Move.replay_eq` — the stack behind any moves.
* `after_is_bounded_stack` — the laws of the stack hold behind any requests.
-/

namespace WarehouseAdmin.Nesting

variable {place : Nesting} {object : String}

/-! ## Places and the limit -/

/-- Whether the place lies within the limit. -/
def InBounds (place : Nesting) : Prop :=
  place.depth ≤ place.limit

theorem length_path : place.path.length = place.depth := by
  simp [path, depth]

/-- A place one object further on the way lies one clause deeper. -/
theorem depth_of_path_eq {inside : Nesting} (h : inside.path = place.path ++ [object]) :
    inside.depth = place.depth + 1 := by
  rw [← length_path, h, List.length_append, length_path]
  rfl

theorem enter_of_depth_eq (h : place.depth = place.limit) :
    place.enter object = .error (.tooDeep place.path (place.limit + 1) place.limit) := by
  rw [enter, if_pos (by omega), h]

/-- Below the limit a clause can be entered; the place inside it is within the limit, and one object
further on the way. -/
theorem exists_enter_eq (object : String) (h : place.depth < place.limit) :
    ∃ inside, place.enter object = .ok inside ∧ inside.limit = place.limit ∧ inside.InBounds ∧
      inside.path = place.path ++ [object] ∧ inside.current = object := by
  refine ⟨_, if_neg (by omega), rfl, h, ?_, rfl⟩
  simp [path]

theorem enter_eq_ok_iff {inside : Nesting} : place.enter object = .ok inside ↔
    place.depth < place.limit ∧ inside = { place with objects := object :: place.objects } := by
  rw [enter]
  split
  next full => simp [Nat.not_lt.mpr full]
  next room => simp [Nat.lt_of_not_le room, eq_comm]

/-- Entering is refused at the limit only. -/
theorem depth_eq_of_enter_eq_error {error : SqlError} (bound : place.InBounds)
    (refused : place.enter object = .error error) : place.depth = place.limit := by
  refine Nat.le_antisymm bound (Nat.not_lt.mp fun room => ?_)
  obtain ⟨inside, entered, -⟩ := exists_enter_eq object room
  simp [entered] at refused

theorem leave_of_path_eq_nil (outside : place.path = []) : place.leave = place := by
  obtain ⟨limit, objects⟩ := place
  obtain rfl : objects = [] := List.reverse_eq_nil_iff.mp outside
  rfl

/-- The current object is the last one on the way. -/
theorem current_eq (place : Nesting) : place.current = place.path.getLast?.getD "<root>" := by
  rw [current, path, List.getLast?_reverse]

/-! ## Moves -/

/-- A change of the stack. -/
inductive Move where
  /-- An object goes on the stack. -/
  | into (object : String)
  /-- The innermost object comes off the stack, if there is one. -/
  | out

namespace Move

variable {moves inner rest : List Move}

/-- Every way in has its way out behind it and every way out its way in before it, one inside the
other. -/
inductive Balanced : List Move → Prop
  | nil : Balanced []
  | pair {object : String} {inner rest : List Move} (within : Balanced inner)
      (behind : Balanced rest) :
      Balanced (.into object :: (inner ++ .out :: rest))

/-- The moves behind a way in have the way out in them that belongs to it: the one with balanced
moves between the two. -/
def Closes (moves : List Move) : Prop :=
  ∃ inner rest, moves = inner ++ .out :: rest ∧ Balanced inner

/-- The number of ways out that belong to no way in. -/
def surplus : List Move → Nat
  | [] => 0
  | .into _ :: moves => surplus moves - 1
  | .out :: moves => surplus moves + 1

theorem Balanced.surplus_append (h : Balanced inner) (rest : List Move) :
    surplus (inner ++ rest) = surplus rest := by
  induction h generalizing rest with
  | nil => rfl
  | @pair object inner behind _ _ within_ih behind_ih =>
      have split : Move.into object :: (inner ++ .out :: behind) ++ rest =
          .into object :: (inner ++ .out :: (behind ++ rest)) := by
        simp
      rw [split, surplus, within_ih, surplus, behind_ih, Nat.add_sub_cancel]

/-- **A way out that is left over is the way out of the place in front.** -/
theorem closes_iff : Closes moves ↔ 0 < surplus moves := by
  constructor
  · rintro ⟨inner, rest, rfl, balanced⟩
    rw [balanced.surplus_append, surplus]
    exact Nat.succ_pos _
  · intro left
    induction n : moves.length using Nat.strongRecOn generalizing moves with
    | ind n ih =>
      subst n
      match moves with
      | [] => simp [surplus] at left
      | .out :: rest => exact ⟨[], rest, rfl, .nil⟩
      | .into object :: moves =>
          -- One way out is used up by the way in here, and another one is left behind it.
          rw [surplus] at left
          obtain ⟨inner, rest, rfl, balanced⟩ := ih moves.length (by simp) (by omega) rfl
          rw [balanced.surplus_append, surplus] at left
          obtain ⟨inner', rest', rfl, balanced'⟩ := ih rest.length (by simp; omega) (by omega) rfl
          exact ⟨.into object :: (inner ++ .out :: inner'), rest', by simp,
            .pair balanced balanced'⟩

instance (moves : List Move) : Decidable (Closes moves) :=
  decidable_of_iff (0 < surplus moves) closes_iff.symm

/-- The objects of the ways in that no way out belongs to, in order. -/
def pending : List Move → List String
  | [] => []
  | .into object :: moves => if Closes moves then pending moves else object :: pending moves
  | .out :: moves => pending moves

/-- The stack behind moves, innermost object first. -/
def replay (objects : List String) : List Move → List String
  | [] => objects
  | .into object :: moves => replay (object :: objects) moves
  | .out :: moves => replay objects.tail moves

theorem replay_append (objects : List String) (moves more : List Move) :
    replay objects (moves ++ more) = replay (replay objects moves) more := by
  induction moves generalizing objects with
  | nil => rfl
  | cons move moves ih =>
      cases move with
      | into object => exact ih (object :: objects)
      | out => exact ih objects.tail

/-- **Moves leave what is pending on the stack**, on top of what their surplus ways out have not
taken off. -/
theorem replay_eq (objects : List String) (moves : List Move) :
    replay objects moves = (pending moves).reverse ++ objects.drop (surplus moves) := by
  induction moves generalizing objects with
  | nil => rfl
  | cons move moves ih =>
      cases move with
      | out => rw [replay, ih, pending, surplus, List.drop_tail]
      | into object =>
          rw [replay, ih, pending, surplus]
          by_cases closes : Closes moves
          · obtain ⟨n, left⟩ := Nat.exists_eq_succ_of_ne_zero (Nat.ne_of_gt (closes_iff.mp closes))
            rw [if_pos closes, left]
            rfl
          · have none : surplus moves = 0 := by simpa [closes_iff] using closes
            rw [if_neg closes, none]
            simp

/-- The first way out takes an outer object off, and the last one belongs to the last way in. -/
example : replay ["T", "S"] [.out, .into "A", .into "B", .out] = ["A", "S"] := by decide

/-- Balanced moves leave the stack as it was. -/
theorem Balanced.replay_eq (h : Balanced moves) (objects : List String) :
    replay objects moves = objects := by
  induction h generalizing objects with
  | nil => rfl
  | pair _ _ within behind => rw [replay, replay_append, within, replay, behind, List.tail_cons]

end Move

/-! ## Requests -/

/-- What a nesting can be asked. -/
inductive Request where
  /-- To enter a clause. -/
  | enter (object : String)
  /-- To leave the innermost clause. -/
  | leave
  /-- For the error that a field of the innermost clause is a misfit. -/
  | misfit (field directive value : String)

namespace Request

/-- The nesting behind a request.  It stays as it is when entering is refused. -/
def applyTo (place : Nesting) : Request → Nesting
  | enter object =>
    match place.enter object with
    | .ok inside => inside
    | .error _ => place
  | leave => place.leave
  | misfit _ _ _ => place

/-- The move that comes of a request, if one does. -/
def move? (place : Nesting) : Request → Option Move
  | enter object =>
    match place.enter object with
    | .ok _ => some (.into object)
    | .error _ => none
  | leave => some .out
  | misfit _ _ _ => none

/-- **A request changes the stack by its move only**, and never passes the limit. -/
theorem applyTo_eq (request : Request) (bound : place.InBounds) :
    (request.applyTo place).limit = place.limit ∧ (request.applyTo place).InBounds ∧
      (request.applyTo place).objects = Move.replay place.objects (request.move? place).toList := by
  cases request with
  | misfit => exact ⟨rfl, bound, rfl⟩
  | leave => exact ⟨rfl, Nat.le_trans (by simp [Nesting.leave, applyTo, depth]) bound, rfl⟩
  | enter object =>
      rcases Nat.eq_or_lt_of_le bound with full | room
      · rw [applyTo, move?, enter_of_depth_eq full]
        exact ⟨rfl, bound, rfl⟩
      · obtain ⟨inside, entered, limit, bound', further, -⟩ := exists_enter_eq object room
        rw [applyTo, move?, entered]
        exact ⟨limit, bound', List.reverse_inj.mp (further.trans List.reverse_cons.symm)⟩

end Request

/-- The nesting behind requests that begin outside of all clauses. -/
def after (limit : Nat) (requests : List Request) : Nesting :=
  requests.foldl Request.applyTo (outermost limit)

/-- The moves that come of requests at a place. -/
def moves (place : Nesting) : List Request → List Move
  | [] => []
  | request :: requests => (request.move? place).toList ++ moves (request.applyTo place) requests

/-- **Requests change the stack by their moves only.** -/
theorem foldl_applyTo_eq (requests : List Request) (bound : place.InBounds) :
    (requests.foldl Request.applyTo place).limit = place.limit ∧
      (requests.foldl Request.applyTo place).InBounds ∧
      (requests.foldl Request.applyTo place).objects =
        Move.replay place.objects (moves place requests) := by
  induction requests generalizing place with
  | nil => exact ⟨rfl, bound, rfl⟩
  | cons request requests ih =>
      obtain ⟨limit, bound', objects⟩ := request.applyTo_eq bound
      obtain ⟨limit', bound'', objects'⟩ := ih bound'
      refine ⟨limit'.trans limit, bound'', ?_⟩
      rw [List.foldl_cons, objects', objects, moves, Move.replay_append]

theorem after_append (limit : Nat) (requests more : List Request) :
    after limit (requests ++ more) = more.foldl Request.applyTo (after limit requests) := by
  simp [after]

theorem inBounds_outermost (limit : Nat) : (outermost limit).InBounds :=
  Nat.zero_le limit

theorem limit_after (limit : Nat) (requests : List Request) :
    (after limit requests).limit = limit :=
  (foldl_applyTo_eq requests (inBounds_outermost limit)).1

theorem inBounds_after (limit : Nat) (requests : List Request) : (after limit requests).InBounds :=
  (foldl_applyTo_eq requests (inBounds_outermost limit)).2.1

/-- The way to the place behind requests is what is pending of their moves. -/
theorem path_after (limit : Nat) (requests : List Request) :
    (after limit requests).path = Move.pending (moves (outermost limit) requests) := by
  have objects := (foldl_applyTo_eq requests (inBounds_outermost limit)).2.2
  rw [Move.replay_eq] at objects
  rw [path, after, objects]
  simp [outermost]

/-- Requests whose moves are balanced lead back to where they began. -/
theorem foldl_applyTo_of_balanced {requests : List Request} (bound : place.InBounds)
    (balanced : Move.Balanced (moves place requests)) :
      requests.foldl Request.applyTo place = place := by
  obtain ⟨limit, -, objects⟩ := foldl_applyTo_eq requests bound
  rw [balanced.replay_eq] at objects
  cases place
  exact congrArg₂ Nesting.mk limit objects

/-! ## The laws of the stack -/

/-- The laws of the stack behind requests that begin outside of all clauses. -/
structure IsBoundedStack (limit : Nat) (requests : List Request) (place : Nesting) : Prop where
  /-- The limit is kept, and the depth does not exceed it. -/
  bounded : place.limit = limit ∧ place.depth ≤ limit
  /-- A clause can be entered exactly below the limit. -/
  enters_iff : ∀ object, (∃ inside, place.enter object = .ok inside) ↔ place.depth < limit
  /-- The object of a clause that is entered goes on the stack. -/
  entered : ∀ object inside, place.enter object = .ok inside →
    after limit (requests ++ [.enter object]) = inside ∧ inside.path = place.path ++ [object]
  /-- When entering is refused, the error tells the objects on the stack, which are as many as the
  limit, and one more than that as the depth.  The stack stays as it is. -/
  refused : ∀ object error, place.enter object = .error error →
    error = .tooDeep place.path (limit + 1) limit ∧ place.path.length = limit ∧
      after limit (requests ++ [.enter object]) = place
  /-- Outside of all clauses, leaving changes nothing. -/
  outside : place.path = [] → after limit (requests ++ [.leave]) = place
  /-- An error that a field is a misfit changes nothing. -/
  asked : ∀ field directive value, after limit (requests ++ [.misfit field directive value]) = place
  /-- On the stack are the objects that have been entered and that no way out belongs to, in order.
  -/
  pending : place.path = Move.pending (moves (outermost limit) requests)
  /-- The current object is the last of them. -/
  current : place.current = (Move.pending (moves (outermost limit) requests)).getLast?.getD "<root>"
  /-- Requests whose moves are balanced restore the place. -/
  restored : ∀ more, Move.Balanced (moves place more) → after limit (requests ++ more) = place

/-- **A nesting is a bounded stack**, whatever it is asked. -/
theorem after_is_bounded_stack (limit : Nat) (requests : List Request) :
    IsBoundedStack limit requests (after limit requests) := by
  have step (request : Request) :
      after limit (requests ++ [request]) = request.applyTo (after limit requests) := by
    rw [after_append, List.foldl_cons, List.foldl_nil]
  have bound := inBounds_after limit requests
  have kept := limit_after limit requests
  have path := path_after limit requests
  have restored (more : List Request)
      (balanced : Move.Balanced (moves (after limit requests) more)) :
      after limit (requests ++ more) = after limit requests := by
    rw [after_append]
    exact foldl_applyTo_of_balanced bound balanced
  generalize after limit requests = place at step bound kept path restored
  subst kept
  refine ⟨⟨rfl, bound⟩, fun object => ?_, fun object inside entered => ?_,
    fun object error refused => ?_, fun outside => ?_, fun _ _ _ => step _, path, ?_, restored⟩
  · simp [enter_eq_ok_iff]
  · rw [step, Request.applyTo, entered]
    obtain ⟨-, rfl⟩ := enter_eq_ok_iff.mp entered
    exact ⟨rfl, List.reverse_cons⟩
  · have full := depth_eq_of_enter_eq_error bound refused
    rw [step, Request.applyTo, refused, length_path]
    rw [enter_of_depth_eq full] at refused
    exact ⟨(Except.error.inj refused).symm, full, rfl⟩
  · rw [step, Request.applyTo, leave_of_path_eq_nil outside]
  · rw [current_eq, path]

end WarehouseAdmin.Nesting
