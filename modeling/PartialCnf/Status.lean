/-!
Three-valued truth. A variable's value is an `Option Bool`: `none` while unassigned. A clause
or a formula under a partial assignment is falsified, undetermined or satisfied. The Kleene
connectives say how statuses join; `conjoin` is the one-pass loop that joins many of them.
-/

namespace PartialCnf

/-- A variable's value: `some b` once assigned, `none` before. -/
abbrev Value := Option Bool

/-- An assignment gives variable `v` (counted from 1) the value at index `v - 1`. -/
abbrev Assignment := Array Value

namespace Value

def toInt : Value → Int
  | some false => -1
  | none => 0
  | some true => 1

def ofInt? : Int → Option Value
  | -1 => some (some false)
  | 0 => some none
  | 1 => some (some true)
  | _ => none

end Value

/-- How a clause or a formula stands under a partial assignment. -/
inductive Status where
  | falsified
  | undetermined
  | satisfied
  deriving DecidableEq, Repr

namespace Status

def toInt : Status → Int
  | .falsified => -1
  | .undetermined => 0
  | .satisfied => 1

/-- The status a value gives a literal that it makes true (`some true`) or false. -/
def ofValue : Value → Status
  | some true => .satisfied
  | some false => .falsified
  | none => .undetermined

def describe : Status → String
  | .falsified => "falsified (-1)"
  | .undetermined => "undetermined (0)"
  | .satisfied => "satisfied (1)"

/-- Kleene disjunction: `satisfied` absorbs, `falsified` is the unit. -/
def or : Status → Status → Status
  | .satisfied, _ => .satisfied
  | _, .satisfied => .satisfied
  | .undetermined, _ => .undetermined
  | _, .undetermined => .undetermined
  | .falsified, .falsified => .falsified

theorem or_comm (a b : Status) : a.or b = b.or a := by
  cases a <;> cases b <;> rfl

theorem or_assoc (a b c : Status) : (a.or b).or c = a.or (b.or c) := by
  cases a <;> cases b <;> cases c <;> rfl

@[simp] theorem falsified_or (a : Status) : Status.falsified.or a = a := by
  cases a <;> rfl

@[simp] theorem or_falsified (a : Status) : a.or .falsified = a := by
  cases a <;> rfl

/-- Kleene conjunction: `falsified` absorbs, `satisfied` is the unit. -/
def and : Status → Status → Status
  | .falsified, _ => .falsified
  | _, .falsified => .falsified
  | .undetermined, _ => .undetermined
  | _, .undetermined => .undetermined
  | .satisfied, .satisfied => .satisfied

theorem and_comm (a b : Status) : a.and b = b.and a := by
  cases a <;> cases b <;> rfl

theorem and_assoc (a b c : Status) : (a.and b).and c = a.and (b.and c) := by
  cases a <;> cases b <;> cases c <;> rfl

@[simp] theorem satisfied_and (a : Status) : Status.satisfied.and a = a := by
  cases a <;> rfl

@[simp] theorem and_satisfied (a : Status) : a.and .satisfied = a := by
  cases a <;> rfl

/-- The conjunction of the statuses `f` gives the items, in one pass in order: a falsified item
ends the pass at once, an undetermined one clears the flag that all were satisfied. -/
def conjoin {α : Type} (f : α → Status) (xs : List α) : Status := Id.run do
  let mut allSat := true
  for x in xs do
    match f x with
    | .satisfied => pure ()
    | .falsified => return .falsified
    | .undetermined => allSat := false
  return if allSat then .satisfied else .undetermined

end Status

end PartialCnf
