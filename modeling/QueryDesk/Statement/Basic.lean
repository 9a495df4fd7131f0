import QueryDesk.Dialect
import QueryDesk.Filter.Value
import QueryDesk.Sql.Fragment

/-!
# Statements

A statement is put together from pieces: text that stands as it is, and parameters. A value that is
bound gets a slot of its own, in the order in which values are bound, and a parameter names a slot.
Only in the text of the finished statement the parameters become placeholders, numbered in the order
of the text, each with the value of its slot. So the clauses may bind in any order, and a slot may be
named more than once. Main statements: the text and the slots of two piece lists behind each other
are those of the parts, the placeholders of the second counting on from the first.
-/

namespace QueryDesk

@[ext]
structure Statement where
  sql : String
  params : List Value
deriving DecidableEq, Inhabited

structure Bindings where
  values : List Value
deriving DecidableEq, Inhabited

namespace Bindings

def none : Bindings := ⟨[]⟩

/-- Binds a value to the next slot. -/
def bind (b : Bindings) (v : Value) : Nat × Bindings := (b.values.length, ⟨b.values ++ [v]⟩)

/-- The value of a slot; a slot that was never given out holds null. -/
def value (b : Bindings) (slot : Nat) : Value := b.values.getD slot .null

end Bindings

inductive Piece where
  | sql (text : String)
  | param (slot : Nat)
deriving DecidableEq

namespace Piece

/-- The text of some pieces; `n` placeholders stand in front of it. -/
def textAfter (d : Dialect) (n : Nat) : List Piece → String
  | [] => ""
  | sql s :: rest => s ++ textAfter d n rest
  | param _ :: rest => d.placeholder (n + 1) ++ textAfter d (n + 1) rest

/-- The slots of the parameters in the order of the text. -/
def slots : List Piece → List Nat
  | [] => []
  | sql _ :: rest => slots rest
  | param slot :: rest => slot :: slots rest

def between (separator : String) : List (List Piece) → List Piece
  | [] => []
  | [p] => p
  | p :: rest => p ++ sql separator :: between separator rest

def statement (d : Dialect) (b : Bindings) (pieces : List Piece) : Statement :=
  ⟨textAfter d 0 pieces, (slots pieces).map b.value⟩

theorem slots_append (a b : List Piece) : slots (a ++ b) = slots a ++ slots b := by
  induction a with
  | nil => rfl
  | cons p r ih => cases p <;> simp [slots, ih]

theorem textAfter_append (d : Dialect) (n : Nat) (a b : List Piece) :
    textAfter d n (a ++ b) = textAfter d n a ++ textAfter d (n + (slots a).length) b := by
  induction a generalizing n with
  | nil => simp [textAfter, slots]
  | cons p r ih =>
    cases p with
    | sql s => simp [textAfter, slots, ih, String.append_assoc]
    | param i =>
      simp [textAfter, slots, ih, String.append_assoc, Nat.add_assoc, Nat.add_comm]

theorem slots_between (separator : String) (ps : List (List Piece)) :
    slots (between separator ps) = ps.flatMap slots := by
  induction ps with
  | nil => rfl
  | cons p rest ih =>
    cases rest with
    | nil => simp [between]
    | cons q r => simp [between, slots_append, slots, ih]

end Piece

inductive Refusal where
  | blankColumn
  | starWithoutCount
  | blankFilterColumn
  | valueMissing (column operator : String)
  | listEmpty (operator column : String)
  | nothingToInsert
  | nothingToUpdate
  | fragment (cause : Sql.FragmentError)
deriving DecidableEq

namespace Refusal

def message : Refusal → String
  | blankColumn => "Column name cannot be empty"
  | starWithoutCount => "'*' can only be used with COUNT"
  | blankFilterColumn => "Filter column cannot be empty"
  | valueMissing column operator =>
    "Filter on '" ++ column ++ "' with operator " ++ operator ++ " requires a value"
  | listEmpty operator column => operator ++ " list for '" ++ column ++ "' cannot be empty"
  | nothingToInsert => "No values to insert"
  | nothingToUpdate => "No values to update"
  | fragment cause => cause.message

/-- Every refusal is a fault of the request. -/
def failure (r : Refusal) : Failure := .validation r.message

end Refusal

/-! ### Binding on the way -/

/-- Puts something together and binds values meanwhile. What was bound before a refusal stays
bound. -/
abbrev Assembly (α : Type) := ExceptT Refusal (StateM Bindings) α

namespace Assembly

variable {α β : Type}

/-- The outcome, with all that is bound then. -/
def outcome (p : Assembly α) (b : Bindings) : Except Refusal α × Bindings := p.run.run b

def bound (v : Value) : Assembly Piece := do
  let (slot, b) := (← get).bind v
  set b
  pure (.param slot)

def statement (p : Assembly (List Piece)) (d : Dialect) (b : Bindings) : Except Refusal Statement :=
  match p.outcome b with
  | (.ok pieces, b) => .ok (Piece.statement d b pieces)
  | (.error e, _) => .error e

theorem outcome_pure (a : α) (b : Bindings) : (pure a : Assembly α).outcome b = (.ok a, b) := rfl

theorem outcome_bound (v : Value) (b : Bindings) :
    (bound v).outcome b = (.ok (.param b.values.length), ⟨b.values ++ [v]⟩) := rfl

theorem outcome_throw (e : Refusal) (b : Bindings) :
    (throw e : Assembly α).outcome b = (.error e, b) := rfl

theorem outcome_bind (p : Assembly α) (f : α → Assembly β) (b : Bindings) :
    (p >>= f).outcome b =
      match p.outcome b with
      | (.ok a, b) => (f a).outcome b
      | (.error e, b) => (.error e, b) := by
  simp only [outcome, ExceptT.run_bind, StateT.run_bind]
  rcases StateT.run p.run b with ⟨r, b'⟩
  cases r <;> rfl

end Assembly

/-- How a call on something under construction went, with what the call left of it. -/
inductive Attempt (α : Type) where
  | done (next : α)
  | refused (cause : Refusal) (left : α)
deriving DecidableEq

namespace Attempt

variable {α : Type}

/-- What the call left, whether it was refused or not. -/
def left : Attempt α → α
  | done a => a
  | refused _ a => a

/-- What came of a call that was not refused. -/
def toExcept : Attempt α → Except Refusal α
  | done a => .ok a
  | refused e _ => .error e

end Attempt

end QueryDesk
