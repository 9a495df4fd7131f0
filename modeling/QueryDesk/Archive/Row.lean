import QueryDesk.Failure
import QueryDesk.Text.Pieces

/-!
# Rows

Tables as a database keeps them: rows of cells, each cell in a column with a name. A statement names
the columns that it writes or reads; what it reads is taken by position. A row that breaks a rule of
its table is not taken in.
-/

namespace QueryDesk.Archive

inductive Cell where
  | null
  | integer (n : Int)
  | text (s : String)
deriving DecidableEq, Inhabited

inductive CellFault where
  | wrongType
  | outOfRange (n : Int)
deriving DecidableEq

namespace Cell

variable {α : Type}

def ofBool (b : Bool) : Cell := .integer (if b then 1 else 0)

def ofOption (f : α → Cell) : Option α → Cell
  | some a => f a
  | none => .null

def typeName : Cell → String
  | null => "Null"
  | integer _ => "Integer"
  | text _ => "Text"

/-- The order of cells: nulls, then integers, then texts. -/
def before : Cell → Cell → Bool
  | null, _ => true
  | integer _, null => false
  | integer m, integer n => decide (m ≤ n)
  | integer _, text _ => true
  | text s, text t => decide (s ≤ t)
  | text _, _ => false

/-! ### Values of cells -/

def asText : Cell → Except CellFault String
  | text s => .ok s
  | _ => .error .wrongType

/-- Any integer but zero is true. -/
def asBool : Cell → Except CellFault Bool
  | integer n => .ok (n != 0)
  | _ => .error .wrongType

def asNatUpTo (top : Nat) : Cell → Except CellFault Nat
  | integer n => if 0 ≤ n ∧ n ≤ top then .ok n.toNat else .error (.outOfRange n)
  | _ => .error .wrongType

/-- Nothing for a null. -/
def asOptional (read : Cell → Except CellFault α) : Cell → Except CellFault (Option α)
  | null => .ok none
  | x => (read x).map some

end Cell

abbrev Row := List (String × Cell)

namespace Row

variable {α : Type}

def cell (r : Row) (column : String) : Cell := (r.lookup column).getD .null

/-- The row of some columns only, in their order. -/
def select (r : Row) (columns : List String) : Row := columns.map fun c => (c, r.cell c)

/-- The row with some columns as `new` has them. -/
def overwrite (r : Row) (columns : List String) (new : Row) : Row :=
  r.map fun (c, x) => (c, if columns.contains c then new.cell c else x)

/-- Takes a value from the cell at a position. -/
def read (r : Row) (take : Cell → Except CellFault α) (i : Nat) : Except Failure α :=
  match r[i]? with
  | none => .error (.storage ("Invalid column index: " ++ toString i))
  | some (name, x) =>
    match take x with
    | .ok a => .ok a
    | .error .wrongType => .error (.storage ("Invalid column type " ++ x.typeName ++ " at index: "
        ++ toString i ++ ", name: " ++ name))
    | .error (.outOfRange n) => .error (.storage ("Integer " ++ toString n
        ++ " out of range at index " ++ toString i))

/-- How a text at a position cannot be turned into a value. -/
def unconverted (i : Nat) (reason : String) : Failure :=
  .storage ("Conversion error from type Text at index: " ++ toString i ++ ", " ++ reason)

end Row

/-- The rules of a table: the columns in which a row must have a value, and those in which no two
rows may have the same values. -/
structure TableSchema where
  name : String
  required : List String
  keys : List (List String)

namespace TableSchema

/-- Why a row has no place among the rows of the table. -/
def refusal? (t : TableSchema) (rows : List Row) (r : Row) : Option Failure :=
  match t.required.find? fun c => r.cell c == .null with
  | some c => some (.storage ("NOT NULL constraint failed: " ++ t.name ++ "." ++ c))
  | none =>
    (t.keys.find? fun key => rows.any fun x => x.select key == r.select key).map fun key =>
      .storage ("UNIQUE constraint failed: " ++ Text.join ", " (key.map fun c => t.name ++ "." ++ c))

def insert (t : TableSchema) (rows : List Row) (r : Row) : Except Failure (List Row) :=
  match t.refusal? rows r with
  | some e => .error e
  | none => .ok (rows ++ [r])

/-- Takes in a new row, or overwrites some columns of the one that has the same key. -/
def upsert (t : TableSchema) (key : String) (overwritten : List String) (rows : List Row) (r : Row) :
    Except Failure (List Row) :=
  if rows.any fun x => x.cell key == r.cell key then
    .ok (rows.map fun x => if x.cell key = r.cell key then x.overwrite overwritten r else x)
  else t.insert rows r

end TableSchema

namespace Row

/-- Overwrites columns of the rows that meet a condition, and counts these rows. -/
def updateWhere (condition : Row → Bool) (new : Row) (rows : List Row) : List Row × Nat :=
  (rows.map fun r => if condition r then r.overwrite (new.map (·.1)) new else r,
    (rows.filter condition).length)

end Row

end QueryDesk.Archive
