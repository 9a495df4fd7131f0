import QueryDesk.Column.Kind

/-!
# Filter operators

The closed set of operators, their written form, and which of them a column type is offered.
-/

namespace QueryDesk

inductive Operator where
  | eq
  | differs
  | bangEq
  | gt
  | ge
  | lt
  | le
  | like
  | notLike
  | contains
  | notContains
  | isIn
  | notIn
  | isNull
  | isNotNull
deriving DecidableEq, Inhabited

/-- What a column of text is searched with when no operator is given. -/
inductive TextDefault where
  | like
  | contains
deriving DecidableEq

namespace Operator

/-- The written form, in statements and in filter texts. -/
def symbol : Operator → String
  | eq => "="
  | differs => "<>"
  | bangEq => "!="
  | gt => ">"
  | ge => ">="
  | lt => "<"
  | le => "<="
  | like => "LIKE"
  | notLike => "NOT LIKE"
  | contains => "CONTAINS"
  | notContains => "NOT CONTAINS"
  | isIn => "IN"
  | notIn => "NOT IN"
  | isNull => "IS NULL"
  | isNotNull => "IS NOT NULL"

def label : Operator → String
  | eq => "equals"
  | differs => "not equal"
  | bangEq => "not equal"
  | gt => "greater than"
  | ge => "greater than or equal"
  | lt => "less than"
  | le => "less than or equal"
  | like => "like"
  | notLike => "not like"
  | contains => "contains"
  | notContains => "not contains"
  | isIn => "in list"
  | notIn => "not in list"
  | isNull => "is null"
  | isNotNull => "is not null"

def all : List Operator :=
  [eq, differs, bangEq, gt, ge, lt, le, like, notLike, contains, notContains, isIn, notIn, isNull,
    isNotNull]

def ofSymbol? (s : String) : Option Operator := all.find? (·.symbol == s)

def isNullCheck : Operator → Bool
  | isNull | isNotNull => true
  | _ => false

def takesValue (o : Operator) : Bool := !o.isNullCheck

def isList : Operator → Bool
  | isIn | notIn => true
  | _ => false

def isPattern : Operator → Bool
  | like | notLike | contains | notContains => true
  | _ => false

/-- The operators a column of a declared type is offered. -/
def offered (declared : String) : List Operator :=
  if ColumnKind.isNumber declared then [eq, differs, gt, ge, lt, le, isIn, notIn, isNull, isNotNull]
  else if ColumnKind.isDate declared then [eq, differs, gt, ge, lt, le, isNull, isNotNull]
  else if ColumnKind.isBoolean declared then [eq, differs, isNull, isNotNull]
  else [eq, differs, like, notLike, contains, notContains, isIn, notIn, isNull, isNotNull]

/-- The operator of a column when none is given: equality, unless the column holds text. -/
def default (declared : Option String) (whenText : TextDefault) : Operator :=
  if declared.any ColumnKind.isText then
    match whenText with
    | .like => like
    | .contains => contains
  else eq

theorem ofSymbol?_symbol (o : Operator) : ofSymbol? o.symbol = some o := by
  cases o <;> decide

end Operator

end QueryDesk
