import QueryDesk.Filter.Notation
import QueryDesk.Json.Record
import QueryDesk.Statement.Mutation

/-!
# JSON forms of filters

How values, columns, filters and assignments are read from messages and written into answers.
-/

namespace QueryDesk

open Json (Reader Field)

namespace Value

/-- A scalar: an integer that fits 64 bits is one, any other number is a float. -/
def reader : Reader Value
  | .null => .ok .null
  | .bool b => .ok (.bool b)
  | .int n =>
    .ok (if Int64.minValue.toInt ≤ n ∧ n ≤ Int64.maxValue.toInt then .int (Int64.ofInt n) else .float (Binary64.ofInt n))
  | .float x => .ok (.float x)
  | .str s => .ok (.text s)
  | d => .error (if d.value?.isSome then .mismatch else .brokenText)

def toJson : Value → Json
  | null => .null
  | bool b => .bool b
  | int n => .int n.toInt
  | float x => .ofFloat x
  | text s => .str s

end Value

namespace Operand

def reader : Reader Operand :=
  Json.record ⟨.null, false⟩ [
    Field.required "value" Value.reader fun v o => { o with value := v },
    Field.defaulted "is_column" Reader.bool fun b o => { o with isColumn := b }]

def toJson (o : Operand) : Json :=
  .obj [("value", o.value.toJson), ("is_column", .bool o.isColumn)]

end Operand

def Operator.reader : Reader Operator := Reader.name Operator.ofSymbol?

def Operator.toJson (o : Operator) : Json := .str o.symbol

def ColumnFunction.reader : Reader ColumnFunction := Reader.textAs ColumnFunction.ofName?

def ColumnFunction.toJson (f : ColumnFunction) : Json := .str f.name

/-- A dialect by a name as it is stored. -/
def Dialect.reader : Reader Dialect := Reader.name Dialect.ofName?

namespace SelectedColumn

def reader : Reader SelectedColumn :=
  Json.record (plain "") [
    Field.required "value" Reader.text fun s c => { c with value := s },
    Field.defaulted "fn" (Reader.optional ColumnFunction.reader) fun f c => { c with function := f },
    Field.defaulted "distinct" Reader.bool fun b c => { c with distinct := b }]

def toJson (c : SelectedColumn) : Json :=
  .obj ([("value", .str c.value)] ++ Json.optional "fn" ColumnFunction.toJson c.function
    ++ [("distinct", .bool c.distinct)])

end SelectedColumn

namespace Filter

def reader : Reader Filter :=
  Json.record (Filter.on "" .eq []) [
    Field.defaulted "id" Reader.text fun s f => { f with id := s },
    Field.required "column" Reader.text fun s f => { f with column := s },
    Field.required "operator" Operator.reader fun o f => { f with operator := o },
    Field.defaulted "value" (Reader.list Operand.reader) fun vs f => { f with operands := vs },
    Field.defaulted "is_enabled" Reader.bool fun b f => { f with enabled := b },
    Field.defaulted "fn" (Reader.optional ColumnFunction.reader) fun g f => { f with function := g }]

def toJson (f : Filter) : Json :=
  .obj ([("id", .str f.id), ("column", .str f.column), ("operator", f.operator.toJson),
    ("value", .arr (f.operands.map (·.toJson))), ("is_enabled", .bool f.enabled)]
    ++ Json.optional "fn" ColumnFunction.toJson f.function)

end Filter

def Assignment.reader : Reader Assignment :=
  Json.record ⟨"", .null⟩ [
    Field.required "column" Reader.text fun s a => { a with column := s },
    Field.required "value" Value.reader fun v a => { a with value := v }]

/-- The members of a reading: operator and operands. -/
def Notation.Reading.members (r : Notation.Reading) : List (String × Json) :=
  [("operator", r.operator.toJson), ("value", .arr (r.operands.map (·.toJson)))]

end QueryDesk
