import QueryDesk.Filter.Notation
import QueryDesk.Query.Page
import QueryDesk.Query.Request
import QueryDesk.Query.Result

/-!
# Plans

The statement that answers a request. Typed filters become filters by the type of their column,
an order is kept as far as it names what is selected, and without an explicit selection all known
columns of the tables are selected.
-/

namespace QueryDesk

/-! ### Filters -/

namespace ClientFilter

/-- Says something: enabled, on a column, with a text. -/
def isActive (f : ClientFilter) : Bool :=
  f.enabled && !Text.allBlank f.column && f.value != ""

/-- A failed reading, told with the column and the text. -/
def unreadable (f : ClientFilter) (e : Notation.Error) : Failure :=
  ⟨.parse, "Invalid value for '" ++ f.column ++ "': " ++ f.value ++ " (" ++ e.message ++ ")"⟩

/-- The filter that a text stands for: read in the filter notation, or else taken as it is and
matched by the default operator of the column. -/
def toFilter (f : ClientFilter) (schema : Schema) : Except Failure Filter := do
  let declared := schema.declared? f.column
  let filter ←
    if f.advanced then
      match Notation.read f.value declared with
      | .ok r => pure (r.toFilter f.column)
      | .error e => throw (f.unreadable e)
    else
      pure (Filter.on f.column (Operator.default declared .like) [.literal (.text f.value)])
  pure { filter with id := f.id, function := f.function }

/-- The filters of those that say something. -/
def toFilters (fs : List ClientFilter) (schema : Schema) : Except Failure (List Filter) :=
  (fs.filter isActive).mapM (·.toFilter schema)

end ClientFilter

/-! ### Order -/

/-- The target of an entry of the order. Among an explicit selection an entry names a column by its
alias, and a column with a function or DISTINCT is ordered by that alias; other entries are
dropped. -/
def OrderBy.target? (o : OrderBy) (selected : List SelectedColumn) : Option OrderTarget :=
  if selected.isEmpty then some (.column o.column)
  else (selected.find? (·.resultAlias == o.column)).map fun c =>
    if c.function.isSome || c.distinct then .resultAlias o.column else .column o.column

def OrderBy.allowed (os : List OrderBy) (selected : List SelectedColumn) :
    List (OrderTarget × Direction) :=
  os.filterMap fun o => (o.target? selected).map (·, o.direction)

/-! ### Columns of a result -/

/-- A result column with what is known about it: a function points back at its column, any other
column gets its type and references. -/
def ResultColumn.enriched (column : ResultColumn) (selected : List SelectedColumn)
    (schema : Schema) : ResultColumn :=
  match selected.find? fun c => c.function.isSome && c.resultAlias == column.resultAlias with
  | some c =>
    let (table, name) := (Text.splitFirst '.' c.value).getD ("", c.value)
    { column with column := name, table, full := c.value, function := c.function }
  | none =>
    match schema.lookup? column.full with
    | none => column
    | some info =>
      { column with
        declared := some info.declared
        -- A primary key refers to itself, whatever it references.
        reference := if info.isPrimary then some ⟨column.table, column.column⟩ else info.reference
        referencedBy := info.referencedBy }

/-! ### Selections -/

structure SelectPlan where
  select : Select
  page : Page
  columns : List SelectedColumn
deriving DecidableEq

namespace SelectPlan

/-- A refused step is a failed request. -/
def refused {α : Type} : Except Refusal α → Except Failure α
  | .ok a => .ok a
  | .error r => .error r.failure

def addFilter (s : Select) (f : Filter) : Except Failure Select :=
  refused (if f.isAggregate then s.addHaving f else s.addWhere f).toExcept

/-- The columns of a selection: those asked for, or all that are known. -/
def columnsFor (options : QueryOptions) (schema : Schema) : List SelectedColumn :=
  if options.selected.isEmpty then schema.allColumns.map fun c => .plain c.full
  else options.selected

/-- The columns that a search goes through: plain ones that hold text. -/
def searchable (columns : List SelectedColumn) (schema : Schema) : List String :=
  (columns.filter fun c => c.function.isNone && schema.isText c.value).map (·.value)

/-- The plan of a request against the snapshots of its tables. -/
def make (request : SelectRequest) (dialect : Dialect) (defaultSize : Nat) (schema : Schema) :
    Except Failure SelectPlan := do
  let options := request.options
  let page ← Page.window (request.size.getD defaultSize) request.page
  -- The row to spare tells whether another page follows.
  let s := ((Select.ofTable dialect options.table).setLimit (page.size + 1)).setOffset page.offset
  let s ← options.joins.foldlM (fun s j => refused (s.addJoin j).toExcept) s
  let s := (OrderBy.allowed options.orderBy options.selected).foldl
    (fun s (t, d) => s.addOrder t d) s
  let s ← options.groupBy.foldlM (fun s c => refused (s.addGroup c).toExcept) s
  let filters ← ClientFilter.toFilters options.filters schema
  let s ← filters.foldlM addFilter s
  let columns := columnsFor options schema
  let s ← refused (s.setColumns columns).toExcept
  -- The search is bound last, behind the filters.
  let s := match options.searchAll with
    | some term => s.addSearch (searchable columns schema) term
    | none => s
  pure { select := s, page, columns }

/-- The result of a plan from what its statement brought. -/
def result (plan : SelectPlan) (options : QueryOptions) (schema : Schema) (outcome : Outcome) :
    SelectResult :=
  let (rows, hasMore) := plan.page.cut outcome.rows
  { columns := outcome.columns.map (·.enriched plan.columns schema)
    rows
    allColumns := schema.allColumns
    tables := options.tables
    query := outcome.query
    hasMore }

end SelectPlan

/-! ### Other requests -/

def InsertRequest.plan (request : InsertRequest) (dialect : Dialect) : Except Failure Statement :=
  SelectPlan.refused ((Insert.ofTable dialect request.table).setValues request.values).statement

def UpdateRequest.plan (request : UpdateRequest) (dialect : Dialect) : Except Failure Statement :=
  SelectPlan.refused do
    let u := (Update.ofTable dialect request.table).setValues request.values
    let u ← request.filters.foldlM (fun u f => (u.addWhere f).toExcept) u
    u.statement

/-- The selection of a request for one row; a second row is asked for to notice that there are
more. -/
def EntityRequest.plan (request : EntityRequest) (dialect : Dialect) : Except Failure Select :=
  SelectPlan.refused (request.props.foldlM
    (fun s (column, value) => (s.addWhere (Filter.on column .eq [.literal value])).toExcept)
    ((Select.ofTable dialect request.table).setLimit 2))

end QueryDesk
