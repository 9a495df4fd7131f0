import QueryDesk.Sql.Grammar.Expression

/-!
# Queries

Selections inside expressions: what is selected, from which tables, under which conditions, in
which order.
-/

namespace QueryDesk.Sql

open Rule

/-- Words that begin the next clause and are no alias of a column. -/
def notColumnAlias : List String := [
  "WITH", "EXPLAIN", "ANALYZE", "SELECT", "WHERE", "GROUP", "SORT", "HAVING", "ORDER", "TOP",
  "LATERAL", "VIEW", "LIMIT", "OFFSET", "FETCH", "UNION", "EXCEPT", "EXCLUDE", "INTERSECT", "MINUS",
  "CLUSTER", "DISTRIBUTE", "RETURNING", "FROM", "INTO", "END"]

/-- Words that begin the next clause and are no alias of a table. -/
def notTableAlias : List String := [
  "WITH", "EXPLAIN", "ANALYZE", "SELECT", "WHERE", "GROUP", "SORT", "HAVING", "WINDOW", "ORDER",
  "PIVOT", "UNPIVOT", "TOP", "LATERAL", "VIEW", "LIMIT", "OFFSET", "FETCH", "UNION", "EXCEPT",
  "INTERSECT", "MINUS", "ON", "JOIN", "INNER", "CROSS", "FULL", "LEFT", "RIGHT", "NATURAL", "USING",
  "CLUSTER", "DISTRIBUTE", "GLOBAL", "ANTI", "SEMI", "RETURNING", "ASOF", "MATCH_CONDITION", "OUTER",
  "SET", "QUALIFY", "END", "FOR", "PARTITION", "PREWHERE", "SETTINGS", "FORMAT", "CONNECT", "SAMPLE",
  "TABLESAMPLE", "FROM", "OPEN", "STRAIGHT_JOIN", "FORCE", "USE", "IGNORE"]

def optionalAlias (reserved : List String) : Rule Bool := do
  let explicit ← keyword "AS"
  match ← peek with
  | some (.word w quote) =>
    if explicit || quote.isSome || !reserved.contains (Text.uppercase w) then
      let _ ← next
      pure true
    else pure false
  | some (.text .plain _) | some (.text .double _) =>
    let _ ← next
    pure true
  | _ => if explicit then mismatch else pure false

def selectItem (below : Rules) : Rule Unit := do
  let bareFrom := keywordOf (← peek) == "FROM"
  match ← starOrExpr below with
  | .star => pure ()
  | shape =>
    if bareFrom && shape == .identifier then mismatch else
      let _ ← optionalAlias notColumnAlias

def tableAlias : Rule Unit := do
  if ← optionalAlias notTableAlias then
    if ← atSign "(" then
      inParens (commas do
        identifier
        let _ ← attempt (dataType .postgres))

/-- A named or derived table, or joined tables in parentheses. `joined` is the rule for those. -/
def tableFactor (d : Dialect) (below : Rules) (joined : Rule Unit) : Rule Unit := do
  if ← keyword "LATERAL" then
    if ← atSign "(" then
      inParens below.query
      tableAlias
    else
      objectName
      expectSign "("
      arguments d below
      tableAlias
  else if ← atSign "(" then
    let derived ← attempt do
      inParens below.query
      tableAlias
    match derived with
    | some _ => pure ()
    | none =>
      inParens joined
      tableAlias
  else if d == .postgres && keywordOf (← peek) == "UNNEST" then
    let _ ← next
    inParens (commas (below.expr 0))
    let _ ← keywords ["WITH", "ORDINALITY"]
    tableAlias
  else
    objectName
    if ← sign "(" then arguments d below
    let _ ← keywords ["WITH", "ORDINALITY"]
    tableAlias

/-- One further join: its kind, its table and its condition. -/
def joinTail (d : Dialect) (below : Rules) (factor : Rule Unit) : Rule Bool := do
  let condition : Rule Bool := do
    factor
    if ← keyword "ON" then
      let _ ← below.expr 0
    else if ← keyword "USING" then
      inParens (commas objectName)
    pure true
  if ← keywords ["CROSS", "JOIN"] then
    factor
    pure true
  else
    let natural ← keyword "NATURAL"
    let found ← (do
      if ← keyword "JOIN" then pure true
      else if ← keyword "INNER" then
        expectKeyword "JOIN"
        pure true
      else
        match ← oneOf ["LEFT", "RIGHT", "FULL"] with
        | some _ =>
          let _ ← keyword "OUTER"
          expectKeyword "JOIN"
          pure true
        | none => if d == .mysql then keyword "STRAIGHT_JOIN" else pure false : Rule Bool)
    if found then
      if natural then
        factor
        pure true
      else condition
    else if natural then mismatch
    else pure false

def joinedTables (d : Dialect) (below : Rules) : Rule Unit := do
  let factor := tableFactor d below below.table
  factor
  repeated (joinTail d below factor)

def groupBy (below : Rules) : Rule Unit := do
  if ← keyword "ALL" then pure () else
    commas do
      if ← keywords ["GROUPING", "SETS"] then
        inParens (commas do
          if ← atSign "(" then
            inParens do
              if ← atSign ")" then pure () else commas (below.expr 0)
          else
            let _ ← below.expr 0)
      else
        let _ ← below.expr 0
  if ← keyword "WITH" then
    match ← oneOf ["ROLLUP", "CUBE", "TOTALS"] with
    | some _ => pure ()
    | none => mismatch

def selection (d : Dialect) (below : Rules) : Rule Unit := do
  expectKeyword "SELECT"
  match ← oneOf ["ALL", "DISTINCT"] with
  | some "DISTINCT" => if ← keyword "ON" then inParens (commas (below.expr 0))
  | _ => pure ()
  let empty ← (do
    if d == .postgres then atKeyword "FROM" else pure false : Rule Bool)
  if empty then pure () else commas (selectItem below)
  if ← keyword "FROM" then commas (joinedTables d below)
  if ← keyword "WHERE" then
    let _ ← below.expr 0
  if ← keywords ["GROUP", "BY"] then groupBy below
  if ← keyword "HAVING" then
    let _ ← below.expr 0
  if ← keyword "WINDOW" then
    commas do
      identifier
      expectKeyword "AS"
      inParens (windowSpec below)

/-- A selection, a query in parentheses, rows of values, or a whole table. -/
def queryPrimary (d : Dialect) (below : Rules) : Rule Unit := do
  if ← atKeyword "SELECT" then selection d below
  else if ← atSign "(" then inParens below.query
  else if ← keyword "VALUES" then
    commas do
      let _ ← keyword "ROW"
      inParens do
        if d == .mysql then
          if ← atSign ")" then pure () else commas (below.expr 0)
        else commas (below.expr 0)
  else if ← keyword "TABLE" then objectName
  else mismatch

def queryBody (d : Dialect) (below : Rules) : Rule Unit := do
  queryPrimary d below
  repeated do
    match ← oneOf ["UNION", "EXCEPT", "INTERSECT", "MINUS"] with
    | some _ =>
      let _ ← oneOf ["ALL", "DISTINCT"]
      queryPrimary d below
      pure true
    | none => pure false

/-- A query with a name in front of another query. -/
def namedQuery (below : Rules) : Rule Unit := do
  identifier
  if ← atSign "(" then inParens (commas identifier)
  expectKeyword "AS"
  let _ ← keyword "NOT"
  let _ ← keyword "MATERIALIZED"
  inParens below.query

def offsetTail (below : Rules) : Rule Unit := do
  let _ ← below.expr 0
  let _ ← oneOf ["ROW", "ROWS"]

def limitClause (d : Dialect) (below : Rules) : Rule Unit := do
  let early ← keyword "OFFSET"
  if early then offsetTail below
  if ← keyword "LIMIT" then
    if ← keyword "ALL" then pure () else
      let _ ← below.expr 0
    let pair ← (do
      if d == .mysql && !early then sign "," else pure false : Rule Bool)
    if pair then
      let _ ← below.expr 0
    else if !early then
      if ← keyword "OFFSET" then offsetTail below

def fetchClause (below : Rules) : Rule Unit := do
  if ← keyword "FETCH" then
    let _ ← oneOf ["FIRST", "NEXT"]
    match ← oneOf ["ROW", "ROWS"] with
    | some _ => pure ()
    | none =>
      let _ ← below.expr 0
      let _ ← keyword "PERCENT"
      let _ ← oneOf ["ROW", "ROWS"]
    if ← keyword "ONLY" then pure () else
      expectKeyword "WITH"
      expectKeyword "TIES"

def lockClause : Rule Bool := do
  if ← keyword "FOR" then
    match ← oneOf ["UPDATE", "SHARE"] with
    | none => mismatch
    | some _ =>
      if ← keyword "OF" then objectName
      if ← keyword "NOWAIT" then pure () else
        let _ ← keywords ["SKIP", "LOCKED"]
      pure true
  else pure false

/-- A query. -/
def query (d : Dialect) (below : Rules) : Rule Unit := do
  if ← keyword "WITH" then
    let _ ← keyword "RECURSIVE"
    commas (namedQuery below)
  queryBody d below
  if ← keywords ["ORDER", "BY"] then commas (orderItem below)
  limitClause d below
  fetchClause below
  repeated lockClause

end QueryDesk.Sql
