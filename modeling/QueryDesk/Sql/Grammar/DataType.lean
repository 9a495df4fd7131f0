import QueryDesk.Sql.Grammar.Basic

/-!
# Data types

The types that casts name and that may stand in front of a text. A name of no known type is a type
of the database's own.
-/

namespace QueryDesk.Sql

open Rule

/-- What a type is, as far as it decides what may follow. -/
inductive TypeShape where
  | known
  | interval
  | binary
  | custom
deriving DecidableEq

namespace DataType

def plainNames : List String := [
  "BOOLEAN", "BOOL", "FLOAT4", "FLOAT8", "FLOAT32", "FLOAT64", "INT16", "INT32", "INT64", "INT128",
  "INT256", "UINT8", "UINT16", "UINT32", "UINT64", "UINT128", "UINT256", "UTINYINT", "USMALLINT",
  "UHUGEINT", "UBIGINT", "HUGEINT", "UUID", "DATE", "DATE32", "TINYBLOB", "MEDIUMBLOB", "LONGBLOB",
  "TINYTEXT", "MEDIUMTEXT", "LONGTEXT", "TEXT", "JSON", "JSONB", "REGCLASS", "BYTEA", "TSVECTOR",
  "TSQUERY", "TRIGGER"]

def integerNames : List String := [
  "TINYINT", "INT2", "SMALLINT", "MEDIUMINT", "INT", "INT4", "INT8", "INTEGER", "BIGINT"]

def lengthNames : List String := [
  "VARCHAR", "NVARCHAR", "BINARY", "VARBINARY", "CLOB", "BLOB", "BYTES", "STRING", "VARBIT",
  "DATETIME", "TIMESTAMPTZ", "TIMETZ", "TIMESTAMP_NTZ"]

def geometricNames : List String := ["POINT", "LINE", "LSEG", "BOX", "PATH", "POLYGON", "CIRCLE"]

def optionalLength : Rule Unit := do
  if ← atSign "(" then
    inParens do
      if ← keyword "MAX" then pure () else
        natural
        let _ ← oneOf ["CHARACTERS", "OCTETS"]
        pure ()
  else pure ()

def optionalScale : Rule Unit := do
  if ← atSign "(" then
    inParens do
      natural
      if ← sign "," then
        if ← sign "-" then natural else
          let _ ← sign "+"
          natural
      else pure ()
  else pure ()

def optionalSign : Rule Unit := do
  let _ ← oneOf ["UNSIGNED", "SIGNED"]
  pure ()

def optionalZone : Rule Unit := do
  if ← keyword "WITH" then
    expectKeyword "TIME"
    expectKeyword "ZONE"
  else if ← keyword "WITHOUT" then
    expectKeyword "TIME"
    expectKeyword "ZONE"
  else pure ()

/-- The units that a length of time is stored in. -/
def intervalFields : Rule Unit := do
  match ← oneOf ["YEAR", "DAY", "HOUR", "MINUTE", "MONTH", "SECOND"] with
  | some "YEAR" => if ← keyword "TO" then expectKeyword "MONTH"
  | some "DAY" => smaller ["HOUR", "MINUTE", "SECOND"]
  | some "HOUR" => smaller ["MINUTE", "SECOND"]
  | some "MINUTE" => smaller ["SECOND"]
  | _ => pure ()
where
  smaller (units : List String) : Rule Unit := do
    if ← keyword "TO" then
      match ← oneOf units with
      | some _ => pure ()
      | none => mismatch

/-- The modifiers of a type of the database's own. -/
def modifiers : Rule Unit := do
  if ← sign "(" then
    repeated do
      match ← next with
      | some (.word _ _) => pure true
      | some (.number _) => pure true
      | some (.text .plain _) => pure true
      | some (.sign ",") => pure true
      | some (.sign ")") => pure false
      | _ => mismatch
  else pure ()

/-- A type that begins with the keyword `k`, which has been read. -/
def named (d : Dialect) (k : String) : Rule (Option TypeShape) := do
  let known (p : Rule Unit) : Rule (Option TypeShape) := do
    p
    pure (some TypeShape.known)
  if plainNames.contains k then known (pure ())
  else if integerNames.contains k then known do
    optionalLength
    optionalSign
  else if k == "BINARY" then do
    optionalLength
    pure (some .binary)
  else if lengthNames.contains k then known optionalLength
  else if ["FLOAT", "REAL", "NUMERIC", "DECIMAL", "DEC", "BIGNUMERIC", "BIGDECIMAL"].contains k then
    known do
      optionalScale
      optionalSign
  else if k == "DOUBLE" then known do
    if ← keyword "PRECISION" then optionalSign else
      optionalScale
      optionalSign
  else if k == "CHARACTER" || k == "CHAR" then known do
    if ← keyword "VARYING" then optionalLength
    else if ← keywords ["LARGE", "OBJECT"] then optionalLength
    else optionalLength
  else if k == "BIT" then known do
    let _ ← keyword "VARYING"
    optionalLength
  else if k == "TIMESTAMP" || k == "TIME" then known do
    optionalLength
    optionalZone
  else if k == "INTERVAL" then do
    if d == .postgres then
      intervalFields
      optionalLength
    pure (some .interval)
  else if k == "SIGNED" || k == "UNSIGNED" then known do
    let _ ← keyword "INTEGER"
    pure ()
  else if k == "ENUM" || k == "SET" then known do
    inParens (commas value)
  else if k == "TABLE" then do
    if ← atSign "(" then mismatch else pure (some TypeShape.known)
  else if d == .postgres && geometricNames.contains k then known (pure ())
  else pure none

/-- Brackets behind a type make lists of it in Postgres. -/
def brackets (d : Dialect) : Rule Unit :=
  if d == .postgres then
    repeated do
      if ← sign "[" then
        let _ ← attempt natural
        expectSign "]"
        pure true
      else pure false
  else pure ()

end DataType

def dataType (d : Dialect) : Rule TypeShape := do
  match ← peek with
  | some (.word s quote) =>
    let shape ←
      if quote.isNone then
        let k := Text.uppercase s
        let found ← do
          let saved ← get
          let _ ← next
          match ← DataType.named d k with
          | some shape => pure (some shape)
          | none =>
            set saved
            pure none
        match found with
        | some shape => pure shape
        | none =>
          objectName
          DataType.modifiers
          pure TypeShape.custom
      else
        objectName
        DataType.modifiers
        pure TypeShape.custom
    DataType.brackets d
    pure shape
  | _ => mismatch

end QueryDesk.Sql
