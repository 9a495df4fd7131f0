import QueryDesk.Text.Blank
import QueryDesk.Text.Case

/-!
# Kinds of column types

A declared type counts as text, number or date by its name, outer blanks and letter case aside. A
name in no list is of no kind.
-/

namespace QueryDesk.ColumnKind

/-- Types of character data, and of what is shown as such. -/
def textTypes : List String := [
  "char", "varchar", "binary", "varbinary", "blob", "tinytext", "text", "mediumtext", "longtext",
  "enum", "set", "character", "character varying", "citext", "uuid", "xml", "json", "jsonb", "name"]

def numberTypes : List String := [
  "tinyint", "smallint", "mediumint", "int", "integer", "bigint", "decimal", "numeric", "float",
  "double", "real", "double precision", "serial", "bigserial", "smallserial", "money"]

def dateTypes : List String := [
  "date", "time", "datetime", "timestamp", "year", "time without time zone",
  "time with time zone", "timestamp without time zone", "timestamp with time zone", "interval"]

/-- A type name as it is looked up. -/
def normal (declared : String) : String := Text.lowercase (Text.trimmed declared)

def isText (declared : String) : Bool := textTypes.contains (normal declared)

def isNumber (declared : String) : Bool := numberTypes.contains (normal declared)

def isDate (declared : String) : Bool := dateTypes.contains (normal declared)

/-- Truth values; here blanks are not left aside. -/
def isBoolean (declared : String) : Bool :=
  Text.sameLetters declared "boolean" || Text.sameLetters declared "bool"

end QueryDesk.ColumnKind
