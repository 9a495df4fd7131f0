import QueryDesk.Json.Doc
import QueryDesk.Postgres.Numeric
import QueryDesk.Text.Utf8
import QueryDesk.Time.Instant

/-!
# Cells of PostgreSQL

The binary form of values and the JSON values they are shown as. A value that cannot be decoded is
shown as the name of its type in angle brackets, and so is every value of a type that has no JSON
form.
-/

namespace QueryDesk.Postgres

inductive CellType where
  | bool
  | int2
  | int4
  | int8
  | oid
  | float4
  | float8
  | numeric
  | timestamp
  | timestamptz
  | date
  | time
  | json
  | jsonb
  | uuid
  | text
  | varchar
  | bpchar
  | name
  | unknown
  /-- A type without JSON form. -/
  | other (typeName : String)
deriving DecidableEq, Inhabited

namespace CellType

def typeName : CellType → String
  | bool => "bool"
  | int2 => "int2"
  | int4 => "int4"
  | int8 => "int8"
  | oid => "oid"
  | float4 => "float4"
  | float8 => "float8"
  | numeric => "numeric"
  | timestamp => "timestamp"
  | timestamptz => "timestamptz"
  | date => "date"
  | time => "time"
  | json => "json"
  | jsonb => "jsonb"
  | uuid => "uuid"
  | text => "text"
  | varchar => "varchar"
  | bpchar => "bpchar"
  | name => "name"
  | unknown => "unknown"
  | other n => n

def known : List CellType :=
  [bool, int2, int4, int8, oid, float4, float8, numeric, timestamp, timestamptz, date, time, json,
    jsonb, uuid, text, varchar, bpchar, name, unknown]

def ofName (s : String) : CellType := (known.find? (·.typeName == s)).getD (other s)

/-! ### Decoding -/

def sized (count : Nat) (f : List UInt8 → Option Json) (bytes : List UInt8) : Option Json :=
  if bytes.length = count then f bytes else none

def textOf? (bytes : List UInt8) : Option String :=
  (Text.ofUtf8? (bytes.map (·.toNat))).map String.ofList

/-- The first second of the year 2000, from which instants and days are counted. -/
def epochSeconds : Int := 946684800

/-- The instant some microseconds after the epoch, if it lies in a year that dates can have. -/
def instant? (micros : Int) : Option Instant :=
  let t : Instant := ⟨epochSeconds + micros / 1000000, (micros % 1000000).toNat * 1000⟩
  if Date.yearInRange t.date.year then some t else none

def date? (days : Int) : Option Date :=
  let d := Date.ofDays (epochSeconds / 86400 + days)
  if Date.yearInRange d.year then some d else none

/-- The time of day some microseconds after midnight; days are passed over. -/
def clock (micros : Int) : String :=
  let micros := (micros % 86400000000).toNat
  Instant.clockText (micros / 1000000) (micros % 1000000 * 1000)

def uuidText (bytes : List UInt8) : String :=
  let digits (bs : List UInt8) : String :=
    String.ofList (bs.flatMap fun b => [Json.hexDigit (b.toNat / 16), Json.hexDigit (b.toNat % 16)])
  let part (start count : Nat) : String := digits ((bytes.drop start).take count)
  part 0 4 ++ "-" ++ part 4 2 ++ "-" ++ part 6 2 ++ "-" ++ part 8 2 ++ "-" ++ part 10 6

def decode? (t : CellType) (bytes : List UInt8) : Option Json :=
  let signed (bs : List UInt8) : Option Json := some (.int (Number.bigEndianSigned bs))
  match t with
  | bool => sized 1 (fun bs => some (.bool (Number.bigEndian bs != 0))) bytes
  | int2 => sized 2 signed bytes
  | int4 => sized 4 signed bytes
  | int8 => sized 8 signed bytes
  | oid => sized 4 (fun bs => some (.int (Number.bigEndian bs))) bytes
  | float4 =>
    sized 4 (fun bs =>
      some (.ofFloat (Binary64.ofBits32 (UInt32.ofNat (Number.bigEndian bs))))) bytes
  | float8 => sized 8 (fun bs => some (.ofFloat ⟨UInt64.ofNat (Number.bigEndian bs)⟩)) bytes
  | numeric => (decodeNumeric bytes).toOption.map .str
  | timestamp =>
    sized 8 (fun bs =>
      (instant? (Number.bigEndianSigned bs)).map fun i => .str (i.textWith " ")) bytes
  | timestamptz =>
    sized 8 (fun bs =>
      (instant? (Number.bigEndianSigned bs)).map fun i => .str (i.textWith "T" ++ "+00:00")) bytes
  | date => sized 4 (fun bs => (date? (Number.bigEndianSigned bs)).map fun d => .str d.text) bytes
  | time => sized 8 (fun bs => some (.str (clock (Number.bigEndianSigned bs)))) bytes
  | json => (textOf? bytes).bind Json.ofText?
  | jsonb =>
    match bytes with
    -- The first byte is the version of the format.
    | 1 :: rest => (textOf? rest).bind Json.ofText?
    | _ => none
  | uuid => sized 16 (fun bs => some (.str (uuidText bs))) bytes
  | text | varchar | bpchar | name | unknown => (textOf? bytes).map .str
  | other _ => none

/-- What is shown for a value that is not decoded. -/
def mark (t : CellType) : Json := .str ("<" ++ t.typeName ++ ">")

/-- A cell as it is shown; one without a value is null. -/
def cell (t : CellType) (bytes : Option (List UInt8)) : Json :=
  match t, bytes with
  -- Not even a null is shown for what it is.
  | other _, _ => t.mark
  | _, none => .null
  | _, some bs => (t.decode? bs).getD t.mark

theorem ofName_typeName : ∀ t ∈ known, ofName t.typeName = t := by decide

end CellType

end QueryDesk.Postgres
