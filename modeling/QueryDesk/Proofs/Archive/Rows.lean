import Mathlib.Data.List.Forall2
import QueryDesk.Archive.Basic
import QueryDesk.Proofs.Json.Reading
import QueryDesk.Proofs.Sequence
import QueryDesk.Proofs.Time.Stamp

/-!
# Rows read back

What is written to the columns of a row is what is read from it: the statements that write and those
that read name the same columns, and each value comes back from its cell.
-/

namespace QueryDesk

/-- A datasource whose port has 16 bits and whose instants can be kept. -/
structure Datasource.IsProper (d : Datasource) : Prop where
  port : ∀ n, d.port = some n → n ≤ 65535
  createdAt : d.createdAt.IsProper
  lastInspected : ∀ t, d.lastInspected = some t → t.IsProper

/-- A snapshot whose instants can be kept. -/
structure Snapshot.IsProper (x : Snapshot) : Prop where
  createdAt : x.createdAt.IsProper
  updatedAt : x.updatedAt.IsProper

namespace Archive

theorem Row.read_eq {α : Type} {r : Row} {take : Cell → Except CellFault α} {i : Nat}
    {name : String} {x : Cell} {a : α} (hcell : r[i]? = some (name, x)) (htake : take x = .ok a) :
    r.read take i = .ok a := by
  rw [Row.read, hcell]
  simp only [htake]

theorem parseInstant_write {t : Instant} (h : t.IsProper) (i : Nat) :
    parseInstant i (Stamp.write t) = .ok t := by
  rw [parseInstant, Stamp.read_stamp h]

/-! ### Datasources -/

def loadedRow (d : Datasource) : Row := loadedColumns.zip (datasourceCells d)

theorem select_datasourceRow (d : Datasource) :
    (datasourceRow d).select loadedColumns = loadedRow d := by
  simp [loadedRow, Row.select, Row.cell, List.lookup_cons, datasourceRow, datasourceCells, loadedColumns,
    savedColumns]

/-- Saving writes over every column of a row but the id and the creation. -/
theorem overwrite_datasourceRow (d e : Datasource) :
    (datasourceRow e).overwrite overwrittenColumns (datasourceRow d) =
      datasourceRow { d with id := e.id, createdAt := e.createdAt } := by
  simp [Row.overwrite, Row.cell, List.lookup_cons, datasourceRow, datasourceCells, overwrittenColumns,
    savedColumns]

theorem overwrite_status (d : Datasource) (status : InspectionStatus) :
    (datasourceRow d).overwrite ["status"] [("status", .text status.name)] =
      datasourceRow { d with status } := by
  simp [Row.overwrite, Row.cell, List.lookup_cons, datasourceRow, datasourceCells, savedColumns]

theorem overwrite_lastInspected (d : Datasource) (t : Instant) :
    (datasourceRow d).overwrite ["last_inspected"] [("last_inspected", instantCell t)] =
      datasourceRow { d with lastInspected := some t } := by
  simp [Row.overwrite, Row.cell, List.lookup_cons, datasourceRow, datasourceCells, savedColumns,
    Cell.ofOption]

theorem cell_id_datasourceRow (d : Datasource) : (datasourceRow d).cell "id" = .text d.id := by
  simp [Row.cell, datasourceRow, datasourceCells, savedColumns]

theorem asBool_ofBool (b : Bool) : Cell.asBool (.ofBool b) = .ok b := by
  cases b <;> rfl

theorem asOptional_ofOption {α : Type} {put : α → Cell} {take : Cell → Except CellFault α}
    (x : Option α) (h : ∀ a, x = some a → take (put a) = .ok a) (hnull : ∀ a, put a ≠ .null) :
    Cell.asOptional take (.ofOption put x) = .ok x := by
  cases x with
  | none => rfl
  | some a =>
    have ha := h a rfl
    cases hput : put a with
    | null => exact absurd hput (hnull a)
    | integer n =>
      rw [hput] at ha
      simp [Cell.ofOption, hput, Cell.asOptional, ha, Except.map]
    | text s =>
      rw [hput] at ha
      simp [Cell.ofOption, hput, Cell.asOptional, ha, Except.map]

theorem asNatUpTo_integer {top n : Nat} (h : n ≤ top) :
    Cell.asNatUpTo top (.integer n) = .ok n := by
  have hbounds : (0 : Int) ≤ n ∧ (n : Int) ≤ top := by omega
  rw [Cell.asNatUpTo, if_pos hbounds]
  rfl

theorem ofText_name (d : Dialect) : Dialect.ofText d.name = .ok d := by
  have hname : Dialect.ofName? (Text.lowercase d.name) = some d := by
    cases d <;> decide
  rw [Dialect.ofText, hname]

/-- A datasource is read from the cells that it is written to. -/
theorem datasourceOf_row {d : Datasource} (h : d.IsProper) :
    datasourceOf ((datasourceRow d).select loadedColumns) = .ok d := by
  have hport : Cell.asOptional (Cell.asNatUpTo 65535)
      (.ofOption (fun (n : Nat) => .integer n) d.port) = .ok d.port :=
    asOptional_ofOption d.port (fun n hn => asNatUpTo_integer (h.port n hn)) (by simp)
  have htexts : ∀ x : Option String,
      Cell.asOptional Cell.asText (.ofOption .text x) = .ok x :=
    fun x => asOptional_ofOption x (fun _ _ => rfl) (by simp)
  have hinstant : Cell.asOptional Cell.asText (.ofOption instantCell d.lastInspected) =
      .ok (d.lastInspected.map Stamp.write) := by
    cases d.lastInspected <;> rfl
  have hlastInspected : parseOptional 13 (d.lastInspected.map Stamp.write) =
      .ok d.lastInspected := by
    cases hd : d.lastInspected with
    | none => rfl
    | some t =>
      rw [Option.map_some, parseOptional, parseInstant_write (h.lastInspected t hd)]
      rfl
  rw [select_datasourceRow]
  -- one column after the other, by its position among those that loading names
  have hid : (loadedRow d).read Cell.asText 0 = .ok d.id := Row.read_eq rfl rfl
  have hname : (loadedRow d).read Cell.asText 1 = .ok d.name := Row.read_eq rfl rfl
  have hdialect : (loadedRow d).read Cell.asText 2 = .ok d.dialect.name := Row.read_eq rfl rfl
  have hurl : (loadedRow d).read Cell.asText 3 = .ok d.url := Row.read_eq rfl rfl
  have hport : (loadedRow d).read (Cell.asOptional (Cell.asNatUpTo 65535)) 4 = .ok d.port :=
    Row.read_eq rfl hport
  have huser : (loadedRow d).read Cell.asText 5 = .ok d.user := Row.read_eq rfl rfl
  have hpassword : (loadedRow d).read (Cell.asOptional Cell.asText) 6 = .ok d.password :=
    Row.read_eq rfl (htexts d.password)
  have hdatabase : (loadedRow d).read Cell.asText 7 = .ok d.database := Row.read_eq rfl rfl
  have hschema : (loadedRow d).read (Cell.asOptional Cell.asText) 8 = .ok d.schema :=
    Row.read_eq rfl (htexts d.schema)
  have hinsert : (loadedRow d).read Cell.asBool 9 = .ok d.allowInsert :=
    Row.read_eq rfl (asBool_ofBool d.allowInsert)
  have hupdate : (loadedRow d).read Cell.asBool 10 = .ok d.allowUpdate :=
    Row.read_eq rfl (asBool_ofBool d.allowUpdate)
  have hstatus : (loadedRow d).read Cell.asText 11 = .ok d.status.name := Row.read_eq rfl rfl
  have hcreated : (loadedRow d).read Cell.asText 12 = .ok (Stamp.write d.createdAt) :=
    Row.read_eq rfl rfl
  have hlast : (loadedRow d).read (Cell.asOptional Cell.asText) 13 =
      .ok (d.lastInspected.map Stamp.write) :=
    Row.read_eq rfl hinstant
  rw [datasourceOf, hdialect, ok_bind, hid, ok_bind, hname, ok_bind, ofText_name]
  simp only [ok_bind, hurl, hport, huser, hpassword, hdatabase, hschema, hinsert, hupdate, hstatus,
    hcreated, hlast, hlastInspected, parseInstant_write h.createdAt, InspectionStatus.ofText_name]
  rfl

/-! ### References -/

open Json (Doc)

def refDoc (r : ColumnRef) : Doc := .obj [("table", .str r.table), ("field", .str r.field)] true

theorem reads_ref {depth : Nat} (hdepth : 1 ≤ depth) (r : ColumnRef) :
    Doc.Reads (depth + 1) r.toJson (refDoc r) := by
  let members : List (String × Json × Doc) :=
    [("table", .str r.table, .str r.table), ("field", .str r.field, .str r.field)]
  have hmembers : ∀ m ∈ members, Doc.Reads depth m.2.1 m.2.2 := by
    intro m hm
    obtain rfl | rfl : m = _ ∨ m = _ := by simpa [members] using hm
    · exact Doc.reads_str depth r.table
    · exact Doc.reads_str depth r.field
  exact Doc.reads_obj hdepth members (by simp [members]) hmembers

theorem reader_refDoc (r : ColumnRef) : ColumnRef.reader (refDoc r) = .ok r := by
  rfl

def optionalDoc : Option ColumnRef → Doc
  | some r => refDoc r
  | none => .null

theorem readFields_defaulted {α β : Type} {fields : List (Json.Field α)} {key : String}
    {take : Json.Reader β} {put : β → α → α} {d : Doc} {v : β} {rest : List (String × Doc)}
    {seen : List String} {a : α}
    (hfield : fields.find? (·.name == key) = some (Json.Field.defaulted key take put))
    (hseen : seen.contains key = false) (htake : take d = .ok v) :
    Json.readFields fields ((key, d) :: rest) seen a =
      Json.readFields fields rest (key :: seen) (put v a) := by
  have hset : (Json.Field.defaulted key take put).set d a = .ok (put v a) :=
    congrArg (Except.map (put · a)) htake
  rw [Json.readFields, hfield]
  simp only [hseen, hset, ok_bind]
  rfl

namespace ColumnMeta

def doc (x : ColumnMeta) : Doc :=
  .obj [("refs", optionalDoc x.reference),
    ("referencedBy", .arr (x.referencedBy.map refDoc) true)] true

theorem reads (x : ColumnMeta) : Doc.Reads 128 x.toJson x.doc := by
  let members : List (String × Json × Doc) :=
    [("refs", Json.ofOption ColumnRef.toJson x.reference, optionalDoc x.reference),
      ("referencedBy", .arr (x.referencedBy.map ColumnRef.toJson),
        .arr (x.referencedBy.map refDoc) true)]
  have hmembers : ∀ m ∈ members, Doc.Reads 127 m.2.1 m.2.2 := by
    intro m hm
    obtain rfl | rfl : m = _ ∨ m = _ := by simpa [members] using hm
    · cases hr : x.reference with
      | none => exact Doc.reads_null 127
      | some r => exact reads_ref (by omega) r
    · exact Doc.reads_arr (by omega) x.referencedBy fun r _ => reads_ref (by omega) r
  exact Doc.reads_obj (by omega) members (by simp [members]) hmembers

theorem reader_doc (x : ColumnMeta) : reader x.doc = .ok x := by
  have hreference : Json.Reader.optional ColumnRef.reader (optionalDoc x.reference) =
      .ok x.reference := by
    cases x.reference <;> rfl
  have hreferenced : Json.Reader.list ColumnRef.reader (.arr (x.referencedBy.map refDoc) true) =
      .ok x.referencedBy := by
    have hitems : (x.referencedBy.map refDoc).mapM ColumnRef.reader = .ok x.referencedBy := by
      apply mapM_eq_ok
      rw [List.forall₂_map_left_iff, List.forall₂_same]
      exact fun r _ => reader_refDoc r
    rw [Json.Reader.list, hitems]
    rfl
  rw [doc, reader, Json.record, readFields_defaulted rfl rfl hreference,
    readFields_defaulted rfl rfl hreferenced]
  rfl

theorem parse_write (x : ColumnMeta) : parse x.toJson.write = .ok x := by
  rw [parse, Json.Reader.whole, Doc.read_whole (reads x)]
  simp only [reader_doc, ok_bind]
  rfl

end ColumnMeta

/-! ### Tables and columns -/

section
variable (key owner : String) (x : Snapshot)

@[simp] theorem cell_id_tableRow : (tableRow key owner x).cell "id" = .text key := rfl

@[simp] theorem cell_owner_tableRow :
    (tableRow key owner x).cell "datasource_id" = .text owner := rfl

@[simp] theorem cell_name_tableRow :
    (tableRow key owner x).cell "name" = .text (Text.lowercase x.table) := rfl

end

section
variable (key table : String) (i : Nat) (c : ColumnInfo)

theorem cell_position_columnRow :
    (columnRow key table i c).cell "position" = .integer i := rfl

/-- A column is read from the cells that it is written to. -/
theorem columnOf_row :
    columnOf ((columnRow key table i c).select ["name", "type", "is_primary", "meta"]) = .ok c := by
  let r := (columnRow key table i c).select ["name", "type", "is_primary", "meta"]
  have hname : r.read Cell.asText 0 = .ok c.name := Row.read_eq rfl rfl
  have hdeclared : r.read Cell.asText 1 = .ok c.declared := Row.read_eq rfl rfl
  have hprimary : r.read Cell.asBool 2 = .ok c.isPrimary :=
    Row.read_eq rfl (asBool_ofBool c.isPrimary)
  have hmeta : r.read Cell.asText 3 =
      .ok (ColumnMeta.toJson ⟨c.reference, c.referencedBy⟩).write := Row.read_eq rfl rfl
  rw [columnOf, hname, ok_bind, hdeclared, ok_bind, hprimary, ok_bind, hmeta, ok_bind,
    ColumnMeta.parse_write]
  rfl

end

end Archive

end QueryDesk
