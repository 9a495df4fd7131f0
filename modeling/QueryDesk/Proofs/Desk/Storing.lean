import QueryDesk.Desk.Inspection
import QueryDesk.Proofs.Archive.Refinement
import QueryDesk.Proofs.Text.Case
import QueryDesk.Schema.Catalog

/-!
# Catalogs in the archive

An inspection reads a catalog, makes one snapshot of each table and puts the snapshots in the
archive, where tables go by their names in lower case. Main statement: the inspection of a
registered datasource ends ready, with one row for each table of the catalog, exactly if the names
of the tables are distinct in lower case; otherwise it fails, and the tables stay as they were.
-/

namespace QueryDesk

/-! ### Names of snapshots -/

theorem Catalog.map_table_snapshots (c : Catalog) (now : Instant) :
    (c.snapshots now).map (·.table) = c.tables.map Text.lowercase := by
  simp only [snapshots, References.attach, compose, List.map_map, Function.comp_def]

/-- The names of a catalog are in lower case before they come to the archive. -/
theorem Catalog.names_snapshots (c : Catalog) (now : Instant) :
    Ledger.names (c.snapshots now) = c.tables.map Text.lowercase := by
  have hnames : Ledger.names (c.snapshots now) =
      ((c.snapshots now).map (·.table)).map Text.lowercase := by
    rw [Ledger.names, List.map_map]
    rfl
  rw [hnames, map_table_snapshots, List.map_map]
  exact List.map_congr_left fun t _ => Text.lowercase_lowercase t

theorem Catalog.length_snapshots (c : Catalog) (now : Instant) :
    (c.snapshots now).length = c.tables.length := by
  rw [← List.length_map (f := (·.table)), map_table_snapshots, List.length_map]

namespace Archive

open StoreRequest (run)

variable {a : Archive} {m : Ledger} {id : String}

def statusCell (a : Archive) (id : String) : Option Cell :=
  (a.datasources.find? (hasId id)).map (·.cell "status")

/-- The names in the rows of the tables of a datasource. -/
def tableNames (a : Archive) (id : String) : List Cell :=
  (a.tables.filter (ownedBy id)).map (·.cell "name")

theorem Represents.statusCell_eq (h : a.Represents m) (id : String) :
    a.statusCell id = (m id).map fun e => .text e.datasource.status.name := by
  rw [statusCell, h.datasources]
  cases m id <;> rfl

theorem Represents.tableNames_eq (h : a.Represents m) (id : String) :
    a.tableNames id = (m.snapshotsOf id).map fun y => .text y.table := by
  rw [tableNames]
  generalize m.snapshotsOf id = ys, a.tables.filter (ownedBy id) = rows, h.tables id = hrows
  induction hrows with
  | nil => rfl
  | cons hr _ ih =>
    obtain ⟨key, x, rfl, rfl, -⟩ := hr
    rw [List.map_cons, List.map_cons, ih, cell_name_tableRow]
    rfl

/-! ### Inspections -/

variable {ω : Type}

/-- Surroundings that keep an archive and leave any other call to `others`. -/
def serve (clock : ω → Instant) (others : (c : DeskCall) → ω → c.Reply × ω) :
    (c : DeskCall) → Archive × ω → c.Reply × (Archive × ω)
  | .load id, (a, w) => (a.get id, a, w)
  | .snapshots id tables, (a, w) => (a.snapshots id tables, a, w)
  | .save d, (a, w) => ((a.save d).1, (a.save d).2, w)
  | .setStatus id status, (a, w) => ((a.setStatus id status).1, (a.setStatus id status).2, w)
  | .replace id xs, (a, w) => ((a.replace id xs).1, (a.replace id xs).2, w)
  | .stamp id, (a, w) => (.ok (), a.markInspected id (clock w), w)
  | c, (a, w) => ((others c w).1, a, (others c w).2)

/-- What an inspection makes of the archive, once the snapshots are read. -/
def inspected (a : Archive) (id : String) (xs : List Snapshot) (moment : Instant) :
    Except Failure Nat × Archive :=
  match a.replace id xs with
  | (.ok (), b) => (.ok xs.length, ((b.markInspected id moment).setStatus id .ready).2)
  | (.error e, b) => (.error e, (b.setStatus id .failed).2)

theorem run_andThen {α β σ : Type} (answer : (c : DeskCall) → σ → c.Reply × σ) (p : DeskProgram α)
    (f : α → DeskProgram β) (s : σ) :
    (p.andThen f).run answer s = (f (p.run answer s).1).run answer (p.run answer s).2 :=
  Program.run_bind answer p f s

theorem run_inspection (clock : ω → Instant) (others : (c : DeskCall) → ω → c.Reply × ω)
    (d : Datasource) (config : ConnectionConfig) (a : Archive) {w w₁ w₂ : ω} {link : Nat}
    {xs : List Snapshot} (opened : others (.connect d.dialect config) w = (.ok link, w₁))
    (read : others (.inspect link) w₁ = (.ok xs, w₂)) :
    let w₃ := (others (.close link) w₂).2
    (Desk.inspection d config).run (serve clock others) (a, w) =
      ((a.inspected d.id xs (clock w₃)).1, (a.inspected d.id xs (clock w₃)).2,
        (others (.release d.id) w₃).2) := by
  intro w₃
  have hread : (Desk.readSnapshots d.dialect config).run (serve clock others) (a, w) =
      (.ok xs, a, w₃) := by
    simp only [Desk.readSnapshots, Program.run_bind, DeskProgram.connect, DeskProgram.inspect,
      DeskProgram.close, Program.call, Program.run, serve, opened, read, w₃]
    rfl
  have hrefresh : (Desk.refresh d config).run (serve clock others) (a, w) =
      match a.replace d.id xs with
      | (.ok (), b) => (.ok xs.length, b.markInspected d.id (clock w₃), w₃)
      | (.error e, b) => (.error e, b, w₃) := by
    rw [Desk.refresh, DeskTask.followedBy, run_andThen, hread]
    rcases hreplace : a.replace d.id xs with ⟨e | u, b⟩
    · simp only [DeskTask.followedBy, run_andThen, DeskProgram.replace, Program.call, Program.run,
        serve, hreplace]
    · simp only [DeskTask.followedBy, run_andThen, DeskProgram.replace, DeskProgram.stamp,
        DeskTask.ofExcept, Program.call, Program.run, serve, hreplace]
  rw [Desk.inspection, Program.run_bind, hrefresh, inspected]
  rcases a.replace d.id xs with ⟨e | u, b⟩
  · rfl
  · rfl

/-! ### What is stored -/

variable {e : StoreEntry} {xs : List Snapshot}

theorem Represents.replace_eq_ok (h : a.Represents m) (he : m id = some e) :
    (a.replace id xs).1 = .ok () ↔ (Ledger.names xs).Nodup := by
  rw [(h.replace id xs).1, Ledger.replace, he]
  by_cases hnames : (Ledger.names xs).Nodup
  · simp [hnames]
  · simp [hnames]

theorem Represents.inspected_of_nodup (h : a.Represents m) (he : m id = some e)
    (hnames : (Ledger.names xs).Nodup) (moment : Instant) :
    (a.inspected id xs moment).1 = .ok xs.length ∧
      (a.inspected id xs moment).2.Represents (m.set id
        ⟨{ e.datasource with lastInspected := some moment, status := .ready },
          xs.map Store.stored⟩) := by
  have hledger : m.replace id xs =
      (.ok (), m.set id { e with snapshots := xs.map Store.stored }) := by
    rw [Ledger.replace, he]
    exact if_pos hnames
  obtain ⟨hreply, hafter, -⟩ := h.replace id xs
  rw [hledger] at hreply hafter
  rcases hreplace : a.replace id xs with ⟨r, b⟩
  rw [hreplace] at hreply hafter
  cases hreply
  have hready := ((hafter.markInspected id moment).setStatus id .ready).2
  simp only [Ledger.markInspected, Ledger.setStatus, Ledger.set_self, Ledger.set_set] at hready
  rw [inspected, hreplace]
  exact ⟨rfl, hready⟩

theorem Represents.inspected_of_twice (h : a.Represents m) (he : m id = some e)
    (hnames : ¬(Ledger.names xs).Nodup) (moment : Instant) :
    (a.inspected id xs moment).1 = .error Store.tableTwice ∧
      (a.inspected id xs moment).2.Represents (m.set id
        { e with datasource := { e.datasource with status := .failed } }) := by
  have hledger : m.replace id xs = (.error Store.tableTwice, m) := by
    rw [Ledger.replace, he]
    exact if_neg hnames
  obtain ⟨hreply, hafter, -⟩ := h.replace id xs
  rw [hledger] at hreply hafter
  rcases hreplace : a.replace id xs with ⟨r, b⟩
  rw [hreplace] at hreply hafter
  cases hreply
  have hfailed := (hafter.setStatus id .failed).2
  simp only [Ledger.setStatus, he] at hfailed
  rw [inspected, hreplace]
  exact ⟨rfl, hfailed⟩

/-- Whatever was asked of the archive before: when an inspection of a registered datasource reads a
catalog, its snapshots are accepted exactly if the names of its tables are distinct in lower case.
Then it ends ready with as many snapshots as the catalog has tables, and these are the tables that
the datasource has; else it fails, and the datasource keeps its tables. -/
theorem inspection_of_catalog (qs : List StoreRequest) (d : Datasource) (config : ConnectionConfig)
    (c : Catalog) (now : Instant) (clock : ω → Instant)
    (others : (c : DeskCall) → ω → c.Reply × ω) (w w₁ w₂ : ω) (link : Nat)
    (registered : (run answer empty qs).2.get d.id ≠ .ok none)
    (opened : others (.connect d.dialect config) w = (.ok link, w₁))
    (read : others (.inspect link) w₁ = (.ok (c.snapshots now), w₂)) :
    let a := (run answer empty qs).2
    let ended := (Desk.inspection d config).run (serve clock others) (a, w)
    ((a.replace d.id (c.snapshots now)).1 = .ok () ↔ (c.tables.map Text.lowercase).Nodup) ∧
    ((c.tables.map Text.lowercase).Nodup →
      ended.1 = .ok c.tables.length ∧
      ended.2.1.statusCell d.id = some (.text "READY") ∧
      ended.2.1.tableNames d.id = c.tables.map fun t => .text (Text.lowercase t)) ∧
    (¬(c.tables.map Text.lowercase).Nodup →
      ended.1 = .error Store.tableTwice ∧
      ended.2.1.statusCell d.id = some (.text "FAILED") ∧
      ended.2.1.tableNames d.id = a.tableNames d.id) := by
  intro a ended
  have hrep : a.Represents (run Ledger.answer Ledger.empty qs).2 := represents_run qs
  obtain ⟨e, he⟩ := Option.ne_none_iff_exists'.1 (mt (hrep.get_eq_none d.id).2 registered)
  have hrun := run_inspection clock others d config a opened read
  have hnames := c.names_snapshots now
  refine ⟨?_, fun hnodup => ?_, fun htwice => ?_⟩
  · rw [hrep.replace_eq_ok he, hnames]
  · rw [← hnames] at hnodup
    obtain ⟨hresult, hafter⟩ := hrep.inspected_of_nodup he hnodup
      (clock (others (.close link) w₂).2)
    have hstored : ((c.snapshots now).map Store.stored).map (fun y => Cell.text y.table) =
        (Ledger.names (c.snapshots now)).map .text := by
      simp only [Ledger.names, List.map_map, Function.comp_def, Store.stored]
    refine ⟨?_, ?_, ?_⟩
    · simp only [ended, hrun, hresult, c.length_snapshots]
    · simp only [ended, hrun, hafter.statusCell_eq, Ledger.set_self, Option.map_some]
      rfl
    · simp only [ended, hrun, hafter.tableNames_eq, Ledger.snapshotsOf_set_self, hstored, hnames,
        List.map_map, Function.comp_def]
  · rw [← hnames] at htwice
    obtain ⟨hresult, hafter⟩ := hrep.inspected_of_twice he htwice
      (clock (others (.close link) w₂).2)
    refine ⟨?_, ?_, ?_⟩
    · simp only [ended, hrun, hresult]
    · simp only [ended, hrun, hafter.statusCell_eq, Ledger.set_self, Option.map_some]
      rfl
    · simp only [ended, hrun, hafter.tableNames_eq, Ledger.snapshotsOf_set_self,
        hrep.tableNames_eq, Ledger.snapshotsOf_of_some he]

/-- Connections that read these snapshots, and nothing else. -/
def reading (xs : List Snapshot) : (c : DeskCall) → Unit → c.Reply × Unit
  | .load _, u | .snapshots _ _, u | .save _, u | .setStatus _ _, u | .replace _ _, u
  | .stamp _, u | .check _, u | .execute _ _, u => (.error .closed, u)
  | .claim _, u | .isClosed _, u => (true, u)
  | .release _, u => (u, u)
  | .connect _ _, u => (.ok 0, u)
  | .inspect _, u => (.ok xs, u)
  | .close _, u => (.ok (), u)

theorem inspection_of_catalog_mixed_case :
    let c : Catalog := ⟨["Users", "ORDERS"], [], [], []⟩
    let ended := (Desk.inspection harbour (harbour.config none)).run
      (serve (fun _ => ⟨0, 0⟩) (reading (c.snapshots ⟨0, 0⟩)))
      ((run answer empty [.save harbour]).2, ())
    ended.1 = .ok 2 ∧ ended.2.1.statusCell "h" = some (.text "READY") ∧
      ended.2.1.tableNames "h" = [.text "users", .text "orders"] := by
  have hregistered : (run answer empty [.save harbour]).2.get harbour.id ≠ .ok none := by
    rw [Ne, (represents_run [.save harbour]).get_eq_none]
    exact Option.some_ne_none _
  have hnodup : (["Users", "ORDERS"].map Text.lowercase).Nodup := by decide +kernel
  have hended := (inspection_of_catalog [.save harbour] harbour (harbour.config none)
    ⟨["Users", "ORDERS"], [], [], []⟩ ⟨0, 0⟩ (fun _ => ⟨0, 0⟩)
    (reading (Catalog.snapshots ⟨["Users", "ORDERS"], [], [], []⟩ ⟨0, 0⟩)) () () () 0 hregistered
    rfl rfl).2.1 hnodup
  have hlower : Text.lowercase "Users" = "users" ∧ Text.lowercase "ORDERS" = "orders" := by
    decide +kernel
  intro c ended
  refine ⟨hended.1, hended.2.1, hended.2.2.trans ?_⟩
  simp only [List.map_cons, List.map_nil, hlower]

/-- Two tables whose names differ in case alone make a whole database unreadable. -/
theorem names_that_meet_refused :
    let c : Catalog := ⟨["Users", "users"], [], [], []⟩
    let a := (run answer empty [.save harbour]).2
    let ended := (Desk.inspection harbour (harbour.config none)).run
      (serve (fun _ => ⟨0, 0⟩) (reading (c.snapshots ⟨0, 0⟩))) (a, ())
    c.tables.Nodup ∧ a.get "h" ≠ .ok none ∧
      (a.replace "h" (c.snapshots ⟨0, 0⟩)).1 ≠ .ok () ∧ ended.1 = .error Store.tableTwice ∧
      ended.2.1.statusCell "h" = some (.text "FAILED") ∧ ended.2.1.tableNames "h" = [] := by
  have hrep := represents_run [.save harbour]
  have hentry : (run Ledger.answer Ledger.empty [.save harbour]).2 "h" = some ⟨harbour, []⟩ := rfl
  have hnames :
      ¬(Ledger.names (Catalog.snapshots ⟨["Users", "users"], [], [], []⟩ ⟨0, 0⟩)).Nodup := by
    rw [Catalog.names_snapshots]
    decide +kernel
  intro c a ended
  have hrun : ended = ((a.inspected "h" (c.snapshots ⟨0, 0⟩) ⟨0, 0⟩).1,
      (a.inspected "h" (c.snapshots ⟨0, 0⟩) ⟨0, 0⟩).2, ()) :=
    run_inspection (fun _ => ⟨0, 0⟩) (reading (c.snapshots ⟨0, 0⟩)) harbour (harbour.config none) a
      rfl rfl
  obtain ⟨hresult, hafter⟩ := hrep.inspected_of_twice hentry hnames ⟨0, 0⟩
  refine ⟨by decide, ?_, ?_, ?_, ?_, ?_⟩
  · rw [Ne, hrep.get_eq_none, hentry]
    exact Option.some_ne_none _
  · exact mt (hrep.replace_eq_ok hentry).1 hnames
  · rw [hrun]
    exact hresult
  · rw [hrun]
    exact (hafter.statusCell_eq "h").trans (by rw [Ledger.set_self]; rfl)
  · rw [hrun]
    exact (hafter.tableNames_eq "h").trans (by rw [Ledger.snapshotsOf_set_self]; rfl)

end Archive

end QueryDesk
