import QueryDesk.Proofs.Archive.Replacing

/-!
# The archive as a map

Whatever is asked of the archive, one request after the other, the answers are those of a map from
ids to datasources and snapshots. Main statements: the archive answers as the ledger does, and a
snapshot is replaced as a whole or not at all.
-/

namespace QueryDesk

inductive StoreRequest where
  | save (d : Datasource)
  | setStatus (id : String) (status : InspectionStatus)
  | markInspected (id : String) (moment : Instant)
  | replace (id : String) (xs : List Snapshot)
  | get (id : String)
  | snapshots (id : String) (tables : List String)

inductive StoreReply where
  | done (r : Except Failure Unit)
  | datasource (r : Except Failure (Option Datasource))
  | snapshots (r : Except Failure (List Snapshot))

namespace StoreRequest

/-- The datasource that a request is about. -/
def target : StoreRequest → String
  | save d => d.id
  | setStatus id _ => id
  | markInspected id _ => id
  | replace id _ => id
  | get id => id
  | snapshots id _ => id

/-- What a request writes can be kept. -/
def IsProper : StoreRequest → Prop
  | save d => d.IsProper
  | markInspected _ t => t.IsProper
  | replace _ xs => ∀ x ∈ xs, x.IsProper
  | _ => True

variable {σ τ : Type}

/-- The replies to some requests, one after the other, and the state behind them. -/
def run (answer : σ → StoreRequest → StoreReply × σ) :
    σ → List StoreRequest → List StoreReply × σ
  | s, [] => ([], s)
  | s, q :: qs =>
    let next := answer s q
    let rest := run answer next.2 qs
    (next.1 :: rest.1, rest.2)

theorem run_related {f : σ → StoreRequest → StoreReply × σ}
    {g : τ → StoreRequest → StoreReply × τ} {R : σ → τ → Prop}
    (hstep : ∀ s t q, R s t → R (f s q).2 (g t q).2) (qs : List StoreRequest) {s : σ} {t : τ}
    (h : R s t) : R (run f s qs).2 (run g t qs).2 := by
  induction qs generalizing s t with
  | nil => exact h
  | cons q qs ih => exact ih (hstep s t q h)

theorem run_replies {f : σ → StoreRequest → StoreReply × σ}
    {g : τ → StoreRequest → StoreReply × τ} {R : σ → τ → Prop}
    (hstep : ∀ s t q, q.IsProper → R s t → (f s q).1 = (g t q).1 ∧ R (f s q).2 (g t q).2)
    (qs : List StoreRequest) (hqs : ∀ q ∈ qs, q.IsProper) {s : σ} {t : τ} (h : R s t) :
    (run f s qs).1 = (run g t qs).1 := by
  induction qs generalizing s t with
  | nil => rfl
  | cons q qs ih =>
    obtain ⟨hreply, hnext⟩ := hstep s t q (hqs q List.mem_cons_self) h
    have hrest := ih (fun q' hq' => hqs q' (List.mem_cons_of_mem q hq')) hnext
    rw [run, run, hreply, hrest]

end StoreRequest

namespace Archive

def answer (a : Archive) : StoreRequest → StoreReply × Archive
  | .save d => (.done (a.save d).1, (a.save d).2)
  | .setStatus id status => (.done (a.setStatus id status).1, (a.setStatus id status).2)
  | .markInspected id moment => (.done (.ok ()), a.markInspected id moment)
  | .replace id xs => (.done (a.replace id xs).1, (a.replace id xs).2)
  | .get id => (.datasource (a.get id), a)
  | .snapshots id tables => (.snapshots (a.snapshots id tables), a)

end Archive

/-- What an entry says can be kept. -/
structure StoreEntry.IsProper (e : StoreEntry) : Prop where
  datasource : e.datasource.IsProper
  snapshots : ∀ y ∈ e.snapshots, y.IsProper

namespace Ledger

def answer (m : Ledger) : StoreRequest → StoreReply × Ledger
  | .save d => (.done (.ok ()), m.save d)
  | .setStatus id status => (.done (m.setStatus id status).1, (m.setStatus id status).2)
  | .markInspected id moment => (.done (.ok ()), m.markInspected id moment)
  | .replace id xs => (.done (m.replace id xs).1, (m.replace id xs).2)
  | .get id => (.datasource (.ok (m.get id)), m)
  | .snapshots id tables => (.snapshots (.ok (m.snapshots id tables)), m)

variable {m : Ledger} {id other : String}

/-- What is stored can be kept. -/
def IsProper (m : Ledger) : Prop := ∀ id e, m id = some e → e.IsProper

theorem isProper_empty : empty.IsProper := by
  intro id e he
  cases he

theorem IsProper.get (h : m.IsProper) {d : Datasource} (hd : m.get id = some d) : d.IsProper := by
  obtain ⟨e, he, rfl⟩ := Option.map_eq_some_iff.1 hd
  exact (h id e he).datasource

theorem IsProper.snapshotsOf (h : m.IsProper) : ∀ y ∈ m.snapshotsOf id, y.IsProper := by
  intro y hy
  cases hm : m id with
  | none =>
    rw [snapshotsOf_of_none hm] at hy
    cases hy
  | some e =>
    rw [snapshotsOf_of_some hm] at hy
    exact (h id e hm).snapshots y hy

theorem stored_isProper {xs : List Snapshot} (h : ∀ x ∈ xs, x.IsProper) :
    ∀ y ∈ xs.map Store.stored, y.IsProper := by
  intro y hy
  obtain ⟨x, hx, rfl⟩ := List.mem_map.1 hy
  exact ⟨(h x hx).createdAt, (h x hx).updatedAt⟩

/-- A request leaves the ledger as it is, or sets the entry of its own datasource. -/
theorem answer_cases (m : Ledger) (q : StoreRequest) :
    (m.answer q).2 = m ∨ ∃ e, (m.answer q).2 = m.set q.target e ∧
      (m.IsProper → q.IsProper → e.IsProper) := by
  cases q with
  | save d =>
    rw [answer, save]
    split
    · rename_i e he
      exact .inr ⟨_, rfl, fun h hq =>
        ⟨⟨hq.port, (h d.id e he).datasource.createdAt, hq.lastInspected⟩, (h d.id e he).snapshots⟩⟩
    · exact .inr ⟨_, rfl, fun _ hq => ⟨hq, by simp⟩⟩
  | setStatus id status =>
    rw [answer, setStatus]
    split
    · rename_i e he
      refine .inr ⟨_, rfl, fun h _ => ⟨?_, (h id e he).snapshots⟩⟩
      obtain ⟨hport, hcreated, hinspected⟩ := (h id e he).datasource
      exact ⟨hport, hcreated, hinspected⟩
    · exact .inl rfl
  | markInspected id moment =>
    rw [answer, markInspected]
    split
    · rename_i e he
      refine .inr ⟨_, rfl, fun h hq => ⟨?_, (h id e he).snapshots⟩⟩
      obtain ⟨hport, hcreated, -⟩ := (h id e he).datasource
      refine ⟨hport, hcreated, fun t ht => ?_⟩
      cases ht
      exact hq
    · exact .inl rfl
  | replace id xs =>
    rw [answer, replace]
    split
    · rename_i e he
      split
      · exact .inr ⟨_, rfl, fun h hq => ⟨(h id e he).datasource, stored_isProper hq⟩⟩
      · exact .inl rfl
    · exact .inl rfl
  | get id => exact .inl rfl
  | snapshots id tables => exact .inl rfl

theorem answer_of_ne (q : StoreRequest) (h : other ≠ q.target) :
    (m.answer q).2 other = m other := by
  rcases m.answer_cases q with hsame | ⟨e, hset, -⟩
  · rw [hsame]
  · rw [hset]
    exact set_of_ne h

theorem IsProper.answer (h : m.IsProper) {q : StoreRequest} (hq : q.IsProper) :
    (m.answer q).2.IsProper := by
  rcases m.answer_cases q with hsame | ⟨e, hset, he⟩
  · rw [hsame]
    exact h
  · rw [hset]
    intro id e' he'
    by_cases hid : id = q.target
    · rw [hid, set_self] at he'
      cases he'
      exact he h hq
    · rw [set_of_ne hid] at he'
      exact h id e' he'

/-- A snapshot takes the place of the one before it, or is refused for its names or its owner. -/
theorem replace_cases (m : Ledger) (id : String) (xs : List Snapshot) :
    ((m.replace id xs).1 = .ok () ∧ (names xs).Nodup ∧ (xs = [] ∨ m id ≠ none) ∧
      (m.replace id xs).2.snapshotsOf id = xs.map Store.stored ∧
      (∀ other ≠ id, (m.replace id xs).2 other = m other) ∧
      ∀ other, (m.replace id xs).2.get other = m.get other) ∨
    ∃ e, (m.replace id xs).1 = .error e ∧ (¬(names xs).Nodup ∨ xs ≠ [] ∧ m id = none) := by
  have hothers : ∀ other ≠ id, (m.replace id xs).2 other = m other :=
    fun other hother => m.answer_of_ne (.replace id xs) hother
  cases hm : m id with
  | none =>
    cases xs with
    | nil =>
      have hreplace : m.replace id [] = (.ok (), m) := by
        rw [replace, hm]
        rfl
      rw [hreplace]
      exact .inl ⟨rfl, List.nodup_nil, .inl rfl, snapshotsOf_of_none hm, fun _ _ => rfl,
        fun _ => rfl⟩
    | cons x xs =>
      refine .inr ⟨Store.noOwner, ?_, .inr ⟨List.cons_ne_nil x xs, rfl⟩⟩
      rw [replace, hm]
      rfl
  | some e =>
    by_cases hnames : (names xs).Nodup
    · have hreplace : m.replace id xs =
          (.ok (), m.set id { e with snapshots := xs.map Store.stored }) := by
        rw [replace, hm]
        exact if_pos hnames
      refine .inl ⟨?_, hnames, .inr (Option.some_ne_none e), ?_, hothers, fun other => ?_⟩
      · rw [hreplace]
      · rw [hreplace, snapshotsOf_set_self]
      · by_cases hother : other = id
        · rw [get, get, hreplace, hother, hm]
          simp only [set_self, Option.map_some]
        · rw [get, hothers other hother, get]
    · refine .inr ⟨Store.tableTwice, ?_, .inl hnames⟩
      rw [replace, hm]
      simp only [if_neg hnames]

end Ledger

namespace Archive

open StoreRequest (run)

variable {a : Archive} {m : Ledger}

theorem Represents.answer (h : a.Represents m) (q : StoreRequest) :
    (a.answer q).2.Represents (m.answer q).2 := by
  cases q with
  | save d => exact (h.save d).2
  | setStatus id status => exact (h.setStatus id status).2
  | markInspected id moment => exact h.markInspected id moment
  | replace id xs => exact (h.replace id xs).2.1
  | get id => exact h
  | snapshots id tables => exact h

theorem Represents.reply (h : a.Represents m) (hm : m.IsProper) (q : StoreRequest) :
    (a.answer q).1 = (m.answer q).1 := by
  cases q with
  | save d => exact congrArg StoreReply.done (h.save d).1
  | setStatus id status => exact congrArg StoreReply.done (h.setStatus id status).1
  | markInspected id moment => rfl
  | replace id xs => exact congrArg StoreReply.done (h.replace id xs).1
  | get id => exact congrArg StoreReply.datasource (h.get_ok fun _ hd => hm.get hd)
  | snapshots id tables =>
    exact congrArg StoreReply.snapshots (h.snapshots_ok hm.snapshotsOf tables)

theorem represents_run (qs : List StoreRequest) :
    (run answer empty qs).2.Represents (run Ledger.answer Ledger.empty qs).2 :=
  StoreRequest.run_related (R := Represents) (fun _ _ q h => h.answer q) qs represents_empty

theorem replies_eq_ledger (qs : List StoreRequest) (h : ∀ q ∈ qs, q.IsProper) :
    (run answer empty qs).1 = (run Ledger.answer Ledger.empty qs).1 := by
  apply StoreRequest.run_replies (R := fun a m => a.Represents m ∧ m.IsProper) _ qs h
    ⟨represents_empty, Ledger.isProper_empty⟩
  intro a m q hq ⟨hrep, hproper⟩
  exact ⟨hrep.reply hproper q, hrep.answer q, hproper.answer hq⟩

/-- The archive answers as the ledger does, and no request shows through another id. -/
theorem answers_eq_ledger (qs : List StoreRequest) (h : ∀ q ∈ qs, q.IsProper) :
    (run answer empty qs).1 = (run Ledger.answer Ledger.empty qs).1 ∧
    ∀ q : StoreRequest, ∀ id ≠ q.target,
      ((run answer empty qs).2.answer q).2.get id = (run answer empty qs).2.get id ∧
      ∀ tables, ((run answer empty qs).2.answer q).2.snapshots id tables =
        (run answer empty qs).2.snapshots id tables := by
  refine ⟨replies_eq_ledger qs h, fun q id hid => ?_⟩
  -- the request leaves the entry of `id` in the ledger, and reading tells of that entry alone
  have hrep := represents_run qs
  exact (hrep.answer q).reads_eq hrep (Ledger.answer_of_ne q hid)

/-- A datasource registered in the last nanosecond of 1969. -/
def harbour : Datasource :=
  { (default : Datasource) with id := "h", port := some 5432, createdAt := ⟨-1, 999999999⟩ }

theorem harbour_isProper : harbour.IsProper where
  port n hn := by
    cases hn
    decide
  createdAt := ⟨by decide, by decide, by decide⟩
  lastInspected t ht := by cases ht

/-- Saved twice, it keeps its first creation; its status is read back, and nobody else has one. -/
theorem answers_eq_ledger_harbour :
    let requests := [StoreRequest.save harbour, .save { harbour with createdAt := ⟨0, 0⟩ },
      .setStatus "h" .failed, .setStatus "j" .failed, .get "h"]
    (∀ q ∈ requests, q.IsProper) ∧ (run answer empty requests).1 =
      [.done (.ok ()), .done (.ok ()), .done (.ok ()),
        .done (.error (.notFound "Datasource j not found")),
        .datasource (.ok (some { harbour with status := .failed }))] := by
  intro requests
  have hagain : ({ harbour with createdAt := ⟨0, 0⟩ } : Datasource).IsProper :=
    ⟨harbour_isProper.port, ⟨by decide, by decide, by decide⟩, harbour_isProper.lastInspected⟩
  have hrequests : ∀ q ∈ requests, q.IsProper := by
    simp [requests, StoreRequest.IsProper, harbour_isProper, hagain]
  exact ⟨hrequests, (answers_eq_ledger requests hrequests).1.trans rfl⟩

theorem Represents.get_eq_none (h : a.Represents m) (id : String) :
    a.get id = .ok none ↔ m id = none := by
  rw [h.get_eq, Ledger.get]
  cases m id with
  | none => simp
  | some e =>
    rw [Option.map_some, Option.elim_some]
    cases reloaded e.datasource <;> simp [Except.map]

/-- A snapshot is replaced as a whole, or everything stays as it is. -/
theorem replace_whole (qs : List StoreRequest) (id : String) (xs : List Snapshot)
    (h : ∀ x ∈ xs, x.IsProper) :
    let a := (run answer empty qs).2
    let b := (a.replace id xs).2
    ((a.replace id xs).1 = .ok () ∧ (Ledger.names xs).Nodup ∧ (xs = [] ∨ a.get id ≠ .ok none) ∧
      (∀ tables, b.snapshots id tables = .ok (tables.filterMap fun t =>
        (xs.find? fun x => Text.lowercase x.table == Text.lowercase t).map Store.stored)) ∧
      (∀ other ≠ id, ∀ tables, b.snapshots other tables = a.snapshots other tables) ∧
      ∀ other, b.get other = a.get other) ∨
    ((∃ e, (a.replace id xs).1 = .error e) ∧
      (¬(Ledger.names xs).Nodup ∨ xs ≠ [] ∧ a.get id = .ok none) ∧ b = a) := by
  intro a b
  let m := (run Ledger.answer Ledger.empty qs).2
  have hrep : a.Represents m := represents_run qs
  obtain ⟨hreply, hafter, hsame⟩ := hrep.replace id xs
  -- what was stored before may be unreadable, so absence is told by an answer and not by a failure
  have habsent : a.get id = .ok none ↔ m id = none := hrep.get_eq_none id
  rw [hreply]
  rcases m.replace_cases id xs with
    ⟨hok, hnames, hstored, hsnapshots, hothers, hget⟩ | ⟨e, he, hcause⟩
  · refine .inl ⟨hok, hnames, hstored.imp_right (mt habsent.1), fun tables => ?_,
      fun other hother => ?_, fun other => ?_⟩
    · have hproper : ∀ y ∈ (m.replace id xs).2.snapshotsOf id, y.IsProper := by
        intro y hy
        rw [hsnapshots] at hy
        exact Ledger.stored_isProper h y hy
      have hfound : ∀ t, (m.replace id xs).2.snapshot? id t =
          (xs.find? fun x => Text.lowercase x.table == Text.lowercase t).map Store.stored := by
        intro t
        rw [Ledger.snapshot?, hsnapshots, List.find?_map]
        rfl
      rw [hafter.snapshots_ok hproper, Ledger.snapshots, funext hfound]
    · exact (hafter.reads_eq hrep (hothers other hother)).2
    · rw [hafter.get_eq, hrep.get_eq, hget]
  · refine .inr ⟨⟨e, he⟩, ?_, hsame (by rw [he]; simp)⟩
    rw [habsent]
    exact hcause

def ships : Snapshot :=
  ⟨"Ships", [⟨"id", "int", true, none, [⟨"crew", "ship"⟩]⟩], ⟨0, 0⟩, ⟨0, 1⟩⟩

/-- A table is read under its name in any case, as often as it is asked for. -/
theorem replace_whole_ships :
    (∀ x ∈ [ships], x.IsProper) ∧
    ((run answer empty [.save harbour]).2.replace "h" [ships]).2.snapshots "h"
      ["SHIPS", "crew", "ships"] = .ok [Store.stored ships, Store.stored ships] := by
  have hships : ∀ x ∈ [ships], x.IsProper := by
    intro x hx
    rw [List.mem_singleton.1 hx]
    exact ⟨⟨by decide, by decide, by decide⟩, ⟨by decide, by decide, by decide⟩⟩
  refine ⟨hships, ?_⟩
  rcases replace_whole [.save harbour] "h" [ships] hships with
    ⟨-, -, -, hread, -⟩ | ⟨-, hnames | ⟨-, habsent⟩, -⟩
  · rw [hread]
    rfl
  · exact absurd (List.nodup_singleton _) hnames
  · have hentry := ((represents_run [.save harbour]).get_eq_none "h").1 habsent
    cases hentry

end Archive

end QueryDesk
