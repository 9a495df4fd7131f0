import QueryDesk.Proofs.Desk.Connections
import QueryDesk.Proofs.Filter.Literal

/-!
# Pages of a selection

The window that a plan asks for stands at the end of its statement, where a database reads it back:
one row more than the page holds, from the first row of the page on. Main statement: against a
database that answers with the rows in that window, each page holds its rows and tells whether more
follow, and the pages up to the last one make up all rows, each of them once.
-/

namespace QueryDesk

/-! ### Rows in a window -/

namespace Page

variable {α : Type}

theorem clamp_pos (n : Nat) : 1 ≤ clamp n := by
  simp only [clamp, maxPageSize]
  omega

theorem clamp_le (n : Nat) : clamp n ≤ maxPageSize := Nat.min_le_left _ _

/-- The row to spare tells whether more follow, and is cut off again. -/
theorem cut_window (p : Page) (rows : List α) :
    p.cut ((rows.drop p.offset).take (p.size + 1)) =
      ((rows.drop p.offset).take p.size, decide (p.offset + p.size < rows.length)) := by
  have hlength : ((rows.drop p.offset).take (p.size + 1)).length =
      min (p.size + 1) (rows.length - p.offset) := by
    rw [List.length_take, List.length_drop]
  rw [cut, hlength]
  by_cases hmore : p.offset + p.size < rows.length
  · have hspare : p.size < min (p.size + 1) (rows.length - p.offset) := by omega
    rw [if_pos hspare, List.take_take, decide_eq_true hmore]
    congr 2
    omega
  · have hspare : ¬p.size < min (p.size + 1) (rows.length - p.offset) := by omega
    have hall : (rows.drop p.offset).length ≤ p.size := by
      rw [List.length_drop]
      omega
    rw [if_neg hspare, decide_eq_false hmore, List.take_of_length_le hall,
      List.take_of_length_le (by omega)]

theorem flatMap_pages (rows : List α) (size n : Nat) :
    (List.range n).flatMap (fun p => (rows.drop (p * size)).take size) = rows.take (n * size) := by
  induction n with
  | zero => simp
  | succ n ih =>
    rw [List.range_succ, List.flatMap_append, ih, List.flatMap_singleton, Nat.succ_mul,
      List.take_add]

/-- There is a first page behind which no row follows, and its first row is no further than the
last row. -/
theorem exists_last {size : Nat} (hsize : 1 ≤ size) (length : Nat) :
    ∃ n, (∀ p < n, (p + 1) * size < length) ∧ length ≤ (n + 1) * size ∧ n * size ≤ length := by
  refine ⟨(length - 1) / size, fun p hp => ?_, ?_, ?_⟩
  · have hle : (p + 1) * size ≤ length - 1 := by
      calc (p + 1) * size ≤ (length - 1) / size * size := Nat.mul_le_mul_right size hp
        _ ≤ length - 1 := Nat.div_mul_le_self _ _
    have hpos : 1 * 1 ≤ (p + 1) * size := Nat.mul_le_mul (by omega) hsize
    omega
  · have hlt := Nat.lt_div_mul_add (a := length - 1) (b := size) hsize
    rw [Nat.succ_mul]
    omega
  · exact Nat.le_trans (Nat.div_mul_le_self _ _) (Nat.sub_le _ _)

end Page

/-! ### The window at the end of a statement -/

namespace Sql

/-- The number that a text read backwards begins with, when a word stands in front of it, with what
stands in front of the word. -/
def numberBehind? (word : String) (backwards : List Char) : Option (Nat × List Char) :=
  let digits := (backwards.takeWhile Char.isDigit).reverse
  let rest := backwards.dropWhile Char.isDigit
  if !digits.isEmpty && word.toList.reverse.isPrefixOf rest then
    some (Number.digitsValue digits, rest.drop word.length)
  else none

/-- How many rows a SELECT asks for, and from which one on: the last two clauses of its text. -/
def window? (sql : String) : Option (Nat × Nat) :=
  (numberBehind? " OFFSET " sql.toList.reverse).bind fun offset =>
    (numberBehind? " LIMIT " offset.2).map fun limit => (limit.1, offset.1)

theorem numberBehind?_append {word : String} {c : Char} {w : List Char}
    (hword : word.toList.reverse = c :: w) (hc : c.isDigit = false) (n : Nat)
    (front : List Char) :
    numberBehind? word (front ++ (word.toList ++ (toString n).toList)).reverse =
      some (n, front.reverse) := by
  have hdigits : ∀ c ∈ (Nat.toDigits 10 n).reverse, c.isDigit = true :=
    fun c hc => Number.isDigit_of_mem (List.mem_reverse.1 hc)
  have htext : (toString n).toList = Nat.toDigits 10 n := by simp
  have hbackwards : (front ++ (word.toList ++ (toString n).toList)).reverse =
      (Nat.toDigits 10 n).reverse ++ (c :: w ++ front.reverse) := by
    rw [htext, List.reverse_append, List.reverse_append, hword, List.append_assoc]
  have htake : ((Nat.toDigits 10 n).reverse ++ (c :: w ++ front.reverse)).takeWhile Char.isDigit =
      (Nat.toDigits 10 n).reverse := by
    rw [List.takeWhile_append_of_pos hdigits, List.cons_append, List.takeWhile_cons_of_neg,
      List.append_nil]
    simp [hc]
  have hdrop : ((Nat.toDigits 10 n).reverse ++ (c :: w ++ front.reverse)).dropWhile Char.isDigit =
      c :: w ++ front.reverse := by
    rw [List.dropWhile_append_of_pos hdigits, List.cons_append, List.dropWhile_cons_of_neg]
    simp [hc]
  have hne : (Nat.toDigits 10 n).isEmpty = false := by simp [Nat.toDigits_ne_nil]
  have hlength : word.length = (c :: w).length := by
    rw [← hword, List.length_reverse, String.length_toList]
  rw [numberBehind?, hbackwards, htake, hdrop, hword, List.reverse_reverse, hne, hlength,
    List.drop_left, Number.digitsValue_toDigits]
  simp

end Sql

theorem Select.window?_statement {s : Select} {limit offset : Nat} (hlimit : s.limit = some limit)
    (hoffset : s.offset = some offset) :
    Sql.window? s.statement.sql = some (limit, offset) := by
  obtain ⟨front, hpieces⟩ : ∃ front, s.pieces = front ++ [.sql (" LIMIT " ++ toString limit),
      .sql (" OFFSET " ++ toString offset)] := by
    rw [Select.pieces, hlimit, hoffset]
    exact ⟨_, (List.cons_append ..).symm⟩
  have hsql : s.statement.sql.toList =
      (Piece.textAfter s.dialect 0 front).toList ++ (" LIMIT ".toList ++ (toString limit).toList) ++
        (" OFFSET ".toList ++ (toString offset).toList) := by
    have hstatement : s.statement.sql = Piece.textAfter s.dialect 0 s.pieces := rfl
    rw [hstatement, hpieces, Piece.textAfter_append]
    simp only [Piece.textAfter, String.toList_append, String.append_empty, List.append_assoc]
  rw [Sql.window?, hsql, Sql.numberBehind?_append (c := ' ') rfl rfl, Option.bind_some,
    Sql.numberBehind?_append (c := ' ') rfl rfl]
  rfl

def SelectRequest.effectiveSize (r : SelectRequest) (defaultSize : Nat) : Nat :=
  Page.clamp (r.size.getD defaultSize)

namespace Desk

open DeskProgram

variable {σ : Type}

/-! ### Surroundings -/

/-- A datasource can be looked up, and the snapshots of the tables of a selection can be read. -/
structure Finds (s : DeskSettings) (id : String) (o : QueryOptions)
    (answer : (c : DeskCall) → σ → c.Reply × σ) : Prop where
  loads : ∀ w, ∃ d p, (answer (.load id) w).1 = .ok (some d) ∧ password s d = .ok p
  reads : ∀ id' w, ∃ ss, (answer (.snapshots id' o.tables) w).1 = .ok ss

/-- The selection fits, and a database answers it with those of some rows that are in the window of
its statement. Closing a connection may go anyhow. -/
structure Lists (id : String) (o : QueryOptions) (rows : List (List Json))
    (answer : (c : DeskCall) → σ → c.Reply × σ) : Prop where
  fits : ∀ d ss w w', (answer (.load id) w).1 = .ok (some d) →
    (answer (.snapshots d.id o.tables) w').1 = .ok ss → o.Fits d.dialect ⟨ss⟩
  connects : ∀ d c w, ∃ link, (answer (.connect d c) w).1 = .ok link
  executes : ∀ link q w, ∃ outcome, (answer (.execute link (.select q)) w).1 = .ok outcome ∧
    ∀ limit offset, Sql.window? q.sql = some (limit, offset) →
      outcome.rows = (rows.drop offset).take limit

/-- Every reply in a record comes from the surroundings, in some state. -/
def Answered (answer : (c : DeskCall) → σ → c.Reply × σ) (l : List Event) : Prop :=
  ∀ e ∈ l, ∃ w, e.reply = (answer e.call w).1

variable {answer : (c : DeskCall) → σ → c.Reply × σ}

theorem answered_events {α : Type} (p : DeskProgram α) (w : σ) :
    Answered answer (events answer p w) := by
  induction p generalizing w with
  | done a =>
    intro e he
    cases he
  | ask c next ih =>
    intro e he
    rcases List.mem_cons.1 he with rfl | he
    · exact ⟨w, rfl⟩
    · exact ih _ _ e he

theorem Answered.cons {e : Event} {l : List Event} (h : Answered answer (e :: l)) :
    (∃ w, e.reply = (answer e.call w).1) ∧ Answered answer l :=
  ⟨h e List.mem_cons_self, fun x hx => h x (List.mem_cons_of_mem e hx)⟩

/-! ### One page -/

theorem executed {id : String} {o : QueryOptions} {rows : List (List Json)}
    (h : Lists id o rows answer) {d : Dialect} {c : ConnectionConfig} {q : Statement}
    {l : List Event} {a : Except Failure Outcome} (hl : Answered answer l)
    (htrace : Trace (execute d c (.select q)) l (.done a)) :
    ∃ outcome, a = .ok outcome ∧ ∀ limit offset, Sql.window? q.sql = some (limit, offset) →
      outcome.rows = (rows.drop offset).take limit := by
  obtain ⟨-, he⟩ | ⟨r, l, rfl, hconnected⟩ := Trace.of_ask htrace
  · cases he
  obtain ⟨⟨w, hr⟩, hrest⟩ := hl.cons
  obtain ⟨link, hlink⟩ := h.connects d c w
  cases hr.trans hlink
  obtain ⟨-, he⟩ | ⟨x, l, rfl, hexecuted⟩ := Trace.of_ask hconnected
  · cases he
  obtain ⟨⟨w', hx⟩, -⟩ := hrest.cons
  obtain ⟨outcome, houtcome, hrows⟩ := h.executes link q w'
  cases hx.trans houtcome
  refine ⟨outcome, ?_, hrows⟩
  obtain ⟨-, he⟩ | ⟨closed, l, rfl, hasked⟩ := Trace.of_ask hexecuted
  · cases he
  -- whether and how the connection is closed, the outcome is there already
  cases closed with
  | true =>
    obtain ⟨-, ha⟩ := Trace.of_done hasked
    exact Program.done.inj ha
  | false =>
    obtain ⟨-, he⟩ | ⟨x, l, rfl, hclosed⟩ := Trace.of_ask hasked
    · cases he
    obtain ⟨-, ha⟩ := Trace.of_done hclosed
    exact Program.done.inj ha

/-- A selection on a datasource that is found goes on with its plan. -/
theorem planned {s : DeskSettings} {r : SelectRequest} {l : List Event}
    {a : Except Failure SelectResult} (hnamed : Text.allBlank r.options.table = false)
    (hfinds : Finds s r.datasource r.options answer) (hl : Answered answer l)
    (htrace : Trace (select s r) l (.done a)) :
    ∃ d ss c w w' l', l = ⟨.load r.datasource, .ok (some d)⟩ ::
        ⟨.snapshots d.id r.options.tables, .ok ss⟩ :: l' ∧
      (answer (.load r.datasource) w).1 = .ok (some d) ∧
      (answer (.snapshots d.id r.options.tables) w').1 = .ok ss ∧ Answered answer l' ∧
      Trace (DeskTask.followedBy (DeskTask.ofExcept (SelectPlan.make r d.dialect s.pageSize ⟨ss⟩))
        fun plan => DeskTask.followedBy (execute d.dialect c (.select plan.select.statement))
          fun outcome => DeskTask.ofExcept (.ok (plan.result r.options ⟨ss⟩ outcome)))
        l' (.done a) := by
  rw [select, hnamed] at htrace
  obtain ⟨x, e, rfl, -, hx⟩ | ⟨d, p, l, rfl, -, hd⟩ := of_resolve htrace
  · obtain ⟨⟨w, hr⟩, -⟩ := hl.cons
    obtain ⟨d, p, hd, hp⟩ := hfinds.loads w
    exact absurd hp (hx d p (hr.trans hd))
  obtain ⟨⟨w, hload⟩, hrest⟩ := hl.cons
  obtain ⟨-, he⟩ | ⟨x, l, rfl, hread⟩ := Trace.of_ask hd
  · cases he
  obtain ⟨⟨w', hx⟩, hafter⟩ := hrest.cons
  obtain ⟨ss, hss⟩ := hfinds.reads d.id w'
  cases hx.trans hss
  exact ⟨d, ss, _, w, w', l, rfl, hload.symm, hss, hafter, hread⟩

/-- A page out of range is refused before a connection is opened. -/
theorem select_out_of_range {s : DeskSettings} {r : SelectRequest}
    (hnamed : Text.allBlank r.options.table = false)
    (hfinds : Finds s r.datasource r.options answer) (hrange : ¬r.InRange s.pageSize) (w : σ) :
    ((select s r).run answer w).1 =
        .error (.validation ("Page " ++ toString r.page ++ " is out of range")) ∧
      ∀ e ∈ events answer (select s r) w, e.call.isConnect = false := by
  obtain ⟨d, ss, c, _, _, l, hl, -, -, -, hplan⟩ :=
    planned hnamed hfinds (answered_events _ w) (trace_events answer (select s r) w)
  rcases SelectPlan.make_cases r d.dialect s.pageSize ⟨ss⟩ with ⟨-, hmake⟩ | ⟨h, -⟩ | ⟨h, -⟩
  · rw [hmake] at hplan
    obtain ⟨rfl, ha⟩ := Trace.of_done hplan
    refine ⟨(Program.done.inj ha), ?_⟩
    rw [hl]
    simp [DeskCall.isConnect]
  · exact absurd h hrange
  · exact absurd h hrange

/-- A page in range holds its rows, and tells whether more follow. -/
theorem select_in_range {s : DeskSettings} {r : SelectRequest} {rows : List (List Json)}
    (hnamed : Text.allBlank r.options.table = false)
    (hfinds : Finds s r.datasource r.options answer)
    (hlists : Lists r.datasource r.options rows answer) (hrange : r.InRange s.pageSize) (w : σ) :
    ∃ result, ((select s r).run answer w).1 = .ok result ∧
      result.rows = (rows.drop (r.effectiveSize s.pageSize * r.page)).take
        (r.effectiveSize s.pageSize) ∧
      (result.hasMore = true ↔
        r.effectiveSize s.pageSize * r.page + r.effectiveSize s.pageSize < rows.length) := by
  obtain ⟨d, ss, c, w₁, w₂, l, -, hload, hread, hanswered, hplan⟩ :=
    planned hnamed hfinds (answered_events _ w) (trace_events answer (select s r) w)
  have hfits : r.options.Fits d.dialect ⟨ss⟩ := hlists.fits d ss w₁ w₂ hload hread
  rcases SelectPlan.make_cases r d.dialect s.pageSize ⟨ss⟩ with
    ⟨h, -⟩ | ⟨-, h, -⟩ | ⟨-, -, plan, hmake, hpage, hframe⟩
  · exact absurd hrange h
  · exact absurd hfits h
  obtain ⟨_, hfailed, -⟩ | ⟨_, hmade, hplan⟩ := Trace.of_ofExcept hplan
  · cases hmake.symm.trans hfailed
  cases hmake.symm.trans hmade
  have hlimit : plan.select.limit = some (plan.page.size + 1) :=
    congrArg (fun f => f.2.1) hframe
  have hoffset : plan.select.offset = some plan.page.offset := congrArg (fun f => f.2.2) hframe
  have hwindow := Select.window?_statement hlimit hoffset
  obtain ⟨e, hfailed, -⟩ | ⟨l₁, l₂, outcome, rfl, hexecuted, hdone⟩ := Trace.of_followedBy hplan
  · obtain ⟨_, he, -⟩ := executed hlists hanswered hfailed
    cases he
  obtain ⟨_, ho, hrows⟩ :=
    executed hlists (fun e he => hanswered e (List.mem_append_left l₂ he)) hexecuted
  cases ho
  obtain ⟨-, ha⟩ := Trace.of_done hdone
  refine ⟨_, Program.done.inj ha, ?_⟩
  have hresult : ((plan.result r.options ⟨ss⟩ outcome).rows,
      (plan.result r.options ⟨ss⟩ outcome).hasMore) = plan.page.cut outcome.rows := rfl
  rw [hrows _ _ hwindow, plan.page.cut_window, hpage] at hresult
  obtain ⟨hrows, hmore⟩ := Prod.mk.inj hresult
  rw [hrows, hmore]
  exact ⟨rfl, decide_eq_true_iff⟩

/-! ### All pages -/

/-- A page size is between 1 and 1000. A page whose first row has no number of 64 bits is refused
before a connection is opened. Against a database that answers with the rows in the window of a
statement, any other page holds its rows and tells whether more follow; and the pages from the first
one to the first behind which nothing follows make up all rows, in whatever states they are asked
for. -/
theorem pages_complete (s : DeskSettings) (r : SelectRequest)
    (answer : (c : DeskCall) → σ → c.Reply × σ) (hnamed : Text.allBlank r.options.table = false)
    (hfinds : Finds s r.datasource r.options answer) :
    (1 ≤ r.effectiveSize s.pageSize ∧ r.effectiveSize s.pageSize ≤ 1000) ∧
    (∀ p w, Nat.pow 2 64 ≤ p * r.effectiveSize s.pageSize →
      ((select s { r with page := p }).run answer w).1 =
          .error (.validation ("Page " ++ toString p ++ " is out of range")) ∧
        ∀ e ∈ events answer (select s { r with page := p }) w, e.call.isConnect = false) ∧
    ∀ rows, Lists r.datasource r.options rows answer →
      (∀ p w, p * r.effectiveSize s.pageSize < Nat.pow 2 64 →
        ∃ page, ((select s { r with page := p }).run answer w).1 = .ok page ∧
          page.rows = (rows.drop (p * r.effectiveSize s.pageSize)).take
            (r.effectiveSize s.pageSize) ∧
          (page.hasMore = true ↔ (p + 1) * r.effectiveSize s.pageSize < rows.length)) ∧
      (rows.length < Nat.pow 2 64 → ∀ w : Nat → σ, ∃ (last : Nat) (page : Nat → SelectResult),
        (∀ p ≤ last, ((select s { r with page := p }).run answer (w p)).1 = .ok (page p)) ∧
        (∀ p < last, (page p).hasMore = true) ∧ (page last).hasMore = false ∧
        (List.range (last + 1)).flatMap (fun p => (page p).rows) = rows) := by
  have hpos : 1 ≤ r.effectiveSize s.pageSize := Page.clamp_pos _
  have hpage : ∀ rows, Lists r.datasource r.options rows answer → ∀ p w,
      p * r.effectiveSize s.pageSize < Nat.pow 2 64 →
      ∃ page, ((select s { r with page := p }).run answer w).1 = .ok page ∧
        page.rows = (rows.drop (p * r.effectiveSize s.pageSize)).take
          (r.effectiveSize s.pageSize) ∧
        (page.hasMore = true ↔ (p + 1) * r.effectiveSize s.pageSize < rows.length) := by
    intro rows hlists p w hp
    rw [Nat.mul_comm] at hp
    have hselect := select_in_range (s := s) (r := { r with page := p }) hnamed hfinds hlists hp w
    rw [Nat.succ_mul, Nat.mul_comm p]
    exact hselect
  refine ⟨⟨hpos, Page.clamp_le _⟩, fun p w hp => ?_, fun rows hlists => ⟨hpage rows hlists, ?_⟩⟩
  · rw [Nat.mul_comm] at hp
    exact select_out_of_range (r := { r with page := p }) hnamed hfinds (Nat.not_lt.2 hp) w
  · intro hlength w
    obtain ⟨last, hmore, hend, hlast⟩ := Page.exists_last hpos rows.length
    -- the first row of no page up to the last is out of range
    have hall : ∀ p, ∃ page, p ≤ last →
        ((select s { r with page := p }).run answer (w p)).1 = .ok page ∧
        page.rows = (rows.drop (p * r.effectiveSize s.pageSize)).take
          (r.effectiveSize s.pageSize) ∧
        (page.hasMore = true ↔ (p + 1) * r.effectiveSize s.pageSize < rows.length) := by
      intro p
      by_cases hp : p ≤ last
      · have hle : p * r.effectiveSize s.pageSize ≤ rows.length :=
          Nat.le_trans (Nat.mul_le_mul_right _ hp) hlast
        obtain ⟨page, h⟩ := hpage rows hlists p (w p) (Nat.lt_of_le_of_lt hle hlength)
        exact ⟨page, fun _ => h⟩
      · exact ⟨default, fun h => absurd h hp⟩
    obtain ⟨page, hpages⟩ := Classical.axiomOfChoice hall
    refine ⟨last, page, fun p hp => (hpages p hp).1, fun p hp => ?_, ?_, ?_⟩
    · exact (hpages p (Nat.le_of_lt hp)).2.2.2 (hmore p hp)
    · rw [← Bool.not_eq_true, (hpages last (Nat.le_refl _)).2.2]
      exact Nat.not_lt.2 hend
    · have hrows : ∀ p ∈ List.range (last + 1), (page p).rows =
          (rows.drop (p * r.effectiveSize s.pageSize)).take (r.effectiveSize s.pageSize) :=
        fun p hp => (hpages p (Nat.lt_succ_iff.1 (List.mem_range.1 hp))).2.1
      rw [List.flatMap_congr hrows, Page.flatMap_pages, List.take_of_length_le hend]

/-- Surroundings with one datasource, of which nothing is known but its rows. -/
def listing (d : Datasource) (rows : List (List Json)) : (c : DeskCall) → Unit → c.Reply × Unit
  | .load _, w => (.ok (some d), w)
  | .snapshots _ _, w => (.ok [], w)
  | .save _, w => (.ok (), w)
  | .setStatus _ _, w => (.ok (), w)
  | .replace _ _, w => (.ok (), w)
  | .stamp _, w => (.ok (), w)
  | .claim _, w => (true, w)
  | .release _, w => ((), w)
  | .connect _ _, w => (.ok 1, w)
  | .inspect _, w => (.ok [], w)
  | .check _, w => (.ok (), w)
  | .execute _ q, w =>
    let rows := ((Sql.window? q.statement.sql).map fun (limit, offset) =>
      (rows.drop offset).take limit).getD []
    (.ok ⟨[], rows, q.statement.sql⟩, w)
  | .close _, w => (.error (.execution "gone"), w)
  | .isClosed _, w => (false, w)

/-- A desk with pages of two rows that keeps passwords as they are. -/
def pagesOfTwo : DeskSettings := ⟨2, false, ⟨.ok, .ok⟩⟩

def people : SelectRequest := ⟨"d", ⟨"people", [], [], [], [], [], [], none⟩, 0, none⟩

/-- Three rows on two pages, on connections that cannot be closed. -/
theorem pages_complete_three_rows :
    ∃ (last : Nat) (page : Nat → SelectResult),
      (∀ p ≤ last, ((select pagesOfTwo { people with page := p }).run
        (listing default [[.int 1], [.int 2], [.int 3]]) ()).1 = .ok (page p)) ∧
      (∀ p < last, (page p).hasMore = true) ∧ (page last).hasMore = false ∧
      (List.range (last + 1)).flatMap (fun p => (page p).rows) = [[.int 1], [.int 2], [.int 3]] := by
  have hfinds : Finds pagesOfTwo people.datasource people.options
      (listing default [[.int 1], [.int 2], [.int 3]]) :=
    { loads := fun _ => ⟨default, none, rfl, rfl⟩
      reads := fun _ _ => ⟨[], rfl⟩ }
  have hlists : Lists people.datasource people.options [[.int 1], [.int 2], [.int 3]]
      (listing default [[.int 1], [.int 2], [.int 3]]) :=
    { fits := by
        rintro d ss w w' - hread
        cases hread
        have hcolumns : SelectPlan.columnsFor people.options ⟨[]⟩ = [] := rfl
        exact { joins := by simp [people], groups := by simp [people], readable := by simp [people],
                filters := by simp [people], columns := by simp [hcolumns] }
      connects := fun _ _ _ => ⟨1, rfl⟩
      executes := by
        intro link q w
        refine ⟨_, rfl, fun limit offset hwindow => ?_⟩
        change ((Sql.window? q.sql).map _).getD [] = _
        rw [hwindow]
        rfl }
  exact ((pages_complete pagesOfTwo people _ (by decide) hfinds).2.2 _ hlists).2 (by decide)
    fun _ => ()

end Desk

end QueryDesk
