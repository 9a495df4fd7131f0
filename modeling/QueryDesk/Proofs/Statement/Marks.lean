import QueryDesk.Proofs.Sql.Shows
import QueryDesk.Proofs.Statement.Skeleton

/-!
# Parameter marks of expressions and conditions

Expressions and conditions are put together of own words, quoted names and placeholders. So the
server meets in them the placeholders that were put there and no other parameter mark, whatever the
names and the values are.
-/

namespace QueryDesk

open Sql.Server (Shows Leads Continues separates isPlain)

section

variable {d : Dialect} {t u w : String} {ms ns : List Char}

/-! ### Own words around a text -/

/-- Own words behind which anything may stand. -/
def opening (w : String) : Bool := w.toList.all isPlain && w.toList.getLast?.any separates

/-- Own words that may stand behind anything. -/
def closing (w : String) : Bool := w.toList.all isPlain && w.toList.head?.any separates

theorem shows_opening (hw : opening w = true) (ht : Shows d t.toList ms) :
    Shows d (w ++ t).toList ms := by
  rw [opening, Bool.and_eq_true] at hw
  rw [String.toList_append]
  exact (Sql.Server.leads_plain hw.1 hw.2).append_shows ht

theorem continues_closing (hw : closing w = true) : Continues d w.toList [] := by
  rw [closing, Bool.and_eq_true] at hw
  refine ⟨Sql.Server.shows_plain hw.1, ?_⟩
  rw [Option.all_eq_true]
  intro c hc
  rw [hc] at hw
  exact hw.2

theorem shows_closing (ht : Shows d t.toList ms) (hw : closing w = true) :
    Shows d (t ++ w).toList ms := by
  have h := ht.append (continues_closing hw)
  rwa [List.append_nil, ← String.toList_append] at h

theorem continues_opening (hw : opening w = true) (hc : closing w = true)
    (ht : Shows d t.toList ms) : Continues d (w ++ t).toList ms where
  shows := shows_opening hw ht
  head := by
    rw [closing, Bool.and_eq_true] at hc
    rw [String.toList_append]
    rcases hcs : w.toList with - | ⟨c, r⟩
    · rw [hcs] at hc
      cases hc.2
    · rw [hcs] at hc
      exact hc.2

theorem shows_append (ht : Shows d t.toList ms) (hu : Continues d u.toList ns) :
    Shows d (t ++ u).toList (ms ++ ns) := by
  rw [String.toList_append]
  exact ht.append hu

theorem shows_join {separator : String} (ho : opening separator = true)
    (hc : closing separator = true) {ts : List String} (h : ∀ t ∈ ts, Shows d t.toList []) :
    Shows d (Text.join separator ts).toList [] := by
  induction ts with
  | nil => exact .nil
  | cons t ts ih =>
    have ht := h t List.mem_cons_self
    cases ts with
    | nil => exact ht
    | cons u ts =>
      have hrest := ih fun x hx => h x (List.mem_cons_of_mem t hx)
      rw [Text.join, String.append_assoc]
      · exact shows_append ht (continues_opening ho hc hrest)
      · simp

end

/-! ### Pieces -/

/-- The placeholders of `k` parameters behind `n` others. -/
def numbered (d : Dialect) (n k : Nat) : List Char :=
  (List.range' (n + 1) k).flatMap fun i => (d.placeholder i).toList

theorem numbered_append (d : Dialect) (n j k : Nat) :
    numbered d n (j + k) = numbered d n j ++ numbered d (n + j) k := by
  rw [numbered, numbered, numbered, ← List.flatMap_append, Nat.add_right_comm n j 1,
    List.range'_append_1]

theorem numbered_mysql (n k : Nat) : numbered .mysql n k = List.replicate k '?' := by
  induction k generalizing n with
  | zero => rfl
  | succ k ih =>
    have hone : (Dialect.placeholder .mysql (n + 1)).toList = ['?'] := by simp [Dialect.placeholder]
    rw [numbered, List.range'_succ, List.flatMap_cons, hone, List.replicate_succ, ← ih (n + 1)]
    rfl

namespace Piece

/-- The server meets the placeholders of some pieces in their order, and no other parameter mark. -/
def Shows (d : Dialect) (ps : List Piece) : Prop :=
  ∀ n, Sql.Server.Shows d (textAfter d n ps).toList (numbered d n (slots ps).length)

/-- Pieces that may stand behind any other. -/
def Continues (d : Dialect) (ps : List Piece) : Prop :=
  ∀ n, Sql.Server.Continues d (textAfter d n ps).toList (numbered d n (slots ps).length)

section

variable {d : Dialect} {ps qs : List Piece} {t w : String}

theorem Continues.shows (h : Continues d ps) : Shows d ps := fun n => (h n).shows

theorem Continues.nil : Continues d [] := fun _ => .nil

theorem Shows.param (slot : Nat) : Shows d [.param slot] := fun n => by
  have h := Sql.Server.shows_placeholder d (n + 1)
  have hnumbered : numbered d n 1 = (d.placeholder (n + 1)).toList := by
    simp [numbered]
  rw [textAfter, textAfter, String.append_empty]
  exact hnumbered ▸ h

theorem Shows.append (hp : Shows d ps) (hq : Continues d qs) : Shows d (ps ++ qs) := fun n => by
  rw [textAfter_append, slots_append, List.length_append, numbered_append]
  exact shows_append (hp n) (hq _)

theorem Continues.append (hp : Continues d ps) (hq : Continues d qs) : Continues d (ps ++ qs) :=
  fun n => by
    rw [textAfter_append, slots_append, List.length_append, numbered_append, String.toList_append]
    exact (hp n).append (hq _)

theorem Shows.sql (ht : Sql.Server.Shows d t.toList []) : Shows d [.sql t] := fun n => by
  rw [textAfter, textAfter, String.append_empty]
  exact ht

theorem Continues.sql (ht : Sql.Server.Continues d t.toList []) : Continues d [.sql t] :=
  fun n => by
    rw [textAfter, textAfter, String.append_empty]
    exact ht

theorem Shows.opening (hw : opening w = true) (hp : Shows d ps) : Shows d (.sql w :: ps) :=
  fun n => shows_opening hw (hp n)

theorem Continues.opening (hw : QueryDesk.opening w = true) (hc : closing w = true)
    (hp : Shows d ps) : Continues d (.sql w :: ps) := fun n => continues_opening hw hc (hp n)

theorem Shows.before (ht : Sql.Server.Shows d t.toList []) (hw : QueryDesk.opening w = true)
    (hc : closing w = true) (hp : Shows d ps) : Shows d (.sql (t ++ w) :: ps) := fun n => by
  rw [textAfter, String.append_assoc]
  exact shows_append ht (continues_opening hw hc (hp n))

theorem Shows.between {separator : String} (ho : QueryDesk.opening separator = true)
    (hc : closing separator = true) {pss : List (List Piece)} (h : ∀ ps ∈ pss, Shows d ps) :
    Shows d (Piece.between separator pss) := by
  induction pss with
  | nil => exact Continues.nil.shows
  | cons ps pss ih =>
    have hp := h ps List.mem_cons_self
    cases pss with
    | nil => exact hp
    | cons qs pss =>
      exact hp.append (.opening ho hc (ih fun x hx => h x (List.mem_cons_of_mem ps hx)))

end

end Piece

/-- What holds of every item wherever it is placed holds of all that are placed. -/
theorem forall_mem_placed {α β : Type} {P : β → Prop} {place : Nat → α → β} {as : List α}
    (h : ∀ n, ∀ a ∈ as, P (place n a)) (bound : α → List Value) (n : Nat) :
    ∀ x ∈ placed place bound n as, P x := by
  induction as generalizing n with
  | nil => simp [placed]
  | cons a as ih =>
    rw [placed, List.forall_mem_cons]
    exact ⟨h n a List.mem_cons_self, ih (fun m b hb => h m b (List.mem_cons_of_mem a hb)) _⟩

/-! ### Functions and columns -/

section

variable {d : Dialect} {t : String}

theorem shows_around {w v : String} (hw : opening w = true) (ht : Shows d t.toList [])
    (hv : closing v = true) : Shows d (w ++ t ++ v).toList [] :=
  shows_closing (shows_opening hw ht) hv

theorem shows_call (ht : Shows d t.toList []) (f : ColumnFunction) (distinct : Bool) :
    Shows d (f.call d t distinct).toList [] := by
  have hargument : Shows d ((if distinct then "DISTINCT " else "") ++ t).toList [] := by
    cases distinct with
    | true => exact shows_opening (by decide) ht
    | false =>
      simp only [Bool.false_eq_true, if_false, String.empty_append]
      exact ht
  have hname : ∀ f : ColumnFunction, opening (f.name ++ "(") = true := by
    intro f
    cases f <;> decide
  have hextract : ∀ f : ColumnFunction, opening ("EXTRACT(" ++ f.name ++ " FROM ") = true := by
    intro f
    cases f <;> decide
  cases f with
  | year | month | day =>
    cases d with
    | mysql => exact shows_around (hname _) ht (by decide)
    | postgres => exact shows_around (hextract _) ht (by decide)
  | sum => exact shows_around (w := "COALESCE(SUM(") (by decide) hargument (by decide)
  | count | avg | max | min => exact shows_around (hname _) hargument (by decide)

end

namespace SelectedColumn

variable {c : SelectedColumn} {d : Dialect} {t : String}

theorem shows_expression (h : c.expression d = .ok t) : Shows d t.toList [] := by
  have hcolumn := Sql.Server.shows_column d c.value
  rw [expression] at h
  split at h
  · cases h
  · split at h
    · cases h
      exact hcolumn
    · split at h
      · cases h
      · cases h
        exact shows_call hcolumn _ _

theorem shows_entry (h : c.entry d = .ok t) : Shows d t.toList [] := by
  rw [entry] at h
  cases he : c.expression d with
  | error e =>
    rw [he] at h
    cases h
  | ok e =>
    have hexpression := shows_expression he
    rw [he] at h
    by_cases hstar : c.function.isNone ∧ c.value = "*"
    · simp only [hstar, and_self, if_true] at h
      cases h
      exact hexpression
    · have halias : t = e ++ (" AS " ++ d.quoted c.resultAlias) := by
        simp only [hstar, if_false] at h
        cases h
        exact String.append_assoc ..
      rw [halias]
      exact shows_append hexpression
        (continues_opening (by decide) (by decide) (Sql.Server.shows_quoted d c.resultAlias))

end SelectedColumn

/-! ### Conditions -/

theorem shows_placedAt (d : Dialect) (n : Nat) (o : Operand) : Piece.Shows d [o.placedAt d n] := by
  rw [Operand.placedAt]
  cases o.reference? with
  | some column => exact .sql (Sql.Server.shows_column d column)
  | none => exact .param n

theorem shows_operands_take (d : Dialect) (n : Nat) (os : List Operand) :
    Piece.Shows d (Operand.pieces d n (os.take 1)) := by
  cases os with
  | nil => exact Piece.Continues.nil.shows
  | cons o os => exact shows_placedAt d n o

namespace Filter

variable (f : Filter) (d : Dialect)

theorem shows_subject : Shows d (f.subject d).toList [] := by
  have hcolumn := Sql.Server.shows_column d f.column
  rw [subject]
  cases f.function with
  | none => exact hcolumn
  | some g => exact shows_call hcolumn g false

theorem shows_pieces (n : Nat) : Piece.Shows d (f.pieces d n) := by
  have hsubject := f.shows_subject d
  have hoperands := shows_operands_take d n f.operands
  have hpattern : Piece.Shows d ((f.operands.take 1).map fun _ => Piece.param n) := by
    rcases f.operands with - | ⟨o, os⟩
    · exact Piece.Continues.nil.shows
    · exact .param n
  have hlist : Piece.Shows d (Piece.between ", " ((Operand.pieces d n f.operands).map ([·])) ++
      [.sql ")"]) := by
    rw [Operand.pieces, map_placed]
    exact (Piece.Shows.between (by decide) (by decide) (forall_mem_placed
      (fun n o _ => shows_placedAt d n o) Operand.bound n)).append
        (.sql (continues_closing (by decide)))
  have hlike : ∀ negated, opening (" " ++ (d.likeWord negated ++ " ")) = true ∧
      closing (" " ++ (d.likeWord negated ++ " ")) = true := by
    intro negated
    cases d <;> cases negated <;> decide
  cases hop : f.operator
  case isNull | isNotNull =>
    simp only [pieces, hop, String.append_assoc]
    exact .sql (shows_closing hsubject (by decide))
  case isIn | notIn =>
    simp only [pieces, hop, String.append_assoc]
    exact .before hsubject (by decide) (by decide) hlist
  case like | contains =>
    simp only [pieces, hop, String.append_assoc]
    exact .before hsubject (hlike false).1 (hlike false).2 hpattern
  case notLike | notContains =>
    simp only [pieces, hop, String.append_assoc]
    exact .before hsubject (hlike true).1 (hlike true).2 hpattern
  all_goals
    simp only [pieces, hop, String.append_assoc]
    exact .before hsubject (by decide) (by decide) hoperands

end Filter

theorem shows_searchPieces (d : Dialect) (columns : List String) (n : Nat) :
    Piece.Shows d (Select.searchPieces d columns n) := by
  have hcase : ∀ c : String, Piece.Shows d
      [Piece.sql ("LOWER(" ++ d.column c ++ ") LIKE "), Piece.param n] := by
    intro c
    have hcolumn := shows_opening (w := "LOWER(") (by decide) (Sql.Server.shows_column d c)
    exact .before hcolumn (by decide) (by decide) (.param n)
  rw [Select.searchPieces]
  refine .opening (by decide) (Piece.Shows.append ?_ (.sql (continues_closing (by decide))))
  refine .between (by decide) (by decide) fun ps hps => ?_
  obtain ⟨c, -, rfl⟩ := List.mem_map.1 hps
  exact hcase c

end QueryDesk
