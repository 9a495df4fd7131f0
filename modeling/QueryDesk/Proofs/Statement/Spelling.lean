import Mathlib.Data.List.Forall2
import QueryDesk.Proofs.Statement.Binding
import QueryDesk.Proofs.Statement.Scan

/-!
# How expressions and conditions are spelled

The names in an expression, a condition or a list of them, in the order of the text: a reference
brings its two halves, an alias itself, and a star no name. Each of them is written of own words and
these names. A text that begins with an own word may stand behind any other, so that clauses can be
put behind each other whether they are there or not.
-/

namespace QueryDesk

/-! ### Texts behind each other -/

/-- Text of one own word or more. -/
inductive Owns (d : Dialect) : String → Prop
  | word {w : String} (h : OwnWord d w) : Owns d w
  | append {t u : String} (ht : Owns d t) (hu : Owns d u) : Owns d (t ++ u)

/-- A text of own words and these names, no name at once behind another. -/
def Spelled (d : Dialect) (t : String) (ns : List String) : Prop := ∃ b, Written d b t ns

/-- A text with these names that may stand behind any text, also behind a name. -/
structure Follows (d : Dialect) (t : String) (ns : List String) : Prop where
  behind : ∀ {b : Bool} {u : String} {ms : List String},
    Written d b u ms → Spelled d (u ++ t) (ms ++ ns)

section

variable {d : Dialect} {t u w : String} {ns ms : List String}

theorem Owns.words {w : String} {ws : List String} (h : ∀ x ∈ w :: ws, x ∈ vocabulary) :
    Owns d (String.join (w :: ws)) := by
  induction ws generalizing w with
  | nil =>
    have hw : OwnWord d w := .word (h w List.mem_cons_self)
    rw [String.join_cons, String.join_nil, String.append_empty]
    exact .word hw
  | cons x ws ih =>
    have hw : OwnWord d w := .word (h w List.mem_cons_self)
    have hws := ih fun y hy => h y (List.mem_cons_of_mem w hy)
    rw [String.join_cons]
    exact .append (.word hw) hws

theorem Owns.literal (s w : String) (ws : List String) (hs : String.join (w :: ws) = s)
    (h : ∀ x ∈ w :: ws, x ∈ vocabulary) : Owns d s := by
  rw [← hs]
  exact .words h

theorem Owns.blank : Owns d " " := .word (.word (by decide))

theorem Owns.star : Owns d "*" := .word (.word (by decide))

theorem Owns.point : Owns d "." := .word (.word (by decide))

theorem Owns.opening : Owns d "(" := .word (.word (by decide))

theorem Owns.closing : Owns d ")" := .word (.word (by decide))

theorem Owns.comma : Owns d ", " := .literal ", " "," [" "] (by decide) (by decide)

theorem Owns.fromWord : Owns d " FROM " :=
  .literal " FROM " " " ["FROM", " "] (by decide) (by decide)

theorem Owns.whereWord : Owns d " WHERE " :=
  .literal " WHERE " " " ["WHERE", " "] (by decide) (by decide)

theorem Owns.number (n : Nat) : Owns d (toString n) := .word (.number n)

theorem Owns.placeholder (n : Nat) : Owns d (d.placeholder n) := .word (.placeholder n)

theorem Written.owns {b : Bool} (h : Written d b t ns) (hw : Owns d w) :
    Written d false (t ++ w) ns := by
  induction hw generalizing b t with
  | word hw => exact h.own hw
  | append _ _ iht ihu =>
    rw [← String.append_assoc]
    exact ihu (iht h)

theorem Written.append {b : Bool} (h : Written d false t ns) (hu : Written d b u ms) :
    Written d b (t ++ u) (ns ++ ms) := by
  induction hu with
  | empty =>
    rw [String.append_empty, List.append_nil]
    exact h
  | own _ hw ih =>
    rw [← String.append_assoc]
    exact ih.own hw
  | name _ s ih =>
    rw [← String.append_assoc, ← List.append_assoc]
    exact ih.name s

theorem Follows.empty : Follows d "" [] where
  behind {b u ms} h := by
    rw [String.append_empty, List.append_nil]
    exact ⟨b, h⟩

theorem Follows.append (ht : Follows d t ns) (hu : Follows d u ms) :
    Follows d (t ++ u) (ns ++ ms) where
  behind h := by
    obtain ⟨b, hb⟩ := ht.behind h
    rw [← String.append_assoc, ← List.append_assoc]
    exact hu.behind hb

theorem Follows.spelled (h : Follows d t ns) : Spelled d t ns := by
  have hs := h.behind (.empty : Written d false "" [])
  rwa [String.empty_append, List.nil_append] at hs

theorem Owns.follows (h : Owns d w) : Follows d w [] where
  behind hu := by
    rw [List.append_nil]
    exact ⟨false, hu.owns h⟩

/-- Behind own text anything may stand, and all together behind any text. -/
theorem Owns.append_spelled (hw : Owns d w) (ht : Spelled d t ns) : Follows d (w ++ t) ns where
  behind hu := by
    obtain ⟨b, hb⟩ := ht
    rw [← String.append_assoc]
    exact ⟨b, (hu.owns hw).append hb⟩

theorem Spelled.append (ht : Spelled d t ns) (hu : Follows d u ms) :
    Spelled d (t ++ u) (ns ++ ms) := by
  obtain ⟨b, hb⟩ := ht
  exact hu.behind hb

theorem Spelled.between {v : String} (hw : Owns d w) (ht : Spelled d t ns) (hv : Owns d v) :
    Follows d (w ++ t ++ v) ns := by
  have h := (hw.append_spelled ht).append hv.follows
  rwa [List.append_nil] at h

theorem spelled_join {α : Type} {separator : String} (hs : Owns d separator)
    {names : α → List String} {ts : List String} {as : List α}
    (h : List.Forall₂ (fun t a => Spelled d t (names a)) ts as) :
    Spelled d (Text.join separator ts) (as.flatMap names) := by
  induction h with
  | nil => exact Follows.empty.spelled
  | @cons t a ts as ht hts ih =>
    cases hts with
    | nil => simpa only [Text.join, List.flatMap_cons, List.flatMap_nil, List.append_nil] using ht
    | @cons u _ us _ hu hus =>
      change Spelled d (t ++ separator ++ Text.join separator (u :: us)) _
      rw [List.flatMap_cons, String.append_assoc]
      exact ht.append (hs.append_spelled ih)

end

/-! ### Pieces -/

namespace Piece

/-- Pieces whose text is spelled with these names, however many placeholders stand in front. -/
def Spelled (d : Dialect) (ps : List Piece) (ns : List String) : Prop :=
  ∀ n, QueryDesk.Spelled d (textAfter d n ps) ns

/-- Pieces whose text may stand behind any text. -/
def Follows (d : Dialect) (ps : List Piece) (ns : List String) : Prop :=
  ∀ n, QueryDesk.Follows d (textAfter d n ps) ns

section

variable {d : Dialect} {ps qs : List Piece} {t : String} {ns ms : List String}

theorem follows_nil : Follows d [] [] := fun _ => .empty

theorem follows_param (slot : Nat) : Follows d [.param slot] [] := fun n => by
  rw [textAfter, textAfter, String.append_empty]
  exact (Owns.placeholder (n + 1)).follows

theorem Follows.append (hp : Follows d ps ns) (hq : Follows d qs ms) :
    Follows d (ps ++ qs) (ns ++ ms) := fun n => by
  rw [textAfter_append]
  exact (hp n).append (hq _)

theorem Follows.spelled (h : Follows d ps ns) : Spelled d ps ns := fun n => (h n).spelled

theorem Spelled.append (hp : Spelled d ps ns) (hq : Follows d qs ms) :
    Spelled d (ps ++ qs) (ns ++ ms) := fun n => by
  rw [textAfter_append]
  exact (hp n).append (hq _)

theorem follows_cons (ht : QueryDesk.Follows d t ns) (hp : Follows d ps ms) :
    Follows d (.sql t :: ps) (ns ++ ms) := fun n => ht.append (hp n)

theorem follows_own (ht : Owns d t) (hp : Spelled d ps ns) : Follows d (.sql t :: ps) ns :=
  fun n => ht.append_spelled (hp n)

theorem spelled_sql (ht : QueryDesk.Spelled d t ns) : Spelled d [.sql t] ns := fun n => by
  rw [textAfter, textAfter, String.append_empty]
  exact ht

theorem follows_sql (ht : QueryDesk.Follows d t ns) : Follows d [.sql t] ns := fun n => by
  rw [textAfter, textAfter, String.append_empty]
  exact ht

theorem follows_closing : Follows d [.sql ")"] [] := follows_sql Owns.closing.follows

theorem spelled_before {w : String} (ht : QueryDesk.Spelled d t ns) (hw : Owns d w)
    (hp : Spelled d ps ms) : Spelled d (.sql (t ++ w) :: ps) (ns ++ ms) := fun n => by
  rw [textAfter, String.append_assoc]
  exact ht.append (hw.append_spelled (hp n))

theorem spelled_between {α : Type} {separator : String} (hs : Owns d separator)
    {names : α → List String} {pss : List (List Piece)} {as : List α}
    (h : List.Forall₂ (fun ps a => Spelled d ps (names a)) pss as) :
    Spelled d (between separator pss) (as.flatMap names) := by
  induction h with
  | nil => exact follows_nil.spelled
  | @cons ps a pss as hp hps ih =>
    cases hps with
    | nil => simpa only [between, List.flatMap_cons, List.flatMap_nil, List.append_nil] using hp
    | @cons qs _ qss _ hq hqs =>
      change Spelled d (ps ++ .sql separator :: between separator (qs :: qss)) _
      rw [List.flatMap_cons]
      exact hp.append (follows_own hs ih)

end

end Piece

theorem forall₂_placed {α β : Type} {R : β → α → Prop} {place : Nat → α → β} {as : List α}
    (h : ∀ n, ∀ a ∈ as, R (place n a) a) (bound : α → List Value) (n : Nat) :
    List.Forall₂ R (placed place bound n as) as := by
  induction as generalizing n with
  | nil => exact .nil
  | cons a as ih =>
    have hnext := ih (fun m b hb => h m b (List.mem_cons_of_mem a hb)) (n + (bound a).length)
    exact .cons (h n a List.mem_cons_self) hnext

/-! ### Names and references -/

/-- The name in an identifier: a star is none. -/
def identifierNames (name : String) : List String := if name = "*" then [] else [name]

/-- The names in a reference: both halves of a `table.column` reference, or the bare column. -/
def columnNames (column : String) : List String :=
  match Text.splitFirst '.' column with
  | some (table, column) => identifierNames table ++ identifierNames column
  | none => identifierNames column

section

variable (d : Dialect)

theorem spelled_quoted (name : String) : Spelled d (d.quoted name) [name] := by
  have h := Written.name (.empty : Written d false "" []) name
  rw [String.empty_append, List.nil_append] at h
  exact ⟨true, h⟩

theorem spelled_identifier (name : String) :
    Spelled d (d.identifier name) (identifierNames name) := by
  rw [Dialect.identifier, identifierNames]
  split
  · next h =>
    rw [h]
    exact Owns.star.follows.spelled
  · exact spelled_quoted d name

theorem spelled_column (column : String) : Spelled d (d.column column) (columnNames column) := by
  rw [Dialect.column, columnNames]
  rcases Text.splitFirst '.' column with - | ⟨table, name⟩
  · exact spelled_identifier d column
  · simp only [String.append_assoc]
    exact (spelled_identifier d table).append (Owns.point.append_spelled (spelled_identifier d name))

end

/-! ### Functions and columns -/

theorem ColumnFunction.owns_name (f : ColumnFunction) (d : Dialect) : Owns d f.name := by
  cases f <;> exact .word (.word (by decide))

theorem ColumnFunction.call_eq (f : ColumnFunction) (d : Dialect) (distinct : Bool) :
    ∃ before after, Owns d before ∧ Owns d after ∧
      ∀ expression, f.call d expression distinct = before ++ expression ++ after := by
  have hextract : Owns d "EXTRACT(" := .literal "EXTRACT(" "EXTRACT" ["("] (by decide) (by decide)
  have hdistinct : Owns d "DISTINCT " :=
    .literal "DISTINCT " "DISTINCT" [" "] (by decide) (by decide)
  have hsum : Owns d "COALESCE(SUM(" :=
    .literal "COALESCE(SUM(" "COALESCE" ["(", "SUM", "("] (by decide) (by decide)
  have hzero : Owns d "), 0)" := by
    have hcomma : Owns d "), " := .literal "), " ")" [",", " "] (by decide) (by decide)
    have h := (hcomma.append (.number 0)).append .closing
    have heq : "), " ++ toString 0 ++ ")" = "), 0)" := by decide
    rwa [heq] at h
  have hdate : ∃ before after, Owns d before ∧ Owns d after ∧
      ∀ expression, f.name ++ "(" ++ expression ++ ")" = before ++ expression ++ after :=
    ⟨f.name ++ "(", ")", (f.owns_name d).append .opening, .closing, fun _ => rfl⟩
  have hpart : ∃ before after, Owns d before ∧ Owns d after ∧ ∀ expression,
      "EXTRACT(" ++ f.name ++ " FROM " ++ expression ++ ")" = before ++ expression ++ after :=
    ⟨_, ")", (hextract.append (f.owns_name d)).append .fromWord, .closing, fun _ => rfl⟩
  have haround : ∀ {before after : String}, Owns d before → Owns d after →
      ∃ before' after', Owns d before' ∧ Owns d after' ∧ ∀ expression,
        before ++ ((if distinct then "DISTINCT " else "") ++ expression) ++ after =
          before' ++ expression ++ after' := by
    intro before after hb ha
    cases distinct with
    | true =>
      exact ⟨_, _, hb.append hdistinct, ha, fun _ => by
        simp only [if_true, String.append_assoc]⟩
    | false =>
      exact ⟨_, _, hb, ha, fun _ => by
        simp only [Bool.false_eq_true, if_false, String.empty_append]⟩
  cases f with
  | year | month | day =>
    cases d with
    | mysql => exact hdate
    | postgres => exact hpart
  | sum => exact haround hsum hzero
  | count | avg | max | min => exact haround ((owns_name _ d).append .opening) .closing

theorem spelled_call {d : Dialect} {t : String} {ns : List String} (h : Spelled d t ns)
    (f : ColumnFunction) (distinct : Bool) : Spelled d (f.call d t distinct) ns := by
  obtain ⟨before, after, hb, ha, heq⟩ := f.call_eq d distinct
  rw [heq]
  exact (h.between hb ha).spelled

namespace SelectedColumn

/-- A column has an expression when it is not blank, and a star only alone or counted. -/
def isAccepted (c : SelectedColumn) : Bool :=
  !Text.allBlank c.value &&
    (c.value != "*" || match c.function with
      | none | some .count => true
      | some _ => false)

/-- The names in an entry of a selection: those of the reference, and the alias. -/
def names (c : SelectedColumn) : List String :=
  columnNames c.value ++ if c.function.isNone ∧ c.value = "*" then [] else [c.resultAlias]

variable {c : SelectedColumn} {d : Dialect} {t : String}

theorem expression_eq_ok_iff :
    (∃ t, c.expression d = .ok t) ↔ c.isAccepted = true := by
  rw [expression, isAccepted]
  by_cases hb : Text.allBlank c.value = true
  · simp [hb]
  · rcases c.function with - | f
    · simp [hb]
    · by_cases hs : c.value = "*"
      · have hstar : Text.allBlank "*" = false := by decide
        cases f <;> simp [hs, hstar]
      · simp [hb, hs]

theorem spelled_expression (h : c.expression d = .ok t) : Spelled d t (columnNames c.value) := by
  rw [expression] at h
  split at h
  · cases h
  · split at h
    · cases h
      exact spelled_column d c.value
    · split at h
      · cases h
      · cases h
        exact spelled_call (spelled_column d c.value) _ _

theorem spelled_entry (h : c.entry d = .ok t) : Spelled d t c.names := by
  rw [entry] at h
  cases he : c.expression d with
  | error e =>
    rw [he] at h
    cases h
  | ok e =>
    have hexpression := spelled_expression he
    rw [he] at h
    rw [names]
    by_cases hstar : c.function.isNone ∧ c.value = "*"
    · simp only [hstar, and_self, if_true] at h ⊢
      cases h
      rw [List.append_nil]
      simpa only [hstar.2] using hexpression
    · have has : Owns d " AS " := .literal " AS " " " ["AS", " "] (by decide) (by decide)
      have h' : t = e ++ " AS " ++ d.quoted c.resultAlias := by
        simp only [hstar, if_false] at h
        cases h
        rfl
      rw [h', String.append_assoc]
      simp only [hstar, if_false]
      exact hexpression.append (has.append_spelled (spelled_quoted d c.resultAlias))

end SelectedColumn

/-! ### Conditions -/

theorem Operator.owns_symbol {o : Operator} (h : o ≠ .contains ∧ o ≠ .notContains) (d : Dialect) :
    Owns d o.symbol := by
  cases o with
  | contains => exact absurd rfl h.1
  | notContains => exact absurd rfl h.2
  | notLike => exact .literal _ "NOT" [" ", "LIKE"] (by decide) (by decide)
  | notIn => exact .literal _ "NOT" [" ", "IN"] (by decide) (by decide)
  | isNull => exact .literal _ "IS" [" ", "NULL"] (by decide) (by decide)
  | isNotNull => exact .literal _ "IS" [" ", "NOT", " ", "NULL"] (by decide) (by decide)
  | eq | differs | bangEq | gt | ge | lt | le | like | isIn => exact .word (.word (by decide))

theorem Dialect.owns_likeWord (d : Dialect) (negated : Bool) : Owns d (d.likeWord negated) := by
  cases d with
  | mysql =>
    cases negated with
    | false => exact .word (.word (by decide))
    | true => exact .literal _ "NOT" [" ", "LIKE"] (by decide) (by decide)
  | postgres =>
    cases negated with
    | false => exact .word (.word (by decide))
    | true => exact .literal _ "NOT" [" ", "ILIKE"] (by decide) (by decide)

namespace Operand

/-- The names in an operand: those of the column it names; a bound value has none. -/
def names (o : Operand) : List String :=
  match o.reference? with
  | some column => columnNames column
  | none => []

theorem spelled_placedAt (d : Dialect) (n : Nat) (o : Operand) :
    Piece.Spelled d [o.placedAt d n] o.names := by
  rw [placedAt, names]
  cases o.reference? with
  | some column => exact Piece.spelled_sql (spelled_column d column)
  | none => exact (Piece.follows_param n).spelled

theorem spelled_pieces_take (d : Dialect) (n : Nat) (os : List Operand) :
    Piece.Spelled d (pieces d n (os.take 1)) ((os.take 1).flatMap names) := by
  cases os with
  | nil => exact Piece.follows_nil.spelled
  | cons o os =>
    have h := spelled_placedAt d n o
    simpa [pieces, placed] using h

end Operand

namespace Filter

/-- The names in a condition: those of the column, and of the columns it is compared with. -/
def names (f : Filter) : List String :=
  columnNames f.column ++ match f.operator with
    | .isIn | .notIn => f.operands.flatMap Operand.names
    | .isNull | .isNotNull | .like | .notLike | .contains | .notContains => []
    | _ => (f.operands.take 1).flatMap Operand.names

variable (f : Filter) (d : Dialect)

theorem spelled_subject : Spelled d (f.subject d) (columnNames f.column) := by
  rw [subject]
  cases f.function with
  | none => exact spelled_column d f.column
  | some g => exact spelled_call (spelled_column d f.column) g false

theorem spelled_pieces (n : Nat) : Piece.Spelled d (f.pieces d n) f.names := by
  have hsubject := f.spelled_subject d
  have hblank : Owns d " " := .blank
  have hoperands := Operand.spelled_pieces_take d n f.operands
  have hpattern : Piece.Spelled d ((f.operands.take 1).map fun _ => Piece.param n) [] := by
    rcases f.operands with - | ⟨o, os⟩
    · exact Piece.follows_nil.spelled
    · exact (Piece.follows_param n).spelled
  have hlist : Piece.Spelled d (Piece.between ", " ((Operand.pieces d n f.operands).map ([·])))
      (f.operands.flatMap Operand.names) := by
    rw [Operand.pieces, map_placed]
    exact Piece.spelled_between .comma
      (forall₂_placed (fun n o _ => o.spelled_placedAt d n) Operand.bound n)
  have hopen : Owns d " (" := .literal " (" " " ["("] (by decide) (by decide)
  cases hop : f.operator
  case isNull | isNotNull =>
    simp only [pieces, names, hop, String.append_assoc]
    have hsymbol : Owns d f.operator.symbol := Operator.owns_symbol (by simp [hop]) d
    rw [hop] at hsymbol
    exact Piece.spelled_before hsubject (hblank.append hsymbol) Piece.follows_nil.spelled
  case isIn | notIn =>
    simp only [pieces, names, hop, String.append_assoc]
    have hsymbol : Owns d f.operator.symbol := Operator.owns_symbol (by simp [hop]) d
    rw [hop] at hsymbol
    have hitems := hlist.append Piece.follows_closing
    rw [List.append_nil] at hitems
    exact Piece.spelled_before hsubject (hblank.append (hsymbol.append hopen)) hitems
  case like | contains =>
    simp only [pieces, names, hop, String.append_assoc]
    exact Piece.spelled_before hsubject (hblank.append ((d.owns_likeWord false).append hblank))
      hpattern
  case notLike | notContains =>
    simp only [pieces, names, hop, String.append_assoc]
    exact Piece.spelled_before hsubject (hblank.append ((d.owns_likeWord true).append hblank))
      hpattern
  all_goals
    simp only [pieces, names, hop, String.append_assoc]
    have hsymbol : Owns d f.operator.symbol := Operator.owns_symbol (by simp [hop]) d
    rw [hop] at hsymbol
    exact Piece.spelled_before hsubject (hblank.append (hsymbol.append hblank)) hoperands

end Filter

end QueryDesk
