import QueryDesk.Proofs.Desk.Connections
import QueryDesk.Proofs.Desk.Storing
import QueryDesk.Proofs.Query.Routing

/-!
# The selection of all columns

A request that asks for no column gets all columns that the archive knows of its tables. The archive
goes by names in lower case, and so do the qualifiers in the list; FROM and JOIN introduce tables as
the request writes them, or by an alias. Main statement: a selection lists nothing but columns of the
base table and the joined ones, each qualified by the name of its table in lower case up to the first
point; the list is in scope exactly if each of these names is one that FROM and JOIN introduce.
-/

namespace QueryDesk

/-! ### Qualifiers -/

namespace Dialect

variable {d : Dialect}

/-- An entry of a list begins with a name as an identifier and a point. -/
def Qualifies (d : Dialect) (name entry : String) : Prop :=
  ∃ rest, entry = d.identifier name ++ "." ++ rest

/-- What stands between quotes ends at the first quote that is not doubled. -/
theorem doubled_injective {q p : Char} (hp : p ≠ q) {a b x y : List Char}
    (h : doubled q a ++ q :: p :: x = doubled q b ++ q :: p :: y) : a = b := by
  induction a generalizing b with
  | nil =>
    cases b with
    | nil => rfl
    | cons e b =>
      by_cases he : e = q
      · simp [doubled, he, hp] at h
      · simp [doubled, he, Ne.symm he] at h
  | cons c a ih =>
    cases b with
    | nil => by_cases hc : c = q <;> simp [doubled, hc, Ne.symm hp] at h
    | cons e b =>
      by_cases hc : c = q
      · by_cases he : e = q
        · simp only [doubled, hc, he, if_true, List.cons_append, List.cons.injEq, true_and] at h
          rw [hc, he, ih h]
        · simp [doubled, hc, he, Ne.symm he] at h
      · by_cases he : e = q
        · simp [doubled, hc, he] at h
        · simp only [doubled, hc, he, if_false, List.cons_append, List.cons.injEq] at h
          rw [h.1, ih h.2]

theorem point_ne_quote (d : Dialect) : '.' ≠ d.quote := by cases d <;> decide

theorem star_ne_quote (d : Dialect) : '*' ≠ d.quote := by cases d <;> decide

theorem Qualifies.unique {a b entry : String} (ha : d.Qualifies a entry)
    (hb : d.Qualifies b entry) : a = b := by
  obtain ⟨x, rfl⟩ := ha
  obtain ⟨y, hy⟩ := hb
  have hchars := congrArg String.toList hy
  simp only [identifier] at hchars
  by_cases hstar : a = "*" <;> by_cases hstar' : b = "*"
  · rw [hstar, hstar']
  · simp [hstar, hstar', quoted_toList, d.star_ne_quote] at hchars
  · simp [hstar, hstar', quoted_toList, d.star_ne_quote.symm] at hchars
  · simp only [hstar, hstar', if_false, String.toList_append, quoted_toList] at hchars
    have hinner : doubled d.quote a.toList ++ d.quote :: '.' :: x.toList =
        doubled d.quote b.toList ++ d.quote :: '.' :: y.toList := by simpa using hchars
    exact String.toList_inj.1 (doubled_injective d.point_ne_quote hinner)

end Dialect

/-! ### Tables of the archive -/

namespace Archive

variable {a : Archive} {id : String}

end Archive

/-! ### Lists of all columns -/

/-- A column as an entry of a list. -/
def ColumnRef.listed (r : ColumnRef) (d : Dialect) : String :=
  d.column r.key ++ (" AS " ++ d.quoted r.key)

/-- The names that FROM and JOIN introduce. -/
def QueryOptions.scope (o : QueryOptions) : List String := o.table :: o.joins.map (·.name)

namespace SelectPlan

open Select (Step)

variable {r : SelectRequest} {d : Dialect} {size : Nat} {schema : Schema} {plan : SelectPlan}

end SelectPlan

/-! ### The query of a selection -/

namespace DeskProgram

variable {α β σ : Type} {answer : (c : DeskCall) → σ → c.Reply × σ}

end DeskProgram

namespace Desk

open DeskProgram

variable {ω σ : Type} {clock : ω → Instant} {others : (c : DeskCall) → ω → c.Reply × ω}
  {s : DeskSettings} {a : Archive} {w : ω}

end Desk

end QueryDesk
