import Mathlib.Data.List.Basic
import QueryDesk.Statement.Basic

/-!
# Scanning quoted names

A text is scanned by the quotes of a dialect: a quote opens a name, a doubled quote inside a name
stands for one, and a quote that is not doubled closes the name. Between the names stands the text
around them. `Written` says of what a text is put together: words of a closed vocabulary, numbers,
placeholders and quoted names, with something between any two names. Main statement: from such a text
the scan brings back the names, whatever is in them, and around them nothing but words.
-/

namespace QueryDesk

/-! ### The scan -/

/-- A part of a scanned text: what stands between quotes, or what stands around them. -/
inductive Segment where
  | text (s : String)
  | name (s : String)
deriving DecidableEq

namespace Segment

def name? : Segment → Option String
  | text _ => none
  | name s => some s

def text? : Segment → Option String
  | text s => some s
  | name _ => none

end Segment

inductive ScanPlace where
  | outside (text : String)
  | inside (name : String)
  /-- Behind a quote, which closes the name unless another quote follows. -/
  | behind (name : String)
deriving DecidableEq

/-- A scan on its way: the segments that are finished, and where it stands. -/
structure Scan where
  segments : List Segment
  place : ScanPlace
deriving DecidableEq

namespace Scan

def start : Scan := ⟨[], .outside ""⟩

/-- Reads a character; `q` is the quote. -/
def read (q : Char) (s : Scan) (c : Char) : Scan :=
  match s.place with
  | .outside t =>
    if c = q then ⟨s.segments ++ [.text t], .inside ""⟩ else ⟨s.segments, .outside (t.push c)⟩
  | .inside n =>
    if c = q then ⟨s.segments, .behind n⟩ else ⟨s.segments, .inside (n.push c)⟩
  | .behind n =>
    if c = q then ⟨s.segments, .inside (n.push q)⟩
    else ⟨s.segments ++ [.name n], .outside (String.singleton c)⟩

/-- All segments at the end of the text; a name must be closed there. -/
def finish (s : Scan) : Option (List Segment) :=
  match s.place with
  | .outside t => some (s.segments ++ [.text t])
  | .inside _ => none
  | .behind n => some (s.segments ++ [.name n])

end Scan

/-- The segments of a text in the quotes of a dialect. -/
def Dialect.scan (d : Dialect) (sql : String) : Option (List Segment) :=
  (sql.toList.foldl (Scan.read d.quote) .start).finish

/-! ### The words of a statement -/

/-- The words that statements have of their own: keywords, functions, operators and punctuation. -/
def vocabulary : List String := [
  "SELECT", "FROM", "WHERE", "AND", "OR", "GROUP", "BY", "HAVING", "ORDER", "LIMIT", "OFFSET", "AS",
  "ASC", "DESC", "DISTINCT", "INSERT", "INTO", "VALUES", "UPDATE", "SET", "NOT", "IN", "IS", "NULL",
  "LIKE", "ILIKE",
  "YEAR", "MONTH", "DAY", "SUM", "COUNT", "AVG", "MAX", "MIN", "EXTRACT", "COALESCE", "LOWER",
  "=", "<>", "!=", ">", ">=", "<", "<=",
  "*", "(", ")", ",", ".", " "]

/-- A word of the vocabulary, a number or a placeholder. -/
inductive OwnWord (d : Dialect) : String → Prop
  | word {w : String} (h : w ∈ vocabulary) : OwnWord d w
  | number (n : Nat) : OwnWord d (toString n)
  | placeholder (n : Nat) : OwnWord d (d.placeholder n)

/-- Text made of own words only. -/
inductive OwnText (d : Dialect) : String → Prop
  | empty : OwnText d ""
  | append {t w : String} (ht : OwnText d t) (hw : OwnWord d w) : OwnText d (t ++ w)

/-- A text that is put together of own words and quoted names, with the names in their order. The flag
tells that it ends with a name; no other name may follow at once. -/
inductive Written (d : Dialect) : Bool → String → List String → Prop
  | empty : Written d false "" []
  | own {b : Bool} {t : String} {ns : List String} (h : Written d b t ns) {w : String}
      (hw : OwnWord d w) : Written d false (t ++ w) ns
  -- Not behind another name: the two quotes there would be read as one doubled quote.
  | name {t : String} {ns : List String} (h : Written d false t ns) (s : String) :
      Written d true (t ++ d.quoted s) (ns ++ [s])

namespace OwnWord

variable {d : Dialect} {w : String}

theorem digits_ne_quote (n : Nat) (d : Dialect) : d.quote ∉ (toString n).toList := by
  intro h
  rw [Nat.toString_eq_repr, Nat.toList_repr] at h
  have hdigit := Nat.isDigit_of_mem_toDigits (by decide) (by decide) h
  cases d <;> simp [Dialect.quote] at hdigit

theorem toString_ne_empty (n : Nat) : toString n ≠ "" := by
  intro h
  have hn : (toString n).toList = [] := by rw [h]; rfl
  rw [Nat.toString_eq_repr, Nat.toList_repr] at hn
  exact Nat.toDigits_ne_nil hn

theorem spec (h : OwnWord d w) : w ≠ "" ∧ d.quote ∉ w.toList := by
  have hwords : ∀ w ∈ vocabulary, w ≠ "" ∧ '`' ∉ w.toList ∧ '"' ∉ w.toList := by decide
  cases h with
  | word h =>
    obtain ⟨hne, hmysql, hpostgres⟩ := hwords w h
    cases d
    · exact ⟨hne, hmysql⟩
    · exact ⟨hne, hpostgres⟩
  | number n => exact ⟨toString_ne_empty n, digits_ne_quote n d⟩
  | placeholder n =>
    cases d with
    | mysql =>
      change "?" ≠ "" ∧ '`' ∉ "?".toList
      decide
    | postgres =>
      refine ⟨fun h => ?_, fun h => ?_⟩
      · have hl := congrArg String.length h
        simp [Dialect.placeholder] at hl
      · simp only [Dialect.placeholder, String.toList_append, List.mem_append] at h
        rcases h with h | h
        · exact absurd h (by decide)
        · exact digits_ne_quote n .postgres h

end OwnWord

/-! ### Reading words and names -/

namespace Scan

variable {q : Char} {segments : List Segment}

theorem foldl_outside (t : String) {cs : List Char} (h : q ∉ cs) :
    cs.foldl (read q) ⟨segments, .outside t⟩ = ⟨segments, .outside (t ++ String.ofList cs)⟩ := by
  induction cs generalizing t with
  | nil => simp
  | cons c cs ih =>
    obtain ⟨hc, hcs⟩ := List.ne_and_not_mem_of_not_mem_cons h
    rw [List.foldl_cons, read]
    simp only [Ne.symm hc, if_false]
    rw [ih _ hcs, String.push_eq_append, String.ofList_cons, String.append_assoc]

theorem foldl_behind (n : String) {cs : List Char} (hne : cs ≠ []) (h : q ∉ cs) :
    cs.foldl (read q) ⟨segments, .behind n⟩ =
      ⟨segments ++ [.name n], .outside (String.ofList cs)⟩ := by
  cases cs with
  | nil => exact absurd rfl hne
  | cons c cs =>
    obtain ⟨hc, hcs⟩ := List.ne_and_not_mem_of_not_mem_cons h
    rw [List.foldl_cons, read]
    simp only [Ne.symm hc, if_false]
    rw [foldl_outside _ hcs, String.ofList_cons]

theorem foldl_inside (n : String) (cs : List Char) :
    (Dialect.doubled q cs).foldl (read q) ⟨segments, .inside n⟩ =
      ⟨segments, .inside (n ++ String.ofList cs)⟩ := by
  induction cs generalizing n with
  | nil => simp [Dialect.doubled]
  | cons c cs ih =>
    by_cases hc : c = q
    · subst hc
      simp only [Dialect.doubled, if_true, List.foldl_cons, read]
      rw [ih, String.push_eq_append, String.ofList_cons, String.append_assoc]
    · simp only [Dialect.doubled, hc, if_false, List.foldl_cons, read]
      rw [ih, String.push_eq_append, String.ofList_cons, String.append_assoc]

/-- A quoted name is read as the name, whatever is in it. -/
theorem foldl_quoted (d : Dialect) (t name : String) :
    (d.quoted name).toList.foldl (read d.quote) ⟨segments, .outside t⟩ =
      ⟨segments ++ [.text t], .behind name⟩ := by
  rw [Dialect.quoted_toList, List.foldl_cons, List.foldl_append, read]
  simp only [if_true]
  rw [foldl_inside, List.foldl_cons, List.foldl_nil, read]
  simp

/-- What is known of a scan behind a written text: it is outside, and the text there is own text, or
it is behind a quote, and the name there is the last one. -/
def Reads (d : Dialect) (s : Scan) (ended : Bool) (names : List String) : Prop :=
  (∀ t ∈ s.segments.filterMap Segment.text?, OwnText d t) ∧
  match s.place with
  | .outside t => ended = false ∧ OwnText d t ∧ s.segments.filterMap Segment.name? = names
  | .inside _ => False
  | .behind n => ended = true ∧ s.segments.filterMap Segment.name? ++ [n] = names

theorem ownText_snoc {d : Dialect} {t : String}
    (h : ∀ u ∈ segments.filterMap Segment.text?, OwnText d u) (ht : OwnText d t) :
    ∀ u ∈ (segments ++ [Segment.text t]).filterMap Segment.text?, OwnText d u := by
  intro u hu
  rw [List.filterMap_append, List.mem_append] at hu
  rcases hu with hu | hu
  · exact h u hu
  · simp only [List.filterMap_cons, Segment.text?, List.filterMap_nil, List.mem_singleton] at hu
    rw [hu]
    exact ht

variable {d : Dialect} {s : Scan} {ended : Bool} {ns : List String}

theorem Reads.own (h : s.Reads d ended ns) {w : String} (hw : OwnWord d w) :
    (w.toList.foldl (read d.quote) s).Reads d false ns := by
  obtain ⟨segments, place⟩ := s
  obtain ⟨hne, hq⟩ := hw.spec
  have hcs : w.toList ≠ [] := fun h => hne (String.toList_eq_nil_iff.1 h)
  cases place with
  | outside t =>
    obtain ⟨htexts, -, ht, hnames⟩ := h
    rw [foldl_outside t hq, String.ofList_toList]
    exact ⟨htexts, rfl, ht.append hw, hnames⟩
  | inside n => exact h.2.elim
  | behind n =>
    obtain ⟨htexts, -, hnames⟩ := h
    rw [foldl_behind n hcs hq, String.ofList_toList]
    have hown : OwnText d w := by
      have h := OwnText.empty.append hw
      rwa [String.empty_append] at h
    refine ⟨?_, rfl, hown, ?_⟩
    · simpa [Segment.text?] using htexts
    · simpa [Segment.name?] using hnames

theorem Reads.name (h : s.Reads d false ns) (name : String) :
    ((d.quoted name).toList.foldl (read d.quote) s).Reads d true (ns ++ [name]) := by
  obtain ⟨segments, place⟩ := s
  cases place with
  | outside t =>
    obtain ⟨htexts, -, ht, hnames⟩ := h
    rw [foldl_quoted]
    refine ⟨ownText_snoc htexts ht, rfl, ?_⟩
    simp only [List.filterMap_append, hnames]
    simp [Segment.name?]
  | inside n => exact h.2.elim
  | behind n => cases h.2.1

end Scan

/-- The scan of a written text, word by word and name by name. -/
theorem Written.reads {d : Dialect} {b : Bool} {t : String} {ns : List String}
    (h : Written d b t ns) : (t.toList.foldl (Scan.read d.quote) .start).Reads d b ns := by
  induction h with
  | empty => exact ⟨by simp [Scan.start], rfl, .empty, rfl⟩
  | own h hw ih =>
    rw [String.toList_append, List.foldl_append]
    exact ih.own hw
  | name h s ih =>
    rw [String.toList_append, List.foldl_append]
    exact ih.name s

/-- From a written text the scan brings back the names in their order, and around them own text. -/
theorem Written.scan {d : Dialect} {b : Bool} {t : String} {ns : List String}
    (h : Written d b t ns) :
    ∃ segments, d.scan t = some segments ∧ segments.filterMap Segment.name? = ns ∧
      ∀ u ∈ segments.filterMap Segment.text?, OwnText d u := by
  obtain ⟨htexts, hplace⟩ := h.reads
  rw [Dialect.scan]
  rcases hs : t.toList.foldl (Scan.read d.quote) .start with ⟨segments, place⟩
  rw [hs] at htexts hplace
  cases place with
  | outside u =>
    obtain ⟨-, hu, hnames⟩ := hplace
    refine ⟨segments ++ [.text u], rfl, ?_, Scan.ownText_snoc htexts hu⟩
    rw [List.filterMap_append, hnames]
    simp [Segment.name?]
  | inside n => exact hplace.elim
  | behind n =>
    refine ⟨segments ++ [.name n], rfl, ?_, ?_⟩
    · rw [List.filterMap_append, ← hplace.2]
      rfl
    · simpa [Segment.text?] using htexts

end QueryDesk
