import QueryDesk.Proofs.Sql.Closed

/-!
# Parameter marks of texts behind each other

`Shows` says which parameter marks the server meets in a text that it reads from the start, and that
the text is closed. A text that begins with a separator may stand behind such a text, and the marks
of both come in their order. Own words of a statement, numbers and quoted names have no marks,
whatever is in the names, and a placeholder is itself its mark.
-/

namespace QueryDesk.Sql.Server

section

variable {d : Dialect} {b cs t u w ms ns : List Char} {c : Char}

/-! ### Texts behind each other -/

/-- The server reads a text from the start, meets these parameter marks, and a separator behind the
text leads it back to the start. -/
structure Shows (d : Dialect) (t ms : List Char) : Prop where
  closed : Closed d t
  marks : Server.marks d .start t = ms

/-- The server reads a text back to the start and meets no parameter mark. -/
structure Leads (d : Dialect) (w : List Char) : Prop where
  after : Server.after d .start w = .start
  marks : Server.marks d .start w = []

/-- A text with these parameter marks that may stand behind any closed text. -/
structure Continues (d : Dialect) (t ms : List Char) : Prop where
  shows : Shows d t ms
  head : t.head?.all separates = true

theorem Shows.append (ht : Shows d t ms) (hu : Continues d u ns) : Shows d (t ++ u) (ms ++ ns) := by
  rcases u with - | ⟨c, u⟩
  · obtain rfl : [] = ns := hu.shows.marks
    rw [List.append_nil, List.append_nil]
    exact ht
  · have hc : separates c = true := hu.head
    refine ⟨fun x hx => ?_, ?_⟩
    · rw [ht.closed.after_append hc]
      exact hu.shows.closed x hx
    · rw [ht.closed.marks_append hc, ht.marks, hu.shows.marks]

theorem Leads.append_shows (hw : Leads d w) (ht : Shows d t ms) : Shows d (w ++ t) ms where
  closed x hx := by
    rw [after_append, hw.after]
    exact ht.closed x hx
  marks := by rw [marks_append, hw.marks, hw.after, List.nil_append, ht.marks]

theorem Continues.append (ht : Continues d t ms) (hu : Continues d u ns) :
    Continues d (t ++ u) (ms ++ ns) where
  shows := ht.shows.append hu
  head := by
    rcases t with - | ⟨c, t⟩
    · exact hu.head
    · exact ht.head

theorem Shows.nil : Shows d [] [] := ⟨fun _ => next_start, rfl⟩

theorem Continues.nil : Continues d [] [] := ⟨.nil, rfl⟩

/-! ### Own words -/

/-- A character of the own words of statements. -/
def isPlain (c : Char) : Bool := c.isUpper || c.isDigit || separates c || "=<>!*".toList.contains c

theorem plain_ne (h : isPlain c = true) : isMark d c = false ∧ c ∉ ['/', '-', '#', '$', '?'] := by
  have hne : ∀ x ∈ ['\'', '"', '`', '/', '-', '#', '$', '?'], c ≠ x := by
    have hall : ['\'', '"', '`', '/', '-', '#', '$', '?'].any isPlain = false := by decide
    rintro x hx rfl
    exact List.any_eq_false.1 hall c hx h
  simp only [List.forall_mem_cons, List.not_mem_nil, false_implies, implies_true] at hne
  exact ⟨by simp [isMark, hne], by simp [hne]⟩

theorem plain_head {x : Char} (hb : b.all isPlain = true) (hx : isPlain x = false) :
    b.head? ≠ some x := by
  rintro hhead
  obtain ⟨b', rfl⟩ := List.head?_eq_some_iff.1 hhead
  rw [List.all_cons, hx] at hb
  cases hb

theorem next_isPlain (hb : b.all isPlain = true) (h : isPlain c = true) :
    next d (.outside b) c = .outside (push b c) ∧ mark d (.outside b) c = [] ∧
      (push b c).all isPlain = true := by
  obtain ⟨hm, hother⟩ := plain_ne (d := d) h
  simp only [List.mem_cons, List.not_mem_nil, or_false, not_or] at hother
  have hslash := plain_head hb (x := '/') rfl
  have hdash := plain_head hb (x := '-') rfl
  have htwo : b.take 2 ≠ ['-', '-'] := by
    rintro he
    obtain ⟨b', rfl⟩ := two_dashes he
    exact hdash rfl
  refine ⟨?_, ?_, ?_⟩
  · cases d <;> simp [next, nextOutside, hm, hother, hslash, htwo]
  · cases d with
    | mysql => simp [mark, markOutside, hother]
    | postgres =>
      have hword : (wordBehind .postgres b).head? ≠ some '$' := by
        intro hhead
        have hmem : '$' ∈ b := (List.takeWhile_sublist _).subset
          (List.mem_reverse.1 (List.mem_of_mem_head? hhead))
        exact absurd (List.all_eq_true.1 hb '$' hmem) (by decide)
      simp [mark, markOutside, paramDigit_eq_nil c hword]
  · rw [push]
    split
    · rfl
    · rw [List.all_cons, h, hb]
      rfl

theorem after_plain (hb : b.all isPlain = true) (h : cs.all isPlain = true) :
    ∃ b', b'.all isPlain = true ∧ after d (.outside b) cs = .outside b' ∧
      marks d (.outside b) cs = [] := by
  induction cs generalizing b with
  | nil => exact ⟨b, hb, rfl, rfl⟩
  | cons c cs ih =>
    rw [List.all_cons, Bool.and_eq_true] at h
    obtain ⟨hnext, hmark, hpush⟩ := next_isPlain (d := d) hb h.1
    obtain ⟨b', hb', hafter, hmarks⟩ := ih hpush h.2
    refine ⟨b', hb', ?_, ?_⟩
    · rw [after_cons, hnext, hafter]
    · rw [marks_cons, hmark, hnext, hmarks, List.append_nil]

theorem shows_plain (h : t.all isPlain = true) : Shows d t [] := by
  obtain ⟨b, hb, hafter, hmarks⟩ := after_plain (d := d) (b := []) rfl h
  refine ⟨fun c hc => ?_, hmarks⟩
  have hplain : isPlain c = true := by simp [isPlain, hc]
  rw [Mode.start, hafter, (next_isPlain hb hplain).1, push, if_pos hc]

theorem leads_plain (h : w.all isPlain = true) (hlast : w.getLast?.any separates = true) :
    Leads d w := by
  rcases w.eq_nil_or_concat with rfl | ⟨v, c, rfl⟩
  · cases hlast
  · rw [List.concat_eq_append] at *
    have hc : separates c = true := by simpa using hlast
    rw [List.all_append, Bool.and_eq_true] at h
    have hv := shows_plain (d := d) h.1
    refine ⟨?_, ?_⟩
    · rw [after_append, after_cons, after_nil, hv.closed c hc]
    · rw [marks_append, marks_cons, marks_nil, hv.marks, mark_separates hc]
      rfl

/-! ### Numbers and placeholders -/

theorem isDigit_of_mem_toString {n : Nat} (h : c ∈ (toString n).toList) : c.isDigit = true := by
  rw [Nat.toString_eq_repr, Nat.toList_repr] at h
  exact Nat.isDigit_of_mem_toDigits (by decide) (by decide) h

theorem shows_number (n : Nat) : Shows d (toString n).toList [] := by
  refine shows_plain (List.all_eq_true.2 fun c hc => ?_)
  simp [isPlain, isDigit_of_mem_toString hc]

theorem next_digit (h : c.isDigit = true) :
    next .postgres (.outside b) c = .outside (c :: b) := by
  have htag : ∀ x ∈ [c], insideName .postgres x = true ∧ x ≠ '$' := by
    intro x hx
    rw [List.mem_singleton.1 hx]
    refine ⟨insideName_of_isDigit h, ?_⟩
    rintro rfl
    cases h
  exact after_tag htag

/-- Behind a dollar sign and a digit, further digits belong to the parameter mark. -/
theorem marks_digits (hb : wordBehind .postgres b = '$' :: u) (hu : u.all Char.isDigit = true)
    (hne : u ≠ []) (h : ∀ c ∈ cs, c.isDigit = true) : marks .postgres (.outside b) cs = cs := by
  induction cs generalizing b u with
  | nil => rfl
  | cons c cs ih =>
    have hc := h c List.mem_cons_self
    have hmark : mark .postgres (.outside b) c = [c] := by
      obtain ⟨x, u, rfl⟩ := List.exists_cons_of_ne_nil hne
      simp only [mark, markOutside, hc, if_true, hb, paramDigit, hu]
    have hword : wordBehind .postgres (c :: b) = '$' :: (u ++ [c]) := by
      have happend := wordBehind_append (b := b) (u := [c]) (d := .postgres)
        (by simpa using insideName_of_isDigit hc)
      rwa [hb] at happend
    rw [marks_cons, hmark, next_digit hc, ih hword (by simp [hu, hc]) (by simp)
      fun x hx => h x (List.mem_cons_of_mem c hx)]
    rfl

theorem marks_parameter (hne : cs ≠ []) (h : ∀ c ∈ cs, c.isDigit = true) :
    marks .postgres .start ('$' :: cs) = '$' :: cs := by
  obtain ⟨c, cs, rfl⟩ := List.exists_cons_of_ne_nil hne
  have hc := h c List.mem_cons_self
  have hnext : next .postgres .start '$' = .outside ['$'] := rfl
  have hword : wordBehind .postgres [c, '$'] = ['$', c] := by
    have happend := wordBehind_append (b := []) (u := ['$', c]) (d := .postgres)
      (by simpa [insideName] using insideName_of_isDigit hc)
    exact happend
  have hmark : mark .postgres (.outside ['$']) c = ['$', c] := by
    simp only [mark, markOutside, hc, if_true]
    rfl
  rw [marks_cons, marks_cons, hnext, hmark, next_digit hc,
    marks_digits hword (by simp [hc]) (by simp) fun x hx => h x (List.mem_cons_of_mem c hx)]
  rfl

theorem shows_placeholder (d : Dialect) (n : Nat) :
    Shows d (d.placeholder n).toList (d.placeholder n).toList := by
  cases d with
  | mysql =>
    have hlist : (Dialect.placeholder .mysql n).toList = ['?'] := by simp [Dialect.placeholder]
    rw [hlist]
    exact ⟨fun c hc => (nextOutside_separates hc).resolve_right (by decide), rfl⟩
  | postgres =>
    have hdigits : ∀ c ∈ (toString n).toList, c.isDigit = true := fun c => isDigit_of_mem_toString
    have hne : (toString n).toList ≠ [] := by
      rw [Nat.toString_eq_repr, Nat.toList_repr]
      exact Nat.toDigits_ne_nil
    have hlist : (Dialect.placeholder .postgres n).toList = '$' :: (toString n).toList := by
      rw [Dialect.placeholder, String.toList_append]
      rfl
    rw [hlist]
    refine ⟨fun c hc => ?_, marks_parameter hne hdigits⟩
    have hafter : after .postgres .start ('$' :: (toString n).toList) =
        .outside ((toString n).toList.reverse ++ ['$']) := by
      rw [after_cons]
      refine after_tag fun c hc => ⟨insideName_of_isDigit (hdigits c hc), ?_⟩
      rintro rfl
      cases hdigits '$' hc
    rw [hafter]
    exact (nextOutside_separates hc).resolve_right (by simp)

/-! ### Names -/

theorem after_doubled {q : Quoting} (hq : q.escapes = false) (cs : List Char) :
    after d (.inside q) (Dialect.doubled q.mark cs) = .inside q ∧
      marks d (.inside q) (Dialect.doubled q.mark cs) = [] := by
  induction cs with
  | nil => exact ⟨rfl, rfl⟩
  | cons c cs ih =>
    by_cases hc : c = q.mark
    · simp only [Dialect.doubled, hc, if_true, after_cons, marks_cons, next, mark]
      exact ih
    · simp only [Dialect.doubled, hc, if_false, after_cons, marks_cons, next, mark, hq,
        Bool.false_eq_true, and_false]
      exact ih

def nameQuoting (d : Dialect) : Quoting := ⟨d.quote, false, false⟩

theorem after_quoted (hb : wordBehind d b = []) (name : String) :
    after d (.outside b) (d.quoted name).toList = .shut (nameQuoting d) ∧
      marks d (.outside b) (d.quoted name).toList = [] := by
  have hopen : next d (.outside b) d.quote = .inside (nameQuoting d) ∧
      mark d (.outside b) d.quote = [] := by
    cases d with
    | mysql => simp [next, nextOutside, isMark, hb, Dialect.quote, quoting, nameQuoting, mark,
        markOutside]
    | postgres => simp [next, nextOutside, isMark, hb, Dialect.quote, quoting, nameQuoting, mark,
        markOutside]
  obtain ⟨hafter, hmarks⟩ := after_doubled (d := d) (q := nameQuoting d) rfl name.toList
  rw [Dialect.quoted_toList, after_cons, marks_cons, hopen.1, hopen.2, after_append, marks_append]
  rw [nameQuoting] at *
  rw [hafter, hmarks]
  simp [next, mark]

/-- Where the server stands behind an identifier. -/
inductive Named (d : Dialect) : Mode → Prop
  | quoted : Named d (.shut (nameQuoting d))
  | star (b : List Char) : Named d (.outside ('*' :: b))

theorem after_identifier (hb : wordBehind d b = []) (hslash : b.head? ≠ some '/') (name : String) :
    Named d (after d (.outside b) (d.identifier name).toList) ∧
      marks d (.outside b) (d.identifier name).toList = [] := by
  rw [Dialect.identifier]
  split
  · next hname =>
    have hlist : "*".toList = ['*'] := rfl
    have hnext : next d (.outside b) '*' = .outside ('*' :: b) := by
      cases d <;> simp [next, nextOutside, isMark, hslash, isControl, push, separates]
    have hmark : mark d (.outside b) '*' = [] := by
      cases d <;> simp [mark, markOutside]
    rw [hname, hlist, after_cons, after_nil, marks_cons, marks_nil, hnext, hmark]
    exact ⟨.star b, rfl⟩
  · obtain ⟨hafter, hmarks⟩ := after_quoted hb name
    rw [hafter, hmarks]
    exact ⟨.quoted, rfl⟩

theorem Named.closed (h : Named d (after d .start t)) : Closed d t := by
  intro c hc
  generalize after d .start t = m at *
  cases h with
  | quoted => exact next_shut (by cases d <;> rfl) hc
  | star b => exact (nextOutside_separates hc).resolve_right (by simp)

theorem Named.point {m : Mode} (h : Named d m) :
    ∃ b, next d m '.' = .outside ('.' :: b) ∧ mark d m '.' = [] := by
  cases h with
  | quoted =>
    refine ⟨[], ?_, ?_⟩
    · cases d <;> simp [next, nextOutside, nameQuoting, Dialect.quote, isMark, push, separates]
    · cases d <;> simp [mark, markOutside]
  | star b =>
    refine ⟨'*' :: b, ?_, ?_⟩
    · cases d <;> simp [next, nextOutside, isMark, push, separates]
    · cases d <;> simp [mark, markOutside]

theorem shows_quoted (d : Dialect) (name : String) : Shows d (d.quoted name).toList [] := by
  obtain ⟨hafter, hmarks⟩ := after_quoted (d := d) (b := []) rfl name
  have hnamed : Named d (after d .start (d.quoted name).toList) := by
    rw [Mode.start, hafter]
    exact .quoted
  exact ⟨hnamed.closed, hmarks⟩

theorem shows_identifier (d : Dialect) (name : String) : Shows d (d.identifier name).toList [] := by
  obtain ⟨hnamed, hmarks⟩ := after_identifier (d := d) (b := []) rfl (by simp) name
  exact ⟨hnamed.closed, hmarks⟩

theorem shows_column (d : Dialect) (name : String) : Shows d (d.column name).toList [] := by
  rw [Dialect.column]
  split
  · next table column _ =>
    obtain ⟨htable, htableMarks⟩ := after_identifier (d := d) (b := []) rfl (by simp) table
    obtain ⟨x, hnext, hmark⟩ := htable.point
    obtain ⟨hcolumn, hcolumnMarks⟩ := after_identifier (d := d) (b := '.' :: x)
      (wordBehind_cons_of_not (by cases d <;> rfl)) (by simp) column
    have hpoint : ".".toList = ['.'] := rfl
    have hafter : after d .start (d.identifier table ++ "." ++ d.identifier column).toList =
        after d (.outside ('.' :: x)) (d.identifier column).toList := by
      rw [String.toList_append, String.toList_append, after_append, after_append, hpoint,
        after_cons, after_nil, Mode.start, hnext]
    refine ⟨Named.closed (by rw [hafter]; exact hcolumn), ?_⟩
    rw [String.toList_append, String.toList_append, marks_append, marks_append, after_append,
      hpoint, after_cons, after_nil, marks_cons, marks_nil, Mode.start, htableMarks, hnext, hmark,
      hcolumnMarks]
    rfl
  · exact shows_identifier d name

end

end QueryDesk.Sql.Server
