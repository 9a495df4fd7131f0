import QueryDesk.Proofs.Sql.Boundary

/-!
# Tokens as the server reads them

`Reads` says of a token that the server reads its text, whatever it has read before, and stands
ready for the next one. Here this is shown of words, operators, quoted texts and names, comments and
texts between dollar tags. Places of doubt in the text of the token are excepted.
-/

namespace QueryDesk.Sql.Server

/-! ### Tokens -/

/-- The server reads the text of a token and stands ready for the next one. No parameter mark is in
the text, unless the token is one. -/
def Reads (d : Dialect) (behind s : List Char) (t : Token) (rest : List Char) : Prop :=
  ∃ u, u ≠ [] ∧ s = u ++ rest ∧ (doubtful d (.outside behind) u = false →
    Ready d (after d (.outside behind) u) rest ∧
      ((∀ p, t ≠ .placeholder p) → marks d (.outside behind) u = []))

section

variable {d : Dialect} {b r u s rest p : List Char} {c q : Char} {t : Token}

theorem reads_plain (h : Rests d b (c :: r)) (hm : isMark d c = false) (hn : insideName d c = false)
    (hs : d = .mysql → c ≠ '#' ∧ c ≠ '?') (ha : Alone d c r) : Reads d b (c :: r) t r := by
  refine ⟨[c], by simp, rfl, fun hd => ?_⟩
  rw [doubtful_cons, doubtful_nil, Bool.or_false] at hd
  have hnext := next_plain h hm hn (fun hd => (hs hd).1) hd
  have hready := Ready.outside (h.push hn (.inl ha))
  rw [after_cons, after_nil, hnext, marks_cons, marks_nil, mark_plain hn fun hd => (hs hd).2]
  exact ⟨hready, fun _ => rfl⟩

theorem Reads.cons (h : Rests d b (c :: s)) (hm : isMark d c = false) (hn : insideName d c = false)
    (hs : d = .mysql → c ≠ '#' ∧ c ≠ '?') (ha : Alone d c s)
    (hr : Rests d (push b c) s → Reads d (push b c) s t rest) : Reads d b (c :: s) t rest := by
  obtain ⟨u, -, rfl, hu⟩ := hr (h.push hn (.inl ha))
  refine ⟨c :: u, by simp, rfl, fun hd => ?_⟩
  rw [doubtful_cons, Bool.or_eq_false_iff] at hd
  have hnext := next_plain h hm hn (fun hd => (hs hd).1) hd.1
  rw [hnext] at hd
  rw [after_cons, marks_cons, hnext, mark_plain hn fun hd => (hs hd).2, List.nil_append]
  exact hu hd.2

/-- What follows characters that are read over decides how a token ends. -/
theorem Reads.behind {b' : List Char} (hr : Reads d b' s t rest)
    (hu : after d (.outside b) u = .outside b' ∧ marks d (.outside b) u = []) :
    Reads d b (u ++ s) t rest := by
  obtain ⟨v, hne, rfl, hv⟩ := hr
  refine ⟨u ++ v, by simp [hne], by rw [List.append_assoc], fun hd => ?_⟩
  rw [doubtful_append, Bool.or_eq_false_iff, hu.1] at hd
  rw [after_append, marks_append, hu.1, hu.2, List.nil_append]
  exact hv hd.2

theorem reads_operator (h : Rests d b (u ++ rest)) (hne : u ≠ [])
    (hu : ∀ c ∈ u, isOperator d c = true) (ha : ∀ c r, u ++ rest = c :: r → Alone d c r)
    (hlater : d = .mysql → '-' ∉ u.tail) : Reads d b (u ++ rest) t rest := by
  refine ⟨u, hne, rfl, fun hd => ?_⟩
  obtain ⟨hafter, hrests, hmarks⟩ :=
    after_operator hu h (fun c r he => .inl (ha c r he)) hlater hd
  rw [hafter, hmarks]
  exact ⟨.outside hrests, fun _ => rfl⟩

/-! ### Words -/

theorem numeric_iff : numeric d b = true ↔ ∃ c w, wordBehind d b = c :: w ∧
    (c.isDigit = true ∨ c ≠ '$' ∧ (b.dropWhile (insideName d)).head? = some '.') := by
  rw [numeric]
  rcases hw : wordBehind d b with - | ⟨c, w⟩ <;> simp

theorem numeric_head (h : numeric d b = true) : (wordBehind d b).head? ≠ some '$' := by
  obtain ⟨c, w, hw, hc⟩ := numeric_iff.1 h
  rw [hw]
  intro he
  obtain rfl := Option.some.inj he
  rcases hc with hc | hc
  · cases hc
  · exact hc.1 rfl

theorem numeric_append (hu : ∀ c ∈ u, insideName d c = true) (h : numeric d b = true) :
    numeric d (u.reverse ++ b) = true := by
  obtain ⟨c, w, hw, hc⟩ := numeric_iff.1 h
  have hr : ∀ c ∈ u.reverse, insideName d c = true := fun c hc => hu c (List.mem_reverse.1 hc)
  refine numeric_iff.2 ⟨c, w ++ u, ?_, ?_⟩
  · rw [wordBehind_append hu, hw, List.cons_append]
  · rwa [List.dropWhile_append_of_pos hr]

/-- Behind a character that is part of no operator, only words matter. -/
theorem Rests.of_head (hb : b.head? ≠ some '/' ∧ b.head? ≠ some '-')
    (hword : ∀ c r, rest = c :: r → insideName d c = true →
      wordBehind d b = [] ∨ numeric d b = true)
    (hliteral : d = .postgres → rest.head? = some '\'' →
      wordBehind d b = ['e'] ∨ wordBehind d b = ['E'] → numeric d b = true) : Rests d b rest where
  word := hword
  literal := hliteral
  block h := absurd h hb.1
  line _ h := absurd h hb.2
  dash _ h := absurd h hb.2
  dashes _ h := by
    rcases b with - | ⟨b₀, b⟩
    · cases h
    · obtain ⟨rfl, -⟩ : b₀ = '-' ∧ b.take 1 = ['-'] := by simpa using h
      exact absurd rfl hb.2

theorem head_reverse_append (hne : u ≠ []) : ∃ x ∈ u, (u.reverse ++ b).head? = some x := by
  rcases u.eq_nil_or_concat with rfl | ⟨v, x, rfl⟩
  · exact absurd rfl hne
  · exact ⟨x, by simp, by simp⟩

theorem head_reverse_name (hne : u ≠ []) (hu : ∀ c ∈ u, insideName d c = true) :
    (u.reverse ++ b).head? ≠ some '/' ∧ (u.reverse ++ b).head? ≠ some '-' := by
  obtain ⟨x, hx, hhead⟩ := head_reverse_append (b := b) hne
  have hother := (letter (hu x hx)).other
  simp only [List.mem_cons, not_or] at hother
  rw [hhead]
  simp [hother]

theorem Rests.head_word (h : Rests d b (u ++ rest)) (hne : u ≠ [])
    (hu : ∀ c ∈ u, insideName d c = true) (hfirst : d = .postgres → u.head? ≠ some '$') :
    d = .postgres → (wordBehind d b ++ u).head? ≠ some '$' := by
  intro hd
  rcases u with - | ⟨c, u⟩
  · exact absurd rfl hne
  · rcases h.word c (u ++ rest) rfl (hu c List.mem_cons_self) with hword | hnum
    · rw [hword]
      exact hfirst hd
    · have hhead := numeric_head hnum
      rcases hword : wordBehind d b with - | ⟨w, ws⟩
      · exact hfirst hd
      · rw [hword] at hhead
        exact hhead

theorem reads_word (h : Rests d b (u ++ rest)) (hne : u ≠ []) (hu : ∀ c ∈ u, insideName d c = true)
    (hfirst : d = .postgres → u.head? ≠ some '$')
    (hrest : ∀ c r, rest = c :: r → insideName d c = false)
    (hliteral : d = .postgres → u = ['e'] ∨ u = ['E'] → rest.head? ≠ some '\'') :
    Reads d b (u ++ rest) t rest := by
  have hafter := after_name hu (h.head_word hne hu hfirst)
  refine ⟨u, hne, rfl, fun _ => ?_⟩
  rw [hafter.1, hafter.2]
  refine ⟨.outside (.of_head (head_reverse_name hne hu) ?_ ?_), fun _ => rfl⟩
  · intro c r he hc
    rw [hrest c r he] at hc
    cases hc
  · intro hd hquote hword
    rw [wordBehind_append hu] at hword
    have hu' : u = ['e'] ∨ u = ['E'] := by
      rcases hword with hword | hword
      · rcases List.append_eq_singleton_iff.1 hword with ⟨-, hu'⟩ | ⟨-, hu'⟩
        · exact .inl hu'
        · exact absurd hu' hne
      · rcases List.append_eq_singleton_iff.1 hword with ⟨-, hu'⟩ | ⟨-, hu'⟩
        · exact .inr hu'
        · exact absurd hu' hne
    exact absurd hquote (hliteral hd hu')

theorem not_insideName_dropWhile (r : List Char) :
    ∀ c r', r.dropWhile (insideName d) = c :: r' → insideName d c = false := by
  intro c r' he
  have hhead := List.head?_dropWhile_not (insideName d) r
  rw [he] at hhead
  simpa using hhead

theorem reads_wordToken (h : Rests d b (p ++ r)) (hne : p ≠ [])
    (hp : ∀ c ∈ p, insideName d c = true)
    (hfirst : d = .postgres → p.head? ≠ some '$')
    (hliteral : d = .postgres → p = ['e'] ∨ p = ['E'] → r.head? ≠ some '\'')
    (ht : wordToken d p r = some (t, rest)) : Reads d b (p ++ r) t rest := by
  rw [wordToken, Option.some.injEq, Prod.mk.injEq] at ht
  obtain ⟨-, rfl⟩ := ht
  have hsplit : p ++ r = (p ++ r.takeWhile (insideName d)) ++ r.dropWhile (insideName d) := by
    rw [List.append_assoc, List.takeWhile_append_dropWhile]
  rw [hsplit] at h ⊢
  refine reads_word h (by simp [hne]) ?_ ?_ (not_insideName_dropWhile r) ?_
  · intro c hc
    rcases List.mem_append.1 hc with hc | hc
    · exact hp c hc
    · exact List.mem_takeWhile_imp hc
  · intro hd
    rw [List.head?_append_of_ne_nil _ hne]
    exact hfirst hd
  · intro hd hu
    have hnil : p = p ++ r.takeWhile (insideName d) := by
      rcases p with - | ⟨x, p⟩
      · exact absurd rfl hne
      · rcases hu with hu | hu <;> simp_all
    have hr : r.dropWhile (insideName d) = r := by
      have htake := List.append_right_eq_self.1 hnil.symm
      have hall := List.takeWhile_append_dropWhile (p := insideName d) (l := r)
      rwa [htake, List.nil_append] at hall
    rw [hr]
    rw [← hnil] at hu
    exact hliteral hd hu

/-! ### Quoted texts and names -/

theorem quotedName_eq (q : Char) (keeps : Bool) (cs : List Char) :
    quotedName q cs = quotedText q false keeps cs := by
  fun_induction quotedName q cs with
  | case5 c r hne ih =>
    rw [quotedText.eq_def]
    simp [hne, isEscape, ih]
  | _ => simp_all [quotedText]

/-- Outside places of doubt, the rules and the server agree on what a backslash between marks is. -/
theorem escapes_of_backslash {Q : Quoting} {escapes : Bool}
    (hesc : Q.escapes = escapes ∨ Q.digits = true) (hd : doubt d (.inside Q) '\\' = false) :
    Q.escapes = escapes := by
  rcases hesc with hesc | hdigits
  · exact hesc
  · simp [doubt, hdigits] at hd

/-- Characters over which the server stays inside, in front of a text that it sees shut. -/
theorem shut_append {Q : Quoting} {v r : List Char}
    (hv : doubtful d (.inside Q) v = false →
      after d (.inside Q) v = .inside Q ∧ marks d (.inside Q) v = [])
    (h : ∃ u, r = u ++ rest ∧ rest.head? ≠ some Q.mark ∧ (doubtful d (.inside Q) u = false →
      after d (.inside Q) u = .shut Q ∧ marks d (.inside Q) u = [])) :
    ∃ u, v ++ r = u ++ rest ∧ rest.head? ≠ some Q.mark ∧ (doubtful d (.inside Q) u = false →
      after d (.inside Q) u = .shut Q ∧ marks d (.inside Q) u = []) := by
  obtain ⟨u, rfl, hrest, hu⟩ := h
  refine ⟨v ++ u, by rw [List.append_assoc], hrest, fun hd => ?_⟩
  rw [doubtful_append, Bool.or_eq_false_iff] at hd
  obtain ⟨hafter, hmarks⟩ := hv hd.1
  rw [hafter] at hd
  obtain ⟨hshut, hsilent⟩ := hu hd.2
  rw [after_append, marks_append, hafter, hmarks, hshut, hsilent]
  exact ⟨rfl, rfl⟩

theorem after_quotedText {Q : Quoting} {escapes keeps : Bool} {cs : List Char}
    (hesc : Q.escapes = escapes ∨ Q.digits = true) (hq : Q.mark ≠ '\\')
    (h : quotedText Q.mark escapes keeps cs = some (s, rest)) :
    ∃ u, cs = u ++ rest ∧ rest.head? ≠ some Q.mark ∧
      (doubtful d (.inside Q) u = false →
        after d (.inside Q) u = .shut Q ∧ marks d (.inside Q) u = []) := by
  -- By the recursion of the rules: what one round takes keeps the server inside.
  fun_induction quotedText Q.mark escapes keeps cs generalizing s with
  | case1 => cases h
  | case2 r' ih =>
    obtain ⟨⟨s', rest'⟩, hs, he⟩ := Option.map_eq_some_iff.1 h
    simp only [Prod.mk.injEq] at he
    refine shut_append (v := [Q.mark, Q.mark]) (fun _ => ?_) (ih (he.2 ▸ hs))
    simp [next, mark]
  | case3 x r' hne =>
    cases h
    exact ⟨[Q.mark], rfl, by simpa using hne, fun _ => ⟨by simp [next], rfl⟩⟩
  | case4 =>
    cases h
    exact ⟨[Q.mark], rfl, by simp, fun _ => ⟨by simp [next], rfl⟩⟩
  | case5 c hne hescape x r' ih =>
    obtain ⟨⟨s', rest'⟩, hs, he⟩ := Option.map_eq_some_iff.1 h
    simp only [Prod.mk.injEq] at he
    simp only [isEscape, Bool.and_eq_true, beq_iff_eq] at hescape
    obtain ⟨hon, rfl⟩ := hescape
    refine shut_append (v := ['\\', x]) (fun hd => ?_) (ih (he.2 ▸ hs))
    rw [doubtful_cons, Bool.or_eq_false_iff] at hd
    have hescapes : Q.escapes = true := by rw [escapes_of_backslash hesc hd.1, hon]
    have hnext : next d (.inside Q) '\\' = .escaped Q := by simp [next, hq.symm, hescapes]
    simp only [after_cons, marks_cons, hnext]
    exact ⟨rfl, rfl⟩
  | case6 => cases h
  | case7 c r' hne hescape ih =>
    obtain ⟨⟨s', rest'⟩, hs, he⟩ := Option.map_eq_some_iff.1 h
    simp only [Prod.mk.injEq] at he
    refine shut_append (v := [c]) (fun hd => ?_) (ih (he.2 ▸ hs))
    rw [doubtful_cons, Bool.or_eq_false_iff] at hd
    have hescapes : ¬(c = '\\' ∧ Q.escapes = true) := by
      rintro ⟨rfl, hon⟩
      rw [← escapes_of_backslash hesc hd.1, hon] at hescape
      exact hescape rfl
    have hnext : next d (.inside Q) c = .inside Q := by
      rw [next, if_neg hne, if_neg hescapes]
    rw [after_cons, marks_cons, hnext]
    exact ⟨rfl, rfl⟩

theorem next_mark (hm : isMark d q = true) :
    next d (.outside b) q = .inside (quoting d (wordBehind d b) q) ∧
      mark d (.outside b) q = [] := by
  have hmarks : q = '\'' ∨ q = '"' ∨ q = '`' := by
    simp only [isMark, Bool.or_eq_true, Bool.and_eq_true, beq_iff_eq] at hm
    rcases hm with (hm | hm) | ⟨-, hm⟩
    · exact .inl hm
    · exact .inr (.inl hm)
    · exact .inr (.inr hm)
  refine ⟨by simp [next, nextOutside, hm], ?_⟩
  rcases hmarks with rfl | rfl | rfl <;> cases d <;> rfl

theorem isMark_ne_backslash (hm : isMark d q = true) : q ≠ '\\' := by
  rintro rfl
  cases d <;> cases hm

/-- A text between marks. The word in front of it tells what the server makes of backslashes. -/
theorem reads_quoted {escapes keeps : Bool} (hm : isMark d q = true)
    (hesc : numeric d b = false → (quoting d (wordBehind d b) q).escapes = escapes ∨
      (quoting d (wordBehind d b) q).digits = true)
    (hx : quotedText q escapes keeps r = some (s, rest)) : Reads d b (q :: r) t rest := by
  have hnext := next_mark (b := b) hm
  by_cases hnum : numeric d b = true
  · obtain ⟨u, rfl, -, -⟩ := after_quotedText (d := d) (Q := ⟨q, escapes, false⟩) (.inl rfl)
      (isMark_ne_backslash hm) hx
    refine ⟨q :: u, by simp, rfl, fun hd => ?_⟩
    simp [doubt, doubtOutside, hm, hnum] at hd
  · rw [Bool.not_eq_true] at hnum
    obtain ⟨u, rfl, hrest, hu⟩ := after_quotedText (d := d) (hesc hnum) (isMark_ne_backslash hm) hx
    refine ⟨q :: u, by simp, rfl, fun hd => ?_⟩
    rw [doubtful_cons, hnext.1, Bool.or_eq_false_iff] at hd
    obtain ⟨hafter, hmarks⟩ := hu hd.2
    rw [after_cons, marks_cons, hnext.1, hnext.2, hafter, hmarks]
    exact ⟨.shut hrest, fun _ => rfl⟩

/-- A text between marks behind a letter that tells how it is written. -/
theorem reads_prefixed {escapes keeps : Bool} {c : Char} (h : Rests d b (c :: q :: r))
    (hc : insideName d c = true) (hdollar : c ≠ '$') (hm : isMark d q = true)
    (hesc : (quoting d [c] q).escapes = escapes ∨ (quoting d [c] q).digits = true)
    (hx : quotedText q escapes keeps r = some (s, rest)) : Reads d b (c :: q :: r) t rest := by
  have hname : ∀ x ∈ [c], insideName d x = true := by simpa using hc
  have hafter := after_name hname (h.head_word (u := [c]) (by simp) hname (by simp [hdollar]))
  have hword : wordBehind d (c :: b) = wordBehind d b ++ [c] := wordBehind_append (u := [c]) hname
  have hquoted : Reads d (c :: b) (q :: r) t rest := by
    refine reads_quoted hm (fun hnum => ?_) hx
    have hnil : wordBehind d b = [] := by
      rcases h.word c (q :: r) rfl hc with hnil | hnumeric
      · exact hnil
      · have hstays : numeric d (c :: b) = true := numeric_append (u := [c]) hname hnumeric
        rw [hnum] at hstays
        cases hstays
    rw [hword, hnil]
    exact hesc
  exact hquoted.behind (u := [c]) hafter

/-! ### Comments -/

theorem after_line (cs : List Char) :
    ∃ u, cs = u ++ afterLine d cs ∧ marks d .line u = [] ∧
      (after d .line u = .start ∨ after d .line u = .line ∧ afterLine d cs = []) := by
  induction cs with
  | nil => exact ⟨[], rfl, rfl, .inr ⟨rfl, rfl⟩⟩
  | cons c cs ih =>
    rw [afterLine]
    by_cases hc : (decide (c = '\n') || c == '\r' && d == .postgres) = true
    · refine ⟨[c], by simp [hc], rfl, .inl ?_⟩
      simp only [after_cons, after_nil, next, hc, if_true]
    · obtain ⟨u, hu, hmarks, hafter⟩ := ih
      have hnext : next d .line c = .line := by simp only [next, hc, Bool.false_eq_true, if_false]
      refine ⟨c :: u, ?_, ?_, ?_⟩
      · rw [if_neg hc, List.cons_append, ← hu]
      · rw [marks_cons, hnext, hmarks]
        rfl
      · rw [if_neg hc, after_cons, hnext]
        exact hafter

theorem Ready.of_line {cs : List Char} (h : after d .line u = .start ∨
    after d .line u = .line ∧ afterLine d cs = []) :
    Ready d (after d .line u) (afterLine d cs) := by
  rcases h with h | ⟨h, hnil⟩
  · rw [h]
    exact .outside (.nil d _)
  · rw [h, hnil]
    exact .line

theorem after_block {depth : Nat} {before : Option Char} {cs : List Char}
    (h : blockComment (d != .mysql) depth before cs = some (s, rest)) :
    cs = s ++ '/' :: rest ∧ after d (.block depth before) (s ++ ['/']) = .start ∧
      marks d (.block depth before) (s ++ ['/']) = [] := by
  -- Depth and the character before are those of the rules and of the server alike.
  induction cs generalizing depth before s with
  | nil => cases h
  | cons c cs ih =>
    have hgo : ∀ {depth' : Nat} {before' : Option Char},
        next d (.block depth before) c = .block depth' before' →
        (blockComment (d != .mysql) depth' before' cs).map (Prod.map (c :: ·) id) = some (s, rest) →
        c :: cs = s ++ '/' :: rest ∧ after d (.block depth before) (s ++ ['/']) = .start ∧
          marks d (.block depth before) (s ++ ['/']) = [] := by
      intro depth' before' hnext hmap
      obtain ⟨⟨s', rest'⟩, hs, he⟩ := Option.map_eq_some_iff.1 hmap
      simp only [Prod.map_apply, id_eq, Prod.mk.injEq] at he
      obtain ⟨rfl, rfl⟩ := he
      obtain ⟨hsplit, hafter, hmarks⟩ := ih hs
      rw [List.cons_append, List.cons_append, after_cons, marks_cons, hnext, hafter, hmarks,
        ← hsplit]
      exact ⟨rfl, rfl, rfl⟩
    rw [blockComment] at h
    by_cases hclose : before = some '*' ∧ c = '/'
    · rw [if_pos hclose] at h
      by_cases hdepth : depth = 0
      · rw [if_pos hdepth] at h
        cases h
        refine ⟨by rw [hclose.2]; rfl, ?_, rfl⟩
        simp [next, hclose.1, hdepth]
      · rw [if_neg hdepth] at h
        exact hgo (by simp [next, hclose, hdepth]) h
    · rw [if_neg hclose] at h
      by_cases hopen : before = some '/' ∧ c = '*' ∧ d = .postgres
      · have hnests : before = some '/' ∧ c = '*' ∧ (d != .mysql) = true := by
          simp [hopen]
        rw [if_pos hnests] at h
        exact hgo (by simp [next, hopen]) h
      · have hnests : ¬(before = some '/' ∧ c = '*' ∧ (d != .mysql) = true) := by
          cases d <;> simp_all
        rw [if_neg hnests] at h
        exact hgo (by simp only [next, hclose, hopen, if_false]) h

theorem next_slash (h : Rests d b ('/' :: r)) (hd : doubt d (.outside b) '/' = false) :
    next d (.outside b) '/' = .outside ('/' :: b) :=
  next_plain h (by cases d <;> rfl) (by cases d <;> rfl) (fun _ => by decide) hd

theorem next_dash (h : Rests d b ('-' :: r)) (hd : doubt d (.outside b) '-' = false) :
    next d (.outside b) '-' = .outside ('-' :: b) :=
  next_plain h (by cases d <;> rfl) (by cases d <;> rfl) (fun _ => by decide) hd

theorem next_opening : next d (.outside ('/' :: b)) '*' = .block 0 none := by
  cases d <;> rfl

theorem mark_opening : mark d (.outside b) '/' = [] ∧ mark d (.outside b) '*' = [] ∧
    mark d (.outside b) '-' = [] := by
  cases d <;> exact ⟨rfl, rfl, rfl⟩

theorem reads_block (h : Rests d b ('/' :: '*' :: r))
    (hx : blockComment (d != .mysql) 0 none r = some (s, rest)) :
    Reads d b ('/' :: '*' :: r) t rest := by
  obtain ⟨rfl, hafter, hmarks⟩ := after_block (d := d) hx
  refine ⟨'/' :: '*' :: (s ++ ['/']), by simp, by simp, fun hd => ?_⟩
  rw [doubtful_cons, Bool.or_eq_false_iff] at hd
  have hslash := next_slash h hd.1
  obtain ⟨hmark, hstar, -⟩ := mark_opening (d := d) (b := b)
  have hstar' := (mark_opening (d := d) (b := '/' :: b)).2.1
  rw [after_cons, after_cons, marks_cons, marks_cons, hslash, next_opening, hafter, hmarks, hmark,
    hstar']
  exact ⟨.outside (.nil d rest), fun _ => rfl⟩

/-- A comment to the end of the line behind the characters that open it. -/
theorem reads_line {cs : List Char} (hne : u ≠ [])
    (hu : doubtful d (.outside b) u = false →
      after d (.outside b) u = .line ∧ marks d (.outside b) u = []) :
    Reads d b (u ++ cs) t (afterLine d cs) := by
  obtain ⟨v, hv, hmarks, hafter⟩ := after_line (d := d) cs
  refine ⟨u ++ v, by simp [hne], by rw [List.append_assoc, ← hv], fun hd => ?_⟩
  rw [doubtful_append, Bool.or_eq_false_iff] at hd
  obtain ⟨hline, hnone⟩ := hu hd.1
  rw [after_append, marks_append, hline, hnone, hmarks]
  exact ⟨.of_line hafter, fun _ => rfl⟩

theorem reads_sharp (hd : d = .mysql) : Reads d b ('#' :: r) t (afterLine d r) := by
  subst hd
  exact reads_line (u := ['#']) (by simp) fun _ => ⟨rfl, rfl⟩

theorem isControl_of_isBlank {c : Char} (h : Text.isBlank c = true) (hc : c.toNat < 0x80) :
    isControl c = true := by
  simp only [Text.isBlank, Bool.or_eq_true, Bool.and_eq_true, decide_eq_true_eq, beq_iff_eq] at h
  simp only [isControl, Bool.or_eq_true, decide_eq_true_eq]
  omega

theorem next_dashes (hc : Text.isBlank c = true)
    (hd : doubt .mysql (.outside ('-' :: '-' :: b)) c = false) :
    next .mysql (.outside ('-' :: '-' :: b)) c = (if c = '\n' then .start else .line) ∧
      mark .mysql (.outside ('-' :: '-' :: b)) c = [] := by
  simp only [doubt, doubtOutside, Bool.or_eq_false_iff] at hd
  have hsmall : c.toNat < 0x80 := by
    have hlarge := hd.1.2
    simp only [hc, Bool.and_true, decide_eq_false_iff_not] at hlarge
    omega
  have hcontrol := isControl_of_isBlank hc hsmall
  have hne : c ∉ ['\'', '"', '`', '*', '#', '?'] := by
    intro hmem
    have hall : ['\'', '"', '`', '*', '#', '?'].all (!Text.isBlank ·) = true := by decide
    have hnot := List.all_eq_true.1 hall c hmem
    rw [hc] at hnot
    cases hnot
  simp only [List.mem_cons, List.not_mem_nil, or_false, not_or] at hne
  simp [next, nextOutside, mark, markOutside, isMark, hne, hcontrol]

theorem reads_dashes (h : Rests d b ('-' :: '-' :: r))
    (hblank : d = .mysql → r.head?.any Text.isBlank = true) :
    Reads d b ('-' :: '-' :: r) t (afterLine d r) := by
  obtain ⟨-, -, hmark⟩ := mark_opening (d := d) (b := b)
  obtain ⟨-, -, hmark'⟩ := mark_opening (d := d) (b := '-' :: b)
  cases d with
  | postgres =>
    refine reads_line (u := ['-', '-']) (by simp) fun hd => ?_
    rw [doubtful_cons, Bool.or_eq_false_iff] at hd
    have hdash := next_dash h hd.1
    simp only [after_cons, marks_cons, hdash, hmark, hmark']
    exact ⟨rfl, rfl⟩
  | mysql =>
    rcases r with - | ⟨x, r⟩
    · cases hblank rfl
    · have hx : Text.isBlank x = true := hblank rfl
      -- The blank makes the dashes a comment, and may end it.
      have hu : doubtful .mysql (.outside b) ['-', '-', x] = false →
          after .mysql (.outside b) ['-', '-', x] = (if x = '\n' then .start else .line) ∧
            marks .mysql (.outside b) ['-', '-', x] = [] := by
        intro hd
        rw [doubtful_cons, Bool.or_eq_false_iff] at hd
        have hdash := next_dash h hd.1
        have hdash' : next .mysql (.outside ('-' :: b)) '-' = .outside ('-' :: '-' :: b) := rfl
        rw [hdash] at hd
        simp only [doubtful_cons, hdash', doubtful_nil, Bool.or_false, Bool.or_eq_false_iff] at hd
        obtain ⟨hnext, hnone⟩ := next_dashes (b := b) hx hd.2.2
        simp [hdash, hdash', hmark, hmark', hnext, hnone]
      by_cases hn : x = '\n'
      · have hrest : afterLine .mysql (x :: r) = r := by simp [afterLine, hn]
        rw [hrest]
        refine ⟨['-', '-', x], by simp, rfl, fun hd => ?_⟩
        rw [(hu hd).1, (hu hd).2, if_pos hn]
        exact ⟨.outside (.nil _ r), fun _ => rfl⟩
      · have hline : afterLine .mysql (x :: r) = afterLine .mysql r := by
          simp [afterLine, hn]
        rw [hline]
        refine reads_line (u := ['-', '-', x]) (by simp) fun hd => ?_
        rw [(hu hd).1, if_neg hn]
        exact ⟨rfl, (hu hd).2⟩

/-! ### Texts between dollar tags -/

/-- As long as the tag has not come back the text goes on. -/
theorem after_dollar_inside (tag seen v : List Char)
    (h : ∀ x y, v = x ++ y → x ≠ [] → ¬('$' :: (tag ++ ['$'])) <:+ seen.reverse ++ x) :
    after d (.dollar tag seen) v = .dollar tag (v.reverse ++ seen) ∧
      marks d (.dollar tag seen) v = [] := by
  induction v generalizing seen with
  | nil => exact ⟨rfl, rfl⟩
  | cons c v ih =>
    have hnot : ¬('$' :: (tag.reverse ++ ['$'])).isPrefixOf (c :: seen) = true := by
      intro hprefix
      have hsuffix := List.reverse_suffix.2 (List.isPrefixOf_iff_prefix.1 hprefix)
      have hhere := h [c] v rfl (by simp)
      simp only [List.reverse_cons, List.reverse_append, List.reverse_reverse, List.reverse_nil,
        List.nil_append, List.cons_append] at hsuffix
      exact hhere hsuffix
    have hnext : next d (.dollar tag seen) c = .dollar tag (c :: seen) := by
      rw [next, if_neg hnot]
    have hrest := ih (c :: seen) fun x y hv hx => by
      have hlater := h (c :: x) y (by rw [hv]; rfl) (by simp)
      rwa [List.reverse_cons, List.append_assoc, List.singleton_append]
    rw [after_cons, marks_cons, hnext, hrest.1, hrest.2, List.reverse_cons, List.append_assoc,
      List.singleton_append]
    exact ⟨rfl, rfl⟩

theorem after_dollar {tag a : List Char}
    (h : Text.cutAtWord ('$' :: (tag ++ ['$'])) r = some (a, rest)) :
    r = a ++ '$' :: (tag ++ ['$']) ++ rest ∧
      after d (.dollar tag []) (a ++ '$' :: (tag ++ ['$'])) = .start ∧
      marks d (.dollar tag []) (a ++ '$' :: (tag ++ ['$'])) = [] := by
  obtain ⟨hsplit, hfirst⟩ := Text.cutAtWord_eq_some (by simp) h
  have hinside := after_dollar_inside (d := d) tag [] (a ++ '$' :: tag)
    fun x y hv hx hsuffix => by
      obtain ⟨x', hx'⟩ := hsuffix
      rw [List.reverse_nil, List.nil_append] at hx'
      have hlength := congrArg List.length hv
      have hle := hfirst x' (y ++ '$' :: rest) (by
        rw [hsplit, hx', ← List.append_assoc, ← hv]
        simp)
      rw [← hx'] at hlength
      simp only [List.length_append, List.length_cons, List.length_nil] at hlength
      omega
  have hclose : next d (.dollar tag ((a ++ '$' :: tag).reverse ++ [])) '$' = .start := by
    have hprefix : ('$' :: (tag.reverse ++ ['$'])) <+: '$' :: ((a ++ '$' :: tag).reverse ++ []) :=
      ⟨a.reverse, by simp⟩
    rw [next, if_pos (List.isPrefixOf_iff_prefix.2 hprefix)]
  have heq : a ++ '$' :: (tag ++ ['$']) = (a ++ '$' :: tag) ++ ['$'] := by simp
  refine ⟨hsplit, ?_, ?_⟩
  · rw [heq, after_append, hinside.1, after_cons, hclose, after_nil]
  · rw [heq, marks_append, hinside.1, hinside.2]
    rfl

theorem after_tag (hu : ∀ c ∈ u, insideName .postgres c = true ∧ c ≠ '$') :
    after .postgres (.outside b) u = .outside (u.reverse ++ b) := by
  induction u generalizing b with
  | nil => rfl
  | cons c u ih =>
    obtain ⟨hc, hdollar⟩ := hu c List.mem_cons_self
    obtain ⟨hm, hs, hk, hother⟩ := letter hc
    simp only [List.mem_cons, List.not_mem_nil, or_false, not_or] at hother
    have hnext : next .postgres (.outside b) c = .outside (c :: b) := by
      simp [next, nextOutside, push, hm, hs, hother, hdollar]
    rw [after_cons, hnext, ih fun x hx => hu x (List.mem_cons_of_mem c hx), List.reverse_cons,
      List.append_assoc]
    rfl

theorem marks_tag (tag : List Char) (hu : ∀ c ∈ u, insideName .postgres c = true ∧ c ≠ '$')
    (hw : wordBehind .postgres b = '$' :: tag)
    (hdigit : (tag ++ u).head?.any Char.isDigit = false) :
    marks .postgres (.outside b) u = [] := by
  -- The tag read so far keeps its first character, which is no digit.
  induction u generalizing b tag with
  | nil => rfl
  | cons c u ih =>
    obtain ⟨hc, hdollar⟩ := hu c List.mem_cons_self
    have hnext := after_tag (b := b) (u := [c]) (by simpa using ⟨hc, hdollar⟩)
    rw [after_cons, after_nil] at hnext
    have hmark : mark .postgres (.outside b) c = [] := by
      rcases tag with - | ⟨x, tag⟩
      · have hc : c.isDigit = false := hdigit
        simp [mark, markOutside, hc]
      · have hx : x.isDigit = false := hdigit
        simp [mark, markOutside, hw, paramDigit, hx]
    have hword : wordBehind .postgres (c :: b) = '$' :: (tag ++ [c]) := by
      have happend := wordBehind_append (b := b) (u := [c]) (d := .postgres) (by simpa using hc)
      rw [hw] at happend
      exact happend
    have hrest := ih (b := c :: b) (tag ++ [c]) (fun x hx => hu x (List.mem_cons_of_mem c hx)) hword
      (by rw [List.append_assoc]; exact hdigit)
    rw [marks_cons, hmark, hnext]
    exact hrest

def insideTag (c : Char) : Bool := c.isAlphanum || c == '_' || 0x80 ≤ c.toNat

theorem insideName_eq_insideTag (c : Char) :
    insideName .postgres c = (insideTag c || c == '$') := by
  have hpostgres : (Dialect.postgres == Dialect.mysql) = false := rfl
  simp only [insideName, startsName, insideTag, Char.isAlphanum, hpostgres]
  cases c.isAlpha <;> cases c.isDigit <;> simp

theorem insideTag_ne_dollar {c : Char} (h : insideTag c = true) : c ≠ '$' := by
  rintro rfl
  cases h

/-- In front of a dollar sign between tokens there is no word. -/
theorem next_dollar (h : Rests .postgres b ('$' :: r))
    (hd : doubt .postgres (.outside b) '$' = false) :
    wordBehind .postgres b = [] ∧ next .postgres (.outside b) '$' = .outside ('$' :: b) := by
  have hnil : wordBehind .postgres b = [] := by
    rcases h.word '$' r rfl rfl with hnil | hnum
    · exact hnil
    · simp [doubt, doubtOutside, hnum] at hd
  exact ⟨hnil, by simp [next, nextOutside, hnil, openedTag, push, isMark, separates]⟩

theorem wordBehind_tag (hnil : wordBehind .postgres b = [])
    (hu : ∀ c ∈ u, insideName .postgres c = true) :
    wordBehind .postgres (u.reverse ++ '$' :: b) = '$' :: u := by
  have hdollar := wordBehind_append (b := b) (u := ['$']) (d := .postgres) (by simp [insideName])
  have hall := wordBehind_append (b := '$' :: b) hu
  rw [hnil] at hdollar
  rw [hall, show '$' :: b = ['$'].reverse ++ b from rfl, hdollar]
  rfl

theorem reads_dollarQuoted {tag a : List Char} (h : Rests .postgres b ('$' :: (tag ++ '$' :: r)))
    (htag : ∀ c ∈ tag, insideName .postgres c = true ∧ c ≠ '$')
    (ha : Text.cutAtWord ('$' :: (tag ++ ['$'])) r = some (a, rest)) :
    Reads .postgres b ('$' :: (tag ++ '$' :: r)) t rest := by
  have hname : ∀ c ∈ tag, insideName .postgres c = true := fun c hc => (htag c hc).1
  obtain ⟨rfl, hafter, hmarks⟩ := after_dollar (d := .postgres) ha
  refine ⟨'$' :: (tag ++ '$' :: (a ++ '$' :: (tag ++ ['$']))), by simp, by simp, fun hd => ?_⟩
  rw [doubtful_cons, Bool.or_eq_false_iff] at hd
  obtain ⟨hnil, hnext⟩ := next_dollar h hd.1
  have hword := wordBehind_tag hnil hname
  rw [hnext, doubtful_append, after_tag htag, doubtful_cons, Bool.or_eq_false_iff,
    Bool.or_eq_false_iff] at hd
  -- A tag that began with a digit would be a parameter, and its end a place of doubt.
  have hdigit : tag.head?.any Char.isDigit = false := by
    by_contra hcon
    rw [Bool.not_eq_false] at hcon
    have hdoubt := hd.2.2.1
    simp [doubt, doubtOutside, hword, openedTag, hcon] at hdoubt
  have hopened : next .postgres (.outside (tag.reverse ++ '$' :: b)) '$' = .dollar tag [] := by
    simp [next, nextOutside, hword, openedTag, hdigit, isMark]
  have hdollar : wordBehind .postgres ('$' :: b) = ['$'] :=
    wordBehind_tag (u := []) hnil (by simp)
  have hsilent := marks_tag [] htag hdollar hdigit
  have hmark : ∀ behind, mark .postgres (.outside behind) '$' = [] := fun _ => rfl
  simp only [after_cons, after_append, marks_cons, marks_append, hnext, after_tag htag, hopened,
    hafter, hmarks, hsilent, hmark]
  exact ⟨.outside (.nil _ _), fun _ => rfl⟩

/-- A dollar sign with what may follow it in a name is a parameter, if no tag ends there. -/
theorem reads_dollarMark {m : String} (h : Rests .postgres b ('$' :: (u ++ rest)))
    (hu : ∀ c ∈ u, insideName .postgres c = true ∧ c ≠ '$')
    (hrest : ∀ c r, rest = c :: r → insideName .postgres c = false) :
    Reads .postgres b ('$' :: (u ++ rest)) (.placeholder m) rest := by
  have hname : ∀ c ∈ u, insideName .postgres c = true := fun c hc => (hu c hc).1
  refine ⟨'$' :: u, by simp, rfl, fun hd => ⟨?_, fun hp => absurd rfl (hp _)⟩⟩
  rw [doubtful_cons, Bool.or_eq_false_iff] at hd
  obtain ⟨hnil, hnext⟩ := next_dollar h hd.1
  rw [after_cons, hnext, after_tag hu]
  have hall : ∀ c ∈ '$' :: u, insideName .postgres c = true := by
    simpa using ⟨by decide, hname⟩
  have hhead := head_reverse_name (b := b) (by simp) hall
  rw [List.reverse_cons, List.append_assoc, List.singleton_append] at hhead
  refine .outside (.of_head hhead ?_ ?_)
  · intro c x he hc
    rw [hrest c x he] at hc
    cases hc
  · intro _ _ hletter
    rw [wordBehind_tag hnil hname] at hletter
    rcases hletter with hletter | hletter <;> cases hletter

theorem reads_dollarToken (h : Rests .postgres b ('$' :: r))
    (ht : dollarToken r = some (t, rest)) : Reads .postgres b ('$' :: r) t rest := by
  have hinside : (fun c : Char => c.isAlphanum || c == '_' || 0x80 ≤ c.toNat) = insideTag := rfl
  rw [dollarToken, hinside] at ht
  have hsplit := List.takeWhile_append_dropWhile (p := insideTag) (l := r)
  have hlast := List.head?_dropWhile_not insideTag r
  have htag : ∀ c ∈ r.takeWhile insideTag, insideName .postgres c = true ∧ c ≠ '$' := by
    intro c hc
    have hin := List.mem_takeWhile_imp hc
    exact ⟨by rw [insideName_eq_insideTag, hin]; rfl, insideTag_ne_dollar hin⟩
  generalize r.takeWhile insideTag = tag at *
  generalize r.dropWhile insideTag = r' at *
  subst hsplit
  split at ht
  · next r' =>
    obtain ⟨⟨a, rest'⟩, ha, he⟩ := Option.map_eq_some_iff.1 ht
    simp only [Prod.mk.injEq] at he
    exact reads_dollarQuoted h htag (he.2 ▸ ha)
  · next hne =>
    rw [Option.some.injEq, Prod.mk.injEq] at ht
    obtain ⟨rfl, rfl⟩ := ht
    refine reads_dollarMark h htag fun c x he => ?_
    rw [he, List.head?_cons] at hlast
    -- Behind the tag stands no letter of a tag, and no dollar sign either, or the tag would end.
    have hdollar : c ≠ '$' := fun hc => hne x (hc ▸ he)
    have hnot : insideTag c = false := by simpa using hlast
    rw [insideName_eq_insideTag, hnot, Bool.false_or, beq_eq_false_iff_ne]
    exact hdollar

end

end QueryDesk.Sql.Server
