import QueryDesk.Proofs.Sql.Numeral

/-!
# The next token as the server reads it

The dialects take a token by the characters that a text begins with. Here each of these tokens is
read by the server too: operators, signs and parameters, comments, numbers, words, texts and names
in quotes, with a letter in front or without. Main statement, `scanned_scanFrom`: whatever the first
token of a text is, the server reads its characters and stands ready for the next token. A comment
that MySQL reads as code is no token; it is a place of doubt.
-/

namespace QueryDesk.Sql.Server

section

variable {d : Dialect} {b r u s rest p : List Char} {c q : Char} {t : Token} {spelling : String}

/-! ### Operators -/

/-- With a place of doubt in it, nothing is said of a token. -/
theorem reads_doubtful (hne : u ≠ []) (h : doubtful d (.outside b) u = true) :
    Reads d b (u ++ rest) t rest :=
  ⟨u, hne, rfl, fun hd => by rw [h] at hd; cases hd⟩

theorem takeWhile_mysql (r : List Char) : r.takeWhile (insideOperator .mysql) = [] := by
  rcases r with - | ⟨c, r⟩
  · rfl
  · rw [List.takeWhile_cons_of_neg (by intro hc; cases hc)]

theorem operatorToken_mysql (spelling : String) (r : List Char) :
    operatorToken .mysql spelling r = some (.sign spelling, r) := by
  simp [operatorToken, takeWhile_mysql]

theorem reads_operatorRun (h : Rests d b (p ++ r)) (hne : p ≠ []) (hp : p.all (isOperator d) = true)
    (ha : ∀ c s, p ++ r = c :: s → Alone d c s) (hlater : d = .mysql → '-' ∉ p.tail) :
    Reads d b (p ++ r) t (r.dropWhile (insideOperator d)) := by
  have hsplit : p ++ r = p ++ r.takeWhile (insideOperator d) ++ r.dropWhile (insideOperator d) := by
    rw [List.append_assoc, List.takeWhile_append_dropWhile]
  rw [hsplit] at h ha ⊢
  refine reads_operator h (by simp [hne]) ?_ ha ?_
  · intro c hc
    rcases List.mem_append.1 hc with hc | hc
    · exact List.all_eq_true.1 hp c hc
    · exact isOperator_of_insideOperator (List.mem_takeWhile_imp hc)
  · rintro rfl
    rw [takeWhile_mysql, List.append_nil]
    exact hlater rfl

theorem dropWhile_of_isEmpty (h : (r.takeWhile (insideOperator d)).isEmpty = true) :
    r.dropWhile (insideOperator d) = r := by
  have hall := List.takeWhile_append_dropWhile (p := insideOperator d) (l := r)
  rwa [List.isEmpty_iff.1 h, List.nil_append] at hall

theorem reads_operatorToken (h : Rests d b (p ++ r)) (hne : p ≠ [])
    (hp : p.all (isOperator d) = true) (ha : ∀ c s, p ++ r = c :: s → Alone d c s)
    (hlater : d = .mysql → '-' ∉ p.tail) (ht : operatorToken d spelling r = some (t, rest)) :
    Reads d b (p ++ r) t rest := by
  have hrest : rest = r.dropWhile (insideOperator d) := by
    simp only [operatorToken] at ht
    split at ht
    · next hempty =>
      cases ht
      exact (dropWhile_of_isEmpty hempty).symm
    · cases ht
      rfl
  rw [hrest]
  exact reads_operatorRun h hne hp ha hlater

/-- The first characters of an operator that is no slash and no dash by itself. -/
def opensOperator (d : Dialect) (p : List Char) : Bool :=
  p.all (isOperator d) && (p.head?.any fun c => c != '/' && c != '-') &&
    (d == .postgres || !p.tail.contains '-')

theorem opensOperator_spec (h : opensOperator d p = true) : p ≠ [] ∧ p.all (isOperator d) = true ∧
    (∀ c s, p ++ r = c :: s → Alone d c s) ∧ (d = .mysql → '-' ∉ p.tail) := by
  simp only [opensOperator, Bool.and_eq_true, Bool.or_eq_true] at h
  obtain ⟨⟨hall, hhead⟩, hlater⟩ := h
  rcases p with - | ⟨x, p⟩
  · cases hhead
  · refine ⟨by simp, hall, fun c s he => ?_, ?_⟩
    · obtain ⟨rfl, -⟩ := List.cons.inj he
      exact .of_ne (by simpa using hhead)
    · rintro rfl
      simpa using hlater

theorem reads_opened (h : Rests d b (p ++ r)) (hp : opensOperator d p = true)
    (ht : operatorToken d spelling r = some (t, rest)) : Reads d b (p ++ r) t rest := by
  obtain ⟨hne, hall, ha, hlater⟩ := opensOperator_spec (r := r) hp
  exact reads_operatorToken h hne hall ha hlater ht

theorem reads_onlyCustom (h : Rests d b (p ++ r)) (hp : opensOperator d p = true)
    (ht : onlyCustom d spelling r = some (t, rest)) : Reads d b (p ++ r) t rest := by
  obtain ⟨hne, hall, ha, hlater⟩ := opensOperator_spec (r := r) hp
  simp only [onlyCustom] at ht
  split at ht
  · cases ht
  · cases ht
    exact reads_operatorRun h hne hall ha hlater

theorem reads_signToken (h : Rests d b (p ++ r)) (hp : opensOperator d p = true)
    (ht : signToken spelling r = some (t, rest)) : Reads d b (p ++ r) t rest := by
  obtain ⟨hne, hall, ha, hlater⟩ := opensOperator_spec (r := r) hp
  cases ht
  exact reads_operator h hne (List.all_eq_true.1 hall) ha hlater

/-- Behind the sign that opens it, a MySQL variable is a place of doubt. -/
theorem doubtful_variable (hc : c = '<' ∨ c = '^') :
    doubtful .mysql (.outside b) [c, '@'] = true := by
  have hnext : next .mysql (.outside b) c = .outside (c :: b) := by
    rcases hc with rfl | rfl <;> rfl
  rcases hc with rfl | rfl <;> simp [hnext, doubt, doubtOutside]

theorem reads_lessToken (h : Rests d b ('<' :: r)) (ht : lessToken d r = some (t, rest)) :
    Reads d b ('<' :: r) t rest := by
  rw [lessToken.eq_def] at ht
  dsimp only at ht
  split at ht
  · exact reads_opened (p := ['<', '=', '>']) h (by cases d <;> rfl) ht
  · exact reads_opened (p := ['<', '=']) h (by cases d <;> rfl) ht
  · exact reads_opened (p := ['<', '>']) h (by cases d <;> rfl) ht
  · split at ht
    · exact reads_opened (p := ['<', '<', '|']) h (by cases d <;> rfl) ht
    · exact reads_opened (p := ['<', '<']) h (by cases d <;> rfl) ht
  · next r₂ =>
    cases d with
    | mysql =>
      rw [operatorToken_mysql] at ht
      cases ht
      exact reads_doubtful (u := ['<', '@']) (by simp) (doubtful_variable (.inl rfl))
    | postgres => exact reads_opened (p := ['<', '@']) h rfl ht
  · split at ht
    · exact reads_opened (p := ['<', '|']) h (by cases d <;> rfl) ht
    · exact reads_opened (p := ['<']) h (by cases d <;> rfl) ht
  · split at ht
    · exact reads_opened (p := ['<', '^']) h (by cases d <;> rfl) ht
    · exact reads_opened (p := ['<']) h (by cases d <;> rfl) ht
  · cases d with
    | mysql => exact reads_opened (p := ['<']) h rfl ht
    | postgres =>
      simp only [beq_self_eq_true, if_true] at ht
      split at ht
      · exact reads_opened (p := ['<', '-', '>']) h rfl ht
      · exact reads_onlyCustom (p := ['<', '-']) h rfl ht
  · exact reads_opened (p := ['<']) h (by cases d <;> rfl) ht

theorem reads_bangToken (h : Rests d b ('!' :: r)) (ht : bangToken r = some (t, rest)) :
    Reads d b ('!' :: r) t rest := by
  rw [bangToken.eq_def] at ht
  split at ht
  · exact reads_signToken (p := ['!', '=']) h (by cases d <;> rfl) ht
  · exact reads_signToken (p := ['!', '!']) h (by cases d <;> rfl) ht
  · exact reads_signToken (p := ['!', '~', '~', '*']) h (by cases d <;> rfl) ht
  · exact reads_signToken (p := ['!', '~', '~']) h (by cases d <;> rfl) ht
  · exact reads_signToken (p := ['!', '~', '*']) h (by cases d <;> rfl) ht
  · exact reads_signToken (p := ['!', '~']) h (by cases d <;> rfl) ht
  · exact reads_signToken (p := ['!']) h (by cases d <;> rfl) ht

theorem reads_barToken (h : Rests d b ('|' :: r)) (ht : barToken d r = some (t, rest)) :
    Reads d b ('|' :: r) t rest := by
  rw [barToken.eq_def] at ht
  dsimp only at ht
  split at ht
  · exact reads_opened (p := ['|', '/']) h (by cases d <;> rfl) ht
  · exact reads_opened (p := ['|', '|', '/']) h (by cases d <;> rfl) ht
  · exact reads_opened (p := ['|', '|']) h (by cases d <;> rfl) ht
  · split at ht
    · split at ht
      · exact reads_opened (p := ['|', '&', '>']) h (by cases d <;> rfl) ht
      · exact reads_onlyCustom (p := ['|', '&']) h (by cases d <;> rfl) ht
    · exact reads_opened (p := ['|']) h (by cases d <;> rfl) ht
  · split at ht
    · split at ht
      · exact reads_opened (p := ['|', '>', '>']) h (by cases d <;> rfl) ht
      · exact reads_onlyCustom (p := ['|', '>']) h (by cases d <;> rfl) ht
    · exact reads_opened (p := ['|']) h (by cases d <;> rfl) ht
  · exact reads_opened (p := ['|']) h (by cases d <;> rfl) ht

theorem reads_ampersandToken (h : Rests d b ('&' :: r)) (ht : ampersandToken d r = some (t, rest)) :
    Reads d b ('&' :: r) t rest := by
  rw [ampersandToken.eq_def] at ht
  dsimp only at ht
  split at ht
  · exact reads_opened (p := ['&', '&']) h (by cases d <;> rfl) ht
  · split at ht
    · exact reads_opened (p := ['&', '>']) h (by cases d <;> rfl) ht
    · exact reads_opened (p := ['&']) h (by cases d <;> rfl) ht
  · split at ht
    · split at ht
      · exact reads_opened (p := ['&', '<', '|']) h (by cases d <;> rfl) ht
      · exact reads_opened (p := ['&', '<']) h (by cases d <;> rfl) ht
    · exact reads_opened (p := ['&']) h (by cases d <;> rfl) ht
  · exact reads_opened (p := ['&']) h (by cases d <;> rfl) ht

theorem reads_tildeToken (h : Rests d b ('~' :: r)) (ht : tildeToken d r = some (t, rest)) :
    Reads d b ('~' :: r) t rest := by
  rw [tildeToken.eq_def] at ht
  split at ht
  · exact reads_opened (p := ['~', '*']) h (by cases d <;> rfl) ht
  · exact reads_opened (p := ['~', '~', '*']) h (by cases d <;> rfl) ht
  · exact reads_opened (p := ['~', '~']) h (by cases d <;> rfl) ht
  · split at ht
    · exact reads_opened (p := ['~', '=']) h (by cases d <;> rfl) ht
    · exact reads_opened (p := ['~']) h (by cases d <;> rfl) ht
  · exact reads_opened (p := ['~']) h (by cases d <;> rfl) ht

theorem reads_sharpToken (h : Rests .postgres b ('#' :: r)) (ht : sharpToken r = some (t, rest)) :
    Reads .postgres b ('#' :: r) t rest := by
  rw [sharpToken.eq_def] at ht
  split at ht
  · exact reads_opened (p := ['#', '-']) h rfl ht
  · exact reads_opened (p := ['#', '>', '>']) h rfl ht
  · exact reads_opened (p := ['#', '>']) h rfl ht
  · exact reads_signToken (p := ['#']) h rfl ht
  · exact reads_opened (p := ['#', '#']) h rfl ht
  · exact reads_opened (p := ['#']) h rfl ht

theorem reads_questionToken_postgres (h : Rests .postgres b ('?' :: r))
    (ht : questionToken .postgres r = some (t, rest)) : Reads .postgres b ('?' :: r) t rest := by
  rw [questionToken.eq_def] at ht
  simp only [reduceCtorEq, beq_iff_eq, if_false] at ht
  split at ht
  · exact reads_signToken (p := ['?', '|', '|']) h rfl ht
  · exact reads_signToken (p := ['?', '|']) h rfl ht
  · exact reads_signToken (p := ['?', '&']) h rfl ht
  · exact reads_signToken (p := ['?', '-', '|']) h rfl ht
  · exact reads_signToken (p := ['?', '-']) h rfl ht
  · exact reads_signToken (p := ['?', '#']) h rfl ht
  · exact reads_signToken (p := ['?']) h rfl ht

theorem reads_atToken_postgres (h : Rests .postgres b ('@' :: r))
    (ht : atToken .postgres r = some (t, rest)) : Reads .postgres b ('@' :: r) t rest := by
  have hstart : startsName .postgres '@' = false := rfl
  rw [atToken.eq_def] at ht
  simp only [hstart, Bool.false_eq_true, if_false, Bool.not_false, Bool.or_true, if_true] at ht
  split at ht
  · exact reads_signToken (p := ['@', '>']) h rfl ht
  · exact reads_signToken (p := ['@', '?']) h rfl ht
  · exact reads_signToken (p := ['@', '@']) h rfl ht
  · exact reads_signToken (p := ['@', '@']) h rfl ht
  · exact reads_signToken (p := ['@', '@']) h rfl ht
  · exact reads_signToken (p := ['@']) h rfl ht
  · exact reads_signToken (p := ['@']) h rfl ht

/-- What follows an at sign in MySQL is the name of a variable, or a place of doubt. -/
theorem reads_variable (h : Rests .mysql b (p ++ c :: r)) (hp : p = ['@'] ∨ p = ['@', '@'])
    (hc : c ≠ ' ') (ht : wordToken .mysql (p ++ [c]) r = some (t, rest)) :
    Reads .mysql b (p ++ c :: r) t rest := by
  have hnames : ∀ x ∈ p, insideName .mysql x = true := by
    rcases hp with rfl | rfl <;> simp [insideName, startsName]
  have hsplit : p ++ c :: r = p ++ [c] ++ r := by simp
  rw [hsplit] at h ⊢
  by_cases hname : insideName .mysql c = true
  · refine reads_wordToken h (by simp) ?_ (fun hd => by cases hd) (fun hd => by cases hd) ht
    intro x hx
    rcases List.mem_append.1 hx with hx | hx
    · exact hnames x hx
    · rw [List.mem_singleton.1 hx]
      exact hname
  · rw [wordToken, Option.some.injEq, Prod.mk.injEq] at ht
    obtain ⟨-, rfl⟩ := ht
    have hall := List.takeWhile_append_dropWhile (p := insideName .mysql) (l := r)
    have hdoubt : doubtful .mysql (.outside b) (p ++ [c] ++ r.takeWhile (insideName .mysql)) =
        true := by
      have hafter := (after_name (b := b) hnames fun hd => by cases hd).1
      have hhead : (p.reverse ++ b).head? = some '@' := by
        rcases hp with rfl | rfl <;> rfl
      rw [doubtful_append, doubtful_append, hafter]
      simp [doubt, doubtOutside, hhead, hname, hc]
    have hread : Reads .mysql b (p ++ [c] ++ r.takeWhile (insideName .mysql) ++
        r.dropWhile (insideName .mysql)) t _ := reads_doubtful (by simp) hdoubt
    rwa [List.append_assoc, hall] at hread

theorem reads_atToken_mysql (h : Rests .mysql b ('@' :: r))
    (ht : atToken .mysql r = some (t, rest)) : Reads .mysql b ('@' :: r) t rest := by
  have hstart : startsName .mysql '@' = true := rfl
  have hsign : ∀ {u rest : List Char}, '@' :: r = u ++ rest → u = ['@'] ∨ u = ['@', '@'] →
      (∀ c s, rest = c :: s → insideName .mysql c = false) → Reads .mysql b ('@' :: r) t rest := by
    intro u rest he hu hrest
    rw [he] at h ⊢
    refine reads_word h ?_ ?_ (fun hd => by cases hd) hrest fun hd => by cases hd
    · rcases hu with rfl | rfl <;> simp
    · rcases hu with rfl | rfl <;> simp [insideName, startsName]
  have hdoubt : ∀ {c : Char} {rest : List Char}, r = c :: rest → c = '>' ∨ c = '?' →
      Reads .mysql b ('@' :: r) t rest := by
    rintro c rest rfl hc
    have hd : doubtful .mysql (.outside b) ['@', c] = true := by
      have hnext : next .mysql (.outside b) '@' = .outside ('@' :: b) := rfl
      rcases hc with rfl | rfl <;> simp [hnext, doubt, doubtOutside, insideName, startsName]
    exact reads_doubtful (u := ['@', c]) (by simp) hd
  rw [atToken.eq_def] at ht
  simp only [hstart, if_true, Bool.not_true, Bool.or_false] at ht
  split at ht
  · cases ht
    exact hdoubt rfl (.inl rfl)
  · cases ht
    exact hdoubt rfl (.inr rfl)
  · cases ht
    exact hsign (u := ['@', '@']) rfl (.inr rfl) (by simp [insideName, startsName])
  · next c r' hne =>
    refine reads_variable (p := ['@', '@']) h (.inr rfl) ?_ ht
    rintro rfl
    exact hne rfl
  · cases ht
    exact hsign (u := ['@', '@']) rfl (.inr rfl) (by simp)
  · next c r' _ _ _ _ _ =>
    split at ht
    · next hc =>
      cases ht
      refine hsign (u := ['@']) rfl (.inl rfl) fun x s he => ?_
      obtain ⟨rfl, -⟩ := List.cons.inj he
      simp only [Bool.or_eq_true, beq_iff_eq] at hc
      rcases hc with ((rfl | rfl) | rfl) | rfl <;> rfl
    · next hc =>
      refine reads_variable (p := ['@']) h (.inl rfl) ?_ ht
      rintro rfl
      simp at hc
  · cases ht
    exact hsign (u := ['@']) rfl (.inl rfl) (by simp)

theorem reads_questionToken_mysql (h : Rests .mysql b ('?' :: r))
    (ht : questionToken .mysql r = some (t, rest)) : Reads .mysql b ('?' :: r) t rest := by
  rw [questionToken.eq_def] at ht
  simp only [beq_self_eq_true, if_true] at ht
  rw [Option.some.injEq, Prod.mk.injEq] at ht
  obtain ⟨rfl, rfl⟩ := ht
  have hsplit := List.takeWhile_append_dropWhile (p := Char.isDigit) (l := r)
  have hdigits : ∀ c ∈ r.takeWhile Char.isDigit, c.isDigit = true := fun c hc =>
    List.mem_takeWhile_imp hc
  generalize r.takeWhile Char.isDigit = ds at *
  generalize r.dropWhile Char.isDigit = r' at *
  subst hsplit
  refine ⟨'?' :: ds, by simp, rfl, fun hd => ⟨?_, fun hp => absurd rfl (hp _)⟩⟩
  have hnext : next .mysql (.outside b) '?' = .outside ('?' :: b) := rfl
  have hnames : ∀ c ∈ ds, insideName .mysql c = true := fun c hc =>
    insideName_of_isDigit (hdigits c hc)
  have hcounts := counts_name (d := .mysql) (b := '?' :: b) (.inl rfl) hnames fun c v he _ =>
    .inl (hdigits c (by rw [he]; exact List.mem_cons_self))
  rw [after_cons, hnext, hcounts.after]
  by_cases hne : ds = []
  · rw [hne] at h ⊢
    have hpush := h.push rfl (.inl (.of_ne (by decide)))
    exact .outside hpush
  · exact .outside ((hcounts.inNumber hne hnames).rests r')

/-! ### The next token -/

/-- What a scanned token means for the server; a comment that MySQL reads as code is a place of
doubt. -/
def Scanned (d : Dialect) (behind s : List Char) : Scan → Prop
  | .token t rest => Reads d behind s t rest
  | .hint _ _ => doubtful d (.outside behind) s = true

theorem Scanned.ofToken {found : Option (Token × List Char)} {sc : Scan}
    (h : Scan.ofToken? found = some sc)
    (hr : ∀ t rest, found = some (t, rest) → Reads d b s t rest) : Scanned d b s sc := by
  obtain ⟨⟨t, rest⟩, hfound, rfl⟩ := Option.map_eq_some_iff.1 h
  exact hr t rest hfound

/-- A character that is a token by itself, whatever follows it. -/
def standsAlone (d : Dialect) (c : Char) : Bool :=
  !isMark d c && !insideName d c && c != '/' && c != '-' &&
    (d == .postgres || (c != '#' && c != '?'))

theorem standsAlone_spec (hc : standsAlone d c = true) :
    isMark d c = false ∧ insideName d c = false ∧ (d = .mysql → c ≠ '#' ∧ c ≠ '?') ∧
      Alone d c r := by
  simp only [standsAlone, Bool.and_eq_true, Bool.not_eq_true', Bool.or_eq_true, bne_iff_ne,
    beq_iff_eq] at hc
  obtain ⟨⟨⟨⟨hm, hn⟩, hslash⟩, hdash⟩, hs⟩ := hc
  refine ⟨hm, hn, ?_, .of_ne ⟨hslash, hdash⟩⟩
  rintro rfl
  simpa using hs

theorem reads_one (h : Rests d b (c :: r)) (hc : standsAlone d c = true) :
    Reads d b (c :: r) t r := by
  obtain ⟨hm, hn, hs, ha⟩ := standsAlone_spec hc
  exact reads_plain h hm hn hs ha

theorem scanned_one {sc : Scan} (h : Rests d b (c :: r)) (hc : standsAlone d c = true)
    (hs : Scan.ofToken? (signToken spelling r) = some sc) : Scanned d b (c :: r) sc :=
  .ofToken hs fun t rest ht => by
    cases ht
    exact reads_one h hc

theorem reads_pair (h : Rests d b (c :: q :: r)) (hc : standsAlone d c = true)
    (hq : standsAlone d q = true) : Reads d b (c :: q :: r) t r := by
  obtain ⟨hm, hn, hs, ha⟩ := standsAlone_spec hc
  exact .cons h hm hn hs ha fun hrest => reads_one hrest hq

theorem scanned_dashFrom {sc : Scan} (h : Rests d b ('-' :: r)) (hs : dashFrom d r = some sc) :
    Scanned d b ('-' :: r) sc := by
  have hoperator : isOperator d '-' = true ∧ isOperator d '>' = true := by
    cases d <;> exact ⟨rfl, rfl⟩
  -- A greater-than sign behind the dash keeps it from being a comment.
  have harrow : ∀ {r' c s}, '-' :: '>' :: r' = c :: s → Alone d c s := by
    intro r' c s he
    obtain ⟨rfl, rfl⟩ := List.cons.inj he
    exact ⟨by simp, by simp, by simp⟩
  rw [dashFrom.eq_def] at hs
  split at hs
  · next r' =>
    split at hs
    · next hline =>
      cases hs
      refine reads_dashes h ?_
      rintro rfl
      exact hline
    · next hline =>
      simp only [Bool.or_eq_true, bne_iff_ne, ne_eq, not_or, not_not, Bool.not_eq_true] at hline
      obtain ⟨rfl, hblank⟩ := hline
      refine .ofToken hs fun t rest ht =>
        reads_operatorToken (p := ['-']) h (by simp) rfl (fun c s he => ?_) (by simp) ht
      obtain ⟨rfl, rfl⟩ := List.cons.inj he
      refine ⟨by simp, (fun hd => by cases hd), fun _ _ x r'' hr => ?_⟩
      obtain ⟨-, rfl⟩ := List.cons.inj hr
      exact hblank
  · exact .ofToken hs fun t rest ht =>
      reads_operatorToken (p := ['-', '>', '>']) h (by simp) (by simp [hoperator])
        (fun _ _ => harrow) (by simp) ht
  · exact .ofToken hs fun t rest ht =>
      reads_operatorToken (p := ['-', '>']) h (by simp) (by simp [hoperator])
        (fun _ _ => harrow) (by simp) ht
  · next hne _ _ =>
    refine .ofToken hs fun t rest ht =>
      reads_operatorToken (p := ['-']) h (by simp) (by simp [hoperator]) (fun c s he => ?_)
        (by simp) ht
    obtain ⟨rfl, rfl⟩ := List.cons.inj he
    refine ⟨by simp, fun _ _ hhead => ?_, fun _ _ x r' hr => absurd hr (hne _)⟩
    rcases r with - | ⟨x, r⟩
    · cases hhead
    · obtain rfl := Option.some.inj hhead
      exact hne r rfl

theorem scanned_commentFrom {sc : Scan} (h : Rests d b ('/' :: '*' :: r))
    (hs : commentFrom d r = some sc) : Scanned d b ('/' :: '*' :: r) sc := by
  rw [commentFrom] at hs
  obtain ⟨⟨content, rest⟩, hx, hsc⟩ := Option.map_eq_some_iff.1 hs
  dsimp only at hsc
  split at hsc
  · next hint hdrop =>
    split at hsc
    · next hd =>
      obtain rfl := beq_iff_eq.1 hd
      obtain ⟨rfl, -, -⟩ := after_block (d := .mysql) hx
      obtain ⟨content, rfl⟩ : ∃ content', content = '!' :: content' := by
        rcases content with - | ⟨x, content⟩
        · cases hdrop
        · rcases content with - | ⟨y, content⟩
          · cases hdrop
          · rw [List.dropLast_cons_cons, List.cons.injEq] at hdrop
            exact ⟨_, by rw [hdrop.1]⟩
      rw [← hsc, Scanned]
      by_contra hclear
      rw [Bool.not_eq_true, doubtful_cons, Bool.or_eq_false_iff] at hclear
      rw [next_slash h hclear.1, doubtful_cons, next_opening] at hclear
      simp [doubt] at hclear
    · rw [← hsc]
      exact reads_block h hx
  · rw [← hsc]
    exact reads_block h hx

theorem reads_percentToken (h : Rests d b ('%' :: r)) (ht : percentToken d r = some (t, rest)) :
    Reads d b ('%' :: r) t rest := by
  rw [percentToken.eq_def] at ht
  split at ht
  · split at ht
    · exact reads_signToken (p := ['%']) h (by cases d <;> rfl) ht
    · exact reads_opened (p := ['%']) h (by cases d <;> rfl) ht
  · exact reads_signToken (p := ['%']) h (by cases d <;> rfl) ht

theorem reads_equalsToken (h : Rests d b ('=' :: r)) (ht : equalsToken r = some (t, rest)) :
    Reads d b ('=' :: r) t rest := by
  rw [equalsToken.eq_def] at ht
  split at ht
  · exact reads_signToken (p := ['=', '>']) h (by cases d <;> rfl) ht
  · exact reads_signToken (p := ['=', '=']) h (by cases d <;> rfl) ht
  · exact reads_signToken (p := ['=']) h (by cases d <;> rfl) ht

theorem reads_greaterToken (h : Rests d b ('>' :: r)) (ht : greaterToken d r = some (t, rest)) :
    Reads d b ('>' :: r) t rest := by
  rw [greaterToken.eq_def] at ht
  split at ht
  · exact reads_opened (p := ['>', '=']) h (by cases d <;> rfl) ht
  · exact reads_opened (p := ['>', '>']) h (by cases d <;> rfl) ht
  · split at ht
    · exact reads_opened (p := ['>']) h (by cases d <;> rfl) ht
    · exact reads_opened (p := ['>', '^']) h (by cases d <;> rfl) ht
  · exact reads_opened (p := ['>']) h (by cases d <;> rfl) ht

theorem reads_colonToken (h : Rests d b (':' :: r)) (ht : colonToken r = some (t, rest)) :
    Reads d b (':' :: r) t rest := by
  rw [colonToken.eq_def] at ht
  split at ht
  · cases ht
    exact reads_pair h (by cases d <;> rfl) (by cases d <;> rfl)
  · cases ht
    exact reads_pair h (by cases d <;> rfl) (by cases d <;> rfl)
  · cases ht
    exact reads_one h (by cases d <;> rfl)

theorem reads_caretToken (h : Rests d b ('^' :: r)) (ht : caretToken r = some (t, rest)) :
    Reads d b ('^' :: r) t rest := by
  rw [caretToken.eq_def] at ht
  split at ht
  · cases d with
    | mysql =>
      cases ht
      exact reads_doubtful (u := ['^', '@']) (by simp) (doubtful_variable (.inr rfl))
    | postgres => exact reads_signToken (p := ['^', '@']) h rfl ht
  · exact reads_signToken (p := ['^']) h (by cases d <;> rfl) ht

/-- A word, a dollar sign or a character that begins no token of more than itself. -/
theorem scanned_otherwise {sc : Scan} (h : Rests d b (c :: r)) (hm : isMark d c = false)
    (hdigit : c.isDigit = false)
    (hletter : d = .postgres → c = 'e' ∨ c = 'E' → r.head? ≠ some '\'')
    (hc : c ∉ ['/', '-', '#', '?'])
    (hs : (if startsName d c then Scan.ofToken? (wordToken d [c] r)
      else if c == '$' then Scan.ofToken? (dollarToken r)
      else if Text.isBlank c then some (.token .blank r)
      else some (.token (.other c) r)) = some sc) : Scanned d b (c :: r) sc := by
  split at hs
  · next hstart =>
    have hname : insideName d c = true := by simp [insideName, hstart]
    have hdollar : d = .postgres → c ≠ '$' := by
      rintro rfl rfl
      cases hstart
    refine .ofToken hs fun t rest ht => reads_wordToken (p := [c]) h (by simp)
      (by simpa using hname) (by simpa using hdollar)
      (fun hd he => hletter hd (by simpa using he)) ht
  · next hstart =>
    split at hs
    · next hdollar =>
      obtain rfl := beq_iff_eq.1 hdollar
      cases d with
      | mysql => exact absurd rfl hstart
      | postgres => exact .ofToken hs fun _ _ => reads_dollarToken h
    · next hdollar =>
      simp only [List.mem_cons, List.not_mem_nil, or_false, not_or] at hc
      have hn : insideName d c = false := by
        simp only [Bool.not_eq_true, beq_iff_eq] at hstart hdollar
        simp [insideName, hstart, hdigit, hdollar]
      have hread : ∀ t, Reads d b (c :: r) t r := fun t =>
        reads_plain h hm hn (fun _ => ⟨hc.2.2.1, hc.2.2.2⟩) (.of_ne ⟨hc.1, hc.2.1⟩)
      split at hs
      · cases hs
        exact hread _
      · cases hs
        exact hread _

theorem scanned_signFrom {sc : Scan} (h : Rests d b (c :: r)) (hm : isMark d c = false)
    (hdigit : c.isDigit = false)
    (hletter : d = .postgres → c = 'e' ∨ c = 'E' → r.head? ≠ some '\'')
    (hs : signFrom d c r = some sc) : Scanned d b (c :: r) sc := by
  unfold signFrom at hs
  split at hs
  case h_1 | h_2 | h_3 | h_4 | h_5 | h_6 | h_7 | h_8 | h_9 | h_10 | h_11 =>
    exact scanned_one h (by cases d <;> rfl) hs
  · exact scanned_dashFrom h hs
  · split at hs
    · exact scanned_commentFrom h hs
    · next hne =>
      refine .ofToken hs fun t rest ht => ?_
      cases ht
      refine reads_plain h (by cases d <;> rfl) (by cases d <;> rfl) (fun _ => by decide) ?_
      refine ⟨fun _ hhead => ?_, by simp, by simp⟩
      rcases r with - | ⟨x, r⟩
      · cases hhead
      · obtain rfl := Option.some.inj hhead
        exact hne r rfl
  · exact .ofToken hs fun _ _ => reads_percentToken h
  · exact .ofToken hs fun _ _ => reads_barToken h
  · exact .ofToken hs fun _ _ => reads_equalsToken h
  · exact .ofToken hs fun _ _ => reads_bangToken h
  · exact .ofToken hs fun _ _ => reads_lessToken h
  · exact .ofToken hs fun _ _ => reads_greaterToken h
  · exact .ofToken hs fun _ _ => reads_colonToken h
  · exact .ofToken hs fun _ _ => reads_ampersandToken h
  · exact .ofToken hs fun _ _ => reads_caretToken h
  · split at hs
    · next hd =>
      cases hs
      exact reads_sharp (beq_iff_eq.1 hd)
    · next hd =>
      cases d with
      | mysql => exact absurd rfl hd
      | postgres => exact .ofToken hs fun _ _ => reads_sharpToken h
  · exact .ofToken hs fun _ _ => reads_tildeToken h
  · cases d with
    | mysql => exact .ofToken hs fun _ _ => reads_atToken_mysql h
    | postgres => exact .ofToken hs fun _ _ => reads_atToken_postgres h
  · cases d with
    | mysql => exact .ofToken hs fun _ _ => reads_questionToken_mysql h
    | postgres => exact .ofToken hs fun _ _ => reads_questionToken_postgres h
  · exact scanned_otherwise h hm hdigit hletter (by simp_all) hs

/-! ### Quoted texts -/

/-- A text of Unicode escapes, which the server reads as a word, an operator and a plain text. -/
theorem reads_unicode {keeps : Bool} (h : Rests .postgres b (c :: '&' :: '\'' :: r))
    (hc : c = 'u' ∨ c = 'U') (hx : quotedText '\'' false keeps r = some (s, rest)) :
    Reads .postgres b (c :: '&' :: '\'' :: r) t rest := by
  have hname : ∀ x ∈ [c], insideName .postgres x = true := by
    rcases hc with rfl | rfl <;> simp [insideName, startsName]
  have hfirst : [c].head? ≠ some '$' := by rcases hc with rfl | rfl <;> simp
  have hafter := after_name hname (h.head_word (by simp) hname fun _ => hfirst)
  have hrests : Rests .postgres (c :: b) ('&' :: '\'' :: r) := by
    refine .of_head (head_reverse_name (by simp) hname) (fun x y he hx => ?_) (by simp)
    obtain ⟨rfl, -⟩ := List.cons.inj he
    cases hx
  refine Reads.behind (u := [c]) ?_ hafter
  refine .cons hrests rfl rfl (fun hd => by cases hd) (.of_ne (by decide)) fun _ => ?_
  exact reads_quoted rfl (fun _ => .inl rfl) hx

/-- Behind a letter the quotes follow at once, and the server knows by the letter what a backslash
in them does; or PostgreSQL has an ampersand in between. -/
theorem lettered?_cases {style : TextStyle} {escapes : Bool} {r' : List Char}
    (hl : lettered? d c r = some (style, q, escapes, r')) :
    (d = .postgres ∧ (c = 'u' ∨ c = 'U') ∧ q = '\'' ∧ escapes = false ∧ r = '&' :: '\'' :: r') ∨
    (r = q :: r' ∧ isMark d q = true ∧ insideName d c = true ∧ c ≠ '$' ∧
      ((quoting d [c] q).escapes = escapes ∨ (quoting d [c] q).digits = true)) := by
  have hpostgres : (!(d == Dialect.mysql)) = true → d = .postgres := by cases d <;> simp
  unfold lettered? at hl
  simp only [Bool.and_eq_true, Bool.or_eq_true, beq_iff_eq] at hl
  split at hl
  · next hc =>
    split at hl
    · cases hl
      rcases hc with rfl | rfl <;> cases d <;> exact .inr ⟨rfl, by decide⟩
    · cases hl
      rcases hc with rfl | rfl <;> cases d <;> exact .inr ⟨rfl, by decide⟩
    · cases hl
  · split at hl
    · next hc =>
      split at hl
      · cases hl
        rcases hc with rfl | rfl <;> cases d <;> exact .inr ⟨rfl, by decide⟩
      · cases hl
    · split at hl
      · next hc =>
        obtain rfl := hpostgres hc.2
        split at hl
        · cases hl
          rcases hc.1 with rfl | rfl <;> exact .inr ⟨rfl, by decide⟩
        · cases hl
      · split at hl
        · next hc =>
          split at hl
          · cases hl
            exact .inl ⟨hpostgres hc.2, hc.1, rfl, rfl, rfl⟩
          · cases hl
        · split at hl
          · next hc =>
            split at hl
            · cases hl
              rcases hc with rfl | rfl <;> cases d <;> exact .inr ⟨rfl, by decide⟩
            · cases hl
          · cases hl

theorem reads_lettered {style : TextStyle} {escapes keeps : Bool} {r' : List Char}
    (h : Rests d b (c :: r)) (hl : lettered? d c r = some (style, q, escapes, r'))
    (hx : quotedText q escapes keeps r' = some (s, rest)) : Reads d b (c :: r) t rest := by
  rcases lettered?_cases hl with ⟨rfl, hc, rfl, rfl, rfl⟩ | ⟨rfl, hm, hc, hdollar, hesc⟩
  · exact reads_unicode h hc hx
  · exact reads_prefixed h hc hdollar hm hesc hx

theorem scanned_quoted {style : TextStyle} {escapes : Bool} {sc : Scan}
    (hs : Scan.ofToken? (textToken style (quotedText q escapes (d == .mysql) r)) = some sc)
    (hr : ∀ t content rest, quotedText q escapes (d == .mysql) r = some (content, rest) →
      Reads d b s t rest) : Scanned d b s sc := by
  refine .ofToken hs fun t rest ht => ?_
  obtain ⟨⟨content, rest'⟩, hx, he⟩ := Option.map_eq_some_iff.1 ht
  obtain ⟨-, rfl⟩ := Prod.mk.inj he
  exact hr t content rest' hx

/-- A mark between tokens: a letter would have been taken with it. -/
theorem reads_mark {escapes keeps : Bool} (h : Rests d b (q :: r)) (hm : isMark d q = true)
    (hesc : escapes = (d == .mysql && q != '`'))
    (hx : quotedText q escapes keeps r = some (s, rest)) : Reads d b (q :: r) t rest := by
  refine reads_quoted hm (fun hnum => ?_) hx
  cases d with
  | mysql =>
    cases hdigits : (quoting .mysql (wordBehind .mysql b) q).digits with
    | true => exact .inr rfl
    | false =>
      have hescapes : (quoting .mysql (wordBehind .mysql b) q).escapes =
          (q != '`' && !(quoting .mysql (wordBehind .mysql b) q).digits) := rfl
      rw [hescapes, hdigits, hesc]
      exact .inl (by simp)
  | postgres =>
    have hplain : (quoting .postgres (wordBehind .postgres b) q).escapes = false := by
      by_contra hcon
      simp only [quoting, Bool.not_eq_false, Bool.and_eq_true, Bool.or_eq_true, beq_iff_eq] at hcon
      have hnumeric := h.literal rfl (by rw [hcon.1]; rfl) hcon.2
      rw [hnum] at hnumeric
      cases hnumeric
    rw [hplain, hesc]
    exact .inl rfl

theorem scanned_scanFrom {before : Option Token} {sc : Scan} (h : Rests d b (c :: r))
    (hs : scanFrom d before c r = some sc) : Scanned d b (c :: r) sc := by
  unfold scanFrom at hs
  dsimp only at hs
  split at hs
  · next hblank =>
    cases hs
    simp only [Bool.or_eq_true, beq_iff_eq] at hblank
    have halone : standsAlone d c = true := by
      rcases hblank with ((rfl | rfl) | rfl) | rfl <;> cases d <;> rfl
    exact reads_one h halone
  · split at hs
    · next style q escapes r' hl =>
      exact scanned_quoted hs fun t content rest hx => reads_lettered h hl hx
    · next hl =>
      split at hs
      · next hc =>
        obtain rfl := beq_iff_eq.1 hc
        exact scanned_quoted hs fun t content rest hx =>
          reads_mark h (by cases d <;> rfl) (by simp) hx
      · next hquote =>
        split at hs
        · next hc =>
          simp only [Bool.and_eq_true, beq_iff_eq] at hc
          obtain ⟨rfl, rfl⟩ := hc
          exact scanned_quoted hs fun t content rest hx => reads_mark h rfl (by decide) hx
        · next hdouble =>
          split at hs
          · next hc =>
            obtain rfl := beq_iff_eq.1 hc
            refine .ofToken hs fun t rest ht => ?_
            obtain ⟨⟨content, rest'⟩, hx, he⟩ := Option.map_eq_some_iff.1 ht
            obtain ⟨-, rfl⟩ := Prod.mk.inj he
            rw [quotedName_eq d.quote false] at hx
            exact reads_mark h (by cases d <;> rfl) (by cases d <;> rfl) hx
          · next hname =>
            split at hs
            · next hc =>
              simp only [Bool.or_eq_true, beq_iff_eq] at hc
              exact .ofToken hs fun t rest ht => reads_numberToken h hc ht
            · next hc =>
              simp only [Bool.or_eq_true, not_or, Bool.not_eq_true] at hc
              refine scanned_signFrom h ?_ hc.1 ?_ hs
              · cases d <;> simp_all [isMark, Dialect.quote]
              · rintro rfl hletter hhead
                rcases r with - | ⟨x, r⟩
                · cases hhead
                · obtain rfl := Option.some.inj hhead
                  rcases hletter with rfl | rfl <;> cases hl

end

end QueryDesk.Sql.Server
