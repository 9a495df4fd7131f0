import Mathlib.Data.List.Induction
import QueryDesk.Proofs.Sql.Lexing
import QueryDesk.Sql.Fragment

/-!
# Fragments that the server reads to their end

A join condition or raw value stands in the middle of a statement, so that the server reads on
behind it. The fragment is closed when a separator behind it leads the server back to the start:
what follows is then read as if nothing stood before it. `ready_scan` follows the tokens of a
fragment and gives where the server stands behind the last one. An accepted fragment without a place
of doubt is closed or ends with a comment that goes to the end of the line, and this is all that its
check excludes.
-/

namespace QueryDesk.Sql.Server

section

variable {d : Dialect} {m : Mode} {b r s t x : List Char} {c : Char}

/-! ### The tokens of a text -/

/-- Where the server stands ready for a character, it reads it like code. -/
theorem Ready.read (h : Ready d m (c :: r)) : ∃ b, Rests d b (c :: r) ∧
    next d m c = next d (.outside b) c ∧ mark d m c = mark d (.outside b) c ∧
    doubt d m c = doubt d (.outside b) c := by
  cases h with
  | outside h => exact ⟨_, h, rfl, rfl, rfl⟩
  | shut h =>
    have hne : c ≠ _ := fun he => h (congrArg some he)
    exact ⟨[], .nil d _, by simp [next, hne], by simp [mark, hne], by simp [doubt, hne]⟩

/-- Over the tokens of a text without doubt the server stays ready, and it meets no parameter mark
unless one of them is a placeholder. -/
theorem ready_scan {fuel : Nat} {before : Option Token} {ts : List Token}
    (hs : scan d fuel before s = some ts) (hr : Ready d m s) (hd : doubtful d m s = false) :
    Ready d (after d m s) [] ∧ ((∀ p, Token.placeholder p ∉ ts) → marks d m s = []) := by
  -- Token by token: between two of them the server stands ready for the next.
  induction fuel generalizing m before s ts with
  | zero => cases hs
  | succ fuel ih =>
    rcases s with - | ⟨c, r⟩
    · exact ⟨hr, fun _ => rfl⟩
    · obtain ⟨b, hrests, hnext, hmark, hdoubt⟩ := hr.read
      have hcode : after d m (c :: r) = after d (.outside b) (c :: r) ∧
          marks d m (c :: r) = marks d (.outside b) (c :: r) ∧
          doubtful d m (c :: r) = doubtful d (.outside b) (c :: r) := by
        rw [after_cons, after_cons, marks_cons, marks_cons, doubtful_cons, doubtful_cons, hnext,
          hmark, hdoubt]
        exact ⟨rfl, rfl, rfl⟩
      obtain ⟨hafter, hmarks, hdoubtful⟩ := hcode
      rw [hdoubtful] at hd
      rw [hafter, hmarks]
      rw [scan] at hs
      split at hs
      · cases hs
      · next t rest hfrom =>
        obtain ⟨ts', hs', rfl⟩ := Option.map_eq_some_iff.1 hs
        obtain ⟨u, -, hu, hread⟩ := scanned_scanFrom hrests hfrom
        rw [hu, doubtful_append, Bool.or_eq_false_iff] at hd
        obtain ⟨hready, htoken⟩ := hread hd.1
        obtain ⟨hend, hrest⟩ := ih hs' hready hd.2
        rw [hu, after_append, marks_append]
        refine ⟨hend, fun hp => ?_⟩
        rw [htoken fun p he => hp p (he ▸ List.mem_cons_self),
          hrest fun p hmem => hp p (List.mem_cons_of_mem t hmem), List.append_nil]
      · next content rest hfrom =>
        have hhint := scanned_scanFrom hrests hfrom
        rw [Scanned, hd] at hhint
        cases hhint

/-! ### Separators -/

/-- A character that opens and closes nothing. -/
structure Neutral (d : Dialect) (c : Char) : Prop where
  mark : isMark d c = false
  other : c ∉ ['*', '/', '-', '#', '$', '\\']

theorem neutral_of {p : Char → Bool}
    (hp : ['\'', '"', '`', '*', '/', '-', '#', '$', '\\'].any p = false) (h : p c = true) :
    Neutral d c := by
  have hne : ∀ x ∈ ['\'', '"', '`', '*', '/', '-', '#', '$', '\\'], c ≠ x := by
    rintro x hx rfl
    exact List.any_eq_false.1 hp c hx h
  simp only [List.forall_mem_cons, List.not_mem_nil, false_implies, implies_true] at hne
  exact ⟨by simp [isMark, hne], by simp [hne]⟩

theorem neutral_of_separates (h : separates c = true) : Neutral d c := neutral_of (by decide) h

theorem neutral_of_isBlank (h : Text.isBlank c = true) : Neutral d c := neutral_of (by decide) h

/-- In code a separator leads back to the start, two dashes in MySQL aside. -/
theorem nextOutside_separates (h : separates c = true) :
    nextOutside d b c = .start ∨ d = .mysql ∧ b.take 2 = ['-', '-'] := by
  obtain ⟨hm, hother⟩ := neutral_of_separates (d := d) h
  simp only [List.mem_cons, List.not_mem_nil, or_false, not_or] at hother
  have hpush : push b c = [] := by simp [push, h]
  cases d with
  | mysql =>
    by_cases hb : b.take 2 = ['-', '-']
    · exact .inr ⟨rfl, hb⟩
    · exact .inl (by simp [nextOutside, hm, hother, hpush, hb, Mode.start])
  | postgres => exact .inl (by simp [nextOutside, hm, hother, hpush, Mode.start])

theorem next_start (h : separates c = true) : next d .start c = .start := by
  rcases nextOutside_separates (d := d) (b := []) h with hn | ⟨-, hb⟩
  · exact hn
  · cases hb

theorem next_shut {q : Quoting} (hq : isMark d q.mark = true) (h : separates c = true) :
    next d (.shut q) c = .start := by
  have hne : c ≠ q.mark := by
    rintro rfl
    rw [(neutral_of_separates h).mark] at hq
    cases hq
  rw [next, if_neg hne]
  exact (nextOutside_separates h).resolve_right fun hb => by cases hb.2

theorem mark_separates (h : separates c = true) : mark d m c = [] := by
  have hquestion : c ≠ '?' := by
    rintro rfl
    cases h
  have hdigit : c.isDigit = false := by
    by_contra hcon
    have hsmall := of_ascii (P := fun c => c.isDigit = true → separates c = false)
      (by decide +kernel) (c := c) (by
        simp only [Char.isDigit, ge_iff_le, Bool.not_eq_false, Bool.and_eq_true,
          decide_eq_true_eq, UInt32.le_iff_toNat_le] at hcon
        have hlarge : c.toNat ≤ 57 := hcon.2
        omega) (by simpa using hcon)
    rw [h] at hsmall
    cases hsmall
  cases m with
  | outside b => cases d <;> simp [mark, markOutside, hquestion, hdigit]
  | shut q => cases d <;> simp [mark, markOutside, hquestion, hdigit]
  | inside q | escaped q | line | block depth before | dollar tag seen => rfl

/-! ### Open modes -/

/-- Where it stands within quotes, they are quotes of the dialect. -/
def Mode.Sound (d : Dialect) : Mode → Prop
  | .inside q | .escaped q | .shut q => isMark d q.mark = true
  | _ => True

/-- Within quotes, a comment between slashes and stars, or dollar tags. -/
def Mode.IsOpen : Mode → Prop
  | .inside _ | .escaped _ | .block _ _ | .dollar _ _ => True
  | .outside _ | .shut _ | .line => False

theorem sound_nextOutside : (nextOutside d b c).Sound d := by
  unfold nextOutside
  dsimp only
  split
  · next hm => exact hm
  · split
    · trivial
    · cases d with
      | mysql => dsimp only; split_ifs <;> trivial
      | postgres =>
        dsimp only
        split_ifs
        · trivial
        · split <;> trivial
        · trivial

theorem Mode.Sound.next (h : m.Sound d) : (Server.next d m c).Sound d := by
  cases m with
  | outside b => exact sound_nextOutside
  | inside q => simp only [Server.next]; split_ifs <;> exact h
  | escaped q => exact h
  | shut q =>
    simp only [Server.next]
    split_ifs
    · exact h
    · exact sound_nextOutside
  | line => simp only [Server.next]; split_ifs <;> trivial
  | block depth before => simp only [Server.next]; split_ifs <;> trivial
  | dollar tag seen => simp only [Server.next]; split_ifs <;> trivial

theorem Mode.Sound.after (h : m.Sound d) : (Server.after d m s).Sound d := by
  induction s generalizing m with
  | nil => exact h
  | cons c s ih => exact ih h.next

theorem Mode.IsOpen.next (hs : m.Sound d) (ho : m.IsOpen) (h : Neutral d c) :
    (Server.next d m c).IsOpen := by
  obtain ⟨hm, hother⟩ := h
  simp only [List.mem_cons, List.not_mem_nil, or_false, not_or] at hother
  cases m with
  | outside b => exact ho.elim
  | shut q => exact ho.elim
  | line => exact ho.elim
  | inside q =>
    have hq : c ≠ q.mark := by
      rintro rfl
      rw [hs] at hm
      cases hm
    simp [Server.next, hq, hother, IsOpen]
  | escaped q => trivial
  | block depth before => simp [Server.next, hother, IsOpen]
  | dollar tag seen => simp [Server.next, Ne.symm hother.2.2.2.2.1, IsOpen]

theorem Mode.IsOpen.after (hs : m.Sound d) (ho : m.IsOpen) (h : ∀ c ∈ s, Neutral d c) :
    (Server.after d m s).IsOpen := by
  induction s generalizing m with
  | nil => exact ho
  | cons c s ih =>
    have hopen := ho.next hs (h c List.mem_cons_self)
    exact ih hs.next hopen fun x hx => h x (List.mem_cons_of_mem c hx)

/-! ### Closed texts -/

/-- A separator behind the text leads the server back to the start. -/
def Closed (d : Dialect) (text : List Char) : Prop :=
  ∀ c, separates c = true → next d (after d .start text) c = .start

/-- A blank behind the text belongs to a comment that goes to the end of the line. -/
def Hangs (d : Dialect) (text : List Char) : Prop :=
  next d (after d .start text) ' ' = .line

instance (d : Dialect) (text : List Char) : Decidable (Hangs d text) :=
  inferInstanceAs (Decidable (_ = _))

/-- What follows a closed text is read as it is read by itself. -/
theorem Closed.after_append (h : Closed d t) (hc : separates c = true) (r : List Char) :
    after d .start (t ++ c :: r) = after d .start (c :: r) := by
  rw [Server.after_append, after_cons, after_cons, h c hc, next_start hc]

theorem Closed.marks_append (h : Closed d t) (hc : separates c = true) (r : List Char) :
    marks d .start (t ++ c :: r) = marks d .start t ++ marks d .start (c :: r) := by
  rw [Server.marks_append, marks_cons, marks_cons, h c hc, next_start hc, mark_separates hc,
    mark_separates hc]

/-- Outside of quotes, comments and dollar tags a text is closed, or its line ends in a comment. -/
theorem closed_or_hangs (h : ¬(after d .start t).IsOpen) : Closed d t ∨ Hangs d t := by
  have hsound : (after d .start t).Sound d := Mode.Sound.after trivial
  rw [Hangs]
  unfold Closed
  generalize after d .start t = m at *
  cases m with
  | outside b =>
    by_cases hb : d = .mysql ∧ b.take 2 = ['-', '-']
    · obtain ⟨rfl, hb⟩ := hb
      exact .inr (by simp [next, nextOutside, isMark, isControl, hb])
    · exact .inl fun c hc => (nextOutside_separates hc).resolve_right hb
  | shut q => exact .inl fun c hc => next_shut hsound hc
  | line => exact .inr (by simp [next])
  | inside q => exact absurd trivial h
  | escaped q => exact absurd trivial h
  | block depth before => exact absurd trivial h
  | dollar tag seen => exact absurd trivial h

theorem Ready.not_isOpen (h : Ready d m s) : ¬m.IsOpen := by
  cases h <;> exact id

/-! ### Comments to the end of the line -/

/-- A text begins a comment that goes to the end of the line. -/
inductive OpensLine (d : Dialect) : List Char → Prop
  | dashes (r : List Char) : OpensLine d ('-' :: '-' :: r)
  | sharp (hd : d = .mysql) (r : List Char) : OpensLine d ('#' :: r)

theorem OpensLine.append (h : OpensLine d s) (r : List Char) : OpensLine d (s ++ r) := by
  cases h with
  | dashes s => exact .dashes (s ++ r)
  | sharp hd s => exact .sharp hd (s ++ r)

theorem two_dashes (h : b.take 2 = ['-', '-']) : ∃ b', b = '-' :: '-' :: b' := by
  have hsplit := List.take_append_drop 2 b
  rw [h] at hsplit
  exact ⟨b.drop 2, hsplit.symm⟩

/-- A text ends in a comment that goes to the end of the line. -/
def EndsInComment (d : Dialect) (text : List Char) : Prop :=
  ∃ x y, text = x ++ y ∧ OpensLine d y ∧ '\n' ∉ y

theorem nextOutside_outside (h : nextOutside d b c = .outside x) : x = [] ∨ x = c :: b := by
  have hpush : push b c = [] ∨ push b c = c :: b := by
    rw [push]
    split
    · exact .inl rfl
    · exact .inr rfl
  unfold nextOutside at h
  dsimp only at h
  split at h
  · cases h
  · split at h
    · cases h
    · cases d with
      | mysql =>
        dsimp only at h
        split_ifs at h <;> cases h
        · exact .inl rfl
        · exact hpush
      | postgres =>
        dsimp only at h
        split_ifs at h
        · split at h <;> cases h
          exact hpush
        · cases h
          exact hpush

/-- A comment that goes to the end of the line begins with a number sign, or behind two dashes. -/
theorem nextOutside_line (h : nextOutside d b c = .line) : c ≠ '\n' ∧
    (d = .mysql ∧ c = '#' ∨ b.take 2 = ['-', '-'] ∨ c = '-' ∧ b.head? = some '-') := by
  unfold nextOutside at h
  dsimp only at h
  split at h
  · cases h
  · split at h
    · cases h
    · cases d with
      | mysql =>
        dsimp only at h
        split_ifs at h with hsharp hdash hline
        · obtain rfl := beq_iff_eq.1 hsharp
          exact ⟨by decide, .inl ⟨rfl, rfl⟩⟩
        · cases h
        · simp only [Bool.and_eq_true, beq_iff_eq] at hdash
          exact ⟨by simpa using hline, .inr (.inl hdash.2)⟩
      | postgres =>
        dsimp only at h
        split_ifs at h with hdash
        · simp only [Bool.and_eq_true, beq_iff_eq] at hdash
          obtain ⟨rfl, hb⟩ := hdash
          exact ⟨by decide, .inr (.inr ⟨rfl, hb⟩)⟩
        · split at h <;> cases h

theorem next_cases (d : Dialect) (m : Mode) (c : Char) :
    (next d m c).IsOpen ∨ (∃ q, next d m c = .shut q) ∨ next d m c = .start ∨
      (m = .line ∧ c ≠ '\n' ∧ next d m c = .line) ∨
      ∃ b, (b = [] ∨ m = .outside b) ∧ next d m c = nextOutside d b c := by
  cases m with
  | outside b => exact .inr (.inr (.inr (.inr ⟨b, .inr rfl, rfl⟩)))
  | inside q =>
    rw [next]
    split_ifs
    · exact .inr (.inl ⟨q, rfl⟩)
    · exact .inl trivial
    · exact .inl trivial
  | escaped q => exact .inl trivial
  | shut q =>
    rw [next]
    split_ifs
    · exact .inl trivial
    · exact .inr (.inr (.inr (.inr ⟨[], .inl rfl, rfl⟩)))
  | line =>
    rw [next]
    split_ifs with hc
    · exact .inr (.inr (.inl rfl))
    · refine .inr (.inr (.inr (.inl ⟨rfl, ?_, rfl⟩)))
      rintro rfl
      simp at hc
  | block depth before =>
    rw [next]
    split_ifs
    · exact .inr (.inr (.inl rfl))
    · exact .inl trivial
    · exact .inl trivial
    · exact .inl trivial
  | dollar tag seen =>
    rw [next]
    split_ifs
    · exact .inr (.inr (.inl rfl))
    · exact .inl trivial

/-- What was read since the last separator stands at the end of the text. -/
theorem behind_of_after (h : after d .start t = .outside b) : ∃ x, t = x ++ b.reverse := by
  -- By the last character, since what is behind was read last.
  induction t using List.reverseRecOn generalizing b with
  | nil =>
    cases h
    exact ⟨[], rfl⟩
  | append_singleton t c ih =>
    rw [after_append, after_cons, after_nil] at h
    rcases next_cases d (after d .start t) c with ho | ⟨q, hq⟩ | hs | ⟨-, -, hl⟩ | ⟨x, hx, hn⟩
    · rw [h] at ho
      exact ho.elim
    · rw [h] at hq
      cases hq
    · rw [h] at hs
      cases hs
      exact ⟨t ++ [c], by simp⟩
    · rw [h] at hl
      cases hl
    · have hsplit : ∃ y, t = y ++ x.reverse := by
        rcases hx with rfl | hx
        · exact ⟨t, by simp⟩
        · exact ih hx
      obtain ⟨y, rfl⟩ := hsplit
      rcases nextOutside_outside (hn.symm.trans h) with rfl | rfl
      · exact ⟨_, (List.append_nil _).symm⟩
      · exact ⟨y, by simp⟩

theorem endsInComment_of_line (h : after d .start t = .line) : EndsInComment d t := by
  -- The last character goes on with a comment, or it opens one.
  induction t using List.reverseRecOn with
  | nil => cases h
  | append_singleton t c ih =>
    rw [after_append, after_cons, after_nil] at h
    rcases next_cases d (after d .start t) c with ho | ⟨q, hq⟩ | hs | ⟨hm, hc, -⟩ | ⟨b, hb, hn⟩
    · rw [h] at ho
      exact ho.elim
    · rw [h] at hq
      cases hq
    · rw [h] at hs
      cases hs
    · obtain ⟨x, y, rfl, hopens, hy⟩ := ih hm
      refine ⟨x, y ++ [c], by simp, hopens.append [c], by simpa [hy] using Ne.symm hc⟩
    · have hsplit : ∃ y, t = y ++ b.reverse := by
        rcases hb with rfl | hb
        · exact ⟨t, by simp⟩
        · exact behind_of_after hb
      obtain ⟨x, rfl⟩ := hsplit
      obtain ⟨hline, ⟨rfl, rfl⟩ | htwo | ⟨rfl, hone⟩⟩ := nextOutside_line (hn.symm.trans h)
      · exact ⟨x ++ b.reverse, ['#'], rfl, .sharp rfl [], by decide⟩
      · obtain ⟨b', rfl⟩ := two_dashes htwo
        exact ⟨x ++ b'.reverse, ['-', '-', c], by simp, .dashes [c], by simpa using Ne.symm hline⟩
      · obtain ⟨b', rfl⟩ := List.head?_eq_some_iff.1 hone
        exact ⟨x ++ b'.reverse, ['-', '-'], by simp, .dashes [], by decide⟩

/-- Only a comment that goes to the end of the line takes in a blank behind the text. -/
theorem Hangs.endsInComment (h : Hangs d t) : EndsInComment d t := by
  rw [Hangs] at h
  rcases next_cases d (after d .start t) ' ' with ho | ⟨q, hq⟩ | hs | ⟨hm, -, -⟩ | ⟨b, hb, hn⟩
  · rw [h] at ho
    exact ho.elim
  · rw [h] at hq
    cases hq
  · rw [h] at hs
    cases hs
  · exact endsInComment_of_line hm
  · obtain ⟨-, ⟨-, hc⟩ | htwo | ⟨hc, -⟩⟩ := nextOutside_line (hn.symm.trans h)
    · cases hc
    · obtain ⟨b', rfl⟩ := two_dashes htwo
      obtain ⟨x, rfl⟩ := behind_of_after (hb.resolve_left (by simp))
      exact ⟨x ++ b'.reverse, ['-', '-'], by simp, .dashes [], by decide⟩
    · cases hc

end

/-! ### Accepted fragments -/

section

variable {d : Dialect}

/-- One of the tokens of a text is a placeholder. -/
def carriesMark (d : Dialect) (text : String) : Bool :=
  match tokens? d text with
  | some ts => ts.any fun t => match t with | .placeholder _ => true | _ => false
  | none => false

theorem ready_expression {sql : String} (h : checkExpression d sql = .ok ())
    (hd : doubtful d .start sql.toList = false) : Ready d (after d .start sql.toList) [] ∧
      (carriesMark d sql = false → marks d .start sql.toList = []) := by
  rw [checkExpression] at h
  cases ht : tokens? d sql with
  | none =>
    rw [ht] at h
    cases h
  | some ts =>
    obtain ⟨all, hall, hts⟩ := Option.map_eq_some_iff.1 ht
    obtain ⟨hready, hmarks⟩ := ready_scan hall (.outside (.nil d _)) hd
    refine ⟨hready, fun hc => hmarks fun p hp => ?_⟩
    have hmem : Token.placeholder p ∈ ts := by
      rw [← hts]
      exact List.mem_filter.2 ⟨hp, rfl⟩
    rw [carriesMark, ht] at hc
    have hany := List.any_eq_false.1 hc _ hmem
    exact hany rfl

theorem expression_of_checkJoin {on : String} (h : checkJoin d on = .ok ()) :
    checkExpression d on = .ok () := by
  rw [checkJoin] at h
  split at h
  · cases h
  · split at h
    · next hok => exact hok
    · cases h

theorem expression_of_checkRaw {raw : String} (h : checkRaw d raw = .ok ()) :
    checkExpression d raw = .ok () ∧
      ∀ w ∈ forbiddenWords, Text.includes (Text.uppercase raw) w = false := by
  rw [checkRaw] at h
  split at h
  · cases h
  · next hnone =>
    refine ⟨?_, fun w hw => by simpa using List.find?_eq_none.1 hnone w hw⟩
    split at h
    · cases h
    · split at h
      · next hok => exact hok
      · cases h

/-! ### Trimmed texts -/

variable {s t : List Char}

/-- Blanks in front of a text change nothing, where they are blanks for the server. -/
theorem after_blanks (h : ∀ c ∈ s, Text.isBlank c = true) (hd : doubtful d .start s = false) :
    after d .start s = .start ∧ marks d .start s = [] := by
  induction s with
  | nil => exact ⟨rfl, rfl⟩
  | cons c s ih =>
    rw [doubtful_cons, Bool.or_eq_false_iff] at hd
    have hseparates : separates c = true := by
      have hblank := h c List.mem_cons_self
      have hsmall := hd.1
      simp only [Mode.start, doubt, doubtOutside, hblank, Bool.and_true, Bool.or_eq_false_iff,
        decide_eq_false_iff_not, not_le] at hsmall
      exact of_ascii (P := fun c => Text.isBlank c = true → separates c = true)
        (by decide +kernel) hsmall.1.2 hblank
    rw [next_start hseparates] at hd
    rw [after_cons, marks_cons, next_start hseparates, mark_separates hseparates, List.nil_append]
    exact ih (fun x hx => h x (List.mem_cons_of_mem c hx)) hd.2

/-- Where the server is ready behind a text, what is left of the text without its outer blanks opens
nothing that it does not close. -/
theorem ready_trim (hr : Ready d (after d .start s) []) (hd : doubtful d .start s = false) :
    ¬(after d .start (Text.trim s)).IsOpen := by
  obtain ⟨lead, trail, hs, hlead, htrail⟩ := Text.trim_split s
  rw [hs, doubtful_append, Bool.or_eq_false_iff] at hd
  rw [hs, after_append, (after_blanks hlead hd.1).1, after_append] at hr
  intro hopen
  have hsound : (after d .start (Text.trim s)).Sound d := Mode.Sound.after trivial
  exact hr.not_isOpen (hopen.after hsound fun c hc => neutral_of_isBlank (htrail c hc))

/-! ### Two dashes -/

/-- A raw value without two dashes in upper case has none at all. -/
theorem no_dashes {raw : String} (h : Text.includes (Text.uppercase raw) "--" = false)
    (x y : List Char) : raw.toList ≠ x ++ ('-' :: '-' :: y) := by
  intro he
  have hdash : Text.upperChar '-' = ['-'] := rfl
  have hupper : (Text.uppercase raw).toList =
      x.flatMap Text.upperChar ++ (['-', '-'] ++ y.flatMap Text.upperChar) := by
    rw [Text.uppercase, String.toList_ofList, he]
    simp [hdash]
  have hsome := Text.cutAtWord_isSome ['-', '-'] (x.flatMap Text.upperChar)
    (y.flatMap Text.upperChar)
  rw [← hupper] at hsome
  rw [Text.includes] at h
  have hword : "--".toList = ['-', '-'] := rfl
  rw [hword, hsome] at h
  cases h

/-! ### Fragments -/

theorem checkJoin_closed {on : String} (hok : checkJoin d on = .ok ())
    (hd : doubtful d .start on.toList = false) : Closed d on.toList ∨ Hangs d on.toList :=
  closed_or_hangs (ready_expression (expression_of_checkJoin hok) hd).1.not_isOpen

theorem checkRaw_closed {raw : String} (hok : checkRaw d raw = .ok ())
    (hd : doubtful d .start raw.toList = false) :
    Closed d (Text.trim raw.toList) ∨ Hangs d (Text.trim raw.toList) :=
  closed_or_hangs (ready_trim (ready_expression (expression_of_checkRaw hok).1 hd).1 hd)

/-- An accepted fragment without a place of doubt is closed, whatever is in it, or ends in a comment
that goes to the end of the line. A raw value has no such comment but that of a MySQL number sign.
-/
theorem fragments_closed (d : Dialect) (text : String)
    (hd : doubtful d .start text.toList = false) :
    (checkJoin d text = .ok () → Closed d text.toList ∨
      Hangs d text.toList ∧ EndsInComment d text.toList) ∧
    (checkRaw d text = .ok () → Closed d (Text.trim text.toList) ∨
      Hangs d (Text.trim text.toList) ∧ d = .mysql ∧
        ∃ x y, Text.trim text.toList = x ++ '#' :: y ∧ '\n' ∉ y) := by
  constructor
  · intro hok
    exact (checkJoin_closed hok hd).imp_right fun hh => ⟨hh, hh.endsInComment⟩
  · intro hok
    refine (checkRaw_closed hok hd).imp_right fun hh => ⟨hh, ?_⟩
    obtain ⟨x, y, hsplit, hopens, hline⟩ := hh.endsInComment
    cases hopens with
    | sharp hd r => exact ⟨hd, x, r, hsplit, fun hmem => hline (List.mem_cons_of_mem _ hmem)⟩
    | dashes r =>
      obtain ⟨lead, trail, hs, -, -⟩ := Text.trim_split text.toList
      have hwords := (expression_of_checkRaw hok).2
      refine absurd ?_ (no_dashes (hwords "--" (by decide)) (lead ++ x) (r ++ trail))
      rw [hs, hsplit]
      simp

end

theorem fragments_closed_escaped_mark :
    doubtful .mysql .start "COALESCE(a.name, 'it\\'s') /* b */".toList = false ∧
    checkJoin .mysql "COALESCE(a.name, 'it\\'s') /* b */" = .ok () ∧
    checkRaw .mysql "COALESCE(a.name, 'it\\'s') /* b */" = .ok () ∧
    (Closed .mysql "COALESCE(a.name, 'it\\'s') /* b */".toList ∨
      Hangs .mysql "COALESCE(a.name, 'it\\'s') /* b */".toList ∧
        EndsInComment .mysql "COALESCE(a.name, 'it\\'s') /* b */".toList) ∧
    (Closed .mysql (Text.trim "COALESCE(a.name, 'it\\'s') /* b */".toList) ∨
      Hangs .mysql (Text.trim "COALESCE(a.name, 'it\\'s') /* b */".toList) ∧
        Dialect.mysql = .mysql ∧ ∃ x y,
          Text.trim "COALESCE(a.name, 'it\\'s') /* b */".toList = x ++ '#' :: y ∧ '\n' ∉ y) := by
  have hd : doubtful .mysql .start "COALESCE(a.name, 'it\\'s') /* b */".toList = false := by
    decide +kernel
  have hjoin : checkJoin .mysql "COALESCE(a.name, 'it\\'s') /* b */" = .ok () := by
    decide +kernel
  have hraw : checkRaw .mysql "COALESCE(a.name, 'it\\'s') /* b */" = .ok () := by
    decide +kernel
  obtain ⟨hon, hvalue⟩ := fragments_closed .mysql _ hd
  exact ⟨hd, hjoin, hraw, hon hjoin, hvalue hraw⟩

/-- Fragments with a comment to the end of the line are accepted, the forbidden two dashes of raw
values aside, and the condition behind them is lost in the comment with its parameter mark. -/
theorem accepted_comment_swallows :
    checkRaw .mysql "1 # x" = .ok () ∧ Hangs .mysql (Text.trim "1 # x".toList) ∧
    after .mysql .start "1 # x WHERE `id` = ?".toList = .line ∧
    marks .mysql .start "1 # x WHERE `id` = ?".toList = [] ∧
    checkJoin .postgres "a.id = b.id -- x" = .ok () ∧ Hangs .postgres "a.id = b.id -- x".toList ∧
    after .postgres .start "a.id = b.id -- x WHERE \"id\" = $1".toList = .line ∧
    marks .postgres .start "a.id = b.id -- x WHERE \"id\" = $1".toList = [] := by
  refine ⟨?_, ?_, ?_, ?_, ?_, ?_, ?_, ?_⟩
  all_goals decide +kernel

end QueryDesk.Sql.Server
