import Mathlib.Data.List.Nodup
import QueryDesk.Proofs.Filter.RoundTrip

/-!
# The order of the forms

The first form that fits a text decides, so the order in which the forms are tried could matter for
every pair of them. It matters for three: a sign of one character that begins a longer sign has to come
behind it. Any other two forms differ in a letter at the same place of the same word, and a character
is a case of one letter at most, so they never fit the same text.

Main statement: `alike_iff_ordered`.
-/

namespace QueryDesk.Notation

/-! ### Words apart -/

theorem sameLetter_unique {a b c : Char} (ha : a.toNat < 128) (hb : b.toNat < 128)
    (h : sameLetter a c = true) (h' : sameLetter b c = true) : a = b := by
  have hascii : ∀ n, 128 ≤ n → n = 0x17F ∨ n = 0x212A → (Char.ofNat n).toLower = Char.ofNat n ∧
      (Char.ofNat n).toNat = n := by
    rintro n - (rfl | rfl) <;> exact ⟨rfl, rfl⟩
  have hfold : ∀ key : Char, key.toNat < 128 → sameLetter key c = true →
      (c.toNat = 0x17F ∧ key = 's') ∨ (c.toNat = 0x212A ∧ key = 'k') ∨
        (c.toNat ≠ 0x17F ∧ c.toNat ≠ 0x212A ∧ c.toLower = key) := by
    intro key hkey hsame
    simp only [sameLetter, Bool.or_eq_true, Bool.and_eq_true, beq_iff_eq] at hsame
    rcases hsame with (hlow | ⟨rfl, hc⟩) | ⟨rfl, hc⟩
    · by_cases hspecial : c.toNat = 0x17F ∨ c.toNat = 0x212A
      · obtain ⟨hself, hnat⟩ := hascii c.toNat (by omega) hspecial
        rw [Char.ofNat_toNat, hlow] at hself
        rw [hself] at hkey
        omega
      · exact .inr (.inr ⟨by omega, by omega, hlow⟩)
    · exact .inl ⟨hc, rfl⟩
    · exact .inr (.inl ⟨hc, rfl⟩)
  rcases hfold a ha h with ⟨hc, rfl⟩ | ⟨hc, rfl⟩ | ⟨hs, hk, rfl⟩ <;>
    rcases hfold b hb h' with ⟨hd, rfl⟩ | ⟨hd, rfl⟩ | ⟨hs', hk', rfl⟩ <;>
    first | rfl | omega

/-- Two words have different letters at one place. -/
def clash (v w : List Char) : Bool := (v.zip w).any fun p => p.1 != p.2

theorem afterWord?_of_clash {v w : List Char} (hv : ∀ c ∈ v, c.toNat < 128)
    (hw : ∀ c ∈ w, c.toNat < 128) (h : clash v w = true) (cs : List Char) :
    afterWord? v cs = none ∨ afterWord? w cs = none := by
  induction v generalizing w cs with
  | nil => simp [clash] at h
  | cons a v ih =>
    rcases w with - | ⟨b, w⟩
    · simp [clash] at h
    rcases cs with - | ⟨c, cs⟩
    · exact .inl rfl
    by_cases ha : sameLetter a c = true
    · by_cases hb : sameLetter b c = true
      · have hab : a = b := sameLetter_unique (hv a (by simp)) (hw b (by simp)) ha hb
        have hrest : clash v w = true := by simpa [clash, hab] using h
        simpa [afterWord?, ha, hb] using
          ih (fun d hd => hv d (by simp [hd])) (fun d hd => hw d (by simp [hd])) hrest cs
      · exact .inr (by simp [afterWord?, hb])
    · exact .inl (by simp [afterWord?, ha])

/-- Two forms are written with different letters at one place, behind the same words. -/
def apart : List String → List String → Bool
  | v :: vs, w :: ws => clash v.toList w.toList || (v == w && apart vs ws)
  | _, _ => false

theorem afterWords?_of_first {w : String} {cs : List Char} (h : afterWord? w.toList cs = none)
    (ws : List String) : afterWords? (w :: ws) cs = none := by
  cases ws with
  | nil => exact h
  | cons v ws => simp [afterWords?, h]

theorem afterWords?_of_apart {vs ws : List String} (hv : ∀ v ∈ vs, ∀ c ∈ v.toList, c.toNat < 128)
    (hw : ∀ w ∈ ws, ∀ c ∈ w.toList, c.toNat < 128) (h : apart vs ws = true) (cs : List Char) :
    afterWords? vs cs = none ∨ afterWords? ws cs = none := by
  induction vs generalizing ws cs with
  | nil => simp [apart] at h
  | cons v vs ih =>
    rcases ws with - | ⟨w, ws⟩
    · simp [apart] at h
    rw [apart, Bool.or_eq_true, Bool.and_eq_true, beq_iff_eq] at h
    rcases h with hclash | ⟨rfl, hrest⟩
    · exact (afterWord?_of_clash (hv v (by simp)) (hw w (by simp)) hclash cs).imp
        (afterWords?_of_first · vs) (afterWords?_of_first · ws)
    · -- Words that differ later are both followed by more words, and the blanks are the same.
      rcases vs with - | ⟨v₁, vs⟩
      · simp [apart] at hrest
      rcases ws with - | ⟨w₁, ws⟩
      · simp [apart] at hrest
      rw [afterWords?, afterWords?]
      · cases (afterWord? v.toList cs).bind afterBlanks? with
        | none => exact .inl rfl
        | some rest =>
          exact ih (fun u hu => hv u (by simp [hu])) (fun u hu => hw u (by simp [hu])) hrest rest
      · simp
      · simp

/-! ### Forms apart -/

def Form.Fits (f : Form) (cs : List Char) : Prop := (f.match? cs).isSome = true

theorem Form.Fits.words {f : Form} {cs : List Char} (h : f.Fits cs) :
    (afterWords? f.words cs).isSome = true := by
  cases hw : afterWords? f.words cs with
  | none => simp [Form.Fits, Form.match?, hw] at h
  | some rest => rfl

/-- The signs of which one begins with the other, the longer one in front. -/
def nested : List (Operator × Operator) := [(.ge, .gt), (.le, .lt), (.differs, .lt)]

theorem nodup_operators : (forms.map (·.operator)).Nodup := by decide

theorem eq_of_operator {f g : Form} (hf : f ∈ forms) (hg : g ∈ forms)
    (h : f.operator = g.operator) : f = g :=
  List.inj_on_of_nodup_map nodup_operators hf hg h

theorem apart_or_nested : ∀ f ∈ forms, ∀ g ∈ forms, f.operator = g.operator ∨
    apart f.words g.words = true ∨ (f.operator, g.operator) ∈ nested ∨
      (g.operator, f.operator) ∈ nested := by
  have h : forms.all (fun f => forms.all fun g => decide (f.operator = g.operator ∨
      apart f.words g.words = true ∨ (f.operator, g.operator) ∈ nested ∨
        (g.operator, f.operator) ∈ nested)) = true := by decide +kernel
  simpa only [List.all_eq_true, decide_eq_true_eq] using h

theorem ascii_words : ∀ f ∈ forms, ∀ w ∈ f.words, ∀ c ∈ w.toList, c.toNat < 128 := by
  have h : forms.all (fun f => f.words.all fun w => w.toList.all fun c => c.toNat < 128) = true := by
    decide +kernel
  simpa only [List.all_eq_true, decide_eq_true_eq] using h

/-- Two forms fit the same text only if one is a sign that begins with the other. -/
theorem nested_of_fits {f g : Form} {cs : List Char} (hf : f ∈ forms) (hg : g ∈ forms)
    (hfits : f.Fits cs) (hfits' : g.Fits cs) :
    f = g ∨ (f.operator, g.operator) ∈ nested ∨ (g.operator, f.operator) ∈ nested := by
  rcases apart_or_nested f hf g hg with hsame | hapart | hnested
  · exact .inl (eq_of_operator hf hg hsame)
  · have hwords := hfits.words
    have hwords' := hfits'.words
    rcases afterWords?_of_apart (ascii_words f hf) (ascii_words g hg) hapart cs with hnone | hnone
    · simp [hnone] at hwords
    · simp [hnone] at hwords'
  · exact .inr hnested

/-! ### The form that decides -/

/-- `a` stands in front of `b`. -/
def Precedes (fs : List Form) (a b : Operator) : Prop := [a, b].Sublist (fs.map (·.operator))

/-- The form decides that fits and stands in front of all others that fit. -/
theorem readBy_of_precedes {fs : List Form} {f : Form} {cs body : List Char}
    (nodup : (fs.map (·.operator)).Nodup) (hf : f ∈ fs) (hfits : f.match? cs = some body)
    (hfirst : ∀ g ∈ fs, g.Fits cs → g.operator ≠ f.operator →
      Precedes fs f.operator g.operator) :
    readBy fs cs = (f.tail.operands body).map fun vs => some ⟨f.operator, vs⟩ := by
  -- The forms in front of the one that decides do not fit: one that fits would come behind it.
  induction fs with
  | nil => cases hf
  | cons e fs ih =>
    rcases List.mem_cons.1 hf with rfl | hmem
    · exact readBy_cons_of_match hfits fs
    rw [List.map_cons, List.nodup_cons] at nodup
    have hne : e.operator ≠ f.operator := fun h => nodup.1 (h ▸ List.mem_map_of_mem hmem)
    have hrest : ∀ o, Precedes (e :: fs) f.operator o → Precedes fs f.operator o := fun o ho => by
      rw [Precedes, List.map_cons] at ho
      rcases List.sublist_cons_iff.1 ho with ho | ⟨r, hr, -⟩
      · exact ho
      · rw [List.cons.injEq] at hr
        exact absurd hr.1.symm hne
    have hnone : e.match? cs = none := by
      rw [← Option.not_isSome_iff_eq_none]
      intro he
      have hmem' := (hrest _ (hfirst e (by simp) he hne)).subset
        (show e.operator ∈ [f.operator, e.operator] by simp)
      exact nodup.1 hmem'
    rw [readBy, hnone]
    exact ih nodup.2 hmem fun g hg hfits' hne' => hrest _ (hfirst g (by simp [hg]) hfits' hne')

/-- Of two operators of a list one stands in front of the other. -/
theorem precedes_or {fs : List Form} {a b : Operator} (ha : a ∈ fs.map (·.operator))
    (hb : b ∈ fs.map (·.operator)) (hne : a ≠ b) : Precedes fs a b ∨ Precedes fs b a := by
  obtain ⟨before, behind, hsplit⟩ := List.append_of_mem ha
  rw [hsplit, List.mem_append, List.mem_cons] at hb
  rw [Precedes, Precedes, hsplit]
  rcases hb with hb | rfl | hb
  · exact .inr ((List.singleton_sublist.2 hb).append (List.singleton_sublist.2 (by simp)))
  · exact absurd rfl hne
  · exact .inl ((List.cons_sublist_cons.2 (List.singleton_sublist.2 hb)).trans
      (List.sublist_append_right _ _))

/-! ### Orders that read alike -/

/-- Longer signs stand in front of what they begin with. -/
def Ordered (fs : List Form) : Prop := ∀ p ∈ nested, Precedes fs p.1 p.2

instance (fs : List Form) : Decidable (Ordered fs) :=
  inferInstanceAs (Decidable (∀ p ∈ nested, [p.1, p.2].Sublist (fs.map (·.operator))))

theorem ordered_forms : Ordered forms := by decide

theorem nested_irrefl : ∀ p ∈ nested, ∀ q ∈ nested, p.1 ≠ q.2 := by decide

/-- If a form fits, one fits whose sign is not the beginning of another that fits. -/
theorem exists_longest {cs : List Char} (h : ∃ f ∈ forms, f.Fits cs) :
    ∃ f ∈ forms, (∃ body, f.match? cs = some body) ∧
      ∀ g ∈ forms, g.Fits cs → (g.operator, f.operator) ∉ nested := by
  obtain ⟨f, hf, hfits⟩ := h
  by_cases hlonger : ∃ g ∈ forms, g.Fits cs ∧ (g.operator, f.operator) ∈ nested
  · obtain ⟨g, hg, hfits', hpair⟩ := hlonger
    exact ⟨g, hg, Option.isSome_iff_exists.1 hfits', fun e _ _ hpair' =>
      nested_irrefl _ hpair _ hpair' rfl⟩
  · exact ⟨f, hf, Option.isSome_iff_exists.1 hfits, fun g hg hfits' hpair =>
      hlonger ⟨g, hg, hfits', hpair⟩⟩

/-! ### A longer sign with a number behind it -/

theorem trim_longer : ∀ p ∈ nested, Text.trim (p.1.symbol.toList ++ "1".toList) =
    p.1.symbol.toList ++ ['1'] := by decide +kernel

theorem read_longer : ∀ p ∈ nested, readBy forms (p.1.symbol.toList ++ ['1']) =
    .ok (some ⟨p.1, [.literal (.int 1)]⟩) := by
  simp only [nested, List.forall_mem_cons]
  exact ⟨rfl, rfl, rfl, by simp⟩

/-- Both signs fit, and the shorter one takes the rest of the longer one for a text. -/
theorem shorter_fits : ∀ p ∈ nested, (∃ g ∈ forms, g.operator = p.1) ∧
    ∃ f ∈ forms, f.operator = p.2 ∧ ∃ body, f.match? (p.1.symbol.toList ++ ['1']) = some body ∧
      ∃ vs, f.tail.operands body = .ok vs := by
  simp only [nested, List.forall_mem_cons]
  refine ⟨⟨⟨⟨.ge, [">="], .scalar⟩, by simp [forms], rfl⟩, ⟨.gt, [">"], .scalar⟩, by simp [forms], rfl,
      _, rfl, _, rfl⟩,
    ⟨⟨⟨.le, ["<="], .scalar⟩, by simp [forms], rfl⟩, ⟨.lt, ["<"], .scalar⟩, by simp [forms], rfl,
      _, rfl, _, rfl⟩,
    ⟨⟨⟨.differs, ["<>"], .scalar⟩, by simp [forms], rfl⟩, ⟨.lt, ["<"], .scalar⟩, by simp [forms], rfl,
      _, rfl, _, rfl⟩, by simp⟩

theorem fits_longer : ∀ p ∈ nested, ∀ f ∈ forms, f.Fits (p.1.symbol.toList ++ ['1']) →
    f.operator = p.1 ∨ f.operator = p.2 := by
  have h : nested.all (fun p => forms.all fun f =>
      !(f.match? (p.1.symbol.toList ++ ['1'])).isSome ||
        (f.operator = p.1 || f.operator = p.2)) = true := by decide +kernel
  intro p hp f hf hfits
  have hone := List.all_eq_true.1 (List.all_eq_true.1 h p hp) f hf
  rw [hfits] at hone
  simpa using hone

section Reordered

variable {fs : List Form} (reordered : fs.Perm forms)
include reordered

theorem nodup_of_perm : (fs.map (·.operator)).Nodup :=
  (reordered.map _).nodup_iff.2 nodup_operators

/-- In front of another form that fits the same text stands the one with the longer sign. -/
theorem readBy_of_ordered (ordered : Ordered fs) {f : Form} {cs body : List Char} (hf : f ∈ forms)
    (hfits : f.match? cs = some body)
    (longest : ∀ g ∈ forms, g.Fits cs → (g.operator, f.operator) ∉ nested) :
    readBy fs cs = (f.tail.operands body).map fun vs => some ⟨f.operator, vs⟩ := by
  have hfits' : f.Fits cs := Option.isSome_iff_exists.2 ⟨body, hfits⟩
  refine readBy_of_precedes (nodup_of_perm reordered) (reordered.mem_iff.2 hf) hfits
    fun g hg hg' hne => ?_
  have hmem := reordered.mem_iff.1 hg
  rcases nested_of_fits hf hmem hfits' hg' with rfl | hpair | hpair
  · exact absurd rfl hne
  · exact ordered _ hpair
  · exact absurd hpair (longest g hmem hg')

theorem readBy_eq_of_ordered (ordered : Ordered fs) (cs : List Char) :
    readBy fs cs = readBy forms cs := by
  by_cases hsome : ∃ f ∈ forms, f.Fits cs
  · obtain ⟨f, hf, ⟨body, hbody⟩, hlongest⟩ := exists_longest hsome
    rw [readBy_of_ordered reordered ordered hf hbody hlongest,
      readBy_of_ordered (.refl _) ordered_forms hf hbody hlongest]
  · have hnone : ∀ f ∈ forms, f.match? cs = none := fun f hf =>
      Option.not_isSome_iff_eq_none.1 fun hfits => hsome ⟨f, hf, hfits⟩
    rw [readBy_eq_none hnone, readBy_eq_none fun f hf => hnone f (reordered.mem_iff.1 hf)]

/-- A list that reads a longer sign like the forms do has it in front of the shorter one. -/
theorem precedes_of_alike {p : Operator × Operator} (hp : p ∈ nested)
    (alike : readBy fs (p.1.symbol.toList ++ ['1']) = readBy forms (p.1.symbol.toList ++ ['1'])) :
    Precedes fs p.1 p.2 := by
  obtain ⟨⟨g, hg, hgp⟩, f, hf, hfp, body, hbody, vs, hvs⟩ := shorter_fits p hp
  have hf' : f ∈ fs := reordered.mem_iff.2 hf
  have hg' : g ∈ fs := reordered.mem_iff.2 hg
  have hne : p.1 ≠ p.2 := nested_irrefl p hp p hp
  have hboth := precedes_or (List.mem_map.2 ⟨g, hg', hgp⟩) (List.mem_map.2 ⟨f, hf', hfp⟩) hne
  refine hboth.resolve_right fun hbehind => ?_
  have hread := readBy_of_precedes (nodup_of_perm reordered) hf' hbody fun e he hfits hne' => by
    rcases fits_longer p hp e (reordered.mem_iff.1 he) hfits with h | h
    · rw [h, hfp]
      exact hbehind
    · exact absurd (h.trans hfp.symm) hne'
  rw [hread, hvs, read_longer p hp] at alike
  simp only [Except.map, Except.ok.injEq, Option.some.injEq, Reading.mk.injEq] at alike
  exact hne (by rw [← alike.1, hfp])

end Reordered

/-- The forms may be tried in any order that has the longer signs in front, and in no other: apart from
such a sign and the one it begins with no two forms fit the same text. -/
theorem alike_iff_ordered :
    (∀ fs : List Form, fs.Perm forms →
      ((∀ text : String, readBy fs (Text.trim text.toList) = read? text) ↔ Ordered fs)) ∧
    ∀ text : String, ∀ f ∈ forms, ∀ g ∈ forms,
      f.Fits (Text.trim text.toList) → g.Fits (Text.trim text.toList) →
        f = g ∨ (f.operator, g.operator) ∈ nested ∨ (g.operator, f.operator) ∈ nested := by
  refine ⟨fun fs reordered => ⟨fun alike p hp => ?_, fun ordered text => ?_⟩,
    fun text f hf g hg => nested_of_fits hf hg⟩
  · refine precedes_of_alike reordered hp ?_
    have hread := alike (p.1.symbol ++ "1")
    rwa [read?, String.toList_append, trim_longer p hp] at hread
  · exact readBy_eq_of_ordered reordered ordered _

/-- The signs first and the words from the last form to the first. -/
theorem alike_iff_ordered_signs_first :
    (forms.drop 8 ++ (forms.take 8).reverse).Perm forms ∧
    (∀ text : String,
      readBy (forms.drop 8 ++ (forms.take 8).reverse) (Text.trim text.toList) = read? text) ∧
    ∃ f ∈ forms, ∃ g ∈ forms, f.operator = .ge ∧ g.operator = .gt ∧
      f.Fits (Text.trim " >= 1".toList) ∧ g.Fits (Text.trim " >= 1".toList) ∧
        (f = g ∨ (f.operator, g.operator) ∈ nested ∨ (g.operator, f.operator) ∈ nested) := by
  have hperm : (forms.drop 8 ++ (forms.take 8).reverse).Perm forms :=
    ((List.reverse_perm _).append_left _).trans
      (List.perm_append_comm.trans (.of_eq (List.take_append_drop 8 forms)))
  refine ⟨hperm, (alike_iff_ordered.1 _ hperm).2 (by decide), ⟨.ge, [">="], .scalar⟩, by simp [forms],
    ⟨.gt, [">"], .scalar⟩, by simp [forms], rfl, rfl, rfl, rfl, ?_⟩
  exact alike_iff_ordered.2 " >= 1" _ (by simp [forms]) _ (by simp [forms]) rfl rfl

end QueryDesk.Notation
