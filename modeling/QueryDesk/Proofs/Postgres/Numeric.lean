import QueryDesk.Proofs.Postgres.Magnitude

/-!
# Exact numbers are shown exactly

The words of a value are found at their places, and what is missing of them is noticed before it is
looked for. Main statements: the bytes of a finite value are decoded to the decimal number it is, cut
off behind its decimal places, and nothing but an incomplete header or a missing group is a fault; and
of the other sign words only that of NaN is told apart, so that an infinity is shown as a finite number.
-/

namespace QueryDesk.Postgres

/-! ### Words at their places -/

/-- The word whose bytes stand at a place and at the next one, if there are both. -/
def wordAt? (bytes : List UInt8) (place : Nat) : Option Nat := do
  let high ← bytes[place]?
  let low ← bytes[place + 1]?
  some (Number.bigEndian [high, low])

theorem getElem?_words (bytes : List UInt8) (i : Nat) :
    (Number.words bytes)[i]? = wordAt? bytes (2 * i) := by
  induction bytes using Number.words.induct generalizing i with
  | case1 a b rest ih =>
    cases i with
    | zero => rfl
    | succ i =>
      rw [Number.words, List.getElem?_cons_succ, ih, Nat.mul_succ]
      rfl
  | case2 bytes h =>
    rcases bytes with _ | ⟨a, _ | ⟨b, r⟩⟩
    · simp [Number.words, wordAt?]
    · cases i <;> simp [Number.words, wordAt?]
    · exact absurd rfl (h a b r)

theorem lt_of_wordAt? {bytes : List UInt8} {place w : Nat} (h : wordAt? bytes place = some w) :
    place + 1 < bytes.length := by
  obtain ⟨_, -, h⟩ := Option.bind_eq_some_iff.1 h
  obtain ⟨_, hlow, -⟩ := Option.bind_eq_some_iff.1 h
  exact (List.getElem?_eq_some_iff.1 hlow).1

theorem exists_wordAt? (bytes : List UInt8) (place : Nat) (h : place + 1 < bytes.length) :
    ∃ w, wordAt? bytes place = some w := by
  simp [wordAt?, List.getElem?_eq_getElem h, List.getElem?_eq_getElem (Nat.lt_of_succ_lt h)]

theorem exists_header {bytes : List UInt8} (h : 8 ≤ bytes.length) :
    ∃ count weight sign scale, wordAt? bytes 0 = some count ∧ wordAt? bytes 2 = some weight ∧
      wordAt? bytes 4 = some sign ∧ wordAt? bytes 6 = some scale := by
  obtain ⟨count, hcount⟩ := exists_wordAt? bytes 0 (by omega)
  obtain ⟨weight, hweight⟩ := exists_wordAt? bytes 2 (by omega)
  obtain ⟨sign, hsign⟩ := exists_wordAt? bytes 4 (by omega)
  obtain ⟨scale, hscale⟩ := exists_wordAt? bytes 6 (by omega)
  exact ⟨count, weight, sign, scale, hcount, hweight, hsign, hscale⟩

/-- A value decoded from words that are looked for at their places: there is no answer if a place lies
outside the bytes. -/
def decodeByPlaces? (bytes : List UInt8) : Option (Except NumericFault String) :=
  if bytes.length < 8 then some (.error .shortHeader)
  else do
    let count ← wordAt? bytes 0
    let weight ← wordAt? bytes 2
    let sign ← wordAt? bytes 4
    let scale ← wordAt? bytes 6
    if sign = Numeric.nanWord then some (.ok "NaN")
    else if bytes.length < 8 + 2 * count then some (.error .missingGroups)
    else
      let groups ← (List.range count).mapM fun i => wordAt? bytes (8 + 2 * i)
      some (.ok (Numeric.text
        ⟨sign = Numeric.minusWord, Numeric.signedWord weight, scale, groups⟩))

theorem mapM_range {α : Type} {f : Nat → Option α} (as : List α) {n : Nat} (hn : n ≤ as.length)
    (h : ∀ i < n, f i = as[i]?) : (List.range n).mapM f = some (as.take n) := by
  induction n with
  | zero => rfl
  | succ n ih =>
    rw [List.range_succ, List.mapM_append, ih (by omega) fun i hi => h i (by omega),
      List.take_add_one, List.mapM_cons, h n (by omega), List.getElem?_eq_getElem (by omega)]
    rfl

theorem decodeByPlaces?_eq (bytes : List UInt8) :
    decodeByPlaces? bytes = some (decodeNumeric bytes) := by
  have hlength := Number.words_length bytes
  have hword := getElem?_words bytes
  rw [decodeByPlaces?, decodeNumeric]
  generalize Number.words bytes = ws at hlength hword
  split
  next hshort =>
    match ws, hlength with
    | [], _ | [_], _ | [_, _], _ | [_, _, _], _ => rfl
    | _ :: _ :: _ :: _ :: ws, hlength => simp only [List.length_cons] at hlength; omega
  next hlong =>
    match ws, hlength, hword with
    | [], hlength, _ | [_], hlength, _ | [_, _], hlength, _ | [_, _, _], hlength, _ =>
      simp only [List.length_cons, List.length_nil] at hlength; omega
    | count :: weight :: sign :: scale :: groups, hlength, hword =>
      have hcount : wordAt? bytes 0 = some count := (hword 0).symm
      have hweight : wordAt? bytes 2 = some weight := (hword 1).symm
      have hsign : wordAt? bytes 4 = some sign := (hword 2).symm
      have hscale : wordAt? bytes 6 = some scale := (hword 3).symm
      have hgroup : ∀ i, wordAt? bytes (8 + 2 * i) = groups[i]? := fun i => by
        rw [show 8 + 2 * i = 2 * (i + 4) by omega, ← hword]
        rfl
      have hmissing : bytes.length < 8 + 2 * count ↔ groups.length < count := by
        simp only [List.length_cons] at hlength
        omega
      simp only [hcount, hweight, hsign, hscale, hgroup, hmissing, Option.bind_eq_bind,
        Option.bind_some, Numeric.ofWords]
      split
      · rfl
      split
      · rfl
      · rw [mapM_range groups (by omega) fun i _ => rfl]
        rfl

namespace Numeric

/-! ### Bytes of a value -/

/-- The sign word of numbers from zero on. -/
def plusWord : Nat := 0

/-- The bytes begin with the header of a value and its groups. -/
structure Opens (n : Numeric) (bytes : List UInt8) : Prop where
  count : wordAt? bytes 0 = some n.groups.length
  weight : (wordAt? bytes 2).map signedWord = some n.weight
  sign : (wordAt? bytes 4).map (fun sign => decide (sign = minusWord)) = some n.negative
  scale : wordAt? bytes 6 = some n.scale
  groups : ∀ i g, n.groups[i]? = some g → wordAt? bytes (8 + 2 * i) = some g

/-- The header is incomplete, or a group that it announces is. -/
def Incomplete (bytes : List UInt8) : Prop :=
  bytes.length < 8 ∨ ∃ count, wordAt? bytes 0 = some count ∧ bytes.length < 8 + 2 * count

theorem Opens.length_le {n : Numeric} {bytes : List UInt8} (h : n.Opens bytes) :
    8 + 2 * n.groups.length ≤ bytes.length := by
  have hscale := lt_of_wordAt? h.scale
  rcases Nat.eq_zero_or_pos n.groups.length with hzero | hpos
  · omega
  · have hlast := h.groups (n.groups.length - 1) _ (List.getElem?_eq_getElem (by omega))
    have hlt := lt_of_wordAt? hlast
    omega

theorem exists_opens {bytes : List UInt8} (h : ¬Incomplete bytes) : ∃ n, Opens n bytes := by
  rw [Incomplete, not_or] at h
  obtain ⟨hlong, hall⟩ := h
  obtain ⟨count, weight, sign, scale, hcount, hweight, hsign, hscale⟩ :=
    exists_header (Nat.le_of_not_lt hlong)
  have henough : ¬bytes.length < 8 + 2 * count := fun hlt => hall ⟨count, hcount, hlt⟩
  refine ⟨⟨decide (sign = minusWord), signedWord weight, scale,
    (List.range count).map fun i => (wordAt? bytes (8 + 2 * i)).getD 0⟩, ?_, ?_, ?_, hscale, ?_⟩
  · rw [hcount, List.length_map, List.length_range]
  · rw [hweight]
    rfl
  · rw [hsign]
    rfl
  · intro i g hg
    obtain ⟨hi, rfl⟩ := List.getElem?_eq_some_iff.1 hg
    rw [List.length_map, List.length_range] at hi
    obtain ⟨g, hg⟩ := exists_wordAt? bytes (8 + 2 * i) (by omega)
    simp [hg]

end Numeric

open Numeric

section

variable {bytes : List UInt8}

theorem decodeNumeric_of_opens {n : Numeric} (h : n.Opens bytes)
    (hsign : wordAt? bytes 4 ≠ some nanWord) : decodeNumeric bytes = .ok n.text := by
  obtain ⟨weight, hweight, hweighed⟩ := Option.map_eq_some_iff.1 h.weight
  obtain ⟨sign, hword, hnegative⟩ := Option.map_eq_some_iff.1 h.sign
  have hlength := h.length_le
  have hgroups : (List.range n.groups.length).mapM (fun i => wordAt? bytes (8 + 2 * i)) =
      some n.groups := by
    rw [mapM_range n.groups le_rfl fun i hi => ?_, List.take_length]
    rw [List.getElem?_eq_getElem hi]
    exact h.groups i _ (List.getElem?_eq_getElem hi)
  have hplaces := decodeByPlaces?_eq bytes
  rw [hword] at hsign
  simp only [decodeByPlaces?, if_neg (show ¬bytes.length < 8 by omega), h.count, hweight, hword,
    h.scale, hgroups, if_neg (show ¬sign = nanWord from fun he => hsign (he ▸ rfl)),
    if_neg (show ¬bytes.length < 8 + 2 * n.groups.length by omega), hweighed, hnegative,
    Option.bind_eq_bind, Option.bind_some] at hplaces
  exact (Option.some.inj hplaces).symm

theorem decodeNumeric_of_nan (hlong : 8 ≤ bytes.length) (h : wordAt? bytes 4 = some nanWord) :
    decodeNumeric bytes = .ok "NaN" := by
  obtain ⟨count, weight, sign, scale, hcount, hweight, -, hscale⟩ := exists_header hlong
  have hplaces := decodeByPlaces?_eq bytes
  simp only [decodeByPlaces?, if_neg (show ¬bytes.length < 8 by omega), hcount, hweight, h, hscale,
    if_true, Option.bind_eq_bind, Option.bind_some] at hplaces
  exact (Option.some.inj hplaces).symm

theorem decodeNumeric_of_incomplete (h : Incomplete bytes)
    (hsign : wordAt? bytes 4 ≠ some nanWord) : decodeNumeric bytes =
      .error (if bytes.length < 8 then .shortHeader else .missingGroups) := by
  have hplaces := decodeByPlaces?_eq bytes
  by_cases hshort : bytes.length < 8
  · rw [decodeByPlaces?, if_pos hshort] at hplaces
    rw [if_pos hshort]
    exact (Option.some.inj hplaces).symm
  · obtain ⟨_, weight, sign, scale, -, hweight, hword, hscale⟩ :=
      exists_header (Nat.le_of_not_lt hshort)
    obtain ⟨count, hcount, hlt⟩ := h.resolve_left hshort
    rw [hword] at hsign
    simp only [decodeByPlaces?, if_neg hshort, hcount, hweight, hword, hscale,
      if_neg (show ¬sign = nanWord from fun he => hsign (he ▸ rfl)), if_pos hlt,
      Option.bind_eq_bind, Option.bind_some] at hplaces
    rw [if_neg hshort]
    exact (Option.some.inj hplaces).symm

/-- Without the sign word of NaN nothing but an incomplete header or group is a fault. -/
theorem decodeNumeric_eq_error_iff (hsign : wordAt? bytes 4 ≠ some nanWord) :
    (∃ fault, decodeNumeric bytes = .error fault) ↔ Incomplete bytes := by
  refine ⟨fun ⟨fault, hfault⟩ => ?_, fun h => ⟨_, decodeNumeric_of_incomplete h hsign⟩⟩
  by_contra hcomplete
  obtain ⟨n, hn⟩ := exists_opens hcomplete
  cases (decodeNumeric_of_opens hn hsign).symm.trans hfault

end

/-! ### Finite values -/

/-- A decimal number shows a value exactly as far as its decimal places go. -/
structure Numeric.IsShownBy (n : Numeric) (t : Decimal) : Prop where
  negative : t.negative = n.negative
  places : t.fraction.length = n.scale
  magnitude : t.magnitude = ⌊n.magnitude * 10 ^ n.scale⌋₊ / 10 ^ n.scale
  leading : n.weight < 0 ∨ n.groupAt 0 ≠ 0 → t.whole = ['0'] ∨ t.whole.head? ≠ some '0'

/-- A finite value is decoded exactly. Its words are found at their places; nothing but an incomplete
header or group is a fault; and otherwise the text is the decimal number that the value is, with a minus
in front and a point in it just as the header says, cut off behind its decimal places. -/
theorem decodeNumeric_exact (bytes : List UInt8)
    (hsign : ∀ sign, wordAt? bytes 4 = some sign → sign = plusWord ∨ sign = minusWord) :
    decodeByPlaces? bytes = some (decodeNumeric bytes) ∧
    ((∃ fault, decodeNumeric bytes = .error fault) ↔ Incomplete bytes) ∧
    ∀ n : Numeric, n.Opens bytes → (∀ g ∈ n.groups, g < 10000) →
      ∃ t : Decimal, decodeNumeric bytes = .ok t.text ∧ n.IsShownBy t := by
  have hfinite : wordAt? bytes 4 ≠ some nanWord := fun h => by
    rcases hsign nanWord h with he | he <;> cases he
  refine ⟨decodeByPlaces?_eq bytes, decodeNumeric_eq_error_iff hfinite, fun n hn hgroups => ?_⟩
  have hplaces : n.decimal.fraction.length = n.scale := n.length_fractionText
  refine ⟨n.decimal, ?_, rfl, hplaces, ?_, head?_wholeText⟩
  · rw [text_decimal]
    exact decodeNumeric_of_opens hn hfinite
  · rw [Decimal.magnitude, digitsValue_decimal hgroups, hplaces]

/-- Three groups, of which the last is shown in part, behind a negative sign. -/
def minusBytes : List UInt8 := [0, 3, 0, 1, 0x40, 0, 0, 3, 0, 1, 9, 0x29, 0x1A, 0x7C]

def minusValue : Numeric := ⟨true, 1, 3, [1, 2345, 6780]⟩

theorem decodeNumeric_exact_minus :
    decodeNumeric minusBytes = .ok "-12345.678" ∧
      ∃ t : Decimal, decodeNumeric minusBytes = .ok t.text ∧ minusValue.IsShownBy t := by
  have hsign : ∀ sign, wordAt? minusBytes 4 = some sign → sign = plusWord ∨ sign = minusWord :=
    fun sign h => .inr (Option.some.inj h).symm
  have hopens : minusValue.Opens minusBytes := by
    refine ⟨by decide, by decide, by decide, by decide, fun i g h => ?_⟩
    match i, h with
    | 0, h | 1, h | 2, h => cases h; decide
  exact ⟨by decide +kernel,
    (decodeNumeric_exact minusBytes hsign).2.2 minusValue hopens (by decide)⟩

/-! ### Other sign words -/

/-- The bytes with the sign word of numbers from zero on. -/
def unsigned (bytes : List UInt8) : List UInt8 := (bytes.set 4 0).set 5 0

theorem wordAt?_unsigned (bytes : List UInt8) (place : Nat) (h : place + 1 < 4 ∨ 5 < place) :
    wordAt? (unsigned bytes) place = wordAt? bytes place := by
  have hget : ∀ i, i ≠ 4 → i ≠ 5 → (unsigned bytes)[i]? = bytes[i]? := fun i h4 h5 => by
    rw [unsigned, List.getElem?_set_ne (Ne.symm h5), List.getElem?_set_ne (Ne.symm h4)]
  rw [wordAt?, wordAt?, hget place (by omega) (by omega), hget (place + 1) (by omega) (by omega)]

theorem wordAt?_sign_unsigned {bytes : List UInt8} (h : 8 ≤ bytes.length) :
    wordAt? (unsigned bytes) 4 = some plusWord := by
  have h4 : (unsigned bytes)[4]? = some 0 := by
    rw [unsigned, List.getElem?_set_ne (by decide), List.getElem?_set_self (by omega)]
  have h5 : (unsigned bytes)[5]? = some 0 := by
    rw [unsigned, List.getElem?_set_self (by rw [List.length_set]; omega)]
  simp [wordAt?, h4, h5, plusWord, Number.bigEndian]

theorem length_unsigned (bytes : List UInt8) : (unsigned bytes).length = bytes.length := by
  rw [unsigned, List.length_set, List.length_set]

/-- An infinity has the text of a number. -/
theorem infinity_shown_as_zero :
    8 ≤ ([0, 0, 0, 0, 0xD0, 0, 0, 0] : List UInt8).length ∧
    wordAt? [0, 0, 0, 0, 0xD0, 0, 0, 0] 4 = some 0xD000 ∧
    (0xD000 ≠ plusWord ∧ 0xD000 ≠ minusWord) ∧
    ∃ t : Decimal, t.text = "0" ∧ decodeNumeric [0, 0, 0, 0, 0xD0, 0, 0, 0] = .ok t.text := by
  refine ⟨by decide, by decide, by decide, ⟨false, ['0'], [], by decide, by simp⟩, rfl, ?_⟩
  decide +kernel

/-- The word of the sign tells of what a value opens with whether it is negative, and no more. -/
theorem Numeric.Opens.unsigned {n : Numeric} {bytes : List UInt8} (h : n.Opens bytes)
    (hlong : 8 ≤ bytes.length) (hpositive : n.negative = false) : n.Opens (unsigned bytes) where
  count := by
    rw [wordAt?_unsigned bytes 0 (.inl (by decide))]
    exact h.count
  weight := by
    rw [wordAt?_unsigned bytes _ (.inl (by decide))]
    exact h.weight
  sign := by
    rw [wordAt?_sign_unsigned hlong, hpositive]
    rfl
  scale := by
    rw [wordAt?_unsigned bytes _ (.inr (by decide))]
    exact h.scale
  groups i g hg := by
    rw [wordAt?_unsigned bytes _ (.inr (by omega))]
    exact h.groups i g hg

/-- Of the sign words other than those of finite values only that of NaN keeps a value from being shown
as a decimal number: with any other one it is shown as the value that has the same groups and no
minus. -/
theorem special_values_shown (bytes : List UInt8) (hlong : 8 ≤ bytes.length)
    (hsign : ∀ sign, wordAt? bytes 4 = some sign → sign ≠ plusWord ∧ sign ≠ minusWord) :
    ((∀ t : Decimal, decodeNumeric bytes ≠ .ok t.text) ↔
      wordAt? bytes 4 = some nanWord ∨ Incomplete bytes) ∧
    (wordAt? bytes 4 = some nanWord → decodeNumeric bytes = .ok "NaN") ∧
    (wordAt? bytes 4 ≠ some nanWord →
      decodeNumeric bytes = decodeNumeric (unsigned bytes)) := by
  refine ⟨⟨fun h => ?_, ?_⟩, decodeNumeric_of_nan hlong, fun hfinite => ?_⟩
  · by_contra hnot
    rw [not_or] at hnot
    obtain ⟨n, hn⟩ := exists_opens hnot.2
    refine h n.decimal ?_
    rw [text_decimal]
    exact decodeNumeric_of_opens hn hnot.1
  · rintro h t ht
    by_cases hnan : wordAt? bytes 4 = some nanWord
    · have htext := Except.ok.inj ((decodeNumeric_of_nan hlong hnan).symm.trans ht)
      have hletter : 'N' ∈ t.text.toList := by
        rw [← htext]
        decide
      revert hletter
      exact fun hletter => absurd (Decimal.of_mem_text hletter) (by decide)
    · cases (decodeNumeric_of_incomplete (h.resolve_left hnan) hnan).symm.trans ht
  · have hplus : wordAt? (unsigned bytes) 4 ≠ some nanWord := by
      rw [wordAt?_sign_unsigned hlong]
      decide
    have hcount := wordAt?_unsigned bytes 0 (.inl (by decide))
    by_cases hall : Incomplete bytes
    · have hunsigned : Incomplete (unsigned bytes) := by
        rw [Incomplete, length_unsigned, hcount]
        exact hall
      rw [decodeNumeric_of_incomplete hall hfinite, decodeNumeric_of_incomplete hunsigned hplus,
        length_unsigned]
    · obtain ⟨n, hn⟩ := exists_opens hall
      obtain ⟨sign, hword, hnegative⟩ := Option.map_eq_some_iff.1 hn.sign
      have hpositive : n.negative = false := by
        rw [← hnegative]
        exact decide_eq_false (hsign sign hword).2
      have hopens := hn.unsigned hlong hpositive
      rw [decodeNumeric_of_opens hn hfinite, decodeNumeric_of_opens hopens hplus]

/-- A sign word that no value has, in front of two groups. -/
theorem special_values_shown_unknown :
    decodeNumeric [0, 2, 0, 0, 0x12, 0x34, 0, 1, 0, 1, 0x13, 0x88] = .ok "1.5" ∧
      decodeNumeric [0, 2, 0, 0, 0x12, 0x34, 0, 1, 0, 1, 0x13, 0x88] =
        decodeNumeric [0, 2, 0, 0, 0, 0, 0, 1, 0, 1, 0x13, 0x88] := by
  have hsign : ∀ sign, wordAt? [0, 2, 0, 0, 0x12, 0x34, 0, 1, 0, 1, 0x13, 0x88] 4 = some sign →
      sign ≠ plusWord ∧ sign ≠ minusWord := fun sign h => by
    cases h
    decide
  exact ⟨by decide +kernel, (special_values_shown _ (by decide) hsign).2.2 (by decide)⟩

end QueryDesk.Postgres
