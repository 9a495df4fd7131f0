import QueryDesk.Proofs.Number.Digits
import QueryDesk.Proofs.Time.Calendar
import QueryDesk.Time.Stamp

/-!
# Stamps read back

Every number of a stamp is written with a fixed width, so that it can be read without looking at what
comes behind it. Main statement: an instant whose year has four digits reads back from its stamp, to
the nanosecond and with a leap second in its place.
-/

namespace QueryDesk

/-- An instant that a clock can show: a leap second only at the end of a minute. Its year has four
digits. -/
structure Instant.IsProper (t : Instant) : Prop where
  nanos : t.nanos < 2000000000
  leap : 1000000000 ≤ t.nanos → t.seconds % 60 = 59
  year : 0 ≤ t.date.year ∧ t.date.year ≤ 9999

namespace Stamp

open Number

theorem digits_padded {w n : Nat} (hw : 0 < w) (h : n < Nat.pow 10 w) (rest : List Char) :
    digits w ((padded w n).toList ++ rest) = .ok (n, rest) := by
  have hlength := length_padded hw h
  have hlong : ¬((padded w n).toList ++ rest).length < w := by
    rw [List.length_append]
    omega
  have htake : ((padded w n).toList ++ rest).take w = (padded w n).toList :=
    List.take_left' hlength
  have hdrop : ((padded w n).toList ++ rest).drop w = rest := List.drop_left' hlength
  rw [digits, if_neg hlong, htake, hdrop, if_pos (List.all_eq_true.2 isDigit_padded),
    digitsValue_padded]

theorem pair_padded {low high n : Nat} (hlow : low ≤ n) (hhigh : n ≤ high) (htop : high < 100)
    (rest : List Char) : pair low high ((padded 2 n).toList ++ rest) = .ok (n, rest) := by
  have hn : n < Nat.pow 10 2 := Nat.lt_of_le_of_lt hhigh htop
  rw [pair, digits_padded (by omega) hn]
  exact if_pos ⟨hlow, hhigh⟩

theorem mark_dash (rest : List Char) : mark ['-'] ('-' :: rest) = .ok rest := rfl

theorem mark_colon (rest : List Char) : mark [':'] (':' :: rest) = .ok rest := rfl

theorem mark_separator (rest : List Char) : mark ['T', 't', ' '] ('T' :: rest) = .ok rest := rfl

theorem date_text {d : Date} (hyear : 0 ≤ d.year ∧ d.year ≤ 9999)
    (hday : Date.of? d.year d.month d.day = some d) (rest : List Char) :
    date (d.text.toList ++ rest) = .ok ((d.year.natAbs, d.month, d.day), rest) := by
  have hbounds : 1 ≤ d.month ∧ d.month ≤ 12 ∧ 1 ≤ d.day ∧
      d.day ≤ Date.daysInMonth d.year d.month := by
    rw [Date.of?] at hday
    split at hday
    · assumption
    · cases hday
  have hlast : Date.daysInMonth d.year d.month ≤ 31 := by
    unfold Date.daysInMonth
    split
    · split <;> omega
    · split <;> omega
  have hsign : Date.yearText d.year = padded 4 d.year.natAbs := by
    rw [Date.yearText, if_neg (by omega), if_neg (by omega), String.empty_append]
  have htext : d.text.toList ++ rest = (padded 4 d.year.natAbs).toList ++ '-' ::
      ((padded 2 d.month).toList ++ '-' :: ((padded 2 d.day).toList ++ rest)) := by
    simp [Date.text, hsign]
  rw [htext, date, digits_padded (by omega) (by change _ < 10000; omega)]
  simp only [bind, Except.bind, mark_dash]
  rw [pair_padded hbounds.1 hbounds.2.1 (by omega)]
  simp only [mark_dash]
  rw [pair_padded hbounds.2.2.1 (Nat.le_trans hbounds.2.2.2 hlast) (by omega)]
  rfl

/-- A fraction with `w` places is read up to the sign of the offset. -/
theorem fraction_padded {w n : Nat} (top scale : Nat) (hw : 0 < w ∧ w ≤ 9) (htop : Nat.pow 10 w = top)
    (hscale : Nat.pow 10 (9 - w) = scale) (h : n < top) (rest : List Char) :
    fraction (("." ++ padded w n).toList ++ '+' :: rest) = .ok (n * scale, '+' :: rest) := by
  have hlength := length_padded hw.1 (htop.symm ▸ h)
  have hshort : (padded w n).toList.length ≤ 9 := by omega
  have htake : ((padded w n).toList ++ '+' :: rest).takeWhile Char.isDigit =
      (padded w n).toList := by
    rw [List.takeWhile_append_of_pos isDigit_padded, List.takeWhile_cons_of_neg (by decide),
      List.append_nil]
  have hdrop : ((padded w n).toList ++ '+' :: rest).dropWhile Char.isDigit = '+' :: rest := by
    rw [List.dropWhile_append_of_pos isDigit_padded, List.dropWhile_cons_of_neg (by decide)]
  have hne : (padded w n).toList.isEmpty = false := by
    rw [List.isEmpty_eq_false_iff, ← List.length_pos_iff]
    omega
  have htext : ("." ++ padded w n).toList ++ '+' :: rest =
      '.' :: ((padded w n).toList ++ '+' :: rest) := by
    simp
  rw [htext]
  simp only [fraction, htake, hdrop, List.take_of_length_le hshort, hne, Bool.false_eq_true,
    if_false, hlength, hscale, digitsValue_padded]

theorem fraction_text {n : Nat} (h : n < 1000000000) (rest : List Char) :
    fraction ((Instant.fractionText n).toList ++ '+' :: rest) = .ok (n, '+' :: rest) := by
  unfold Instant.fractionText
  split
  · rename_i hzero
    rw [hzero]
    rfl
  · split
    · have hn : n / 1000000 * 1000000 = n := by omega
      rw [fraction_padded 1000 1000000 (by omega) rfl rfl (by omega), hn]
    · split
      · have hn : n / 1000 * 1000 = n := by omega
        rw [fraction_padded 1000000 1000 (by omega) rfl rfl (by omega), hn]
      · rw [fraction_padded 1000000000 1 (by omega) rfl rfl h, Nat.mul_one]

/-- The time of day behind its hours and minutes, from the second that is shown. -/
theorem clock_padded {h m s n : Nat} (hh : h ≤ 23) (hm : m ≤ 59) (hs : s ≤ 60)
    (hn : n < 1000000000) (rest : List Char) :
    clock ((padded 2 h ++ ":" ++ padded 2 m ++ ":" ++ padded 2 s ++
        Instant.fractionText n).toList ++ '+' :: rest) =
      .ok (if s = 60 then ((3600 * h + 60 * m + 59, n + 1000000000), '+' :: rest)
        else ((3600 * h + 60 * m + s, n), '+' :: rest)) := by
  have htext : (padded 2 h ++ ":" ++ padded 2 m ++ ":" ++ padded 2 s ++
      Instant.fractionText n).toList ++ '+' :: rest =
      (padded 2 h).toList ++ ':' :: ((padded 2 m).toList ++ ':' :: ((padded 2 s).toList ++
        ((Instant.fractionText n).toList ++ '+' :: rest))) := by
    simp
  rw [htext, clock, pair_padded (Nat.zero_le h) hh (by omega)]
  simp only [bind, Except.bind, mark_colon]
  rw [pair_padded (Nat.zero_le m) hm (by omega)]
  simp only [mark_colon]
  rw [pair_padded (Nat.zero_le s) hs (by omega)]
  simp only [fraction_text hn]
  split <;> rfl

/-- Seconds since midnight and nanoseconds, a leap second counted within the second before it. -/
theorem clock_text {seconds nanos : Nat} (hday : seconds < 86400) (hnanos : nanos < 2000000000)
    (hleap : 1000000000 ≤ nanos → seconds % 60 = 59) (rest : List Char) :
    clock ((Instant.clockText seconds nanos).toList ++ '+' :: rest) =
      .ok ((seconds, nanos), '+' :: rest) := by
  have hseconds : 3600 * (seconds / 3600) + 60 * (seconds / 60 % 60) + seconds % 60 = seconds := by
    omega
  unfold Instant.clockText
  split
  rename_i s n hshown
  split at hshown
  · rename_i hlong
    obtain ⟨rfl, rfl⟩ := Prod.mk.inj hshown
    rw [clock_padded (by omega) (by omega) (by omega) (by omega)]
    have hsixty : seconds % 60 + 1 = 60 := by
      have := hleap hlong
      omega
    rw [if_pos hsixty]
    have hback : nanos - 1000000000 + 1000000000 = nanos := by omega
    have hshow : 3600 * (seconds / 3600) + 60 * (seconds / 60 % 60) + 59 = seconds := by omega
    rw [hback, hshow]
  · rename_i hshort
    obtain ⟨rfl, rfl⟩ := Prod.mk.inj hshown
    rw [clock_padded (by omega) (by omega) (by omega) (by omega), if_neg (by omega), hseconds]

theorem read_stamp {t : Instant} (h : t.IsProper) : read (write t) = .ok t := by
  obtain ⟨hnanos, hleap, hyear⟩ := h
  have hday : Date.of? t.date.year t.date.month t.date.day = some t.date :=
    Date.of?_ofDays (t.seconds / 86400)
  have hnumber := Date.toDays_ofDays (t.seconds / 86400)
  have hbefore : (t.seconds % 86400).toNat < 86400 := by omega
  have htext : (write t).toList = t.date.text.toList ++ 'T' ::
      ((Instant.clockText (t.seconds % 86400).toNat t.nanos).toList ++ "+00:00".toList) := by
    simp [write, Instant.textWith]
  have hshift : offset "+00:00".toList = .ok (0, []) := by rfl
  have hclock : clock ((Instant.clockText (t.seconds % 86400).toNat t.nanos).toList ++
      "+00:00".toList) = .ok (((t.seconds % 86400).toNat, t.nanos), "+00:00".toList) :=
    clock_text hbefore hnanos (by intro hlong; have := hleap hlong; omega) _
  have hyears : ((t.date.year.natAbs : Nat) : Int) = t.date.year := by omega
  have hback : t.date.toDays * 86400 + (t.seconds % 86400).toNat - 0 = t.seconds := by
    rw [Instant.date, hnumber]
    omega
  rw [read, htext, date_text hyear hday]
  simp only [bind, Except.bind, mark_separator, hclock, hshift,
    hyears]
  rw [if_neg (by decide), if_neg (by decide), hday]
  exact congrArg (fun seconds => Except.ok (⟨seconds, t.nanos⟩ : Instant)) hback

end Stamp

end QueryDesk
