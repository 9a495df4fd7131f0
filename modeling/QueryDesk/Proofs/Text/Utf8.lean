import QueryDesk.Text.Utf8

/-!
# The order of bytes

Texts are compared character by character. Main statement: their bytes compare alike, since the bytes
of the lesser of two characters are less, and neither character is the beginning of the other.
-/

namespace QueryDesk.Text

def bytes (s : String) : List Nat := s.toList.flatMap utf8

/-- Compared byte by byte, the first text does not come behind the second. -/
def InByteOrder (s t : String) : Prop := ¬List.Lex (· < ·) (bytes t) (bytes s)

theorem utf8_ne_nil (c : Char) : utf8 c ≠ [] := by
  simp only [utf8]
  repeat' split
  all_goals exact List.cons_ne_nil _ _

/-- Whatever follows them, the bytes of two characters are ordered as the characters. -/
theorem lex_utf8_append {a b : Char} (h : a < b) (x y : List Nat) :
    List.Lex (· < ·) (utf8 a ++ x) (utf8 b ++ y) := by
  have hcode : a.toNat < b.toNat := h
  simp only [utf8]
  generalize a.toNat = n at hcode ⊢
  generalize b.toNat = m at hcode ⊢
  repeat' split
  all_goals
    simp only [List.cons_append, List.nil_append, List.cons_lex_cons_iff]
    omega

theorem lex_flatMap_utf8 {as bs : List Char} (h : List.Lex (· < ·) as bs) :
    List.Lex (· < ·) (as.flatMap utf8) (bs.flatMap utf8) := by
  induction h with
  | @nil b bs =>
    obtain ⟨n, ns, hb⟩ := List.exists_cons_of_ne_nil (utf8_ne_nil b)
    rw [List.flatMap_nil, List.flatMap_cons, hb]
    exact .nil
  | rel h => exact lex_utf8_append h _ _
  | cons _ ih => exact List.append_left_lt ih

theorem inByteOrder_iff (s t : String) : InByteOrder s t ↔ s ≤ t := by
  constructor
  · intro h hts
    exact h (lex_flatMap_utf8 hts)
  · intro h hbytes
    by_cases hst : s < t
    · exact List.lt_asymm hbytes (lex_flatMap_utf8 hst)
    · obtain rfl := String.le_antisymm h (String.not_lt.1 hst)
      exact List.lt_irrefl _ hbytes

end QueryDesk.Text
