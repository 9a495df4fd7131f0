/-!
# Blank characters and trimming

A blank is a character with the Unicode property White_Space. `trim` takes the blanks off both ends
of a text; what lies between them is kept as it is.
-/

namespace QueryDesk.Text

/-- The characters with the Unicode property White_Space. -/
def isBlank (c : Char) : Bool :=
  let n := c.toNat
  (9 ≤ n && n ≤ 13) || n == 0x20 || n == 0x85 || n == 0xA0 || n == 0x1680 ||
    (0x2000 ≤ n && n ≤ 0x200A) || n == 0x2028 || n == 0x2029 || n == 0x202F || n == 0x205F ||
    n == 0x3000

def trimLeft (cs : List Char) : List Char := cs.dropWhile isBlank

def trimRight (cs : List Char) : List Char := (cs.reverse.dropWhile isBlank).reverse

def trim (cs : List Char) : List Char := trimRight (trimLeft cs)

/-- A text without its outer blanks. -/
def trimmed (s : String) : String := String.ofList (trim s.toList)

/-- Nothing but blanks, or nothing at all. -/
def allBlank (s : String) : Bool := s.toList.all isBlank

/-- The words between blanks. `word` is the current one, last character first. -/
def wordsAfter (word : List Char) : List Char → List (List Char)
  | [] => if word.isEmpty then [] else [word.reverse]
  | c :: r =>
    if isBlank c then
      if word.isEmpty then wordsAfter [] r else word.reverse :: wordsAfter [] r
    else wordsAfter (c :: word) r

def words (s : String) : List String := (wordsAfter [] s.toList).map String.ofList

/-! ### What trimming leaves -/

theorem trimLeft_of_head {c : Char} (h : isBlank c = false) (r : List Char) :
    trimLeft (c :: r) = c :: r := by
  simp [trimLeft, h]

theorem trimLeft_blank {c : Char} (h : isBlank c = true) (r : List Char) :
    trimLeft (c :: r) = trimLeft r := by
  simp [trimLeft, h]

theorem trimRight_append_of_last {c : Char} (h : isBlank c = false) (r : List Char) :
    trimRight (r ++ [c]) = r ++ [c] := by
  simp [trimRight, h]

theorem trimLeft_eq_nil_iff (cs : List Char) : trimLeft cs = [] ↔ ∀ c ∈ cs, isBlank c = true := by
  induction cs with
  | nil => simp [trimLeft]
  | cons c r ih =>
    cases h : isBlank c with
    | true => simp [trimLeft_blank h, ih, h]
    | false => simp [trimLeft_of_head h, h]

theorem trimRight_eq_nil_iff (cs : List Char) : trimRight cs = [] ↔ ∀ c ∈ cs, isBlank c = true := by
  have h := trimLeft_eq_nil_iff cs.reverse
  rw [trimLeft] at h
  simp only [trimRight, List.reverse_eq_nil_iff, h, List.mem_reverse]

theorem trim_eq_nil_iff (cs : List Char) : trim cs = [] ↔ ∀ c ∈ cs, isBlank c = true := by
  rw [trim, trimRight_eq_nil_iff]
  induction cs with
  | nil => simp [trimLeft]
  | cons c r ih =>
    cases h : isBlank c with
    | true => simp [trimLeft_blank h, ih, h]
    | false => rw [trimLeft_of_head h]

/-- Only blanks are taken off. -/
theorem trim_split (cs : List Char) : ∃ lead trail, cs = lead ++ (trim cs ++ trail) ∧
    (∀ c ∈ lead, isBlank c = true) ∧ ∀ c ∈ trail, isBlank c = true := by
  have hleft := List.takeWhile_append_dropWhile (p := isBlank) (l := cs)
  have hright := List.takeWhile_append_dropWhile (p := isBlank)
    (l := (cs.dropWhile isBlank).reverse)
  refine ⟨cs.takeWhile isBlank,
    ((cs.dropWhile isBlank).reverse.takeWhile isBlank).reverse, ?_,
    fun c hc => List.all_eq_true.1 List.all_takeWhile c hc,
    fun c hc => List.all_eq_true.1 List.all_takeWhile c (List.mem_reverse.1 hc)⟩
  rw [trim, trimRight, trimLeft, ← List.reverse_append, hright, List.reverse_reverse,
    hleft]

/-- Trimming leaves nothing exactly of the texts of blanks. -/
theorem trimmed_eq_empty_iff (s : String) : trimmed s = "" ↔ allBlank s = true := by
  rw [trimmed, String.ofList_eq_empty_iff, trim_eq_nil_iff, allBlank, List.all_eq_true]

end QueryDesk.Text
