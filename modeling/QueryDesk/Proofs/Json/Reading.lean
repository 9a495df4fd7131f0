import QueryDesk.Json.Record

/-!
# JSON texts read back

A text between quotes is read up to the quote that closes it, because each character that could end
it is escaped. So a value of texts, lists and objects reads back from its text with anything behind
it, in fuel that the length of the text gives.
-/

namespace QueryDesk.Json

namespace Doc

/-! ### Texts -/

theorem hexValue?_hexDigit : ∀ n ∈ List.range 16, hexValue? (hexDigit n) = some n := by
  decide

theorem hex4?_hexDigit {n : Nat} (h : n < 256) (rest : List Char) :
    hex4? ('0' :: '0' :: hexDigit (n / 16) :: hexDigit (n % 16) :: rest) = some (n, rest) := by
  have hhigh := hexValue?_hexDigit (n / 16) (List.mem_range.2 (by omega))
  have hlow := hexValue?_hexDigit (n % 16) (List.mem_range.2 (by omega))
  have hn : ((0 * 16 + 0) * 16 + n / 16) * 16 + n % 16 = n := by omega
  simp only [hex4?, hhigh, hlow]
  exact congrArg (fun n => some (n, rest)) hn

theorem readChars_escape (c : Char) (fuel : Nat) (rest read : List Char) (whole : Bool) :
    readChars (fuel + 1) (escape c ++ rest) read whole =
      readChars fuel rest (c :: read) whole := by
  unfold escape
  split
  · rename_i h
    rw [eq_of_beq h]
    rfl
  split
  · rename_i h
    rw [eq_of_beq h]
    rfl
  split
  · rename_i h
    rw [eq_of_beq h]
    rfl
  split
  · rename_i h
    rw [eq_of_beq h]
    rfl
  split
  · rename_i h
    rw [eq_of_beq h]
    rfl
  split
  · rename_i h
    have hc : c = Char.ofNat 8 := by rw [← eq_of_beq h, Char.ofNat_toNat]
    rw [hc]
    rfl
  split
  · rename_i h
    have hc : c = Char.ofNat 12 := by rw [← eq_of_beq h, Char.ofNat_toNat]
    rw [hc]
    rfl
  split
  · -- the other control characters are given by their number, which is no half of a pair
    rename_i h
    have hhalf : ¬0xDC00 ≤ c.toNat ∧ ¬0xD800 ≤ c.toNat := by omega
    change readChars (fuel + 1) ('\\' :: 'u' :: '0' :: '0' :: hexDigit (c.toNat / 16) ::
      hexDigit (c.toNat % 16) :: rest) read whole = _
    rw [readChars.eq_def]
    simp only [hex4?_hexDigit (show c.toNat < 256 by omega)]
    simp [hhalf]
  · rename_i hquote hbackslash _ _ _ _ _ hlow
    have hplain : c ≠ '\\' := by simpa using hbackslash
    change readChars (fuel + 1) (c :: rest) read whole = _
    rw [readChars.eq_def]
    simp [hlow, hquote, hplain]

theorem readChars_escaped (cs : List Char) {fuel : Nat} (h : cs.length < fuel)
    (rest read : List Char) (whole : Bool) :
    readChars fuel (cs.flatMap escape ++ '"' :: rest) read whole =
      some (cs.reverse ++ read, whole, rest) := by
  induction cs generalizing fuel read with
  | nil =>
    obtain ⟨fuel, rfl⟩ := Nat.exists_eq_succ_of_ne_zero (Nat.ne_of_gt h)
    rfl
  | cons c cs ih =>
    obtain ⟨fuel, rfl⟩ := Nat.exists_eq_succ_of_ne_zero (Nat.ne_of_gt (Nat.lt_of_le_of_lt
      (Nat.zero_le _) h))
    rw [List.flatMap_cons, List.append_assoc, readChars_escape,
      ih (Nat.lt_of_succ_lt_succ h)]
    simp

theorem length_le_flatMap_escape (cs : List Char) : cs.length ≤ (cs.flatMap escape).length := by
  induction cs with
  | nil => exact Nat.le_refl _
  | cons c cs ih =>
    have hpos : 1 ≤ (escape c).length := by
      unfold escape
      repeat' split
      all_goals exact Nat.succ_le_succ (Nat.zero_le _)
    rw [List.flatMap_cons, List.length_append, List.length_cons]
    omega

theorem readText_escaped (s : String) (rest : List Char) :
    readText (s.toList.flatMap escape ++ '"' :: rest) = (.str s, rest) := by
  have hlength := length_le_flatMap_escape s.toList
  have hfuel : s.toList.length < (s.toList.flatMap escape ++ '"' :: rest).length + 1 := by
    rw [List.length_append]
    omega
  rw [readText, readChars_escaped s.toList hfuel]
  simp

theorem toList_quoted (s : String) (rest : List Char) :
    (quoted s).toList ++ rest = '"' :: (s.toList.flatMap escape ++ '"' :: rest) := by
  simp [quoted]

/-! ### Values -/

/-- The characters that a value of texts, lists and objects begins with. -/
def openings : List Char := ['"', 'n', 't', 'f', '[', '\x7b']

/-- A value reads back as a document, whatever comes behind its text. -/
structure Reads (depth : Nat) (v : Json) (d : Doc) : Prop where
  complete : d.complete = true
  opening : ∃ c w, v.write.toList = c :: w ∧ c ∈ openings
  read : ∀ fuel rest, 2 * v.write.toList.length ≤ fuel →
    readValue fuel depth (v.write.toList ++ rest) = (d, rest)

theorem skipSpace_opening {c : Char} (h : c ∈ openings) (rest : List Char) :
    skipSpace (c :: rest) = c :: rest := by
  have hspace : ∀ c ∈ openings, isSpace c = false := by
    simp only [openings, List.forall_mem_cons]
    simp [isSpace]
  rw [skipSpace, List.dropWhile_cons_of_neg (by simp [hspace c h])]

theorem skipSpace_mark {c : Char} (h : isSpace c = false) (rest : List Char) :
    skipSpace (c :: rest) = c :: rest := by
  rw [skipSpace, List.dropWhile_cons_of_neg (by simp [h])]

theorem reads_null (depth : Nat) : Reads depth .null .null where
  complete := rfl
  opening := ⟨'n', ['u', 'l', 'l'], by decide, by decide⟩
  read fuel rest h := by
    obtain ⟨fuel, rfl⟩ : ∃ n, fuel = n + 1 := ⟨fuel - 1, by
      have : 2 * 4 ≤ fuel := h
      omega⟩
    rw [readValue.eq_def]
    rfl

theorem reads_str (depth : Nat) (s : String) : Reads depth (.str s) (.str s) where
  complete := rfl
  opening := ⟨'"', _, by rw [write, ← List.append_nil (quoted s).toList, toList_quoted], by decide⟩
  read fuel rest h := by
    rw [write] at h ⊢
    have hlength : 1 ≤ (quoted s).toList.length := by
      rw [← List.append_nil (quoted s).toList, toList_quoted, List.length_cons]
      omega
    obtain ⟨fuel, rfl⟩ : ∃ n, fuel = n + 1 := ⟨fuel - 1, by omega⟩
    rw [toList_quoted, readValue.eq_def]
    simp only [skipSpace_opening (show '"' ∈ openings by decide), beq_self_eq_true, if_true,
      readText_escaped]

/-! ### Lists and objects -/

variable {α : Type}

section

variable {depth fuel : Nat} {v : Json} {d : Doc}

theorem readItems_last (h : Reads depth v d) (hfuel : 2 * v.write.toList.length ≤ fuel)
    (rest : List Char) :
    readItems (fuel + 1) depth (v.write.toList ++ ']' :: rest) = ([d], true, rest) := by
  rw [readItems.eq_def]
  simp only [h.read fuel _ hfuel, h.complete, Bool.not_true, Bool.false_eq_true, if_false,
    skipSpace_mark (show isSpace ']' = false by decide)]

theorem readItems_more (h : Reads depth v d) (hfuel : 2 * v.write.toList.length ≤ fuel)
    (more : List Char) :
    readItems (fuel + 1) depth (v.write.toList ++ ',' :: more) =
      (d :: (readItems fuel depth more).1, (readItems fuel depth more).2) := by
  rw [readItems.eq_def]
  simp only [h.read fuel _ hfuel, h.complete, Bool.not_true, Bool.false_eq_true, if_false,
    skipSpace_mark (show isSpace ',' = false by decide)]

theorem readMembers_last (h : Reads depth v d) (hfuel : 2 * v.write.toList.length ≤ fuel)
    (key : String) (rest : List Char) :
    readMembers (fuel + 1) depth
        ((quoted key).toList ++ ':' :: (v.write.toList ++ '\x7d' :: rest)) =
      ([(key, d)], true, rest) := by
  rw [toList_quoted, readMembers.eq_def]
  simp only [skipSpace_mark (show isSpace '"' = false by decide), readText_escaped,
    skipSpace_mark (show isSpace ':' = false by decide), h.read fuel _ hfuel, h.complete,
    Bool.not_true, Bool.false_eq_true, if_false,
    skipSpace_mark (show isSpace '\x7d' = false by decide)]

theorem readMembers_more (h : Reads depth v d) (hfuel : 2 * v.write.toList.length ≤ fuel)
    (key : String) (more : List Char) :
    readMembers (fuel + 1) depth ((quoted key).toList ++ ':' :: (v.write.toList ++ ',' :: more)) =
      ((key, d) :: (readMembers fuel depth more).1, (readMembers fuel depth more).2) := by
  rw [toList_quoted, readMembers.eq_def]
  simp only [skipSpace_mark (show isSpace '"' = false by decide), readText_escaped,
    skipSpace_mark (show isSpace ':' = false by decide), h.read fuel _ hfuel, h.complete,
    Bool.not_true, Bool.false_eq_true, if_false,
    skipSpace_mark (show isSpace ',' = false by decide)]

end

/-- The items of a list are read up to its closing bracket. -/
theorem readItems_write {depth : Nat} {f : α → Json} {g : α → Doc} (as : List α) (hne : as ≠ [])
    (h : ∀ a ∈ as, Reads depth (f a) (g a)) (fuel : Nat) (rest : List Char)
    (hfuel : 2 * (writeItems (as.map f)).toList.length < fuel) :
    readItems fuel depth ((writeItems (as.map f)).toList ++ ']' :: rest) =
      (as.map g, true, rest) := by
  induction as generalizing fuel with
  | nil => exact absurd rfl hne
  | cons a as ih =>
    have hfirst := h a List.mem_cons_self
    obtain ⟨fuel, rfl⟩ : ∃ n, fuel = n + 1 := ⟨fuel - 1, by omega⟩
    cases as with
    | nil =>
      have htext : writeItems ([a].map f) = (f a).write := rfl
      rw [htext] at hfuel ⊢
      exact readItems_last hfirst (by omega) rest
    | cons b as =>
      have htext : writeItems ((a :: b :: as).map f) =
          (f a).write ++ "," ++ writeItems ((b :: as).map f) := rfl
      rw [htext] at hfuel ⊢
      have hcomma : ",".toList.length = 1 := rfl
      simp only [String.toList_append, List.length_append] at hfuel
      have hrest := ih (by simp) (fun x hx => h x (List.mem_cons_of_mem a hx)) fuel (by omega)
      have hsplit : ((f a).write ++ "," ++ writeItems ((b :: as).map f)).toList ++ ']' :: rest =
          (f a).write.toList ++ ',' :: ((writeItems ((b :: as).map f)).toList ++ ']' :: rest) := by
        simp
      rw [hsplit, readItems_more hfirst (by omega), hrest]
      rfl

/-- The members of an object are read up to its closing brace. -/
theorem readMembers_write {depth : Nat} (ms : List (String × Json × Doc)) (hne : ms ≠ [])
    (h : ∀ m ∈ ms, Reads depth m.2.1 m.2.2) (fuel : Nat) (rest : List Char)
    (hfuel : 2 * (writeMembers (ms.map fun m => (m.1, m.2.1))).toList.length < fuel) :
    readMembers fuel depth
        ((writeMembers (ms.map fun m => (m.1, m.2.1))).toList ++ '\x7d' :: rest) =
      (ms.map fun m => (m.1, m.2.2), true, rest) := by
  induction ms generalizing fuel with
  | nil => exact absurd rfl hne
  | cons m ms ih =>
    have hfirst := h m List.mem_cons_self
    obtain ⟨fuel, rfl⟩ : ∃ n, fuel = n + 1 := ⟨fuel - 1, by omega⟩
    cases ms with
    | nil =>
      have htext : writeMembers ([m].map fun m => (m.1, m.2.1)) =
          quoted m.1 ++ ":" ++ m.2.1.write := rfl
      rw [htext] at hfuel ⊢
      simp only [String.toList_append, List.length_append] at hfuel
      have hsplit : (quoted m.1 ++ ":" ++ m.2.1.write).toList ++ '\x7d' :: rest =
          (quoted m.1).toList ++ ':' :: (m.2.1.write.toList ++ '\x7d' :: rest) := by
        simp
      rw [hsplit]
      exact readMembers_last hfirst (by omega) m.1 rest
    | cons n ms =>
      have htext : writeMembers ((m :: n :: ms).map fun m => (m.1, m.2.1)) =
          quoted m.1 ++ ":" ++ m.2.1.write ++ "," ++
            writeMembers ((n :: ms).map fun m => (m.1, m.2.1)) := rfl
      rw [htext] at hfuel ⊢
      have hcomma : ",".toList.length = 1 := rfl
      simp only [String.toList_append, List.length_append] at hfuel
      have hrest := ih (by simp) (fun x hx => h x (List.mem_cons_of_mem m hx)) fuel (by omega)
      have hsplit : (quoted m.1 ++ ":" ++ m.2.1.write ++ "," ++
            writeMembers ((n :: ms).map fun m => (m.1, m.2.1))).toList ++ '\x7d' :: rest =
          (quoted m.1).toList ++ ':' :: (m.2.1.write.toList ++ ',' ::
            ((writeMembers ((n :: ms).map fun m => (m.1, m.2.1))).toList ++ '\x7d' :: rest)) := by
        simp
      rw [hsplit, readMembers_more hfirst (by omega), hrest]
      rfl

theorem completeItems_map {f : α → Doc} (as : List α) (h : ∀ a ∈ as, (f a).complete = true) :
    completeItems (as.map f) = true := by
  induction as with
  | nil => rfl
  | cons a as ih =>
    rw [List.map_cons, completeItems, h a List.mem_cons_self,
      ih fun x hx => h x (List.mem_cons_of_mem a hx)]
    rfl

theorem completeMembers_map (ms : List (String × Json × Doc))
    (h : ∀ m ∈ ms, m.2.2.complete = true) :
    completeMembers (ms.map fun m => (m.1, m.2.2)) = true := by
  induction ms with
  | nil => rfl
  | cons m ms ih =>
    rw [List.map_cons, completeMembers, h m List.mem_cons_self,
      ih fun x hx => h x (List.mem_cons_of_mem m hx)]
    rfl

theorem opening_writeItems {depth : Nat} {f : α → Json} {g : α → Doc} (a : α) (as : List α)
    (h : Reads depth (f a) (g a)) :
    ∃ c w, (writeItems ((a :: as).map f)).toList = c :: w ∧ c ∈ openings := by
  obtain ⟨c, w, htext, hc⟩ := h.opening
  cases as with
  | nil => exact ⟨c, w, htext, hc⟩
  | cons b as =>
    refine ⟨c, w ++ (",".toList ++ (writeItems ((b :: as).map f)).toList), ?_, hc⟩
    change ((f a).write ++ "," ++ writeItems ((b :: as).map f)).toList = _
    simp [htext]

/-- A list reads back as the list of what its items read back as. -/
theorem reads_arr {depth : Nat} {f : α → Json} {g : α → Doc} (hdepth : 1 ≤ depth) (as : List α)
    (h : ∀ a ∈ as, Reads depth (f a) (g a)) :
    Reads (depth + 1) (.arr (as.map f)) (.arr (as.map g) true) where
  complete := completeItems_map as fun a ha => (h a ha).complete
  opening := ⟨'[', (writeItems (as.map f) ++ "]").toList, by simp [write], by decide⟩
  read fuel rest hfuel := by
    have htext : (write (.arr (as.map f))).toList ++ rest =
        '[' :: ((writeItems (as.map f)).toList ++ ']' :: rest) := by
      simp [write]
    have hlength : (write (.arr (as.map f))).toList.length =
        (writeItems (as.map f)).toList.length + 2 := by
      simp [write]
    obtain ⟨fuel, rfl⟩ : ∃ n, fuel = n + 1 := ⟨fuel - 1, by omega⟩
    have hopen : ¬depth + 1 ≤ 1 := by omega
    rw [htext, readValue.eq_def]
    cases as with
    | nil => simp [skipSpace_mark, isSpace, hopen, writeItems]
    | cons a as =>
      obtain ⟨c, w, hc, hopening⟩ := opening_writeItems a as (h a List.mem_cons_self)
      have hread := readItems_write (a :: as) (by simp) h fuel rest (by omega)
      have hclosing : c ≠ ']' := by
        rintro rfl
        exact absurd hopening (by decide)
      rw [hc] at hread ⊢
      simp only [List.cons_append] at hread ⊢
      simp [skipSpace_mark (show isSpace '[' = false by decide), hopen, skipSpace_opening hopening,
        hread, hclosing]

/-- An object with members reads back as the members that their values read back as. -/
theorem reads_obj {depth : Nat} (hdepth : 1 ≤ depth) (ms : List (String × Json × Doc))
    (hne : ms ≠ []) (h : ∀ m ∈ ms, Reads depth m.2.1 m.2.2) :
    Reads (depth + 1) (.obj (ms.map fun m => (m.1, m.2.1)))
      (.obj (ms.map fun m => (m.1, m.2.2)) true) where
  complete := completeMembers_map ms fun m hm => (h m hm).complete
  opening := ⟨'\x7b', (writeMembers (ms.map fun m => (m.1, m.2.1)) ++ "\x7d").toList,
    by simp [write], by decide⟩
  read fuel rest hfuel := by
    have htext : (write (.obj (ms.map fun m => (m.1, m.2.1)))).toList ++ rest = '\x7b' ::
        ((writeMembers (ms.map fun m => (m.1, m.2.1))).toList ++ '\x7d' :: rest) := by
      simp [write]
    have hlength : (write (.obj (ms.map fun m => (m.1, m.2.1)))).toList.length =
        (writeMembers (ms.map fun m => (m.1, m.2.1))).toList.length + 2 := by
      simp [write]
    obtain ⟨fuel, rfl⟩ : ∃ n, fuel = n + 1 := ⟨fuel - 1, by omega⟩
    have hopen : ¬depth + 1 ≤ 1 := by omega
    have hread := readMembers_write ms hne h fuel rest (by omega)
    obtain ⟨w, hw⟩ : ∃ w, (writeMembers (ms.map fun m => (m.1, m.2.1))).toList = '"' :: w := by
      obtain ⟨m, ms, rfl⟩ := List.exists_cons_of_ne_nil hne
      cases ms with
      | nil => exact ⟨_, by rw [List.map_cons]; simp [writeMembers, quoted]; rfl⟩
      | cons n ms => exact ⟨_, by rw [List.map_cons]; simp [writeMembers, quoted]; rfl⟩
    rw [htext, readValue.eq_def]
    rw [hw] at hread ⊢
    simp only [List.cons_append] at hread ⊢
    simp [skipSpace_mark (show isSpace '\x7b' = false by decide), hopen,
      skipSpace_mark (show isSpace '"' = false by decide), hread]

theorem read_whole {v : Json} {d : Doc} (h : Reads 128 v d) : read v.write = (d, true) := by
  have hread := h.read (2 * v.write.toList.length + 4) [] (by omega)
  rw [List.append_nil] at hread
  rw [read, hread]
  rfl

end Doc

end QueryDesk.Json
