import Mathlib.Data.List.Forall2

/-!
# Steps that may fail

A list of steps is taken to its end, with what each step gives at its place, or up to a step that fails:
then the list fails with that step.
-/

namespace QueryDesk

variable {ε α β : Type} {f : α → Except ε β} {as : List α} {bs : List β}

theorem ok_bind (a : α) (f : α → Except ε β) : (Except.ok a >>= f) = f a := rfl

theorem exists_of_bind_ok {x : Except ε α} {b : β} (h : (x >>= f) = .ok b) :
    ∃ a, x = .ok a ∧ f a = .ok b := by
  cases x with
  | error e => cases h
  | ok a => exact ⟨a, rfl, h⟩

theorem mapM_eq_ok (h : List.Forall₂ (fun a b => f a = .ok b) as bs) : as.mapM f = .ok bs := by
  induction h with
  | nil => rfl
  | cons ha _ ih => rw [List.mapM_cons, ha, ok_bind, ih]; rfl

theorem mapM_eq_map {g : α → β} (h : ∀ a, f a = .ok (g a)) (as : List α) :
    as.mapM f = .ok (as.map g) := by
  apply mapM_eq_ok
  rw [List.forall₂_map_right_iff, List.forall₂_same]
  exact fun a _ => h a

theorem forall₂_of_mapM (h : as.mapM f = .ok bs) : List.Forall₂ (fun a b => f a = .ok b) as bs := by
  induction as generalizing bs with
  | nil => cases h; exact .nil
  | cons a as ih =>
    rw [List.mapM_cons] at h
    obtain ⟨b, hb, h⟩ := exists_of_bind_ok h
    obtain ⟨bs', hbs, h⟩ := exists_of_bind_ok h
    cases h
    exact .cons hb (ih hbs)

/-- Some items are read one after the other: each of them, or up to one that cannot be read. -/
theorem mapM_cases (read : α → Except ε β) (as : List α) :
    (∃ bs, as.mapM read = .ok bs ∧ (∀ b, b ∈ bs ↔ ∃ a ∈ as, read a = .ok b) ∧
      ∀ a ∈ as, ∃ b, read a = .ok b) ∨
    ∃ e, as.mapM read = .error e ∧ ∃ a ∈ as, read a = .error e := by
  induction as with
  | nil => exact .inl ⟨[], rfl, by simp, by simp⟩
  | cons a as ih =>
    rw [List.mapM_cons]
    cases ha : read a with
    | error e => exact .inr ⟨e, rfl, a, List.mem_cons_self, ha⟩
    | ok b =>
      rcases ih with ⟨bs, hbs, hmem, hall⟩ | ⟨e, he, a', ha', hread⟩
      · rw [hbs]
        refine .inl ⟨b :: bs, rfl, fun x => ?_, ?_⟩
        · simp [hmem, ha, eq_comm]
        · simpa [ha] using hall
      · rw [he]
        exact .inr ⟨e, rfl, a', List.mem_cons_of_mem a ha', hread⟩

theorem exists_of_mem_mapM (h : as.mapM f = .ok bs) {b : β} (hb : b ∈ bs) :
    ∃ a ∈ as, f a = .ok b := by
  rcases mapM_cases f as with ⟨bs', hbs, hmem, -⟩ | ⟨e, he, -⟩
  · cases hbs.symm.trans h
    exact (hmem b).1 hb
  · cases he.symm.trans h

theorem getElem?_of_mapM (h : as.mapM f = .ok bs) {i : Nat} {a : α} (ha : as[i]? = some a) :
    ∃ b, bs[i]? = some b ∧ f a = .ok b := by
  have hall := forall₂_of_mapM h
  clear h
  induction hall generalizing i with
  | nil => cases ha
  | cons hab _ ih =>
    cases i with
    | zero => cases ha; exact ⟨_, rfl, hab⟩
    | succ i => exact ih ha

end QueryDesk
