import QueryDesk.Program

/-!
# What a run says

The calls of a program with their replies, in surroundings that answer every call.
-/

namespace QueryDesk.Program

variable {Call : Type} {Reply : Call → Type} {α β σ : Type}

structure Exchange (Reply : Call → Type) where
  call : Call
  reply : Reply call

/-- The calls of a run with their replies, in surroundings that answer every call. -/
def exchanges (answer : (c : Call) → σ → Reply c × σ) : Program Reply α → σ → List (Exchange Reply)
  | done _, _ => []
  | ask c next, s => ⟨c, (answer c s).1⟩ :: (next (answer c s).1).exchanges answer (answer c s).2

theorem exchanges_bind (answer : (c : Call) → σ → Reply c × σ) (p : Program Reply α)
    (f : α → Program Reply β) (s : σ) :
    (p >>= f).exchanges answer s =
      p.exchanges answer s ++ (f (p.run answer s).1).exchanges answer (p.run answer s).2 := by
  induction p generalizing s with
  | done a => rfl
  | ask c next ih => exact congrArg (_ :: ·) (ih _ _)

end QueryDesk.Program
