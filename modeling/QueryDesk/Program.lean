/-!
# Programs

A computation that depends on its surroundings: it is done, or it makes a call and goes on with the
reply. A program is a value, so that it can be stopped at a call and taken up again, and so that
what it asks for can be stated for all replies at once.
-/

namespace QueryDesk

inductive Program {Call : Type} (Reply : Call → Type) (α : Type) where
  | done (result : α)
  | ask (call : Call) (next : Reply call → Program Reply α)

namespace Program

variable {Call : Type} {Reply : Call → Type} {α β σ : Type}

def andThen : Program Reply α → (α → Program Reply β) → Program Reply β
  | done a, f => f a
  | ask c next, f => ask c fun r => (next r).andThen f

instance : Monad (Program Reply) where
  pure := done
  bind := andThen

def call (c : Call) : Program Reply (Reply c) := ask c done

/-- Carries out each call by a program with calls of its own. -/
def via {Call' : Type} {Reply' : Call' → Type} (handle : (c : Call) → Program Reply' (Reply c)) :
    Program Reply α → Program Reply' α
  | done a => done a
  | ask c next => (handle c).andThen fun r => (next r).via handle

/-- Runs to the end in surroundings that answer every call. -/
def run (answer : (c : Call) → σ → Reply c × σ) : Program Reply α → σ → α × σ
  | done a, s => (a, s)
  | ask c next, s =>
    let (r, s) := answer c s
    (next r).run answer s

/-- Runs up to the first call that is not answered yet. `again` tells the surroundings that the call
at which the program stands was put before. -/
def advance (answer : Bool → (c : Call) → σ → Option (Reply c) × σ) :
    Bool → Program Reply α → σ → Program Reply α × σ
  | _, done a, s => (done a, s)
  | again, ask c next, s =>
    match answer again c s with
    | (some r, s) => (next r).advance answer false s
    | (none, s) => (ask c next, s)

def result? : Program Reply α → Option α
  | done a => some a
  | ask _ _ => none

theorem run_bind (answer : (c : Call) → σ → Reply c × σ) (p : Program Reply α)
    (f : α → Program Reply β) (s : σ) :
    (p >>= f).run answer s = (f (p.run answer s).1).run answer (p.run answer s).2 := by
  induction p generalizing s with
  | done a => rfl
  | ask c next ih => exact ih _ _

end Program

end QueryDesk
