import QueryDesk.Failure

/-!
# Pages

A page is a window of rows: a size between one and a largest size, and an offset that fits 64 bits.
One row more than the size is asked for, to know whether another page follows.
-/

namespace QueryDesk

def maxPageSize : Nat := 1000

structure Page where
  size : Nat
  offset : Nat
deriving DecidableEq, Inhabited

namespace Page

def clamp (size : Nat) : Nat := min maxPageSize (max 1 size)

def window (size number : Nat) : Except Failure Page :=
  let size := clamp size
  if size * number < Nat.pow 2 64 then .ok ⟨size, size * number⟩
  else .error (.validation ("Page " ++ toString number ++ " is out of range"))

/-- The rows of the page, from rows asked for with one to spare, and whether more follow. -/
def cut {α : Type} (p : Page) (rows : List α) : List α × Bool :=
  if p.size < rows.length then (rows.take p.size, true) else (rows, false)

end Page

end QueryDesk
