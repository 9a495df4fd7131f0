/-!
# Big-endian numbers

Numbers as bytes, the most significant byte first. Main statement: the number of some bytes is below
256 to the power of their count.
-/

namespace QueryDesk.Number

def bigEndian (bytes : List UInt8) : Nat := bytes.foldl (fun n b => 256 * n + b.toNat) 0

def bigEndianSigned (bytes : List UInt8) : Int :=
  let n := bigEndian bytes
  let size := Nat.pow 256 bytes.length
  if 2 * n < size then n else (n : Int) - size

/-- Bytes in pairs as numbers of 16 bits; an odd byte at the end is dropped. -/
def words : List UInt8 → List Nat
  | a :: b :: rest => bigEndian [a, b] :: words rest
  | _ => []

theorem foldl_lt (bytes : List UInt8) (n : Nat) :
    bytes.foldl (fun n b => 256 * n + b.toNat) n < (n + 1) * Nat.pow 256 bytes.length := by
  induction bytes generalizing n with
  | nil => simp
  | cons b rest ih =>
    have hb := b.toNat_lt
    calc rest.foldl (fun n b => 256 * n + b.toNat) (256 * n + b.toNat)
        < (256 * n + b.toNat + 1) * Nat.pow 256 rest.length := ih _
      _ ≤ ((n + 1) * 256) * Nat.pow 256 rest.length := Nat.mul_le_mul_right _ (by omega)
      _ = (n + 1) * Nat.pow 256 (b :: rest).length := by
        rw [Nat.mul_assoc, Nat.mul_comm 256, List.length_cons]; rfl

theorem bigEndian_lt (bytes : List UInt8) : bigEndian bytes < Nat.pow 256 bytes.length := by
  have h := foldl_lt bytes 0
  rwa [Nat.zero_add, Nat.one_mul] at h

theorem words_length (bytes : List UInt8) : (words bytes).length = bytes.length / 2 := by
  induction bytes using words.induct with
  | case1 a b rest ih => simp only [words, List.length_cons, ih]; omega
  | case2 bytes h =>
    match bytes, h with
    | [], _ => rfl
    | [_], _ => simp [words]
    | a :: b :: r, h => exact absurd rfl (h a b r)

end QueryDesk.Number
