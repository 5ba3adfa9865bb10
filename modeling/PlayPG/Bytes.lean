import Mathlib.Data.List.TakeWhile
import Mathlib.Tactic.Ring

abbrev Bytes := List UInt8

namespace Bytes

-- The bytes of a literal of the source.
def text (s : String) : Bytes := s.toUTF8.data.toList

-- What a std::string built from c_str() keeps: everything before the first NUL.
def cString (s : Bytes) : Bytes := s.takeWhile (· ≠ 0)

-- Unsigned integers as a fixed number of bytes, most significant byte first.
def putBig : Nat → Nat → Bytes
  | 0,_ => []
  | width+1,n => putBig width (n / 256) ++ [UInt8.ofNat n]

def getBig (bytes : Bytes) : Nat := bytes.foldl (fun n byte => 256*n + byte.toNat) 0

@[simp] theorem putBig_length (width n : Nat) : (putBig width n).length = width := by
  induction width generalizing n with
  | zero => rfl
  | succ width ih => simp [putBig,ih]

theorem getBig_putBig (width n : Nat) : getBig (putBig width n) = n % 256^width := by
  induction width generalizing n with
  | zero => simp [putBig,getBig,Nat.mod_one]
  | succ width ih =>
    have digits : getBig (putBig (width+1) n) = 256 * getBig (putBig width (n / 256)) + n % 256 := by
      simp [putBig,getBig,List.foldl_append]
    rw [digits,ih,Nat.pow_succ',Nat.mod_mul]
    ring

end Bytes
