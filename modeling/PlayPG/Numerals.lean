import Mathlib.Tactic.Ring

namespace Numerals

-- A way to write numbers: a base, and a symbol for each digit that reads back as that digit.
structure Radix (α : Type _) where
  base : Nat
  symbol : Nat → α
  read : α → Nat
  bound : 1 < base
  reads : ∀ digit < base, read (symbol digit) = digit

namespace Radix
variable {α : Type _} (radix : Radix α)

-- The most significant digit comes first, and no zero before it.
def numeral (n : Nat) : List α :=
  if n < radix.base then [radix.symbol n]
  else numeral (n / radix.base) ++ [radix.symbol (n % radix.base)]
termination_by n
decreasing_by
  have bound := radix.bound
  exact Nat.div_lt_self (by omega) bound

def value (symbols : List α) : Nat := symbols.foldl (fun n symbol => n * radix.base + radix.read symbol) 0

-- What a number is multiplied by when the numeral of m is written behind its own.
def shift (m : Nat) : Nat := radix.base ^ (radix.numeral m).length

theorem split_exact {n base digit : Nat} (small : digit < base) :
    (n * base + digit) / base = n ∧ (n * base + digit) % base = digit := by
  apply (Nat.div_mod_unique (Nat.zero_lt_of_lt small)).mpr
  exact ⟨by ring,small⟩

theorem value_append (front back : List α) :
    radix.value (front ++ back) = radix.value front * radix.base ^ back.length + radix.value back := by
  have all : ∀ n, back.foldl (fun n symbol => n * radix.base + radix.read symbol) n =
      n * radix.base ^ back.length + radix.value back := by
    unfold value
    induction back with
    | nil => simp
    | cons symbol rest ih =>
      intro n
      rw [List.foldl_cons,List.foldl_cons,ih,ih (0 * radix.base + radix.read symbol),List.length_cons,Nat.pow_succ]
      ring
  rw [value,List.foldl_append,all]
  rfl

theorem numeral_digit (small : digit < radix.base) : radix.numeral digit = [radix.symbol digit] := by
  rw [numeral,if_pos small]

-- One more digit behind a positive number.
theorem numeral_snoc (positive : 0 < n) (small : digit < radix.base) :
    radix.numeral (n * radix.base + digit) = radix.numeral n ++ [radix.symbol digit] := by
  have more := Nat.le_mul_of_pos_left radix.base positive
  obtain ⟨rest,last⟩ := split_exact (n:=n) small
  rw [numeral,if_neg (by omega),rest,last]

-- Numbers by their digits, the least significant one last.
theorem digits_induction {P : Nat → Prop} (single : ∀ digit < radix.base, P digit)
    (snoc : ∀ n digit, 0 < n → digit < radix.base → P n → P (n * radix.base + digit)) (n : Nat) : P n := by
  have base := Nat.zero_lt_of_lt radix.bound
  induction n using Nat.strongRecOn with
  | ind n ih =>
    by_cases small : n < radix.base
    · exact single n small
    · have positive : 0 < n / radix.base := Nat.div_pos (by omega) base
      have less : n / radix.base < n := Nat.div_lt_self (by omega) radix.bound
      have whole := snoc _ _ positive (Nat.mod_lt n base) (ih _ less)
      rw [Nat.div_add_mod'] at whole
      exact whole

theorem value_numeral (n : Nat) : radix.value (radix.numeral n) = n := by
  induction n using radix.digits_induction with
  | single digit small =>
    rw [numeral_digit radix small]
    simp [value,radix.reads digit small]
  | snoc n digit positive small ih =>
    rw [numeral_snoc radix positive small,value_append,ih]
    simp [value,radix.reads digit small]

-- The numeral of m behind that of a positive number is again a numeral.
theorem numeral_append (positive : 0 < n) (m : Nat) :
    radix.numeral (n * radix.shift m + m) = radix.numeral n ++ radix.numeral m := by
  induction m using radix.digits_induction with
  | single digit small =>
    rw [shift,numeral_digit radix small]
    simp only [List.length_singleton,Nat.pow_one]
    exact radix.numeral_snoc positive small
  | snoc m digit some small ih =>
    have shifted : radix.shift (m * radix.base + digit) = radix.shift m * radix.base := by
      rw [shift,numeral_snoc radix some small,List.length_append,List.length_singleton,Nat.pow_succ]
      rfl
    have whole : n * radix.shift (m * radix.base + digit) + (m * radix.base + digit) =
        (n * radix.shift m + m) * radix.base + digit := by
      rw [shifted]
      ring
    rw [whole,numeral_snoc radix (by omega) small,ih,numeral_snoc radix some small,List.append_assoc]

theorem lt_shift (m : Nat) : m < radix.shift m := by
  induction m using radix.digits_induction with
  | single digit small =>
    rw [shift,numeral_digit radix small]
    simpa using small
  | snoc m digit some small ih =>
    rw [shift,numeral_snoc radix some small,List.length_append,List.length_singleton,Nat.pow_succ]
    have next : (m + 1) * radix.base ≤ radix.shift m * radix.base := Nat.mul_le_mul_right _ ih
    rw [Nat.add_mul,Nat.one_mul] at next
    exact Nat.lt_of_lt_of_le (by omega) next

-- The first digits of k stand at the end of the longer text, and the others are m.
structure Carries (front : List α) (k : Nat) (longer : List α) (m : Nat) : Prop where
  more : radix.shift m ≤ k
  rest : k % radix.shift m = m
  longer : longer = front ++ radix.numeral (k / radix.shift m)

theorem carries_append (carries : radix.Carries front k longer m) :
    front ++ radix.numeral k = longer ++ radix.numeral m := by
  have positive : 0 < k / radix.shift m := Nat.div_pos carries.more (Nat.zero_lt_of_lt (radix.lt_shift m))
  have whole := Nat.div_add_mod' k (radix.shift m)
  rw [carries.rest] at whole
  have split := radix.numeral_append positive m
  rw [whole] at split
  rw [split,carries.longer,List.append_assoc]

-- What stands before the numeral of m in that of k is a numeral too.
theorem append_carries (whole : radix.numeral k = moved ++ radix.numeral m) :
    moved = [] ∧ k = m ∨ radix.Carries front k (front ++ moved) m := by
  have sum : k = radix.value moved * radix.shift m + m := by
    have values := congrArg radix.value whole
    rwa [value_append,value_numeral,value_numeral] at values
  by_cases zero : radix.value moved = 0
  · have same : k = m := by rw [sum,zero,Nat.zero_mul,Nat.zero_add]
    rw [same] at whole
    exact .inl ⟨List.append_left_eq_self.mp whole.symm,same⟩
  · have positive : 0 < radix.value moved := Nat.pos_of_ne_zero zero
    have digits : moved = radix.numeral (radix.value moved) := by
      have split := radix.numeral_append positive m
      rw [← sum,whole] at split
      exact List.append_cancel_right split
    obtain ⟨quotient,remainder⟩ := split_exact (n:=radix.value moved) (radix.lt_shift m)
    rw [← sum] at quotient remainder
    have more := Nat.le_mul_of_pos_left (radix.shift m) positive
    exact .inr ⟨by omega,remainder,by rw [quotient,← digits]⟩

-- Without a mark between them, a text and a number are one text with the same
-- two exactly if they are the same two, or digits of one number have been carried over.
theorem append_exact (front other : List α) (k m : Nat) :
    front ++ radix.numeral k = other ++ radix.numeral m ↔
      (front = other ∧ k = m) ∨ radix.Carries front k other m ∨ radix.Carries other m front k := by
  constructor
  · intro whole
    rcases List.append_eq_append_iff.mp whole with ⟨moved,longer,rest⟩ | ⟨moved,longer,rest⟩
    · rcases radix.append_carries rest with ⟨rfl,same⟩ | carries
      · exact .inl ⟨by rw [longer,List.append_nil],same⟩
      · exact .inr (.inl (longer ▸ carries))
    · rcases radix.append_carries rest with ⟨rfl,same⟩ | carries
      · exact .inl ⟨by rw [longer,List.append_nil],same.symm⟩
      · exact .inr (.inr (longer ▸ carries))
  · intro ways
    rcases ways with ⟨rfl,rfl⟩ | carries | carries
    · rfl
    · exact radix.carries_append carries
    · exact (radix.carries_append carries).symm

end Radix
end Numerals
