import Mathlib.Data.List.Induction

namespace Grid

-- The cells of a width by height grid, row after row.
def cells (width height : Nat) : List (Nat × Nat) :=
  (List.range height).flatMap fun y => (List.range width).map fun x => (x,y)

def index (width x y : Nat) : Nat := x + width * y

theorem cells_succ (width height : Nat) :
    cells width (height + 1) = cells width height ++ (List.range width).map fun x => (x,height) := by
  simp [cells,List.range_succ]

theorem cells_length (width height : Nat) : (cells width height).length = width * height := by
  induction height with
  | zero => rfl
  | succ height ih => rw [cells_succ,List.length_append,ih,List.length_map,List.length_range,Nat.mul_succ]

theorem index_lt (inside : x < width) (below : y < height) : index width x y < width * height := by
  calc index width x y < width + width * y := Nat.add_lt_add_right inside _
    _ = width * (y + 1) := by rw [Nat.mul_succ,Nat.add_comm]
    _ ≤ width * height := Nat.mul_le_mul_left _ below

theorem cells_index (inside : x < width) (below : y < height) : (cells width height)[index width x y]? = some (x,y) := by
  induction height with
  | zero => cases below
  | succ height ih =>
    rw [cells_succ]
    rcases Nat.lt_succ_iff_lt_or_eq.mp below with earlier | rfl
    · rw [List.getElem?_append_left (by rw [cells_length]; exact index_lt inside earlier)]
      exact ih earlier
    · have start : (cells width y).length ≤ index width x y := by
        rw [cells_length]
        exact Nat.le_add_left _ _
      rw [List.getElem?_append_right start,cells_length,index,Nat.add_sub_cancel,List.getElem?_map,
        List.getElem?_range inside]
      rfl

theorem cells_mem (member : (x,y) ∈ cells width height) : x < width ∧ y < height := by
  obtain ⟨row,below,member⟩ := List.mem_flatMap.mp member
  obtain ⟨column,inside,same⟩ := List.mem_map.mp member
  cases same
  exact ⟨List.mem_range.mp inside,List.mem_range.mp below⟩

-- The index formula finds the place of a cell back.
theorem cells_position (present : (cells width height)[i]? = some (x,y)) : index width x y = i := by
  obtain ⟨bound,_⟩ := List.getElem?_eq_some_iff.mp present
  rw [cells_length] at bound
  have positive : 0 < width := Nat.pos_of_mul_pos_right (Nat.zero_lt_of_lt bound)
  have here := cells_index (Nat.mod_lt i positive) (Nat.div_lt_of_lt_mul bound)
  rw [index,Nat.mod_add_div] at here
  rw [here] at present
  cases present
  exact Nat.mod_add_div i width

-- The index as it is computed in 32 bits: no product wraps around inside such a grid.
theorem index_word {x y width height : Nat} (inside : x < width) (below : y < height)
    (area : width * height < UInt32.size) :
    (UInt32.ofNat x + UInt32.ofNat width * UInt32.ofNat y).toNat = index width x y := by
  have bound : x + width * y < UInt32.size := Nat.lt_trans (index_lt inside below) area
  rw [index,← UInt32.ofNat_mul,← UInt32.ofNat_add]
  exact UInt32.toNat_ofNat_of_lt' bound

-- What a loop is left with that remembers every element it finds.
def lastOf (found : α → Bool) (xs : List α) : Option α :=
  xs.foldl (fun last x => if found x then some x else last) none

theorem lastOf_concat (found : α → Bool) (xs : List α) (x : α) :
    lastOf found (xs ++ [x]) = if found x then some x else lastOf found xs := by
  rw [lastOf,List.foldl_append]
  rfl

theorem lastOf_some (found : α → Bool) (member : x ∈ xs) (here : found x) : ∃ last, lastOf found xs = some last := by
  induction xs using List.reverseRecOn with
  | nil => cases member
  | append_singleton xs y ih =>
    rw [lastOf_concat]
    split
    · exact ⟨y,rfl⟩
    · rename_i other
      rcases List.mem_append.mp member with earlier | final
      · exact ih earlier
      · obtain rfl := List.mem_singleton.mp final
        exact absurd here other

theorem lastOf_parts (last : lastOf found xs = some x) :
    ∃ i : Nat, xs[i]? = some x ∧ found x ∧ ∀ (j : Nat) z, xs[j]? = some z → found z → j ≤ i := by
  induction xs using List.reverseRecOn with
  | nil => simp [lastOf] at last
  | append_singleton xs y ih =>
    rw [lastOf_concat] at last
    split at last
    · rename_i here
      cases last
      refine ⟨xs.length,by simp,here,?_⟩
      intro j z present _
      obtain ⟨bound,_⟩ := List.getElem?_eq_some_iff.mp present
      rw [List.length_append,List.length_singleton] at bound
      omega
    · rename_i other
      obtain ⟨i,present,here,final⟩ := ih last
      obtain ⟨bound,_⟩ := List.getElem?_eq_some_iff.mp present
      refine ⟨i,by rw [List.getElem?_append_left bound,present],here,?_⟩
      intro j z within marked
      by_cases earlier : j < xs.length
      · rw [List.getElem?_append_left earlier] at within
        exact final j z within marked
      · rw [List.getElem?_append_right (by omega),List.getElem?_singleton] at within
        split at within
        · cases within
          exact absurd marked other
        · cases within

end Grid
