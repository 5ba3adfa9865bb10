import Mathlib.Data.List.TakeWhile

namespace Marks
variable {α : Type _} {keep : α → Bool}

-- The positions of the elements with a property, counted from start.
def positions (keep : α → Bool) (start : Nat) (l : List α) : List Nat :=
  ((l.zipIdx start).filter fun entry => keep entry.1).map Prod.snd

theorem positions_cons (keep : α → Bool) (start : Nat) (a : α) (l : List α) : positions keep start (a :: l) =
    if keep a then start :: positions keep (start + 1) l else positions keep (start + 1) l := by
  simp only [positions,List.zipIdx_cons,List.filter_cons]
  cases keep a <;> rfl

theorem positions_append (keep : α → Bool) (start : Nat) (left right : List α) :
    positions keep start (left ++ right) = positions keep start left ++ positions keep (start + left.length) right := by
  simp only [positions,List.zipIdx_append,List.filter_append,List.map_append]

theorem mem_positions : i ∈ positions keep start l ↔ start ≤ i ∧ ∃ a, l[i - start]? = some a ∧ keep a = true := by
  simp only [positions,List.mem_map,List.mem_filter,List.mem_zipIdx_iff_le_and_getElem?_sub]
  constructor
  · intro marked
    obtain ⟨⟨a,_⟩,⟨⟨low,found⟩,kept⟩,rfl⟩ := marked
    exact ⟨low,a,found,kept⟩
  · intro marked
    obtain ⟨low,a,found,kept⟩ := marked
    exact ⟨(a,i),⟨⟨low,found⟩,kept⟩,rfl⟩

theorem positions_lt (member : i ∈ positions keep start l) : i < start + l.length := by
  obtain ⟨low,a,found,_⟩ := mem_positions.mp member
  have bound : i - start < l.length := (List.getElem?_eq_some_iff.mp found).1
  omega

theorem positions_increasing (keep : α → Bool) (start : Nat) (l : List α) : (positions keep start l).Pairwise (· < ·) := by
  induction l generalizing start with
  | nil => exact .nil
  | cons a l ih =>
    rw [positions_cons]
    split
    · refine List.pairwise_cons.mpr ⟨fun i later => ?_,ih _⟩
      exact (mem_positions.mp later).1
    · exact ih _

theorem positions_free (none : ∀ a ∈ l, keep a = false) : positions keep start l = [] := by
  rw [List.eq_nil_iff_forall_not_mem]
  intro i member
  obtain ⟨_,a,found,kept⟩ := mem_positions.mp member
  rw [none a (List.mem_of_getElem? found)] at kept
  cases kept

theorem positions_mem (keep : α → Bool) (start : Nat) (member : a ∈ l) (kept : keep a = true) : ∃ i, i ∈ positions keep start l := by
  obtain ⟨i,found⟩ := List.getElem?_of_mem member
  exact ⟨start + i,mem_positions.mpr ⟨Nat.le_add_right _ _,a,by simpa using found,kept⟩⟩

-- A scan that stops at fewer elements goes on from where the other one stops.
theorem takeWhile_further {p q : α → Bool} (fewer : ∀ a, p a = true → q a = true) (l : List α) :
    l.takeWhile q = l.takeWhile p ++ (l.dropWhile p).takeWhile q := by
  calc l.takeWhile q = (l.takeWhile p ++ l.dropWhile p).takeWhile q := by rw [List.takeWhile_append_dropWhile]
    _ = l.takeWhile p ++ (l.dropWhile p).takeWhile q :=
      List.takeWhile_append_of_pos fun a member => fewer a (List.mem_takeWhile_imp member)

end Marks
