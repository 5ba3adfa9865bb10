import Mathlib.Data.List.Induction
import Mathlib.Order.Bounds.Defs
import Mathlib.Order.Lattice

namespace Newest
variable {α ν : Type _} [LinearOrder ν] (version : α → ν)

-- Only a higher version replaces the entry that is held.
def keep (held : Option α) (new : α) : α :=
  match held with
  | none => new
  | some held => if version held < version new then new else held

theorem keep_mem (held : Option α) (new : α) : keep version held new = new ∨ held = some (keep version held new) := by
  cases held with
  | none => exact .inl rfl
  | some old =>
    by_cases higher : version old < version new
    · exact .inl (if_pos higher)
    · exact .inr (congrArg some (if_neg higher).symm)

theorem keep_new (held : Option α) (new : α) : version new ≤ version (keep version held new) := by
  cases held with
  | none => exact le_rfl
  | some old =>
    by_cases higher : version old < version new
    · simp only [keep,if_pos higher,le_refl]
    · simp only [keep,if_neg higher]
      exact not_lt.mp higher

theorem keep_held (old new : α) : version old ≤ version (keep version (some old) new) := by
  by_cases higher : version old < version new
  · simp only [keep,if_pos higher]
    exact le_of_lt higher
  · simp only [keep,if_neg higher,le_refl]

def newest (entries : List α) : Option α := entries.foldl (fun held new => some (keep version held new)) none

theorem newest_snoc (entries : List α) (new : α) :
    newest version (entries ++ [new]) = some (keep version (newest version entries) new) := by
  rw [newest,List.foldl_append]
  rfl

theorem newest_none (empty : newest version entries = none) : entries = [] := by
  cases entries using List.reverseRecOn with
  | nil => rfl
  | append_singleton init last =>
    rw [newest_snoc] at empty
    cases empty

theorem newest_mem (entries : List α) (found : newest version entries = some e) : e ∈ entries := by
  induction entries using List.reverseRecOn generalizing e with
  | nil => cases found
  | append_singleton entries new ih =>
    rw [newest_snoc,Option.some.injEq] at found
    subst found
    rcases keep_mem version (newest version entries) new with last | early
    · rw [last]
      exact List.mem_append_right _ (List.mem_singleton_self _)
    · exact List.mem_append_left _ (ih early)

theorem newest_bound (entries : List α) (found : newest version entries = some e) (member : other ∈ entries) :
    version other ≤ version e := by
  induction entries using List.reverseRecOn generalizing e with
  | nil => cases member
  | append_singleton entries new ih =>
    rw [newest_snoc,Option.some.injEq] at found
    subst found
    rcases List.mem_append.mp member with early | last
    · cases held : newest version entries with
      | none => rw [newest_none version held] at early; cases early
      | some old => exact le_trans (ih held early) (keep_held version old new)
    · rw [List.mem_singleton.mp last]
      exact keep_new version _ new

theorem newest_greatest (entries : List α) (found : newest version entries = some e) :
    IsGreatest {v | ∃ other ∈ entries, version other = v} (version e) := by
  refine ⟨⟨e,newest_mem version entries found,rfl⟩,?_⟩
  intro _ present
  obtain ⟨other,member,rfl⟩ := present
  exact newest_bound version entries found member

end Newest
