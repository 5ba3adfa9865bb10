import Mathlib.Data.List.Nodup
import PlayPG.Containers

-- Items kept in a list, with a map that finds a value for each key. Items are
-- added with emplace; a purge erases the key of each item that it removes.
namespace Registry
variable {κ ρ : Type _}

-- What the map finds is in the list.
def Sound (items : List (κ × ρ)) (index : UnorderedMap κ ρ) : Prop :=
  ∀ key value, index key = some value → (key,value) ∈ items

-- What is in the list is found in the map.
def Complete (items : List (κ × ρ)) (index : UnorderedMap κ ρ) : Prop :=
  ∀ item ∈ items, index item.1 = some item.2

theorem sound_empty : Sound ([] : List (κ × ρ)) .empty := by intro key value found; cases found

theorem Sound.absent {items : List (κ × ρ)} {index : UnorderedMap κ ρ} (sound : Sound items index)
    (unused : ∀ item ∈ items, item.1 ≠ key) : index key = none := by
  cases found : index key with
  | none => rfl
  | some value => exact absurd rfl (unused _ (sound key value found))

theorem Complete.keys {items : List (κ × ρ)} {index : UnorderedMap κ ρ} (complete : Complete items index)
    (distinct : (items.map Prod.snd).Nodup) : (items.map Prod.fst).Nodup := by
  have injective : ∀ one ∈ items, ∀ two ∈ items, one.1 = two.1 → one = two := by
    intro one first two second same
    have value := (complete one first).symm.trans ((congrArg index same).trans (complete two second))
    exact Prod.ext same (Option.some.inj value)
  exact List.Nodup.map_on injective (List.Nodup.of_map _ distinct)

variable [DecidableEq κ]

def add (index : UnorderedMap κ ρ) (item : κ × ρ) : UnorderedMap κ ρ := index.emplace item.1 item.2

inductive Purge : List (κ × ρ) → UnorderedMap κ ρ → List (κ × ρ) → UnorderedMap κ ρ → Prop where
  | nil : Purge [] index [] index
  | keep : Purge items index kept next → Purge (item :: items) index (item :: kept) next
  | lose : Purge items (index.erase item.1) kept next → Purge (item :: items) index kept next

variable {items kept : List (κ × ρ)} {index next : UnorderedMap κ ρ} {item : κ × ρ}

theorem Sound.add (sound : Sound items index) : Sound (items ++ [item]) (Registry.add index item) := by
  intro key value found
  rcases index.emplace_parts item.1 item.2 found with old | ⟨rfl,rfl,_⟩
  · exact List.mem_append_left _ (sound key value old)
  · exact List.mem_append_right _ (List.mem_singleton_self _)

theorem Complete.add (complete : Complete items index) (absent : index item.1 = none) :
    Complete (items ++ [item]) (Registry.add index item) := by
  intro other member
  rcases List.mem_append.mp member with old | new
  · exact index.emplace_found item.1 item.2 (complete other old)
  · obtain rfl := List.mem_singleton.mp new
    exact index.emplace_absent other.2 absent

theorem Purge.found (purge : Purge items index kept next) (found : next key = some value) : index key = some value := by
  induction purge with
  | nil => exact found
  | keep rest ih => exact ih found
  | lose rest ih =>
    have erased := ih found
    unfold UnorderedMap.erase at erased
    split at erased
    · cases erased
    · exact erased

theorem Purge.sublist (purge : Purge items index kept next) : kept.Sublist items := by
  induction purge with
  | nil => exact .slnil
  | keep rest ih => exact ih.cons_cons _
  | lose rest ih => exact ih.cons _

theorem Purge.removed (purge : Purge items index kept next) (member : item ∈ items) (gone : item ∉ kept) :
    next item.1 = none := by
  induction purge with
  | nil => cases member
  | keep rest ih =>
    rcases List.mem_cons.mp member with rfl | later
    · exact absurd List.mem_cons_self gone
    · exact ih later fun stays => gone (List.mem_cons_of_mem _ stays)
  | lose rest ih =>
    rcases List.mem_cons.mp member with rfl | later
    · apply Option.eq_none_iff_forall_ne_some.mpr
      intro value found
      have erased := rest.found found
      rw [UnorderedMap.erase,if_pos rfl] at erased
      cases erased
    · exact ih later gone

theorem Purge.stays (purge : Purge items index kept next) (found : next key = some value)
    (member : (key,value) ∈ items) : (key,value) ∈ kept := by
  induction purge with
  | nil => cases member
  | keep rest ih =>
    rcases List.mem_cons.mp member with rfl | later
    · exact List.mem_cons_self ..
    · exact List.mem_cons_of_mem _ (ih found later)
  | lose rest ih =>
    rcases List.mem_cons.mp member with rfl | later
    · exact absurd (rest.found found) (by simp [UnorderedMap.erase])
    · exact ih found later

theorem Purge.sound (purge : Purge items index kept next) (sound : Sound items index) : Sound kept next := by
  intro key value found
  exact purge.stays found (sound key value (purge.found found))

theorem Purge.other (purge : Purge items index kept next) (unused : ∀ item ∈ items, item.1 ≠ key) :
    next key = index key := by
  induction purge with
  | nil => rfl
  | keep rest ih => exact ih (fun item member => unused item (List.mem_cons_of_mem _ member))
  | @lose items kept next item index rest ih =>
    rw [ih (fun other member => unused other (List.mem_cons_of_mem _ member))]
    exact if_neg (unused item (List.mem_cons_self ..)).symm

theorem Purge.complete (purge : Purge items index kept next) (complete : Complete items index)
    (distinct : (items.map Prod.fst).Nodup) : Complete kept next := by
  induction purge with
  | nil => intro item member; cases member
  | @keep items index kept next item rest ih =>
    obtain ⟨single,distinct⟩ := List.nodup_cons.mp distinct
    intro other member
    have unused : ∀ one ∈ items, one.1 ≠ item.1 := fun one within same => single (same ▸ List.mem_map_of_mem within)
    rcases List.mem_cons.mp member with rfl | later
    · rw [rest.other unused]
      exact complete other (List.mem_cons_self ..)
    · exact ih (fun one within => complete one (List.mem_cons_of_mem _ within)) distinct other later
  | @lose items kept next item index rest ih =>
    obtain ⟨single,distinct⟩ := List.nodup_cons.mp distinct
    refine ih (fun one within => ?_) distinct
    have differs : one.1 ≠ item.1 := fun same => single (same ▸ List.mem_map_of_mem within)
    exact (if_neg differs).trans (complete one (List.mem_cons_of_mem _ within))

end Registry
