import Mathlib.Data.List.Perm.Subperm

-- std::unordered_map, by the value found under each key.
abbrev UnorderedMap (α β : Type _) := α → Option β

namespace UnorderedMap
variable {α β : Type _}

def empty : UnorderedMap α β := fun _ => none

@[simp] theorem empty_apply (key : α) : (empty : UnorderedMap α β) key = none := rfl

variable [DecidableEq α]

-- An existing entry stays; emplace does not overwrite.
def emplace (m : UnorderedMap α β) (key : α) (value : β) : UnorderedMap α β :=
  fun k => if k = key then (m key).orElse (fun _ => some value) else m k

def erase (m : UnorderedMap α β) (key : α) : UnorderedMap α β :=
  fun k => if k = key then none else m k

theorem emplace_found (m : UnorderedMap α β) (key : α) (value : β) (found : m k = some v) :
    m.emplace key value k = some v := by
  by_cases same : k = key
  · subst k; simp [emplace,found]
  · simp [emplace,same,found]

theorem emplace_absent (m : UnorderedMap α β) (value : β) (absent : m key = none) :
    m.emplace key value key = some value := by simp [emplace,absent]

theorem emplace_other (m : UnorderedMap α β) (value : β) (other : k ≠ key) :
    m.emplace key value k = m k := by simp [emplace,other]

theorem emplace_parts (m : UnorderedMap α β) (key : α) (value : β) (found : m.emplace key value k = some v) :
    m k = some v ∨ (k = key ∧ v = value ∧ m key = none) := by
  by_cases same : k = key
  · subst k
    cases old : m key with
    | none => rw [emplace_absent m value old] at found; exact .inr ⟨rfl,(Option.some.inj found).symm,rfl⟩
    | some w => rw [emplace_found m key value old] at found; exact .inl found
  · rw [emplace_other m value same] at found; exact .inl found

-- A loop that emplaces one value under each key of a list.
def emplaceAll (m : UnorderedMap α β) (keys : List α) (value : β) : UnorderedMap α β :=
  keys.foldl (fun m key => m.emplace key value) m

theorem emplaceAll_found (m : UnorderedMap α β) (keys : List α) (value : β) (found : m k = some v) :
    m.emplaceAll keys value k = some v := by
  induction keys generalizing m with
  | nil => exact found
  | cons key keys ih => exact ih (m.emplace key value) (emplace_found m key value found)

theorem emplaceAll_parts (m : UnorderedMap α β) (keys : List α) (value : β)
    (found : m.emplaceAll keys value k = some v) : m k = some v ∨ (k ∈ keys ∧ v = value ∧ m k = none) := by
  induction keys generalizing m with
  | nil => exact .inl found
  | cons key keys ih =>
    rcases ih (m.emplace key value) found with old | ⟨member,equal,absent⟩
    · rcases emplace_parts m key value old with prior | ⟨rfl,equal,absent⟩
      · exact .inl prior
      · exact .inr ⟨by simp,equal,absent⟩
    · refine .inr ⟨by simp [member],equal,?_⟩
      cases prior : m k with
      | none => rfl
      | some w => rw [emplace_found m key value prior] at absent; cases absent

theorem emplaceAll_fresh (m : UnorderedMap α β) (keys : List α) (value : β) (member : k ∈ keys)
    (absent : m k = none) : m.emplaceAll keys value k = some value := by
  induction keys generalizing m with
  | nil => cases member
  | cons key keys ih =>
    by_cases same : k = key
    · subst k
      exact emplaceAll_found _ keys value (emplace_absent m value absent)
    · have tail : k ∈ keys := (List.mem_cons.mp member).resolve_left same
      exact ih (m.emplace key value) tail (by rw [emplace_other m value same,absent])

omit [DecidableEq α] in
theorem held_bound (m : UnorderedMap α β) (keys : List α) (values : List β) (distinct : values.Nodup)
    (held : ∀ value ∈ values, ∃ key ∈ keys, m key = some value) :
    values.length ≤ (keys.filter (fun key => (m key).isSome)).length := by
  have within : values ⊆ (keys.filter (fun key => (m key).isSome)).filterMap m := by
    intro value member
    obtain ⟨key,known,found⟩ := held value member
    exact List.mem_filterMap.mpr ⟨key,List.mem_filter.mpr ⟨known,by simp [found]⟩,found⟩
  exact Nat.le_trans (distinct.subperm within).length_le (List.length_filterMap_le ..)

omit [DecidableEq α] in
theorem held_room (m : UnorderedMap α β) (keys : List α) (values : List β) (distinct : values.Nodup)
    (held : ∀ value ∈ values, ∃ key ∈ keys, m key = some value) (known : key ∈ keys) (absent : m key = none) :
    values.length < keys.length := by
  apply Nat.lt_of_le_of_lt (held_bound m keys values distinct held)
  exact List.length_filter_lt_length_iff_exists.mpr ⟨key,known,by simp [absent]⟩

end UnorderedMap

-- Growing past the capacity moves the elements of a std::vector to a new buffer.
structure StdVector (α : Type _) where
  items : List α
  capacity : Nat
  buffer : Nat

namespace StdVector
variable {α : Type _}

structure Address where
  buffer : Nat
  index : Nat
  deriving DecidableEq

def reserved (capacity : Nat) : StdVector α := ⟨[],capacity,0⟩

def size (v : StdVector α) : Nat := v.items.length

def emplaceBack (v : StdVector α) (item : α) : StdVector α :=
  if v.size < v.capacity then ⟨v.items ++ [item],v.capacity,v.buffer⟩
  else ⟨v.items ++ [item],v.size + max v.size 1,v.buffer+1⟩

-- The address of back(), as a loop takes it right after emplace_back.
def backAddress (v : StdVector α) : Address := ⟨v.buffer,v.size - 1⟩

def deref (v : StdVector α) (address : Address) : Option α :=
  if address.buffer = v.buffer then v.items[address.index]? else none

@[simp] theorem emplaceBack_items (v : StdVector α) (item : α) :
    (v.emplaceBack item).items = v.items ++ [item] := by unfold emplaceBack; split <;> rfl

theorem emplaceBack_room (v : StdVector α) (item : α) (room : v.size < v.capacity) :
    v.emplaceBack item = ⟨v.items ++ [item],v.capacity,v.buffer⟩ := by simp [emplaceBack,room]

end StdVector
