import PlayPG.Containers

-- An index of a growing vector under the keys of its items, where the first item of a key keeps it.
namespace FirstCome

variable {α κ : Type _} [DecidableEq κ] {keys : α → List κ} {v : StdVector α} {m : UnorderedMap κ StdVector.Address}

theorem emplaceAll_apply (m : UnorderedMap κ β) (names : List κ) (value : β) (key : κ) :
    m.emplaceAll names value key = (m key).or (if key ∈ names then some value else none) := by
  cases old : m key with
  | some found => exact UnorderedMap.emplaceAll_found m names value old
  | none =>
    by_cases member : key ∈ names
    · rw [if_pos member]
      exact UnorderedMap.emplaceAll_fresh m names value member old
    · rw [if_neg member]
      cases new : m.emplaceAll names value key with
      | none => rfl
      | some found =>
        rcases UnorderedMap.emplaceAll_parts m names value new with prior | ⟨within,_⟩
        · rw [old] at prior
          cases prior
        · exact absurd within member

-- The address under a key is that of the first item with the key.
def Indexes (keys : α → List κ) (v : StdVector α) (m : UnorderedMap κ StdVector.Address) : Prop :=
  ∀ key, (m key).map (·.index) = v.items.findIdx? (fun item => decide (key ∈ keys item))

theorem indexes_empty (keys : α → List κ) (capacity : Nat) : Indexes keys (.reserved capacity) .empty := fun _ => rfl

theorem Indexes.add (indexes : Indexes keys v m) (item : α) :
    Indexes keys (v.emplaceBack item) (m.emplaceAll (keys item) (v.emplaceBack item).backAddress) := by
  intro key
  have back : (v.emplaceBack item).backAddress.index = v.items.length := by
    simp [StdVector.backAddress,StdVector.size]
  rw [emplaceAll_apply,StdVector.emplaceBack_items,List.findIdx?_append,← indexes key]
  cases m key with
  | some address => rfl
  | none =>
    by_cases member : key ∈ keys item
    · simp [member,back]
    · simp [member]

def first (keys : α → List κ) (items : List α) (key : κ) : Option α := items.find? (fun item => decide (key ∈ keys item))

theorem first_none : first keys items key = none ↔ ∀ item ∈ items, key ∉ keys item := by
  unfold first
  rw [List.find?_eq_none]
  simp only [decide_eq_true_eq]

-- So a key is found exactly when an item has it, and what is found is the first such item.
theorem Indexes.first (indexes : Indexes keys v m) (key : κ) :
    (m key).bind (fun address => v.items[address.index]?) = FirstCome.first keys v.items key := by
  unfold FirstCome.first
  have exact := indexes key
  cases found : m key with
  | none =>
    rw [found] at exact
    have absent := List.findIdx?_eq_none_iff.mp exact.symm
    exact (List.find?_eq_none.mpr (fun item member => by simpa using absent item member)).symm
  | some address =>
    rw [found] at exact
    obtain ⟨bound,holds,before⟩ := List.findIdx?_eq_some_iff_getElem.mp exact.symm
    have here : v.items[address.index]? = some v.items[address.index] := List.getElem?_eq_getElem bound
    rw [Option.bind_some,here]
    symm
    apply List.find?_eq_some_iff_getElem.mpr
    exact ⟨holds,address.index,bound,rfl,fun j earlier => by simpa using before j earlier⟩

theorem Indexes.absent (indexes : Indexes keys v m) : m key = none ↔ FirstCome.first keys v.items key = none := by
  have same := indexes key
  rw [first_none]
  constructor
  · intro none
    rw [none] at same
    have absent := List.findIdx?_eq_none_iff.mp same.symm
    intro item member
    simpa using absent item member
  · intro absent
    have none : v.items.findIdx? (fun item => decide (key ∈ keys item)) = none :=
      List.findIdx?_eq_none_iff.mpr (fun item member => by simpa using absent item member)
    rw [none] at same
    exact Option.map_eq_none_iff.mp same

theorem Indexes.deref (indexes : Indexes keys v m) (found : m key = some address) :
    v.deref address = if address.buffer = v.buffer then FirstCome.first keys v.items key else none := by
  have first := indexes.first key
  rw [found,Option.bind_some] at first
  rw [StdVector.deref,first]

end FirstCome
