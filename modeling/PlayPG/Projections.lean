import PlayPG.Runs

namespace Projections
open Runs

variable {σ ε ω φ π δ α ψ : Type _} {step : Machine σ ε ω φ} {part : Machine π δ α ψ}

-- The events of a run that concern one part of the state, as events of that part.
def own (step : Machine σ ε ω φ) (pick : σ → ε → Option δ) : σ → List ε → List δ
  | _,[] => []
  | s,event :: events => (pick s event).toList ++
    match step s event with
    | .error _ => []
    | .ok (next,_) => own step pick next events

theorem own_snoc {pick : σ → ε → Option δ} (path : Run step s events trace t) (event : ε) :
    own step pick s (events ++ [event]) = own step pick s events ++ (pick t event).toList := by
  induction events generalizing s trace with
  | nil =>
    obtain ⟨rfl,_⟩ := path.nil_inv
    simp only [List.nil_append,own]
    cases step t event with
    | error fault => exact List.append_nil _
    | ok result => exact List.append_nil _
  | cons first events ih =>
    obtain ⟨next,fresh,rest,ran,onward,rfl⟩ := path.cons_inv
    simp only [List.cons_append,own,ran,ih onward,List.append_assoc]

-- The part takes the steps that concern it by a machine of its own, and no others.
structure Part (step : Machine σ ε ω φ) (part : Machine π δ α ψ) (pick : σ → ε → Option δ) (view : σ → π)
    (seen : ω → Option α) (I : σ → Prop) : Prop where
  kept : ∀ {s event t fresh}, I s → step s event = .ok (t,fresh) → I t
  apart : ∀ {s event t fresh}, I s → step s event = .ok (t,fresh) → pick s event = none →
    view t = view s ∧ fresh.filterMap seen = []
  turned : ∀ {s event t fresh turn}, I s → step s event = .ok (t,fresh) → pick s event = some turn →
    part (view s) turn = .ok (view t,fresh.filterMap seen)

variable {pick : σ → ε → Option δ} {view : σ → π} {seen : ω → Option α} {I : σ → Prop}

-- So a run of the whole is, seen from the part, a run of the part on its own events.
theorem Part.run (projects : Part step part pick view seen I) (initial : I s) (path : Run step s events trace t) :
    Run part (view s) (own step pick s events) (trace.filterMap seen) (view t) := by
  induction events generalizing s trace with
  | nil =>
    obtain ⟨rfl,rfl⟩ := path.nil_inv
    exact .nil
  | cons event events ih =>
    obtain ⟨next,fresh,rest,ran,onward,rfl⟩ := path.cons_inv
    have later := ih (projects.kept initial ran) onward
    simp only [own,ran]
    rw [List.filterMap_append]
    cases picked : pick s event with
    | none =>
      obtain ⟨same,silent⟩ := projects.apart initial ran picked
      rw [silent,← same]
      exact later
    | some turn => exact .cons (projects.turned initial ran picked) later

-- The words along the edges of a labelled graph.
inductive Walk (Next : π → List α → π → Prop) (p : π) : List α → π → Prop where
  | nil : Walk Next p [] p
  | snoc : Walk Next p word q → Next q label r → Walk Next p (word ++ label) r

variable {Next : π → List α → π → Prop}

theorem run_walk (view : σ → π) {I : σ → Prop} {step : Machine σ ε α φ} (path : Run step s events trace t) (initial : I s)
    (kept : ∀ {s event t fresh}, I s → step s event = .ok (t,fresh) → I t)
    (follows : ∀ {s event t fresh}, I s → step s event = .ok (t,fresh) → Next (view s) fresh (view t)) :
    Walk Next (view s) trace (view t) := by
  induction path with
  | nil => exact .nil
  | snoc prior ran ih =>
    have valid := Run.invariant (P:=I) prior initial kept
    exact .snoc ih (follows valid ran)

-- Where a label costs no more than its edge descends, a walk costs no more than it descends;
-- some letters pay for a cost.
theorem Walk.balance {costs pays : α → Bool} {rank : π → Nat} {I : π → Prop} (walk : Walk Next p word q) (initial : I p)
    (kept : ∀ {p label q}, I p → Next p label q → I q)
    (edge : ∀ {p label q}, I p → Next p label q → label.countP costs + rank q ≤ rank p + label.countP pays) :
    I q ∧ word.countP costs + rank q ≤ rank p + word.countP pays := by
  induction walk with
  | nil => exact ⟨initial,by simp⟩
  | snoc _ next ih =>
    obtain ⟨valid,before⟩ := ih
    have last := edge valid next
    refine ⟨kept valid next,?_⟩
    simp only [List.countP_append]
    omega

-- Outputs of a kind that a projection leaves out.
theorem map_silent {shown : α → ω} {seen : ω → Option β} (silent : ∀ a, seen (shown a) = none) (l : List α) :
    (l.map shown).filterMap seen = [] := by
  induction l with
  | nil => rfl
  | cons a l ih => rw [List.map_cons,List.filterMap_cons_none (silent a),ih]

-- A queue in the state: what enters it leaves it once and in its order, or is still held.
theorem run_conserved {held : σ → List β} {enters leaves : ω → Option β} (path : Run step s events trace t)
    (balanced : ∀ {s event t fresh}, step s event = .ok (t,fresh) →
      held s ++ fresh.filterMap enters = fresh.filterMap leaves ++ held t) :
    held s ++ trace.filterMap enters = trace.filterMap leaves ++ held t := by
  induction path with
  | nil => exact List.append_nil _
  | @snoc events trace middle event next fresh prior ran ih =>
    rw [List.filterMap_append,List.filterMap_append]
    calc held s ++ (trace.filterMap enters ++ fresh.filterMap enters)
        = (held s ++ trace.filterMap enters) ++ fresh.filterMap enters := (List.append_assoc _ _ _).symm
      _ = trace.filterMap leaves ++ (held middle ++ fresh.filterMap enters) := by rw [ih,List.append_assoc]
      _ = trace.filterMap leaves ++ (fresh.filterMap leaves ++ held next) := by rw [balanced ran]
      _ = trace.filterMap leaves ++ fresh.filterMap leaves ++ held next := (List.append_assoc _ _ _).symm

end Projections
