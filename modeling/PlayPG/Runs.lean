import Mathlib.Data.List.Induction

namespace Runs

-- A deterministic machine whose step may fail; a failed step ends the run.
-- The events carry everything the environment decides, so every interleaving
-- and every answer of the outside world is one list of events.
abbrev Machine (σ ε ω φ : Type _) := σ → ε → Except φ (σ × List ω)

variable {σ ε ω φ : Type _} {step : Machine σ ε ω φ} {s t : σ}

inductive Run (step : Machine σ ε ω φ) (s : σ) : List ε → List ω → σ → Prop where
  | nil : Run step s [] [] s
  | snoc : Run step s events trace middle → step middle event = .ok (next,fresh) →
      Run step s (events ++ [event]) (trace ++ fresh) next

theorem Run.nil_inv (path : Run step s [] trace t) : t = s ∧ trace = [] := by
  generalize whole : ([] : List ε) = events at path
  cases path with
  | nil => exact ⟨rfl,rfl⟩
  | snoc prior ran => simp at whole

theorem Run.snoc_inv (path : Run step s (events ++ [event]) trace t) :
    ∃ middle early fresh, Run step s events early middle ∧ step middle event = .ok (t,fresh) ∧
      trace = early ++ fresh := by
  generalize whole : events ++ [event] = all at path
  cases path with
  | nil => simp at whole
  | snoc prior ran =>
    obtain ⟨rfl,equal⟩ := List.append_inj' whole rfl
    cases equal
    exact ⟨_,_,_,prior,ran,rfl⟩

theorem Run.append (left : Run step s events trace middle) (right : Run step middle later rest t) :
    Run step s (events ++ later) (trace ++ rest) t := by
  induction right with
  | nil => simpa using left
  | snoc prior ran ih => simpa only [List.append_assoc] using Run.snoc ih ran

theorem Run.split (path : Run step s (before ++ after) trace t) :
    ∃ middle early late, Run step s before early middle ∧ Run step middle after late t ∧
      trace = early ++ late := by
  induction after using List.reverseRecOn generalizing t trace with
  | nil => exact ⟨t,trace,[],by simpa using path,.nil,by simp⟩
  | append_singleton init last ih =>
    rw [← List.append_assoc] at path
    obtain ⟨_,_,_,prior,ran,rfl⟩ := path.snoc_inv
    obtain ⟨middle,early,late,first,second,rfl⟩ := ih prior
    exact ⟨middle,early,_,first,.snoc second ran,by simp⟩

theorem Run.cons (ran : step s event = .ok (next,fresh)) (path : Run step next events trace t) :
    Run step s (event :: events) (fresh ++ trace) t := by
  simpa using Run.append (Run.snoc .nil ran) path

theorem Run.cons_inv (path : Run step s (event :: events) trace t) :
    ∃ next fresh rest, step s event = .ok (next,fresh) ∧ Run step next events rest t ∧ trace = fresh ++ rest := by
  obtain ⟨next,early,late,first,second,rfl⟩ := Run.split (show Run step s ([event] ++ events) trace t from path)
  obtain ⟨middle,_,fresh,start,ran,rfl⟩ := Run.snoc_inv (show Run step s ([] ++ [event]) early next from first)
  obtain ⟨rfl,rfl⟩ := start.nil_inv
  exact ⟨next,fresh,late,ran,second,rfl⟩

theorem Run.deterministic (one : Run step s events trace t) (two : Run step s events other u) :
    trace = other ∧ t = u := by
  induction one generalizing other u with
  | nil =>
    obtain ⟨rfl,rfl⟩ := two.nil_inv
    exact ⟨rfl,rfl⟩
  | snoc prior ran ih =>
    obtain ⟨_,_,_,path,again,rfl⟩ := two.snoc_inv
    obtain ⟨rfl,rfl⟩ := ih path
    rw [ran] at again
    cases again
    exact ⟨rfl,rfl⟩

-- The execution of a list of events, for concrete runs.
def execute (step : Machine σ ε ω φ) : σ → List ε → Except φ (σ × List ω)
  | s,[] => .ok (s,[])
  | s,event :: events =>
    match step s event with
    | .error fault => .error fault
    | .ok (next,fresh) =>
      match execute step next events with
      | .error fault => .error fault
      | .ok (last,rest) => .ok (last,fresh ++ rest)

theorem execute_run (executed : execute step s events = .ok (t,trace)) : Run step s events trace t := by
  induction events generalizing s trace with
  | nil => cases executed; exact .nil
  | cons event events ih =>
    unfold execute at executed
    split at executed
    · cases executed
    · rename_i next fresh ran
      split at executed
      · cases executed
      · rename_i last rest tail
        cases executed
        exact .cons ran (ih tail)

theorem execute_check (step : Machine σ ε ω φ) (s : σ) (events : List ε) (P : σ × List ω → Bool)
    (checked : ((execute step s events).toOption.map P) = some true) :
    ∃ trace t, Run step s events trace t ∧ P (t,trace) = true := by
  cases executed : execute step s events with
  | error fault => simp [executed,Except.toOption] at checked
  | ok last => exact ⟨last.2,last.1,execute_run executed,by simpa [executed,Except.toOption] using checked⟩

-- Two executions side by side: a change of the state that every step carries along.
theorem execute_commutes (f : σ → σ) (I : σ → Prop) (initial : I s)
    (commutes : ∀ event ∈ events, ∀ {middle}, I middle →
      step (f middle) event = (step middle event).map fun result => (f result.1,result.2))
    (kept : ∀ event ∈ events, ∀ {middle next fresh}, I middle → step middle event = .ok (next,fresh) → I next) :
    execute step (f s) events = (execute step s events).map fun result => (f result.1,result.2) := by
  induction events generalizing s with
  | nil => rfl
  | cons event events ih =>
    unfold execute
    rw [commutes event List.mem_cons_self initial]
    cases ran : step s event with
    | error fault => rfl
    | ok result =>
      simp only [Except.map]
      rw [ih (kept event List.mem_cons_self initial ran) (fun other member => commutes other (List.mem_cons_of_mem _ member))
        (fun other member => kept other (List.mem_cons_of_mem _ member))]
      cases execute step result.1 events <;> rfl

-- The state after a list of events, if they all ran.
def final (step : Machine σ ε ω φ) (s : σ) (events : List ε) : σ := ((execute step s events).toOption.map Prod.fst).getD s

theorem final_run (ran : (execute step s events).toOption.isSome = true) :
    ∃ trace, Run step s events trace (final step s events) := by
  cases executed : execute step s events with
  | error fault => simp [executed,Except.toOption] at ran
  | ok last => exact ⟨last.2,by simpa [final,executed,Except.toOption] using execute_run executed⟩

theorem Run.history {P : List ω → σ → Prop} (path : Run step s events trace t) (initial : P [] s)
    (kept : ∀ {events trace middle event next fresh}, Run step s events trace middle → P trace middle →
      step middle event = .ok (next,fresh) → P (trace ++ fresh) next) : P trace t := by
  induction path with
  | nil => exact initial
  | snoc prior ran ih => exact kept prior ih ran

theorem Run.invariant {P : σ → Prop} (path : Run step s events trace t) (initial : P s)
    (kept : ∀ {middle event next fresh}, P middle → step middle event = .ok (next,fresh) → P next) : P t :=
  path.history (P:=fun _ => P) initial (fun _ valid ran => kept valid ran)

-- Conditions on the steps of one run, and properties of the states it visits.
def StepsMeet (step : Machine σ ε ω φ) (s : σ) (events : List ε) (C : σ → ε → Prop) : Prop :=
  ∀ before event after, events = before ++ event :: after →
    ∀ trace middle, Run step s before trace middle → C middle event

def StatesMeet (step : Machine σ ε ω φ) (s : σ) (events : List ε) (P : σ → Prop) : Prop :=
  ∀ before after, events = before ++ after → ∀ trace middle, Run step s before trace middle → P middle

theorem StepsMeet.early (met : StepsMeet step s (before ++ after) C) : StepsMeet step s before C := by
  intro early event late whole
  exact met early event (late ++ after) (by simp [whole])

theorem StepsMeet.snoc (path : Run step s events trace t) :
    StepsMeet step s (events ++ [event]) C ↔ StepsMeet step s events C ∧ C t event := by
  constructor
  · intro met
    exact ⟨met.early,met events event [] rfl trace t path⟩
  · intro both before other after whole early middle reached
    obtain ⟨met,last⟩ := both
    cases after using List.reverseRecOn with
    | nil =>
      obtain ⟨rfl,same⟩ := List.append_inj' whole rfl
      obtain ⟨_,rfl⟩ := path.deterministic reached
      cases same
      exact last
    | append_singleton init final _ =>
      have split : events = before ++ other :: init := by
        rw [← List.cons_append,← List.append_assoc] at whole
        exact (List.append_inj' whole rfl).1
      exact met before other init split early middle reached

def checkSteps (step : Machine σ ε ω φ) (C : σ → ε → Prop) [∀ s event, Decidable (C s event)] : σ → List ε → Bool
  | _,[] => true
  | s,event :: events => decide (C s event) &&
    match step s event with
    | .error _ => true
    | .ok (next,_) => checkSteps step C next events

theorem checkSteps_meet {C : σ → ε → Prop} [∀ s event, Decidable (C s event)]
    (checked : checkSteps step C s events = true) : StepsMeet step s events C := by
  induction events generalizing s with
  | nil => intro before event after whole; simp at whole
  | cons first rest ih =>
    obtain ⟨here,later⟩ := Bool.and_eq_true_iff.mp checked
    rintro (_ | ⟨_,before⟩) event after whole trace middle path
    · obtain ⟨rfl,_⟩ := List.cons.inj whole
      obtain ⟨rfl,_⟩ := path.nil_inv
      exact of_decide_eq_true here
    · obtain ⟨rfl,rfl⟩ := List.cons.inj whole
      obtain ⟨next,fresh,tail,ran,onward,_⟩ := path.cons_inv
      rw [ran] at later
      exact ih later before event after rfl _ _ onward

-- An invariant that the steps keep only under a condition on each of them.
theorem Run.guarded {P : σ → Prop} {C : σ → ε → Prop} (path : Run step s events trace t)
    (met : StepsMeet step s events C) (initial : P s)
    (kept : ∀ {middle event next fresh}, P middle → C middle event → step middle event = .ok (next,fresh) → P next) :
    P t := by
  induction path with
  | nil => exact initial
  | snoc prior ran ih => exact kept (ih met.early) (met _ _ [] rfl _ _ prior) ran

theorem Run.guarded_states {P : σ → Prop} {C : σ → ε → Prop} (met : StepsMeet step s events C) (initial : P s)
    (kept : ∀ {middle event next fresh}, P middle → C middle event → step middle event = .ok (next,fresh) → P next) :
    StatesMeet step s events P := by
  rintro before after rfl trace middle path
  exact path.guarded met.early initial kept

theorem StatesMeet.early {P : σ → Prop} (met : StatesMeet step s (before ++ after) P) : StatesMeet step s before P := by
  rintro first late rfl
  exact met first (late ++ after) (by simp)

theorem StatesMeet.snoc {P : σ → Prop} (path : Run step s (events ++ [event]) trace t) :
    StatesMeet step s (events ++ [event]) P ↔ StatesMeet step s events P ∧ P t := by
  constructor
  · intro met
    exact ⟨met.early,met (events ++ [event]) [] (by simp) trace t path⟩
  · rintro ⟨met,last⟩ before after whole early middle reached
    cases after using List.reverseRecOn with
    | nil =>
      rw [List.append_nil] at whole
      subst whole
      obtain ⟨_,rfl⟩ := path.deterministic reached
      exact last
    | append_singleton init final =>
      rw [← List.append_assoc] at whole
      exact met before init (List.append_inj' whole rfl).1 early middle reached

-- Where a step out of a good state comes to a good state exactly under the condition on it.
theorem Run.states_steps {P : σ → Prop} {C : σ → ε → Prop} (path : Run step s events trace t) (initial : P s)
    (exact : ∀ {before early middle event next fresh}, Run step s before early middle → P middle →
      step middle event = .ok (next,fresh) → (P next ↔ C middle event)) :
    StatesMeet step s events P ↔ StepsMeet step s events C := by
  induction path with
  | nil =>
    constructor
    · intro _ before event after whole
      simp at whole
    · intro _ before after whole _ middle reached
      obtain ⟨rfl,rfl⟩ := List.append_eq_nil_iff.mp whole.symm
      obtain ⟨rfl,_⟩ := reached.nil_inv
      exact initial
  | snoc prior ran ih =>
    rw [StatesMeet.snoc (.snoc prior ran),StepsMeet.snoc prior,ih]
    apply and_congr_right
    intro met
    exact exact prior (ih.mpr met _ [] (by simp) _ _ prior) ran

variable {τ : Type _} {abstract : Machine τ ε ω φ} {observed : ω → Bool} {R : σ → τ → Prop} {r : τ}

-- After each prefix both machines have run, with the same observed outputs and
-- related states.
def Refines (step : Machine σ ε ω φ) (abstract : Machine τ ε ω φ) (observed : ω → Bool) (R : σ → τ → Prop)
    (s : σ) (r : τ) (events : List ε) : Prop :=
  ∀ before after, events = before ++ after → ∃ trace t seen u, Run step s before trace t ∧ Run abstract r before seen u ∧
    trace.filter observed = seen ∧ R t u

theorem Refines.start (refines : Refines step abstract observed R s r events) : R s r := by
  obtain ⟨_,_,_,_,path,model,_,related⟩ := refines [] events rfl
  obtain ⟨rfl,_⟩ := path.nil_inv
  obtain ⟨rfl,_⟩ := model.nil_inv
  exact related

theorem refines_nil : Refines step abstract observed R s r [] ↔ R s r := by
  constructor
  · exact Refines.start
  · intro related before after whole
    obtain ⟨rfl,rfl⟩ := List.append_eq_nil_iff.mp whole.symm
    exact ⟨[],s,[],r,.nil,.nil,rfl,related⟩

theorem Refines.head (refines : Refines step abstract observed R s r (event :: events)) :
    ∃ next fresh last seen, step s event = .ok (next,fresh) ∧ abstract r event = .ok (last,seen) ∧
      fresh.filter observed = seen ∧ Refines step abstract observed R next last events := by
  obtain ⟨_,_,_,_,one,other,same,_⟩ := refines [event] events rfl
  obtain ⟨next,fresh,_,ran,rest,rfl⟩ := one.cons_inv
  obtain ⟨last,seen,_,matched,tail,rfl⟩ := other.cons_inv
  obtain ⟨_,rfl⟩ := rest.nil_inv
  obtain ⟨_,rfl⟩ := tail.nil_inv
  simp only [List.append_nil] at same
  refine ⟨next,fresh,last,seen,ran,matched,same,?_⟩
  -- Both machines are deterministic, so a longer prefix goes through the same two states.
  rintro before after rfl
  obtain ⟨_,t,_,u,path,model,whole,related⟩ := refines (event :: before) after rfl
  obtain ⟨_,_,later,again,onward,rfl⟩ := path.cons_inv
  obtain ⟨_,_,others,repeated,beyond,rfl⟩ := model.cons_inv
  obtain ⟨rfl,rfl⟩ := Prod.mk.inj (Except.ok.inj (ran.symm.trans again))
  obtain ⟨rfl,rfl⟩ := Prod.mk.inj (Except.ok.inj (matched.symm.trans repeated))
  rw [List.filter_append,same] at whole
  exact ⟨later,t,others,u,onward,beyond,List.append_cancel_left whole,related⟩

theorem Refines.cons (related : R s r) (ran : step s event = .ok (next,fresh)) (matched : abstract r event = .ok (last,seen))
    (same : fresh.filter observed = seen) (refines : Refines step abstract observed R next last events) :
    Refines step abstract observed R s r (event :: events) := by
  intro before after whole
  cases before with
  | nil => exact ⟨[],s,[],r,.nil,.nil,rfl,related⟩
  | cons first before =>
    obtain ⟨rfl,rfl⟩ := List.cons.inj whole
    obtain ⟨trace,t,later,u,path,model,agree,related⟩ := refines before after rfl
    exact ⟨_,t,_,u,.cons ran path,.cons matched model,by rw [List.filter_append,same,agree],related⟩

end Runs
