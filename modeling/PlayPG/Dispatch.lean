import Mathlib.Data.List.Basic
import PlayPG.MovementPackets
import PlayPG.Projections

namespace PlayPG.Dispatch
open Runs Projections MovementPackets

-- networkDispatchSystem_ points to one of the dispatch systems of the game, or is null.
structure State where
  networkDispatchSystem_ : Option Nat
  moves_ : List Move
  positions : Nat → Position
  dispatchSystems : Nat → NetworkDispatchSystem

inductive Event where
  | attachNetworkingSystem (networkDispatchSystem : Option Nat)
  | detachNetworkingSystem
  | addMove (move : Move)
  | updateMovement
  | updateDispatch (address : Nat)
  deriving DecidableEq

-- A turn of the loop names the system that its packet was queued in; put is the call of put and send for one packet.
inductive Output where
  | added (move : Move)
  | moved (move : Move) (networkDispatchSystem : Option Nat)
  | put (address : Nat) (buffer : Bytes)
  deriving DecidableEq

section Systems
variable (apg : ByteBuffer) (map : Map)

def queue (networkDispatchSystem : Option Nat) (systems : Nat → NetworkDispatchSystem) (move : Move) :
    Nat → NetworkDispatchSystem :=
  match networkDispatchSystem with
  | none => systems
  | some address => Function.update systems address ((systems address).queuePacket (packet apg move))

def tryMoves (networkDispatchSystem : Option Nat) : (Nat → Position) → (Nat → NetworkDispatchSystem) → List Move →
    Except MovementFault ((Nat → Position) × (Nat → NetworkDispatchSystem) × List Output)
  | positions,systems,[] => .ok (positions,systems,[])
  | positions,systems,move :: moves => do
    let (position,_) ← map.tryMove (positions move.entity) move
    let (positions,systems,outputs) ← tryMoves networkDispatchSystem (Function.update positions move.entity position)
      (queue apg networkDispatchSystem systems move) moves
    return (positions,systems,.moved move networkDispatchSystem :: outputs)

def step : Machine State Event Output MovementFault
  | s,.attachNetworkingSystem networkDispatchSystem => .ok ({s with networkDispatchSystem_ := networkDispatchSystem},[])
  | s,.detachNetworkingSystem => .ok ({s with networkDispatchSystem_ := none},[])
  | s,.addMove move => .ok ({s with moves_ := s.moves_ ++ [move]},[.added move])
  | s,.updateMovement =>
    (tryMoves apg map s.networkDispatchSystem_ s.positions s.dispatchSystems s.moves_).map fun ran =>
      ({s with moves_ := [],positions := ran.1,dispatchSystems := ran.2.1},ran.2.2)
  | s,.updateDispatch address =>
    let (system,buffers) := (s.dispatchSystems address).update
    .ok ({s with dispatchSystems := Function.update s.dispatchSystems address system},buffers.map (.put address))

end Systems

def Output.added? : Output → Option Move
  | .added move => some move
  | _ => none

def Output.moved? : Output → Option Move
  | .moved move _ => some move
  | _ => none

section Observations
variable (apg : ByteBuffer) (address : Nat)

-- The packet of a move that was made while the system was attached, and what the system sends.
def Output.queued? : Output → Option Bytes
  | .moved move networkDispatchSystem => if networkDispatchSystem = some address then some (packet apg move).buffer else none
  | _ => none

def Output.put? : Output → Option Bytes
  | .put other buffer => if other = address then some buffer else none
  | _ => none

def State.waiting (s : State) : List Bytes := (s.dispatchSystems address).packetQueue.map (·.buffer)

end Observations

-- The pointer as the last attach or detach left it.
def pointing (networkDispatchSystem : Option Nat) : Event → Option Nat
  | .attachNetworkingSystem other => other
  | .detachNetworkingSystem => none
  | _ => networkDispatchSystem

variable {apg : ByteBuffer} {map : Map} {address : Nat}

theorem queue_waits (networkDispatchSystem : Option Nat) (systems : Nat → NetworkDispatchSystem) (move : Move) :
    (queue apg networkDispatchSystem systems move address).packetQueue.map (·.buffer) =
      (systems address).packetQueue.map (·.buffer) ++ (Output.queued? apg address (.moved move networkDispatchSystem)).toList := by
  cases networkDispatchSystem with
  | none => exact (List.append_nil _).symm
  | some other =>
    by_cases here : other = address
    · subst here
      simp [queue,NetworkDispatchSystem.queuePacket,Output.queued?]
    · simp [queue,Output.queued?,here,Function.update_of_ne (Ne.symm here)]

-- What the loop leaves behind: each move once, in order, under the pointer of the pass.
structure Passed (apg : ByteBuffer) (networkDispatchSystem : Option Nat) (systems next : Nat → NetworkDispatchSystem)
    (moves : List Move) (outputs : List Output) : Prop where
  each : outputs = moves.map (.moved · networkDispatchSystem)
  waits : ∀ address, (next address).packetQueue.map (·.buffer) =
    (systems address).packetQueue.map (·.buffer) ++ outputs.filterMap (Output.queued? apg address)

theorem tryMoves_passed (ran : tryMoves apg map networkDispatchSystem positions systems moves = .ok (moved,next,outputs)) :
    Passed apg networkDispatchSystem systems next moves outputs := by
  induction moves generalizing positions systems moved next outputs with
  | nil =>
    cases Except.ok.inj ran
    exact ⟨rfl,fun _ => (List.append_nil _).symm⟩
  | cons move moves ih =>
    unfold tryMoves at ran
    obtain ⟨⟨position,_⟩,_,ran⟩ := bind_ok.mp ran
    obtain ⟨⟨_,_,later⟩,rest,ran⟩ := bind_ok.mp ran
    cases Except.ok.inj ran
    obtain ⟨same,waits⟩ := ih rest
    refine ⟨by rw [same]; rfl,?_⟩
    intro address
    rw [waits address,queue_waits,List.append_assoc]
    cases queued : Output.queued? apg address (.moved move networkDispatchSystem) with
    | none => rw [List.filterMap_cons_none queued,Option.toList_none,List.nil_append]
    | some buffer => rw [List.filterMap_cons_some queued,Option.toList_some,List.singleton_append]

theorem moves_moved (moves : List Move) (networkDispatchSystem : Option Nat) :
    (moves.map (Output.moved · networkDispatchSystem)).filterMap Output.moved? = moves := by
  rw [List.filterMap_map]
  exact List.filterMap_some

theorem puts_own (buffers : List Bytes) (address other : Nat) :
    (buffers.map (Output.put other)).filterMap (Output.put? address) = if other = address then buffers else [] := by
  rw [List.filterMap_map]
  by_cases own : other = address
  · rw [if_pos own]
    exact (List.filterMap_congr fun buffer _ => if_pos own).trans List.filterMap_some
  · rw [if_neg own]
    exact List.filterMap_eq_nil_iff.mpr fun buffer _ => if_neg own

-- The moves that wait for the loop.
theorem step_moves (ran : step apg map s event = .ok (t,fresh)) :
    s.moves_ ++ fresh.filterMap Output.added? = fresh.filterMap Output.moved? ++ t.moves_ := by
  cases event with
  | attachNetworkingSystem | detachNetworkingSystem =>
    cases Except.ok.inj ran
    exact List.append_nil _
  | addMove move =>
    cases Except.ok.inj ran
    rfl
  | updateMovement =>
    obtain ⟨⟨positions,systems,outputs⟩,moved,same⟩ := map_ok ran
    cases same
    rw [(tryMoves_passed moved).each,map_silent fun _ => rfl,moves_moved]
  | updateDispatch address =>
    cases Except.ok.inj ran
    dsimp only
    rw [map_silent fun _ => rfl,map_silent fun _ => rfl,List.append_nil,List.nil_append]

-- The packets that wait in the queue of one dispatch system.
theorem step_packets (address : Nat) (ran : step apg map s event = .ok (t,fresh)) :
    s.waiting address ++ fresh.filterMap (Output.queued? apg address) =
      fresh.filterMap (Output.put? address) ++ t.waiting address := by
  cases event with
  | attachNetworkingSystem | detachNetworkingSystem | addMove =>
    cases Except.ok.inj ran
    exact List.append_nil _
  | updateMovement =>
    obtain ⟨⟨positions,systems,outputs⟩,moved,same⟩ := map_ok ran
    cases same
    obtain ⟨each,waits⟩ := tryMoves_passed moved
    have unput : outputs.filterMap (Output.put? address) = [] := by
      rw [each]
      exact map_silent (fun _ => rfl) _
    dsimp only
    rw [unput]
    exact (waits address).symm
  | updateDispatch other =>
    cases Except.ok.inj ran
    rw [map_silent fun _ => rfl,puts_own,List.append_nil]
    by_cases own : other = address
    · subst own
      simp [State.waiting]
    · rw [if_neg own]
      simp only [State.waiting,Function.update_of_ne (Ne.symm own),List.nil_append]

theorem step_pointer (ran : step apg map s event = .ok (t,fresh)) :
    t.networkDispatchSystem_ = pointing s.networkDispatchSystem_ event ∧
      ∀ move networkDispatchSystem, .moved move networkDispatchSystem ∈ fresh → networkDispatchSystem = s.networkDispatchSystem_ := by
  cases event with
  | attachNetworkingSystem | detachNetworkingSystem =>
    cases Except.ok.inj ran
    refine ⟨rfl,?_⟩
    intro move networkDispatchSystem member
    cases member
  | addMove move =>
    cases Except.ok.inj ran
    refine ⟨rfl,?_⟩
    intro other networkDispatchSystem member
    cases List.mem_singleton.mp member
  | updateMovement =>
    obtain ⟨⟨positions,systems,outputs⟩,moved,same⟩ := map_ok ran
    cases same
    refine ⟨rfl,?_⟩
    intro move networkDispatchSystem member
    dsimp only at member
    rw [(tryMoves_passed moved).each] at member
    obtain ⟨_,_,same⟩ := List.mem_map.mp member
    cases same
    rfl
  | updateDispatch address =>
    cases Except.ok.inj ran
    refine ⟨rfl,?_⟩
    intro move networkDispatchSystem member
    obtain ⟨_,_,same⟩ := List.mem_map.mp member
    cases same

theorem run_pointer (path : Run (step apg map) s events trace t) :
    t.networkDispatchSystem_ = events.foldl pointing s.networkDispatchSystem_ := by
  induction path with
  | nil => rfl
  | snoc prior ran ih =>
    rw [List.foldl_append,← ih]
    exact (step_pointer ran).1

-- However the calls interleave, each move is made once and in order, and each packet of a move that
-- is made while a dispatch system is attached goes out there once and in order; the others have none.
theorem moves_dispatched (path : Run (step apg map) s events trace t) :
    s.moves_ ++ trace.filterMap Output.added? = trace.filterMap Output.moved? ++ t.moves_ ∧
    (∀ address, s.waiting address ++ trace.filterMap (Output.queued? apg address) =
      trace.filterMap (Output.put? address) ++ t.waiting address) ∧
    t.networkDispatchSystem_ = events.foldl pointing s.networkDispatchSystem_ ∧
    ∀ event next fresh, step apg map t event = .ok (next,fresh) → ∀ move networkDispatchSystem,
      .moved move networkDispatchSystem ∈ fresh → networkDispatchSystem = t.networkDispatchSystem_ :=
  ⟨run_conserved path step_moves,fun address => run_conserved path (step_packets address),
    run_pointer path,fun _ _ _ ran => (step_pointer ran).2⟩

-- One move is made while the system is attached and one after that; a third one waits.
def still : State := ⟨none,[],fun _ => ⟨0,0⟩,fun _ => ⟨[]⟩⟩

def calls : List Event := [.attachNetworkingSystem (some 1),.addMove ⟨0,1,0⟩,.updateMovement,.detachNetworkingSystem,
  .addMove ⟨0,0,1⟩,.updateMovement,.updateDispatch 1,.addMove ⟨0,-1,0⟩]

theorem moves_dispatched_calls : ∃ trace t, Run (step .network Movement.freeMap) still calls trace t ∧
    [] ++ trace.filterMap Output.added? = trace.filterMap Output.moved? ++ [⟨0,-1,0⟩] ∧
    [] ++ trace.filterMap (Output.queued? .network 1) =
      trace.filterMap (Output.put? 1) ++ t.waiting 1 ∧ t.networkDispatchSystem_ = none := by
  obtain ⟨trace,t,path,left⟩ := execute_check (step .network Movement.freeMap) still calls
    (fun last => last.1.moves_ = [⟨0,-1,0⟩]) (by decide +kernel)
  obtain ⟨moves,packets,pointer,_⟩ := moves_dispatched path
  rw [of_decide_eq_true left] at moves
  exact ⟨trace,t,path,moves,packets 1,pointer⟩

end PlayPG.Dispatch
