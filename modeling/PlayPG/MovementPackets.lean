import PlayPG.Movement
import PlayPG.Packets

namespace PlayPG.MovementPackets

inductive PacketType where
  | CLIENT
  | SERVER
  deriving DecidableEq

structure Packet where
  opcode : UInt16
  type : PacketType
  buffer : Bytes
  deriving DecidableEq

def Packet.make (apg : ByteBuffer) (opcode : UInt16) (type : PacketType) : Packet := ⟨opcode,type,apg.putShort opcode⟩

def Packet.client (apg : ByteBuffer) (opcode : ClientOpcode) : Packet := .make apg opcode.code .CLIENT

structure MovementPacket extends Packet where
  move : Move

-- The move is a member beside the buffer; nothing writes it into the buffer.
def MovementPacket.ofMove (apg : ByteBuffer) (move : Move) : MovementPacket := ⟨.client apg .MOVE,move⟩

structure NetworkDispatchSystem where
  packetQueue : List Packet

namespace NetworkDispatchSystem

def queuePacket (system : NetworkDispatchSystem) (packet : Packet) : NetworkDispatchSystem :=
  ⟨system.packetQueue ++ [packet]⟩

-- The buffers that put and send are called with. No clear() comes between them, so whether a send repeats the
-- earlier ones is up to the socket of APG, which is not here.
def update (system : NetworkDispatchSystem) : NetworkDispatchSystem × List Bytes :=
  (⟨[]⟩,system.packetQueue.map (·.buffer))

end NetworkDispatchSystem

structure MovementSystem (pointer : Type) where
  map_ : pointer
  networkDispatchSystem_ : Option NetworkDispatchSystem
  moves_ : List Move

-- queuePacket takes a Packet, that part of the MovementPacket.
def tryMoves (apg : ByteBuffer) (map : Map) : (Nat → Position) → Option NetworkDispatchSystem → List Move →
    Except MovementFault ((Nat → Position) × Option NetworkDispatchSystem)
  | positions,dispatch,[] => .ok (positions,dispatch)
  | positions,dispatch,move :: moves => do
    let (position,_) ← map.tryMove (positions move.entity) move
    tryMoves apg map (Function.update positions move.entity position)
      (dispatch.map (·.queuePacket (MovementPacket.ofMove apg move).toPacket)) moves

def MovementSystem.update (apg : ByteBuffer) (maps : pointer → Map) (system : MovementSystem pointer)
    (positions : Nat → Position) : Except MovementFault (MovementSystem pointer × (Nat → Position)) := do
  let (positions,dispatch) ← tryMoves apg (maps system.map_) positions system.networkDispatchSystem_ system.moves_
  return ({system with networkDispatchSystem_ := dispatch,moves_ := []},positions)

def packet (apg : ByteBuffer) (move : Move) : Packet := (MovementPacket.ofMove apg move).toPacket

-- The loop fails and moves as the loop over the moves does, and queues a packet for each.
theorem tryMoves_exact (apg : ByteBuffer) (map : Map) (positions : Nat → Position)
    (dispatch : Option NetworkDispatchSystem) (moves : List Move) :
    tryMoves apg map positions dispatch moves = (map.tryMoves positions moves).map (fun result =>
      (result.1,dispatch.map (fun system => ⟨system.packetQueue ++ moves.map (packet apg)⟩))) := by
  induction moves generalizing positions dispatch with
  | nil => cases dispatch <;> simp [tryMoves,Map.tryMoves,Except.map]
  | cons move moves ih =>
    unfold tryMoves Map.tryMoves
    cases map.tryMove (positions move.entity) move with
    | error fault => rfl
    | ok result =>
      simp only [bind,Except.bind]
      rw [ih]
      cases map.tryMoves (Function.update positions move.entity result.1) moves with
      | error fault => rfl
      | ok rest => cases dispatch <;> simp [Except.map,pure,Except.pure,NetworkDispatchSystem.queuePacket,packet]

def packed (apg : ByteBuffer) (system : PlayPG.MovementSystem pointer) : MovementSystem pointer :=
  ⟨system.map_,system.networkDispatchSystem_.map (fun queue => ⟨queue.map (packet apg)⟩),system.moves_⟩

theorem packed_passed (apg : ByteBuffer) (system : PlayPG.MovementSystem pointer) : packed apg system.passed =
    {packed apg system with
      networkDispatchSystem_ := (packed apg system).networkDispatchSystem_.map (fun queue =>
        ⟨queue.packetQueue ++ system.moves_.map (packet apg)⟩)
      moves_ := []} := by
  cases dispatch : system.networkDispatchSystem_ <;> simp [packed,PlayPG.MovementSystem.passed,dispatch]

theorem update_packed (apg : ByteBuffer) (maps : pointer → Map) (system : PlayPG.MovementSystem pointer)
    (positions : Nat → Position) : (packed apg system).update apg maps positions =
      (system.update maps positions).map (fun result => (packed apg result.1,result.2.1)) := by
  have loop := tryMoves_exact apg (maps system.map_) positions (packed apg system).networkDispatchSystem_ system.moves_
  unfold MovementSystem.update PlayPG.MovementSystem.update
  change (tryMoves apg (maps system.map_) positions (packed apg system).networkDispatchSystem_ system.moves_ >>= _) = _
  rw [loop]
  cases (maps system.map_).tryMoves positions system.moves_ with
  | error fault => rfl
  | ok result =>
    simp only [Except.map,bind,Except.bind,pure,Except.pure,packed_passed]

-- An update that completes with a dispatch system attached.
def Queues (apg : ByteBuffer) (maps : pointer → Map) (system : MovementSystem pointer) (positions : Nat → Position)
    (packets : List Packet) : Prop :=
  ∃ dispatch next after, system.networkDispatchSystem_ = some dispatch ∧
    system.update apg maps positions = .ok (next,after) ∧
    next.networkDispatchSystem_ = some ⟨dispatch.packetQueue ++ packets⟩

def bytes (packets : List Packet) : Bytes := (NetworkDispatchSystem.update ⟨packets⟩).2.flatten

def requested (moves : List Move) : List (Int32 × Int32) := moves.map (fun move => (move.xTiles,move.yTiles))

theorem queues_parts (queues : Queues apg maps system positions packets) :
    packets = system.moves_.map (packet apg) := by
  obtain ⟨dispatch,next,after,attached,ran,queue⟩ := queues
  unfold MovementSystem.update at ran
  obtain ⟨⟨moved,result⟩,loop,ran⟩ := bind_ok.mp ran
  cases ran
  rw [tryMoves_exact,attached] at loop
  obtain ⟨_,_,stored⟩ := map_ok loop
  cases stored
  have queues := congrArg NetworkDispatchSystem.packetQueue (Option.some.inj queue)
  exact (List.append_cancel_left queues).symm

theorem bytes_length (apg : ByteBuffer) (moves : List Move) :
    (bytes (moves.map (packet apg))).length = 2 * moves.length := by
  induction moves with
  | nil => rfl
  | cons move rest ih =>
    have two : (packet apg move).buffer.length = 2 := apg.putShort_length _
    simp only [bytes,NetworkDispatchSystem.update,List.map_cons,List.flatten_cons,List.length_append,
      List.length_cons] at ih ⊢
    omega

-- Two queues of moves are the same bytes exactly if they are equally long.
theorem bytes_same (apg : ByteBuffer) (moves others : List Move) :
    bytes (moves.map (packet apg)) = bytes (others.map (packet apg)) ↔ moves.length = others.length := by
  constructor
  · intro same
    have lengths := congrArg List.length same
    rw [bytes_length,bytes_length] at lengths
    omega
  · intro lengths
    have alike : ∀ moves : List Move, moves.map (packet apg) = List.replicate moves.length (.client apg .MOVE) := by
      intro moves
      induction moves with
      | nil => rfl
      | cons move rest ih => rw [List.map_cons,ih]; rfl
    rw [alike,alike,lengths]

theorem moves_determined {apg : ByteBuffer} (one : Queues apg maps system positions packets)
    (two : Queues apg others otherSystem otherPositions otherPackets) :
    (bytes packets = bytes otherPackets → requested system.moves_ = requested otherSystem.moves_) ↔
      (system.moves_.length ≠ otherSystem.moves_.length ∨ requested system.moves_ = requested otherSystem.moves_) := by
  rw [queues_parts one,queues_parts two,bytes_same]
  exact imp_iff_not_or

-- One tile to the right and one tile down, from the first tile of a free map.
def single (xTiles yTiles : Int32) : MovementSystem Unit := ⟨(),some ⟨[]⟩,[⟨0,xTiles,yTiles⟩]⟩

theorem single_queues (move : Int32 × Int32) (free : move = (1,0) ∨ move = (0,1)) :
    Queues .network (fun _ => Movement.freeMap) (single move.1 move.2) (fun _ => ⟨0,0⟩)
      [packet .network ⟨0,move.1,move.2⟩] := by
  rcases free with rfl | rfl <;> exact ⟨_,_,_,rfl,rfl,rfl⟩

-- It and one that has to wait have queues of different lengths.
theorem moves_determined_single : requested [⟨0,1,0⟩] ≠ requested [] ∧ bytes [packet .network ⟨0,1,0⟩] ≠ bytes [] := by
  have idle : Queues .network (fun _ => Movement.freeMap) ⟨(),some ⟨[]⟩,[]⟩ (fun _ => ⟨0,0⟩) [] := ⟨_,_,_,rfl,rfl,rfl⟩
  have differ : requested [⟨0,1,0⟩] ≠ requested [] := by decide
  exact ⟨differ,fun same => differ ((moves_determined (single_queues (1,0) (.inl rfl)) idle).mpr (.inl (by decide)) same)⟩

theorem moves_undetermined : ¬∀ apg (maps : Unit → Map) system positions packets otherSystem otherPositions otherPackets,
    Queues apg maps system positions packets → Queues apg maps otherSystem otherPositions otherPackets →
      bytes packets = bytes otherPackets → requested system.moves_ = requested otherSystem.moves_ := by
  intro claim
  have same := claim _ _ _ _ _ _ _ _ (single_queues (1,0) (.inl rfl)) (single_queues (0,1) (.inr rfl)) (by decide)
  exact absurd same (by decide)

end PlayPG.MovementPackets
