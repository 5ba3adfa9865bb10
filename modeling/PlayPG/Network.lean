import PlayPG.Sockets

namespace PlayPG
open Bytes

-- The login server with reliable first-in-first-out links to other programs. A link
-- carries whole packets; the sockets that are not links may do anything.
structure Network where
  server : LoginServer
  links : List Nat
  up : Nat → List Bytes
  down : Nat → List Bytes

namespace Network
open IncomingHandler ConnectedHandler Sockets

def start (server : LoginServer) : Network := ⟨server,[],fun _ => [],fun _ => []⟩

-- At a turn the oldest packet of the link has arrived, or nothing has yet.
def heard (n : Network) (id : Nat) (io : SocketIO) : SocketIO := {io with
  pollError := false
  activity := io.activity && !(n.up id).isEmpty
  recv := .ofBytes ((n.up id).headD [])
  recvError := false
  sendResult := 1
  sendError := false}

def heardSession (n : Network) (id : Nat) (io : SessionIO) : SessionIO where
  pollError := false
  activity := io.activity && !(n.up id).isEmpty
  opcode := .ofBytes (((n.up id).headD []).take 2)
  opcodeError := false
  characterID := .ofBytes ((((n.up id).headD []).drop 2).take 8)
  characterIDError := false
  sendResult := 1
  sendError := false

def hears (n : Network) : List (Option PlayerSession) → List SessionIO → List SessionIO
  | [],_ => []
  | none :: rest,ios => ios.headD SessionIO.quiet :: n.hears rest ios.tail
  | some session :: rest,ios =>
    let io := ios.headD SessionIO.quiet
    (if session.socket.id ∈ n.links then n.heardSession session.socket.id io else io) :: n.hears rest ios.tail

-- An event with what the links let its sockets answer.
def wired (n : Network) : Event → Event
  | .incoming index io =>
    match n.server.incomingConnections[index]?.bind (·.socket) with
    | none => .incoming index io
    | some socket => .incoming index (if socket.id ∈ n.links then n.heard socket.id io else io)
  | .connected ios => .connected (n.hears n.server.playerSessions ios)
  | event => event

theorem wired_incoming (n : Network) (index : Nat) (io : SocketIO) :
    ∃ answers, n.wired (.incoming index io) = .incoming index answers := by
  simp only [wired]
  split
  · exact ⟨_,rfl⟩
  · exact ⟨_,rfl⟩

def effectsOf (id : Nat) (fresh : List (Nat × Effect)) : List Effect :=
  fresh.filterMap (fun entry => if entry.1 = id then some entry.2 else none)

-- What is left of a packet after the recv(8) of a selection, if there was one.
def leave (packet : Bytes) : List Effect → Bytes
  | .characterSelect _ :: _ => packet.drop 8
  | .sent .malformedPacket _ :: _ => []
  | _ => packet

def drained : List Bytes → List Effect → List Bytes
  | _ :: rest,.received _ :: _ => rest
  | packet :: rest,.opcodeRead bytes :: effects =>
    match leave (packet.drop bytes.length) effects with
    | [] => rest
    | left => left :: rest
  | queue,_ => queue

def packets (apg : ByteBuffer) (effects : List Effect) : List Bytes :=
  effects.filterMap (fun effect => match effect with
    | .sent packet result => if 0 < result then some (packet.buffer apg) else none
    | _ => none)

def absorb (n : Network) (apg : ByteBuffer) (server : LoginServer) (fresh : List (Nat × Effect)) : Network := {n with
  server := server
  up := fun id => drained (n.up id) (effectsOf id fresh)
  down := fun id => n.down id ++ packets apg (effectsOf id fresh)}

-- One handler, sends included: what the two ends agree on holds between the handlers.
def serve (env : Env) : Runs.Machine Network Event (Nat × Effect) Fault
  | n,event =>
    match LoginServer.step env n.server (n.wired event) with
    | .error fault => .error fault
    | .ok (server,fresh) => .ok (n.absorb env.apg server fresh,fresh)

-- A new connection of one of the programs, with a new pair of queues.
def connect (n : Network) : Network := {n with
  server := n.server.acceptSocket.1
  links := n.server.socketsAccepted :: n.links
  up := Function.update n.up n.server.socketsAccepted []
  down := Function.update n.down n.server.socketsAccepted []}

def send (n : Network) (id : Nat) (sent : List Bytes) : Network := {n with
  up := Function.update n.up id (n.up id ++ sent)}

def receive (n : Network) (id : Nat) : Network := {n with down := Function.update n.down id (n.down id).tail}

-- What a recv() gets, when it waits long enough for it, and the link after that. It gets one packet, also where
-- more of them have arrived, which the socket itself would hand over together.
def collect (n : Network) (id : Nat) (arrives : Bool) : Recv × Network :=
  match arrives,n.down id with
  | true,packet :: _ => (.ofBytes packet,n.receive id)
  | _,_ => (.nothing 0,n)

-- A program that ends closes its socket, and what the login server then sees may be anything.
def close (n : Network) (id : Nat) : Network := {n with links := n.links.filter (· ≠ id)}

-- What a program does at its end of a link does not reach the other links.
structure Local (n m : Network) (id : Nat) : Prop where
  server : m.server = n.server
  links : ∀ other, other ≠ id → other ∈ n.links → other ∈ m.links
  up : ∀ other, other ≠ id → m.up other = n.up other
  down : ∀ other, other ≠ id → m.down other = n.down other

theorem Local.refl (n : Network) (id : Nat) : Local n n id := ⟨rfl,fun _ _ linked => linked,fun _ _ => rfl,fun _ _ => rfl⟩

theorem Local.trans {id : Nat} (one : Local n m id) (two : Local m k id) : Local n k id :=
  ⟨two.server.trans one.server,fun other differs linked => two.links other differs (one.links other differs linked),
    fun other differs => (two.up other differs).trans (one.up other differs),
    fun other differs => (two.down other differs).trans (one.down other differs)⟩

theorem send_local (n : Network) (id : Nat) (sent : List Bytes) : Local n (n.send id sent) id :=
  ⟨rfl,fun _ _ linked => linked,fun _ differs => Function.update_of_ne differs _ _,fun _ _ => rfl⟩

theorem receive_local (n : Network) (id : Nat) : Local n (n.receive id) id :=
  ⟨rfl,fun _ _ linked => linked,fun _ _ => rfl,fun _ differs => Function.update_of_ne differs _ _⟩

theorem close_local (n : Network) (id : Nat) : Local n (n.close id) id :=
  ⟨rfl,fun other differs linked => List.mem_filter.mpr ⟨linked,by simpa using differs⟩,fun _ _ => rfl,fun _ _ => rfl⟩

-- A recv() gets the oldest packet, or nothing.
structure Collected (n m : Network) (id : Nat) (recv : Recv) : Prop where
  server : m.server = n.server
  links : m.links = n.links
  up : m.up = n.up
  down : ∀ packet ∈ m.down id, packet ∈ n.down id
  got : recv.result ≠ 0 → recv.bytes ∈ n.down id
  empty : recv.result = 0 → recv.bytes = []

theorem collect_parts {id : Nat} (collected : n.collect id arrives = (recv,m)) : Collected n m id recv := by
  unfold collect at collected
  split at collected
  · rename_i packet rest queue
    obtain ⟨rfl,rfl⟩ := Prod.mk.inj collected
    refine ⟨rfl,rfl,rfl,fun other member => ?_,fun _ => ?_,fun none => ?_⟩
    · simp only [receive,Function.update_self] at member
      exact List.mem_of_mem_tail member
    · rw [Recv.bytes_ofBytes,queue]
      exact List.mem_cons_self ..
    · rw [Recv.ofBytes_result] at none
      rw [Recv.bytes_ofBytes]
      exact List.length_eq_zero_iff.mp (by omega)
  · obtain ⟨rfl,rfl⟩ := Prod.mk.inj collected
    exact ⟨rfl,rfl,rfl,fun _ member => member,fun some => absurd rfl some,fun _ => rfl⟩

theorem serve_parts (ran : serve env n event = .ok (m,fresh)) :
    LoginServer.step env n.server (n.wired event) = .ok (m.server,fresh) ∧ m = n.absorb env.apg m.server fresh := by
  simp only [serve] at ran
  split at ran
  · cases ran
  · rename_i server trace stepped
    cases Except.ok.inj ran
    exact ⟨stepped,rfl⟩

theorem serve_links (ran : serve env n event = .ok (m,fresh)) : m.links = n.links := by
  rw [(serve_parts ran).2]
  rfl

theorem serve_emptied {id : Nat} (up : n.up id = []) (ran : serve env n event = .ok (m,fresh)) : m.up id = [] := by
  rw [(serve_parts ran).2]
  change drained (n.up id) _ = []
  rw [up]
  rfl

-- A fresh connection whose link takes the challenge.
theorem heard_fresh {c : IncomingConnection} {id : Nat} (env : Env) (n : Network) (io : SocketIO) (world : World)
    (fresh : c.state = .FRESH) (owned : c.socket = some ⟨id,false,true⟩) : processIncoming env world c (n.heard id io) =
      .ok ⟨world,{c with state := .CHALLENGE_SENT},[.sent (.authenticationChallenge env.challenge) 1]⟩ := by
  have computed : processIncoming env world c (n.heard id io) =
      .ok ⟨world,{c with socket := some ⟨id,false,true⟩,state := .CHALLENGE_SENT},
        [.sent (.authenticationChallenge env.challenge) 1]⟩ := by
    simp [processIncoming,processFreshSocket,fresh,owned,heard]
  rw [computed,← owned]

theorem effectsOf_own (effects : List Effect) (id : Nat) : effectsOf id (effects.map (Prod.mk id)) = effects := by
  simp [effectsOf,List.filterMap_map]

theorem effectsOf_quiet {id : Nat} (quiet : ∀ effect, (id,effect) ∈ fresh → effect = .purged) :
    ∀ effect ∈ effectsOf id fresh, effect = .purged := by
  intro effect member
  obtain ⟨entry,within,same⟩ := List.mem_filterMap.mp member
  split at same
  · rename_i mine
    obtain rfl := Option.some.inj same
    exact quiet entry.2 (mine ▸ within)
  · cases same

theorem quiet_drained (quiet : ∀ effect ∈ effects, effect = .purged) (queue : List Bytes) : drained queue effects = queue := by
  cases effects with
  | nil => cases queue <;> rfl
  | cons head rest =>
    obtain rfl := quiet head (List.mem_cons_self ..)
    cases queue <;> rfl

theorem quiet_packets (apg : ByteBuffer) (quiet : ∀ effect ∈ effects, effect = .purged) : packets apg effects = [] := by
  apply List.filterMap_eq_nil_iff.mpr
  intro effect member
  rw [quiet effect member]

-- A turn of the connection on a link: it sees the link, and the link sees what it did.
structure Turn (env : Env) (n m : Network) (id : Nat) (c : IncomingConnection) (fresh : List (Nat × Effect)) (io : SocketIO)
    (handled : Handled) : Prop where
  ran : processIncoming env n.server.toWorld c (n.heard id io) = .ok handled
  server : ∃ index, n.server.incomingConnections[index]? = some c ∧ m.server = n.server.store index handled
  fresh : fresh = handled.effects.map (Prod.mk id)
  up : m.up id = drained (n.up id) handled.effects
  down : m.down id = n.down id ++ packets env.apg handled.effects

theorem serve_holds {id : Nat} (sole : Sole n.server) (linked : id ∈ n.links) (holds : Holds n.server id c)
    (ran : serve env n event = .ok (m,fresh)) :
    (∃ io handled, Turn env n m id c fresh io handled) ∨
    (Away n.server m.server id c fresh ∧ m.up id = n.up id ∧ m.down id = n.down id) := by
  obtain ⟨stepped,absorbed⟩ := serve_parts ran
  rcases step_holds sole holds stepped with ⟨handled,turned⟩ | away
  · obtain ⟨index,io,same,present,visited,stored⟩ := turned.event
    have effects : effectsOf id fresh = handled.effects := by rw [turned.fresh,effectsOf_own]
    obtain ⟨socket,owned,rfl⟩ := Option.map_eq_some_iff.mp holds.2
    apply Or.inl
    cases event with
    | incoming place answer =>
      simp only [wired] at same
      split at same
      · rename_i missing
        obtain ⟨rfl,rfl⟩ := Event.incoming.inj same
        rw [present] at missing
        simp [owned] at missing
      · rename_i other found
        obtain ⟨rfl,rfl⟩ := Event.incoming.inj same
        rw [present] at found
        obtain rfl : socket = other := by simpa [owned] using found
        rw [if_pos linked] at visited
        exact ⟨answer,handled,visited,⟨place,present,stored⟩,turned.fresh,by rw [absorbed]; simp [absorb,effects],
          by rw [absorbed]; simp [absorb,effects]⟩
    | accept | purge | connected | database => cases same
  · have quiet := effectsOf_quiet away.quiet
    refine .inr ⟨away,?_,?_⟩
    · rw [absorbed]
      exact quiet_drained quiet _
    · rw [absorbed]
      simp [absorb,quiet_packets env.apg quiet]

theorem serve_finished {id : Nat} (sole : Sole n.server) (finished : Finished n.server id)
    (known : id < n.server.socketsAccepted) (ran : serve env n event = .ok (m,fresh)) :
    Finished m.server id ∧ m.up id = n.up id ∧ m.down id = n.down id := by
  obtain ⟨stepped,absorbed⟩ := serve_parts ran
  obtain ⟨still,quiet⟩ := finished_step sole finished known stepped
  have quiet := effectsOf_quiet quiet
  refine ⟨still,?_,?_⟩
  · rw [absorbed]
    exact quiet_drained quiet _
  · rw [absorbed]
    simp [absorb,quiet_packets env.apg quiet]

end Network
end PlayPG
