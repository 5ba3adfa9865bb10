import PlayPG.Projections
import PlayPG.SelectionAgreement

namespace PlayPG.LateAnswers
open Bytes Client ClientScreens ConnectedHandler Sockets Network SelectionAgreement

-- A wait of the selection ends with the first packet that comes, whatever it answers.
section Definitions
variable (apg : ByteBuffer) (id : Nat)

-- Whether a packet carries the list of the characters, and whether one asks for it.
def carriesList (packet : Bytes) : Bool := apg.getShort packet = ServerOpcode.PLAYER_CHARACTERS.code

def asksList (packet : Bytes) : Bool := apg.getShort packet = ClientOpcode.REQUEST_CHARACTERS.code

-- The answers that the client has not read, the oldest first, as if all had been given.
def outstanding (n : Network) : List Bool := (n.down id).map (carriesList apg) ++ (n.up id).map (asksList apg)

def waiting (screen : Screen) : Nat :=
  match screen.gameState,screen.awaiting with
  | .CHARACTER_SELECT,true | .MAP_SERVER_CONNECT,_ => 1
  | _,_ => 0

-- A wait for the list that ends without one.
def late (s : System) : Action → Option Unit
  | .receive arrives =>
    if s.screen.gameState = .CHARACTER_SELECT ∧ s.screen.awaiting = true ∧ (arrives = false ∨ s.network.down id = []) then some ()
    else none
  | _ => none

def lateLists (env : Env) (build : Build) (s : System) (actions : List Action) : Nat :=
  (Projections.own (System.step env build id) (late id) s actions).length

-- The client is behind by count answers; what it waits for is the youngest of those outstanding.
structure Behind (count : Nat) (s : System) : Prop where
  whole : ∀ packet ∈ s.network.down id, packet ≠ []
  calm : s.screen.gameState = .MAP_SERVER_CONNECT → s.screen.awaiting = false
  length : (outstanding apg id s.network).length = waiting s.screen + count
  list : s.screen.gameState = .CHARACTER_SELECT → s.screen.awaiting = true → (outstanding apg id s.network).getLast? = some true
  choice : s.screen.gameState = .MAP_SERVER_CONNECT → (outstanding apg id s.network).getLast? = some false
  one : count = 1 → s.screen.gameState ≠ .PLAYING ∧
    (s.screen.gameState = .MAP_SERVER_CONNECT → outstanding apg id s.network = [true,false])

end Definitions

variable {env : Env} {build : Build} {n m : Network} {id : Nat} {playerID : UInt64} {rows : List Character} {s t : System}
  {session : PlayerSession} {apg : ByteBuffer} {count : Nat}

theorem carriesList_buffer (packet : ServerPacket) :
    carriesList apg (packet.buffer apg) = decide (packet.opcode.code = ServerOpcode.PLAYER_CHARACTERS.code) := by
  rw [carriesList,ServerPacket.opcode_whole]

theorem asksList_buffer (packet : ClientPacket) :
    asksList apg (packet.buffer apg) = decide (packet.opcode.code = ClientOpcode.REQUEST_CHARACTERS.code) := by
  rw [asksList,ClientPacket.opcode_whole]

theorem buffer_some (packet : ServerPacket) : packet.buffer apg ≠ [] := by
  intro none
  have length := congrArg List.length none
  simp [ServerPacket.buffer,apg.putShort_length] at length

-- An answer takes the place of its request.
theorem answered_outstanding (up : n.up id = request :: rest) (left : m.up id = rest) (down : m.down id = n.down id ++ [answer])
    (same : carriesList apg answer = asksList apg request) : outstanding apg id m = outstanding apg id n := by
  simp only [outstanding,up,left,down,List.map_append,List.map_cons,List.map_nil,same,List.append_assoc,List.singleton_append]

theorem answered_some {id : Nat} (down : m.down id = n.down id ++ [answer]) (some : answer ≠ []) :
    ∀ packet ∈ m.down id, packet ∈ n.down id ∨ packet ≠ [] := by
  intro packet member
  rw [down] at member
  rcases List.mem_append.mp member with old | new
  · exact .inl old
  · rw [List.mem_singleton.mp new]
    exact .inr some

-- A turn of the session answers the oldest request, or nothing.
theorem turn_outstanding (listed : Listed env build rows) (coherent : Coherent env build id playerID rows s)
    (owned : session.socket = ⟨id,false,true⟩) (player : session.playerID = playerID)
    (turn : SessionTurn env s.network m id session fresh io visited) :
    outstanding env.apg id m = outstanding env.apg id s.network ∧
      ∀ packet ∈ m.down id, packet ∈ s.network.down id ∨ packet ≠ [] := by
  obtain ⟨users,next,ran⟩ := turn.ran
  have served := visit_served (by rw [owned]) ran
  have up := turn.up
  have down := turn.down
  by_cases active : (s.network.heardSession id io).activity = true
  · cases queue : s.network.up id with
    | nil => simp [heardSession,queue] at active
    | cons head rest =>
      cases coherent.up head (queue ▸ List.mem_cons_self ..) with
      | request =>
        rw [listed.apg] at queue
        obtain rfl := request_serve active queue served
        rw [queue,drained_request] at up
        refine ⟨answered_outstanding queue up down ?_,?_⟩
        · rw [carriesList_buffer,asksList_buffer]
          rfl
        · exact answered_some down (buffer_some _)
      | @select c first =>
        rw [listed.apg] at queue
        have one : ownedCharacters s.network.server.toWorld session c.id = [c] :=
          (owned_rows _ player coherent.kept c.id).trans (owned_one listed.single first)
        obtain ⟨packet,after,rfl,answer⟩ := select_serve active queue one served
        rw [queue,drained_select] at up
        refine ⟨answered_outstanding queue up down ?_,?_⟩
        · rw [carriesList_buffer,asksList_buffer]
          rcases answer with ⟨opcode,_⟩ | ⟨opcode,_⟩
          · rw [opcode]
            rfl
          · rw [opcode]
            rfl
        · exact answered_some down (buffer_some _)
  · obtain rfl := idle_serve (by simpa using active) served
    rw [quiet_drained (fun effect within => (List.not_mem_nil within).elim)] at up
    have same : m.down id = s.network.down id := down.trans (List.append_nil _)
    refine ⟨?_,fun packet member => .inl (same ▸ member)⟩
    rw [outstanding,up,same]
    rfl

theorem serve_outstanding (listed : Listed env build rows) (coherent : Coherent env build id playerID rows s)
    (ran : serve env s.network event = .ok (m,fresh)) :
    outstanding env.apg id m = outstanding env.apg id s.network ∧
      ∀ packet ∈ m.down id, packet ∈ s.network.down id ∨ packet ≠ [] := by
  obtain ⟨trace,valid⟩ := coherent.accounted
  obtain ⟨session,plays,owned,player,_⟩ := coherent.session
  rcases serve_plays (accounted_sole valid) coherent.linked plays ran with ⟨io,visited,turn⟩ | apart
  · exact turn_outstanding listed coherent owned player turn
  · refine ⟨?_,fun packet member => .inl (apart.down ▸ member)⟩
    rw [outstanding,apart.up,apart.down]
    rfl

-- A recv() either takes the oldest packet of the link or gets nothing.
theorem collect_cases {id : Nat} (collected : n.collect id arrives = (recv,m)) :
    (m = n ∧ recv = .nothing 0 ∧ (arrives = false ∨ n.down id = [])) ∨
      ∃ packet rest, arrives = true ∧ n.down id = packet :: rest ∧ recv = .ofBytes packet ∧ m = n.receive id := by
  cases arrives with
  | false =>
    obtain ⟨rfl,rfl⟩ := Prod.mk.inj collected
    exact .inl ⟨rfl,rfl,.inl rfl⟩
  | true =>
    unfold collect at collected
    cases queue : n.down id with
    | nil =>
      rw [queue] at collected
      obtain ⟨rfl,rfl⟩ := Prod.mk.inj collected
      exact .inl ⟨rfl,rfl,.inr rfl⟩
    | cons packet rest =>
      rw [queue] at collected
      obtain ⟨rfl,rfl⟩ := Prod.mk.inj collected
      exact .inr ⟨packet,rest,rfl,rfl,rfl,rfl⟩

theorem receiveCharacters_turns (ran : receiveCharacters build screen recv = .ok (next,sent)) :
    (next = {screen with awaiting := false} ∧ sent = []) ∨
    ∃ character : Character, recv.result ≠ 0 ∧
      next = {screen with awaiting := false,currentCharacter := some character,gameState := .MAP_SERVER_CONNECT} ∧
      sent = [(ClientPacket.characterSelect character.id).buffer build.apg] := by
  unfold receiveCharacters at ran
  dsimp only at ran
  split at ran
  · cases Except.ok.inj ran
    exact .inl ⟨rfl,rfl⟩
  · rename_i some
    split at ran
    · cases Except.ok.inj ran
      exact .inl ⟨rfl,rfl⟩
    · split at ran
      · cases ran
      · cases Except.ok.inj ran
        exact .inl ⟨rfl,rfl⟩
      · rename_i character rest decoded
        cases Except.ok.inj ran
        exact .inr ⟨character,some,rfl,rfl⟩

theorem receiveInstructions_turns (ran : receiveInstructions build screen recv = .ok next) :
    (recv.result = 0 ∧ next = screen) ∨ (recv.result ≠ 0 ∧ (next = {screen with gameState := .CHARACTER_SELECT} ∨
      (build.apg.getShort recv.bytes = ServerOpcode.MAP_SERVER_CONNECTION_INSTRUCTIONS.code ∧
        next = {screen with gameState := .PLAYING}))) := by
  unfold receiveInstructions at ran
  dsimp only at ran
  split at ran
  · rename_i none
    exact .inl ⟨none,(Except.ok.inj ran).symm⟩
  · rename_i some
    refine .inr ⟨some,?_⟩
    split at ran
    · exact .inl (Except.ok.inj ran).symm
    · split at ran
      · rename_i opcode
        split at ran
        · cases ran
        · exact .inr ⟨opcode,(Except.ok.inj ran).symm⟩
      · exact .inl (Except.ok.inj ran).symm

-- What the server does leaves the client where it is.
theorem Behind.serve (behind : Behind env.apg id count s) (listed : Listed env build rows)
    (coherent : Coherent env build id playerID rows s) (ran : Network.serve env s.network event = .ok (m,fresh)) :
    Behind env.apg id count ⟨m,s.screen⟩ := by
  obtain ⟨same,some⟩ := serve_outstanding listed coherent ran
  refine ⟨?_,behind.calm,?_,?_,?_,?_⟩
  · intro packet member
    rcases some packet member with old | new
    · exact behind.whole packet old
    · exact new
  · rw [same]
    exact behind.length
  · intro select awaiting
    rw [same]
    exact behind.list select awaiting
  · intro connect
    rw [same]
    exact behind.choice connect
  · intro single
    rw [same]
    exact behind.one single

theorem outstanding_send (sent : List Bytes) :
    outstanding apg id (n.send id sent) = outstanding apg id n ++ sent.map (asksList apg) := by
  simp only [outstanding,Network.send,Function.update_self,List.map_append,List.append_assoc]

theorem outstanding_receive (queue : n.down id = packet :: rest) :
    outstanding apg id n = carriesList apg packet :: outstanding apg id (n.receive id) := by
  simp only [outstanding,Network.receive,Function.update_self,queue,List.map_cons,List.tail_cons,List.cons_append]

theorem Behind.press (behind : Behind build.apg id count s) : Behind build.apg id count (s.press build id) := by
  unfold System.press
  split
  · rename_i select idle
    have asks : outstanding build.apg id (s.network.send id [ClientPacket.clientRequestCharacters.buffer build.apg]) =
        outstanding build.apg id s.network ++ [true] := by
      rw [outstanding_send,List.map_singleton,asksList_buffer]
      rfl
    have length := behind.length
    simp only [waiting,select,idle] at length
    refine ⟨behind.whole,?_,?_,?_,?_,?_⟩
    · intro connect
      cases select.symm.trans connect
    · rw [asks,List.length_append]
      simp only [waiting,select,length,List.length_singleton]
      omega
    · intro _ _
      rw [asks]
      exact List.getLast?_concat
    · intro connect
      cases select.symm.trans connect
    · intro single
      refine ⟨(behind.one single).1,?_⟩
      intro connect
      cases select.symm.trans connect
  · exact behind

theorem receive_whole (whole : ∀ packet ∈ n.down id, packet ≠ []) : ∀ packet ∈ (n.receive id).down id, packet ≠ [] := by
  intro packet member
  simp only [Network.receive,Function.update_self] at member
  exact whole packet (List.mem_of_mem_tail member)

-- Without a list the client goes back to its keys; an answer that still comes puts it behind.
theorem Behind.missed (behind : Behind apg id count s) (select : s.screen.gameState = .CHARACTER_SELECT)
    (awaiting : s.screen.awaiting = true) :
    Behind apg id (count + 1) ⟨s.network.send id [],{s.screen with awaiting := false}⟩ := by
  have same : outstanding apg id (s.network.send id []) = outstanding apg id s.network := by
    rw [outstanding_send]
    exact List.append_nil _
  have length := behind.length
  simp only [waiting,select,awaiting] at length
  refine ⟨behind.whole,?_,?_,?_,?_,?_⟩
  · intro _
    rfl
  · rw [same,length]
    simp only [waiting,select]
    omega
  · intro _ still
    cases still
  · intro connect
    cases select.symm.trans connect
  · intro _
    refine ⟨?_,?_⟩
    · intro playing
      cases select.symm.trans playing
    · intro connect
      cases select.symm.trans connect

-- An answer that comes ends the wait, and may lead to a selection.
theorem Behind.characters (behind : Behind build.apg id count s) (select : s.screen.gameState = .CHARACTER_SELECT)
    (awaiting : s.screen.awaiting = true) (queue : s.network.down id = packet :: rest)
    (received : receiveCharacters build s.screen recv = .ok (next,sent)) :
    Behind build.apg id count ⟨(s.network.receive id).send id sent,next⟩ := by
  have oldest : outstanding build.apg id s.network =
      carriesList build.apg packet :: outstanding build.apg id (s.network.receive id) := outstanding_receive queue
  have length := behind.length
  simp only [waiting,select,awaiting,oldest,List.length_cons] at length
  have whole := receive_whole behind.whole
  rcases receiveCharacters_turns received with ⟨rfl,rfl⟩ | ⟨character,_,rfl,rfl⟩
  · refine ⟨whole,?_,?_,?_,?_,?_⟩
    · intro _
      rfl
    · rw [outstanding_send,List.map_nil,List.append_nil]
      simp only [waiting,select]
      omega
    · intro _ still
      cases still
    · intro connect
      cases select.symm.trans connect
    · intro _
      refine ⟨?_,?_⟩
      · intro playing
        cases select.symm.trans playing
      · intro connect
        cases select.symm.trans connect
  · have choice : outstanding build.apg id ((s.network.receive id).send id
        [(ClientPacket.characterSelect character.id).buffer build.apg]) =
          outstanding build.apg id (s.network.receive id) ++ [false] := by
      rw [outstanding_send,List.map_singleton,asksList_buffer]
      rfl
    refine ⟨whole,?_,?_,?_,?_,?_⟩
    · intro _
      rfl
    · rw [choice,List.length_append]
      simp only [waiting,List.length_singleton]
      omega
    · intro _ still
      cases still
    · intro _
      rw [choice]
      exact List.getLast?_concat
    · intro single
      refine ⟨?_,?_⟩
      · intro playing
        cases playing
      · intro _
        -- One answer is left before its own, that to the last request for the list.
        have last := behind.list select awaiting
        rw [oldest] at last
        obtain ⟨only,alone⟩ := List.length_eq_one_iff.mp (by omega : (outstanding build.apg id (s.network.receive id)).length = 1)
        rw [alone] at last
        obtain rfl : only = true := Option.some.inj last
        rw [choice,alone]
        rfl

theorem Behind.instructions (behind : Behind build.apg id count s) (connect : s.screen.gameState = .MAP_SERVER_CONNECT)
    (queue : s.network.down id = packet :: rest) (received : receiveInstructions build s.screen (.ofBytes packet) = .ok next) :
    Behind build.apg id count ⟨s.network.receive id,next⟩ := by
  have oldest : outstanding build.apg id s.network =
      carriesList build.apg packet :: outstanding build.apg id (s.network.receive id) := outstanding_receive queue
  have calm := behind.calm connect
  have length := behind.length
  simp only [waiting,connect,oldest,List.length_cons] at length
  have whole := receive_whole behind.whole
  rcases receiveInstructions_turns received with ⟨none,_⟩ | ⟨_,rfl | ⟨opcode,rfl⟩⟩
  · have some := behind.whole packet (queue ▸ List.mem_cons_self ..)
    rw [Recv.ofBytes_result] at none
    exact absurd (List.length_eq_zero_iff.mp (by omega)) some
  · refine ⟨whole,?_,?_,?_,?_,?_⟩
    · intro again
      cases again
    · simp only [waiting,calm]
      omega
    · intro _ still
      cases calm.symm.trans still
    · intro again
      cases again
    · intro _
      refine ⟨?_,?_⟩
      · intro playing
        cases playing
      · intro again
        cases again
  · refine ⟨whole,?_,?_,?_,?_,?_⟩
    · intro again
      cases again
    · simp only [waiting]
      omega
    · intro select
      cases select
    · intro again
      cases again
    · intro single
      -- Behind by one, the packet that was read is the list.
      have lists := (behind.one single).2 connect
      rw [oldest] at lists
      have carried := of_decide_eq_true (List.cons.inj lists).1
      rw [Recv.bytes_ofBytes] at opcode
      rw [opcode] at carried
      exact absurd carried (by decide)

theorem Behind.receive (behind : Behind build.apg id count s) (ran : s.receive build id arrives = .ok t) :
    Behind build.apg id (count + (late id s (.receive arrives)).toList.length) t := by
  unfold System.receive at ran
  rcases got : s.network.collect id arrives with ⟨recv,network⟩
  rw [got] at ran
  dsimp only at ran
  have taken := collect_cases got
  split at ran
  · rename_i select awaiting
    obtain ⟨⟨next,sent⟩,received,rfl⟩ := map_ok ran
    rcases taken with ⟨rfl,rfl,missed⟩ | ⟨packet,rest,rfl,queue,rfl,rfl⟩
    · have counted : late id s (.receive arrives) = some () := if_pos ⟨select,awaiting,missed⟩
      obtain ⟨rfl,rfl⟩ := Prod.mk.inj (Except.ok.inj received)
      rw [counted]
      exact behind.missed select awaiting
    · have uncounted : late id s (.receive true) = none := by
        refine if_neg fun missed => ?_
        rw [queue] at missed
        obtain none | none := missed.2.2 <;> cases none
      rw [uncounted]
      exact behind.characters select awaiting queue received
  · rename_i connect
    obtain ⟨next,received,rfl⟩ := map_ok ran
    have uncounted : late id s (.receive arrives) = none := by
      refine if_neg fun missed => ?_
      cases connect.symm.trans missed.1
    rw [uncounted]
    rcases taken with ⟨rfl,rfl,_⟩ | ⟨packet,rest,rfl,queue,rfl,rfl⟩
    · obtain rfl := Except.ok.inj received
      exact behind
    · exact behind.instructions connect queue received
  · rename_i _ away
    cases Except.ok.inj ran
    have uncounted : late id s (.receive arrives) = none := if_neg fun missed => away missed.1 missed.2.1
    rw [uncounted]
    exact behind

theorem step_behind (listed : Listed env build rows) (coherent : Coherent env build id playerID rows s)
    (behind : Behind env.apg id count s) (ran : System.step env build id s action = .ok (t,fresh)) :
    Behind env.apg id (count + (late id s action).toList.length) t := by
  cases action with
  | server event =>
    obtain ⟨⟨network,effects⟩,served,same⟩ := map_ok ran
    obtain ⟨rfl,_⟩ := Prod.mk.inj same
    exact behind.serve listed coherent served
  | press =>
    obtain ⟨rfl,_⟩ := Prod.mk.inj (Except.ok.inj ran)
    rw [← listed.apg] at behind ⊢
    exact behind.press
  | receive arrives =>
    obtain ⟨next,received,same⟩ := map_ok ran
    obtain ⟨rfl,_⟩ := Prod.mk.inj same
    rw [← listed.apg] at behind ⊢
    exact behind.receive received

theorem start_behind (start : LoggedIn env id playerID rows s) (clean : s.network.down id = []) : Behind env.apg id 0 s := by
  have nothing : outstanding env.apg id s.network = [] := by
    rw [outstanding,clean,start.up]
    rfl
  refine ⟨?_,?_,?_,?_,?_,?_⟩
  · rw [clean]
    intro packet member
    cases member
  · rw [start.screen]
    intro connect
    cases connect
  · rw [nothing,start.screen]
    rfl
  · rw [start.screen]
    intro _ awaiting
    cases awaiting
  · rw [start.screen]
    intro connect
    cases connect
  · intro single
    cases single

theorem run_behind (listed : Listed env build rows) (start : LoggedIn env id playerID rows s) (clean : s.network.down id = [])
    (path : Runs.Run (System.step env build id) s actions trace t) (keeps : ∀ action ∈ actions, Keeps playerID rows action) :
    Behind env.apg id (lateLists id env build s actions) t := by
  induction path with
  | nil => exact start_behind start clean
  | snoc prior ran ih =>
    have earlier := fun action member => keeps action (List.mem_append_left _ member)
    have coherent := run_coherent listed start prior earlier
    rw [lateLists,Projections.own_snoc prior,List.length_append]
    exact step_behind listed coherent (ih earlier) ran

-- Every list that came too late leaves the client one answer behind for good. With none it reads the answers to
-- its own requests; with exactly one it never gets to play, however often it asks and however well it is served.
theorem late_lists (listed : Listed env build rows) (start : LoggedIn env id playerID rows s) (clean : s.network.down id = [])
    (path : Runs.Run (System.step env build id) s actions trace t) (keeps : ∀ action ∈ actions, Keeps playerID rows action) :
    (t.network.down id).length + (t.network.up id).length = waiting t.screen + lateLists id env build s actions ∧
    (lateLists id env build s actions = 0 → t.screen.gameState = .MAP_SERVER_CONNECT →
      ∀ packet ∈ t.network.down id, env.apg.getShort packet ≠ ServerOpcode.PLAYER_CHARACTERS.code) ∧
    (lateLists id env build s actions = 1 → t.screen.gameState ≠ .PLAYING) := by
  have behind := run_behind listed start clean path keeps
  refine ⟨?_,?_,fun single => (behind.one single).1⟩
  · have length := behind.length
    simp only [outstanding,List.length_append,List.length_map] at length
    exact length
  · intro none connect packet member carried
    have length := behind.length
    rw [none] at length
    simp only [waiting,connect] at length
    have last := behind.choice connect
    obtain ⟨only,alone⟩ := List.length_eq_one_iff.mp length
    rw [alone] at last
    obtain rfl : only = false := Option.some.inj last
    have lists : carriesList env.apg packet ∈ outstanding env.apg id t.network :=
      List.mem_append_left _ (List.mem_map_of_mem member)
    rw [alone,carriesList,carried] at lists
    simp at lists

-- The first list comes after its wait; from then on the client reads a list where it waits for instructions.
def behindhand : List Action := [.press,.receive false,serving,.press,serving,.receive true,serving,.receive true,
  .press,serving,.receive true,.press,serving,.receive true]

theorem late_lists_hero : ∃ trace t,
    Runs.Run (System.step CharacterChoice.playing hopes 1) hopeful behindhand trace t ∧
    t.screen.gameState = .MAP_SERVER_CONNECT ∧
    (t.network.down 1).length + (t.network.up 1).length = waiting t.screen + 1 ∧ t.screen.gameState ≠ .PLAYING := by
  obtain ⟨trace,t,path,connect⟩ := Runs.execute_check (System.step CharacterChoice.playing hopes 1) hopeful behindhand
    (fun last => last.1.screen.gameState == .MAP_SERVER_CONNECT) (by decide +kernel)
  have keeps : ∀ action ∈ behindhand, Keeps 7 [CharacterChoice.hero] action := by
    simp [behindhand,serving,Keeps]
  have single : lateLists 1 CharacterChoice.playing hopes hopeful behindhand = 1 := by decide +kernel
  obtain ⟨length,_,away⟩ := late_lists hopes_listed hopeful_loggedIn rfl path keeps
  rw [single] at length
  exact ⟨trace,t,path,by simpa using connect,length,away single⟩

end PlayPG.LateAnswers
