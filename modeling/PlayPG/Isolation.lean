import PlayPG.Projections
import PlayPG.Seclusion
import PlayPG.Sockets

namespace PlayPG.Isolation
open Bytes IncomingHandler ConnectedHandler Visits ServerSteps Connections Ownership Sockets Seclusion

variable {id : Nat}

-- The owner of a socket in a state of the server.
def peer (s : LoginServer) (id : Nat) : Peer :=
  match s.incomingConnections.find? (fun c => c.socket.map Socket.id == some id) with
  | some c => .connecting c
  | none =>
    match s.playerSessions.find? (fun session => session.map (·.socket.id) == some id) with
    | some (some session) => .playing (unnumbered session)
    | _ =>
      match s.mapServers.items.find? (·.connection.id == id) with
      | some server => .serving server
      | none => if id < s.socketsAccepted then .gone else .unknown

inductive Owner (s : LoginServer) (id : Nat) : Peer → Prop where
  | connecting (holds : Holds s id c) : Owner s id (.connecting c)
  | playing (plays : Plays s id session) : Owner s id (.playing (unnumbered session))
  | serving (serves : Serves s id server) : Owner s id (.serving server)
  | gone (known : id < s.socketsAccepted) (left : id ∉ owners s) : Owner s id .gone
  | unknown (new : s.socketsAccepted ≤ id) (left : id ∉ owners s) : Owner s id .unknown

theorem not_held (left : ∀ c, ¬ Holds s id c) :
    s.incomingConnections.find? (fun c => c.socket.map Socket.id == some id) = none := by
  apply List.find?_eq_none.mpr
  intro c member same
  exact left c ⟨member,by simpa using same⟩

theorem not_played (left : ∀ session, ¬ Plays s id session) :
    s.playerSessions.find? (fun session => session.map (·.socket.id) == some id) = none := by
  apply List.find?_eq_none.mpr
  intro session member same
  obtain ⟨found,rfl,own⟩ := Option.map_eq_some_iff.mp (by simpa using same)
  exact left found ⟨member,own⟩

theorem not_served (left : ∀ server, ¬ Serves s id server) :
    s.mapServers.items.find? (·.connection.id == id) = none := by
  apply List.find?_eq_none.mpr
  intro server member same
  exact left server ⟨member,by simpa using same⟩

theorem owners_parts (owned : id ∈ owners s) : (∃ c, Holds s id c) ∨ (∃ session, Plays s id session) ∨ ∃ server, Serves s id server := by
  rcases List.mem_append.mp owned with held | shared
  · obtain ⟨c,member,same⟩ := List.mem_filterMap.mp held
    exact .inl ⟨c,member,same⟩
  · rcases List.mem_append.mp shared with played | served
    · obtain ⟨found,member,same⟩ := List.mem_filterMap.mp played
      obtain ⟨session,rfl,own⟩ := Option.map_eq_some_iff.mp same
      exact .inr (.inl ⟨session,member,own⟩)
    · obtain ⟨server,member,same⟩ := List.mem_map.mp served
      exact .inr (.inr ⟨server,member,same⟩)

theorem server_single (sole : Sole s) (one : Serves s id server) (two : Serves s id other) : server = other := by
  have single : (s.mapServers.items.filterMap fun server => some server.connection.id).Nodup := by
    rw [List.filterMap_eq_map']
    exact (List.nodup_append.mp (List.nodup_append.mp sole.single).2.1).2.1
  exact filterMap_single single one.1 two.1 (congrArg some one.2) (congrArg some two.2)

theorem player_elsewhere (sole : Sole s) (plays : Plays s id session) (serves : Serves s id server) : False := by
  have parted := (List.nodup_append.mp (List.nodup_append.mp sole.single).2.1).2.2
  have played : id ∈ sessionSockets s.playerSessions := List.mem_filterMap.mpr ⟨some session,plays.1,congrArg some plays.2⟩
  have served : id ∈ serverSockets s.mapServers := List.mem_map.mpr ⟨server,serves.1,serves.2⟩
  exact parted id played id served rfl

theorem peer_owner (sole : Sole s) (owner : Owner s id who) : peer s id = who := by
  unfold peer
  cases owner with
  | @connecting c holds =>
    cases looked : s.incomingConnections.find? (fun c => c.socket.map Socket.id == some id) with
    | none => exact absurd (List.find?_eq_none.mp looked c holds.1) (by simp [holds.2])
    | some other =>
      have held : Holds s id other := ⟨List.mem_of_find?_eq_some looked,by simpa using List.find?_some looked⟩
      rw [sole.holder holds held]
  | @playing session plays =>
    rw [not_held (fun c holds => sole.apart holds plays.world)]
    cases looked : s.playerSessions.find? (fun session => session.map (·.socket.id) == some id) with
    | none => exact absurd (List.find?_eq_none.mp looked (some session) plays.1) (by simp [plays.2])
    | some other =>
      obtain ⟨again,rfl,own⟩ := Option.map_eq_some_iff.mp
        (show other.map (·.socket.id) = some id by simpa using List.find?_some looked)
      have held : Plays s id again := ⟨List.mem_of_find?_eq_some looked,own⟩
      rw [sole.player plays held]
  | @serving server serves =>
    rw [not_held (fun c holds => sole.apart holds serves.world),not_played (fun session plays => player_elsewhere sole plays serves)]
    cases looked : s.mapServers.items.find? (·.connection.id == id) with
    | none => exact absurd (List.find?_eq_none.mp looked server serves.1) (by simp [serves.2])
    | some other =>
      have held : Serves s id other := ⟨List.mem_of_find?_eq_some looked,by simpa using List.find?_some looked⟩
      rw [server_single sole serves held]
  | gone known left =>
    have absent := fun owned => left owned
    rw [not_held (fun c holds => absent (List.mem_append_left _ holds.incoming)),
      not_played (fun session plays => absent (List.mem_append_right _ plays.world)),
      not_served (fun server serves => absent (List.mem_append_right _ serves.world))]
    simp only [known,if_true]
  | unknown new left =>
    rw [not_held (fun c holds => left (List.mem_append_left _ holds.incoming)),
      not_played (fun session plays => left (List.mem_append_right _ plays.world)),
      not_served (fun server serves => left (List.mem_append_right _ serves.world))]
    simp only [Nat.not_lt.mpr new,if_false]

theorem owner_exists (s : LoginServer) (id : Nat) : ∃ who, Owner s id who := by
  by_cases owned : id ∈ owners s
  · rcases owners_parts owned with ⟨c,holds⟩ | ⟨session,plays⟩ | ⟨server,serves⟩
    · exact ⟨_,.connecting holds⟩
    · exact ⟨_,.playing plays⟩
    · exact ⟨_,.serving serves⟩
  · by_cases known : id < s.socketsAccepted
    · exact ⟨_,.gone known owned⟩
    · exact ⟨_,.unknown (Nat.not_lt.mp known) owned⟩

-- What happens to one socket; a turn comes with the members that its handlers look at.
inductive Concern where
  | accept
  | turn (world : World) (io : SocketIO)
  | purge
  | session (world : World) (io : SessionIO)

-- The server with a single socket.
def solo (env : Env) (id : Nat) : Runs.Machine Peer Concern Effect Fault
  | .unknown,.accept => .ok (.connecting (.ofSocket ⟨id,false,true⟩),[.accepted])
  | .connecting c,.turn world io => (processIncoming env world c io).map (outcome world)
  | .connecting c,.purge => if c.state = .DONE then .ok (.gone,[.purged]) else .ok (.connecting c,[])
  | .playing session,.session world io => (visitSession env world session io).map (fun left => lasting left.2)
  | who,_ => .ok (who,[])

def concern (id : Nat) (s : LoginServer) : Event → Option Concern
  | .accept => if s.socketsAccepted = id then some .accept else none
  | .incoming index io =>
    match s.incomingConnections[index]? with
    | some c => if c.socket.map Socket.id = some id then some (.turn (secluded s.toWorld) io) else none
    | none => none
  | .purge => some .purge
  | .connected ios =>
    ((SessionIndex.turns s.playerSessions ios).find? (fun turn => turn.1.socket.id == id)).map
      (fun turn => .session (secluded s.toWorld) turn.2)
  | .database _ _ => none

def tagged (id : Nat) (entry : Nat × Effect) : Option Effect := if entry.1 = id then some entry.2 else none

theorem tagged_own (effects : List Effect) (id : Nat) : (effects.map (Prod.mk id)).filterMap (tagged id) = effects := by
  induction effects with
  | nil => rfl
  | cons effect effects ih => simp [tagged,ih]

theorem tagged_other (effects : List Effect) (other : key ≠ id) : (effects.map (Prod.mk key)).filterMap (tagged id) = [] := by
  apply List.filterMap_eq_nil_iff.mpr
  intro entry member
  obtain ⟨effect,_,rfl⟩ := List.mem_map.mp member
  exact if_neg other

theorem tagged_silent {fresh : List (Nat × Effect)} (silent : ∀ effect, (id,effect) ∉ fresh) : fresh.filterMap (tagged id) = [] := by
  apply List.filterMap_eq_nil_iff.mpr
  rintro ⟨key,effect⟩ member
  apply if_neg
  rintro rfl
  exact silent effect member

theorem tagged_purged {fresh : List (Nat × Effect)} (only : ∀ effect, (id,effect) ∈ fresh → effect = .purged) :
    fresh.filterMap (tagged id) = List.replicate (fresh.count (id,.purged)) .purged := by
  induction fresh with
  | nil => rfl
  | cons entry fresh ih =>
    obtain ⟨key,effect⟩ := entry
    have later := ih (fun other member => only other (List.mem_cons_of_mem _ member))
    by_cases own : key = id
    · subst own
      obtain rfl := only effect List.mem_cons_self
      simp [tagged,later,List.replicate_succ]
    · simp [tagged,own,later]

-- A socket gets an owner when it is accepted and loses it when it is purged.
theorem owners_exchange (before : Accounted trace s) (after : Accounted (trace ++ fresh) t) (id : Nat) :
    (owners t).count id + fresh.count (id,.purged) = (owners s).count id + fresh.count (id,.accepted) := by
  have first := before.conserved id
  have second := after.conserved id
  rw [List.count_append,List.count_append] at second
  omega

theorem owners_left (before : Accounted trace s) (after : Accounted (trace ++ fresh) t) (quiet : (id,.accepted) ∉ fresh)
    (left : id ∉ owners s) : id ∉ owners t := by
  have exchange := owners_exchange before after id
  rw [List.count_eq_zero.mpr quiet,List.count_eq_zero.mpr left] at exchange
  apply List.count_eq_zero.mp
  omega

theorem purged_left (after : Accounted (trace ++ fresh) t) (purged : (id,.purged) ∈ fresh) :
    id ∉ owners t := by
  have conserved := after.conserved id
  have accepted := after.accepted id
  have gone := List.count_pos_iff.mpr purged
  rw [List.count_append] at conserved
  apply List.count_eq_zero.mp
  split_ifs at accepted
  · omega
  · omega

-- A step that reaches neither the owner of a socket nor the socket.
theorem owner_stays (owner : Owner s id who) (later : Sole t) (holds : ∀ c, Holds s id c → Holds t id c)
    (plays : ∀ session, Plays s id session → Plays t id session)
    (serves : ∀ server, Serves s id server → Serves t id server) (clock : id < s.socketsAccepted ↔ id < t.socketsAccepted)
    (left : id ∉ owners s → id ∉ owners t) : peer t id = who := by
  apply peer_owner later
  cases owner with
  | connecting held => exact .connecting (holds _ held)
  | playing played => exact .playing (plays _ played)
  | serving served => exact .serving (serves _ served)
  | gone known absent => exact .gone (clock.mp known) (left absent)
  | unknown new absent => exact .unknown (Nat.not_lt.mp (fun known => Nat.not_lt.mpr new (clock.mpr known))) (left absent)

theorem accept_other (before : Accounted trace s) (after : Accounted (trace ++ s.acceptSocket.2) s.acceptSocket.1)
    (other : s.socketsAccepted ≠ id) : peer s.acceptSocket.1 id = peer s id ∧ s.acceptSocket.2.filterMap (tagged id) = [] := by
  have quiet : ∀ effect, (id,effect) ∉ s.acceptSocket.2 := by
    intro effect member
    exact other (Prod.mk.inj (List.mem_singleton.mp member)).1.symm
  refine ⟨?_,tagged_silent quiet⟩
  obtain ⟨who,owner⟩ := owner_exists s id
  rw [peer_owner (accounted_sole before) owner]
  refine owner_stays owner (accounted_sole after) ?_ (fun _ plays => plays) (fun _ serves => serves) ?_
    (owners_left before after (quiet _))
  · intro c holds
    exact ⟨List.mem_append_left _ holds.1,holds.2⟩
  · change id < s.socketsAccepted ↔ id < s.socketsAccepted + 1
    omega

theorem accept_own (before : Accounted trace s) (after : Accounted (trace ++ s.acceptSocket.2) s.acceptSocket.1) :
    peer s s.socketsAccepted = .unknown ∧
      peer s.acceptSocket.1 s.socketsAccepted = .connecting (.ofSocket ⟨s.socketsAccepted,false,true⟩) ∧
      s.acceptSocket.2.filterMap (tagged s.socketsAccepted) = [.accepted] := by
  refine ⟨?_,?_,?_⟩
  · apply peer_owner (accounted_sole before)
    apply Owner.unknown (Nat.le_refl _)
    intro owned
    exact Nat.lt_irrefl _ ((accounted_sole before).known _ owned)
  · apply peer_owner (accounted_sole after)
    exact .connecting ⟨List.mem_append_right _ (List.mem_singleton_self _),rfl⟩
  · simp [LoginServer.acceptSocket,tagged]

theorem purge_solo (before : Accounted trace s) (after : Accounted (trace ++ s.purgeDone.2) s.purgeDone.1) :
    solo env id (peer s id) .purge = .ok (peer s.purgeDone.1 id,s.purgeDone.2.filterMap (tagged id)) := by
  have exchange := owners_exchange before after id
  have unaccepted : (id,Effect.accepted) ∉ s.purgeDone.2 := by
    intro member
    obtain ⟨_,_,same⟩ := List.mem_map.mp member
    cases (Prod.mk.inj same).2
  rw [List.count_eq_zero.mpr unaccepted,Nat.add_zero] at exchange
  have single := List.nodup_iff_count_le_one.mp (accounted_sole before).single id
  have only : ∀ effect, (id,effect) ∈ s.purgeDone.2 → effect = .purged := by
    intro effect member
    obtain ⟨_,_,same⟩ := List.mem_map.mp member
    exact (Prod.mk.inj same).2.symm
  rw [tagged_purged only]
  obtain ⟨who,owner⟩ := owner_exists s id
  rw [peer_owner (accounted_sole before) owner]
  by_cases done : ∃ c, Holds s id c ∧ c.state = .DONE
  · obtain ⟨c,holds,done⟩ := done
    obtain ⟨socket,owned,same⟩ := Option.map_eq_some_iff.mp holds.2
    have purged : (id,Effect.purged) ∈ s.purgeDone.2 :=
      List.mem_map.mpr ⟨socket,List.mem_filterMap.mpr ⟨c,List.mem_filter.mpr ⟨holds.1,by simpa using done⟩,owned⟩,by rw [same]⟩
    have known := (accounted_sole before).known id (List.mem_append_left _ holds.incoming)
    have gone := List.count_pos_iff.mpr purged
    rw [peer_owner (accounted_sole after) (.gone known (purged_left after purged)),
      show s.purgeDone.2.count (id,.purged) = 1 by omega,← peer_owner (accounted_sole before) owner,
      peer_owner (accounted_sole before) (.connecting holds)]
    simp only [solo,if_pos done]
    rfl
  · -- The owner stays, if there is one, and leaves no purge to count.
    have holds : ∀ c, Holds s id c → Holds s.purgeDone.1 id c := by
      intro c held
      exact ⟨List.mem_filter.mpr ⟨held.1,by simpa using fun finished => done ⟨c,held,finished⟩⟩,held.2⟩
    have stays : id ∈ owners s → id ∈ owners s.purgeDone.1 := by
      intro owned
      rcases List.mem_append.mp owned with held | shared
      · obtain ⟨c,member,same⟩ := List.mem_filterMap.mp held
        exact List.mem_append_left _ (holds c ⟨member,same⟩).incoming
      · exact List.mem_append_right _ shared
    have none : s.purgeDone.2.count (id,.purged) = 0 := by
      by_cases owned : id ∈ owners s
      · have kept := List.count_pos_iff.mpr (stays owned)
        omega
      · rw [List.count_eq_zero.mpr owned] at exchange
        omega
    rw [none,owner_stays owner (accounted_sole after) holds (fun _ plays => plays) (fun _ serves => serves) Iff.rfl
      (owners_left before after unaccepted)]
    cases owner with
    | @connecting c held => exact if_neg (fun finished => done ⟨c,held,finished⟩)
    | playing | serving | gone | unknown => rfl

-- What a turn leaves of the owner, and where the server keeps it.
inductive Succeeds (world : World) (id : Nat) (handled : Handled) : Prop where
  | connecting (same : successor world handled = .connecting handled.connection)
      (owned : handled.connection.socket.map Socket.id = some id) : Succeeds world id handled
  | playing (session : PlayerSession) (same : successor world handled = .playing (unnumbered session))
      (listed : some session ∈ handled.world.playerSessions) (owned : session.socket.id = id) : Succeeds world id handled
  | serving (server : MapServerConnection) (same : successor world handled = .serving server)
      (listed : server ∈ handled.world.mapServers.items) (owned : server.connection.id = id) : Succeeds world id handled

theorem still_connecting (same : handled.world = world) (owned : handled.connection.socket.map Socket.id = some id) :
    Succeeds world id handled := by
  obtain ⟨left,connection,effects⟩ := handled
  obtain rfl : left = world := same
  exact .connecting (congrArg Prod.fst (outcome_same left connection effects)) owned

theorem visit_succeeds (visit : Visit env world io c handled) (own : c.socket.map Socket.id = some id) :
    Succeeds world id handled := by
  have keeps : ∀ (after : Socket) {socket}, c.socket = some socket → after.id = socket.id → (some after).map Socket.id = some id := by
    intro after socket owned same
    rw [owned] at own
    exact (congrArg some same).trans own
  cases visit with
  | done finished => exact still_connecting rfl own
  | dropped live owned failed => exact still_connecting rfl (keeps _ owned rfl)
  | greeted fresh owned alive => exact still_connecting rfl (keeps _ owned rfl)
  | quiet live met owned idle => exact still_connecting rfl (keeps _ owned rfl)
  | closed live turn closes => exact still_connecting rfl (keeps _ turn.owned rfl)
  | unexpected login turn other => exact still_connecting rfl (keeps _ turn.owned rfl)
  | refused login turn identity refuses unlocked => exact still_connecting rfl (keeps _ turn.owned rfl)
  | locked login turn identity row locked => exact still_connecting rfl (keeps _ turn.owned rfl)
  | registering challenged turn request reached got => exact still_connecting rfl (keeps _ turn.owned rfl)
  | unanswered challenged turn request lost => exact still_connecting rfl (keeps _ turn.owned rfl)
  | notNeeded listing turn opcode decoded none got => exact still_connecting rfl (keeps _ turn.owned rfl)
  | listed listing turn opcode decoded some got => exact still_connecting rfl (keeps _ turn.owned rfl)
  | @accepted socket authID person login turn identity accepts =>
    have new := outcome_session world (world.newSession env.md5 person authID.username (answered socket io) io.diceRoll) io.now
    exact .playing _ (congrArg Prod.fst (new _ [])) (List.mem_append_right _ (List.mem_singleton_self _))
      (Option.some.inj (keeps (answered socket io) turn.owned rfl))
  | @registered socket locations friendlyName number hostname waiting turn got maps name port address =>
    have new := outcome_server world ⟨read socket io,locations,friendlyName,hostname,number⟩
    refine .serving _ (congrArg Prod.fst (new _ [])) ?_ (Option.some.inj (keeps (read socket io) turn.owned rfl))
    exact (StdVector.emplaceBack_items world.mapServers _).symm ▸ List.mem_append_right _ (List.mem_singleton_self _)

-- And it takes nobody else's session away.
theorem visit_plays (visit : Visit env world io c handled) (member : some session ∈ world.playerSessions) :
    some session ∈ handled.world.playerSessions := by
  cases visit with
  | accepted login turn identity accepts => exact List.mem_append_left _ member
  | _ => exact member

theorem incoming_own (sole : Sole s) (later : Sole (s.store index handled)) (present : s.incomingConnections[index]? = some c)
    (own : c.socket.map Socket.id = some id) (ran : processIncoming env s.toWorld c io = .ok handled) :
    solo env id (peer s id) (.turn (secluded s.toWorld) io) =
      .ok (peer (s.store index handled) id,(handled.effects.map (Prod.mk (LoginServer.connectionId c))).filterMap (tagged id)) := by
  obtain ⟨socket,owned,same⟩ := Option.map_eq_some_iff.mp own
  rw [LoginServer.connectionId_owned owned,same,tagged_own,peer_owner sole (.connecting ⟨List.mem_of_getElem? present,own⟩)]
  simp only [solo]
  rw [processIncoming_secluded,ran]
  refine congrArg Except.ok (Prod.ext ?_ rfl)
  have stored : handled.connection ∈ (s.store index handled).incomingConnections := by
    apply List.mem_of_getElem? (i:=index)
    rw [LoginServer.store,List.getElem?_set_self (List.getElem?_eq_some_iff.mp present).1]
  cases visit_succeeds (processIncoming_parts ran) own with
  | connecting left owned => exact left.trans (peer_owner later (.connecting ⟨stored,owned⟩)).symm
  | playing session left listed owned => exact left.trans (peer_owner later (.playing ⟨listed,owned⟩)).symm
  | serving server left listed owned => exact left.trans (peer_owner later (.serving ⟨listed,owned⟩)).symm

theorem incoming_other (before : Accounted trace s) (present : s.incomingConnections[index]? = some c)
    (after : Accounted (trace ++ handled.effects.map (Prod.mk (LoginServer.connectionId c))) (s.store index handled))
    (other : c.socket.map Socket.id ≠ some id) (ran : LoginServer.step env s (.incoming index io) =
      .ok (s.store index handled,handled.effects.map (Prod.mk (LoginServer.connectionId c))))
    (visit : Visit env s.toWorld io c handled) : peer (s.store index handled) id = peer s id ∧
      (handled.effects.map (Prod.mk (LoginServer.connectionId c))).filterMap (tagged id) = [] := by
  have quiet : ∀ effect, (id,effect) ∉ handled.effects.map (Prod.mk (LoginServer.connectionId c)) := by
    intro effect member
    exact other (visit_effect (before.ready c (List.mem_of_getElem? present)) visit member).1
  refine ⟨?_,tagged_silent quiet⟩
  obtain ⟨who,owner⟩ := owner_exists s id
  rw [peer_owner (accounted_sole before) owner]
  refine owner_stays owner (accounted_sole after) ?_ ?_ (fun _ serves => serves_step serves ran) Iff.rfl
    (owners_left before after (quiet _))
  · intro d holds
    obtain ⟨place,found⟩ := List.getElem?_of_mem holds.1
    have elsewhere : index ≠ place := by
      rintro rfl
      obtain rfl := Option.some.inj (present.symm.trans found)
      exact other holds.2
    have kept : (s.incomingConnections.set index handled.connection)[place]? = some d := by
      rw [List.getElem?_set_ne elsewhere,found]
    exact ⟨List.mem_of_getElem? kept,holds.2⟩
  · intro session plays
    exact ⟨visit_plays visit plays.1,plays.2⟩

theorem turns_listed (member : some session ∈ sessions) (ios : List SessionIO) : ∃ io, (session,io) ∈ SessionIndex.turns sessions ios := by
  induction sessions generalizing ios with
  | nil => cases member
  | cons head rest ih =>
    rcases List.mem_cons.mp member with rfl | later
    · exact ⟨_,List.mem_cons_self⟩
    · obtain ⟨io,listed⟩ := ih later ios.tail
      cases head with
      | none => exact ⟨io,listed⟩
      | some first => exact ⟨io,List.mem_cons_of_mem _ listed⟩

-- The effects of a pass on one socket are those of the one turn of its session.
theorem tagged_turns {visits : List ((PlayerSession × SessionIO) × Visited)}
    (single : (visits.map (·.1.1.socket.id)).Nodup) (member : visit ∈ visits) (own : visit.1.1.socket.id = id) :
    (visits.flatMap (fun visit => visit.2.effects.map (Prod.mk visit.1.1.socket.id))).filterMap (tagged id) = visit.2.effects := by
  induction visits with
  | nil => cases member
  | cons head rest ih =>
    obtain ⟨apart,single⟩ := List.nodup_cons.mp single
    rw [List.flatMap_cons,List.filterMap_append]
    rcases List.mem_cons.mp member with rfl | later
    · have silent : (rest.flatMap (fun visit => visit.2.effects.map (Prod.mk visit.1.1.socket.id))).filterMap (tagged id) = [] := by
        apply tagged_silent
        intro effect tagged
        obtain ⟨other,within,named⟩ := List.mem_flatMap.mp tagged
        obtain ⟨_,_,same⟩ := List.mem_map.mp named
        exact apart (List.mem_map.mpr ⟨other,within,(Prod.mk.inj same).1.trans own.symm⟩)
      rw [silent,List.append_nil,own,tagged_own]
    · have other : head.1.1.socket.id ≠ id := by
        intro same
        exact apart (List.mem_map.mpr ⟨visit,later,own.trans same.symm⟩)
      rw [tagged_other _ other,List.nil_append]
      exact ih single later

theorem turns_sockets (sessions : List (Option PlayerSession)) (ios : List SessionIO) :
    (SessionIndex.turns sessions ios).map (·.1.socket.id) = sessionSockets sessions := by
  induction sessions generalizing ios with
  | nil => rfl
  | cons head rest ih =>
    cases head with
    | none => exact ih ios.tail
    | some session => exact congrArg (session.socket.id :: ·) (ih ios.tail)

theorem connected_own (before : Accounted trace s) (after : Accounted (trace ++ fresh) t)
    (ran : LoginServer.step env s (.connected ios) = .ok (t,fresh)) (listed : (session,io) ∈ SessionIndex.turns s.playerSessions ios)
    (own : session.socket.id = id) : solo env id (peer s id) (.session (secluded s.toWorld) io) =
      .ok (peer t id,fresh.filterMap (tagged id)) := by
  have sole := accounted_sole before
  obtain ⟨visits,served,sessions⟩ := CharacterChoice.step_served ran
  obtain ⟨⟨turn,visited⟩,member,rfl⟩ := List.mem_map.mp (served.order ▸ listed)
  obtain ⟨users,next,visiting⟩ := served.visited _ member
  have single : (visits.map (·.1.1.socket.id)).Nodup := by
    have sockets := sole.sessions
    rw [← turns_sockets s.playerSessions ios,← served.order,List.map_map] at sockets
    exact sockets
  have plays : Plays s id session := ⟨CharacterChoice.turns_member listed,own⟩
  rw [peer_owner sole (.playing plays),served.effects,tagged_turns single member own]
  simp only [solo]
  rw [visitSession_secluded env s.toWorld users session io,visiting]
  refine congrArg Except.ok (Prod.ext ?_ rfl)
  have effects : ∀ effect ∈ visited.effects, (id,effect) ∈ fresh := by
    intro effect within
    rw [served.effects]
    exact List.mem_flatMap.mpr ⟨_,member,List.mem_map.mpr ⟨effect,within,by rw [← own]⟩⟩
  simp only [lasting]
  rcases visitSession_parts visiting with ⟨_,_,⟨left,same,kept⟩,_⟩ | ⟨_,rfl,_⟩
  · rw [same]
    have still : Plays t id left := by
      refine ⟨?_,kept.socket.trans own⟩
      rw [sessions]
      exact List.mem_map_of_mem (List.mem_filterMap.mpr ⟨_,member,same⟩)
    exact (peer_owner (accounted_sole after) (.playing still)).symm
  · have known := sole.known id (List.mem_append_right _ plays.world)
    have purged := effects .purged (List.mem_singleton_self _)
    rw [← (step_connected ran).2.2] at known
    exact (peer_owner (accounted_sole after) (.gone known (purged_left after purged))).symm

theorem connected_other (before : Accounted trace s) (after : Accounted (trace ++ fresh) t)
    (ran : LoginServer.step env s (.connected ios) = .ok (t,fresh)) (absent : ∀ session, ¬ Plays s id session) :
    peer t id = peer s id ∧ fresh.filterMap (tagged id) = [] := by
  have quiet : ∀ effect, (id,effect) ∉ fresh := by
    intro effect member
    obtain ⟨session,plays⟩ := connected_tag ran member
    exact absent session plays
  obtain ⟨_,entries,clock⟩ := step_connected ran
  refine ⟨?_,tagged_silent quiet⟩
  obtain ⟨who,owner⟩ := owner_exists s id
  rw [peer_owner (accounted_sole before) owner]
  refine owner_stays owner (accounted_sole after) ?_ (fun session plays => absurd plays (absent session))
    (fun _ serves => serves_step serves ran) (by rw [clock]) (owners_left before after (quiet _))
  intro c holds
  exact ⟨entries ▸ holds.1,holds.2⟩

theorem listed_concern (found : (SessionIndex.turns sessions ios).find? (fun turn => turn.1.socket.id == id) = some heard) :
    heard ∈ SessionIndex.turns sessions ios ∧ heard.1.socket.id = id :=
  ⟨List.mem_of_find?_eq_some found,by simpa using List.find?_some found⟩

theorem unlisted_concern (none : (SessionIndex.turns s.playerSessions ios).find? (fun turn => turn.1.socket.id == id) = none) :
    ∀ session, ¬ Plays s id session := by
  intro session plays
  obtain ⟨io,listed⟩ := turns_listed plays.1 ios
  exact List.find?_eq_none.mp none _ listed (by simp [plays.2])

theorem projected (env : Env) (id : Nat) : Projections.Part (LoginServer.step env) (solo env id) (concern id) (peer · id)
    (tagged id) (fun s => ∃ trace, Accounted trace s) where
  kept := by
    rintro s event t fresh ⟨trace,valid⟩ ran
    exact ⟨trace ++ fresh,step_accounted valid ran⟩
  apart := by
    rintro s event t fresh ⟨trace,valid⟩ ran unconcerned
    have after := step_accounted valid ran
    cases event with
    | accept =>
      cases Except.ok.inj ran
      exact accept_other valid after (by simpa [concern] using unconcerned)
    | purge => cases unconcerned
    | database players characters =>
      cases Except.ok.inj ran
      exact ⟨rfl,rfl⟩
    | connected ios => exact connected_other valid after ran (unlisted_concern (Option.map_eq_none_iff.mp unconcerned))
    | incoming index io =>
      rcases step_incoming_parts ran with ⟨_,rfl,rfl⟩ | ⟨c,handled,present,visited,rfl,rfl⟩
      · exact ⟨rfl,rfl⟩
      · have other : c.socket.map Socket.id ≠ some id := by
          intro own
          simp [concern,present,own] at unconcerned
        exact incoming_other valid present after other ran (processIncoming_parts visited)
  turned := by
    rintro s event t fresh turn ⟨trace,valid⟩ ran concerned
    have after := step_accounted valid ran
    cases event with
    | accept =>
      cases Except.ok.inj ran
      by_cases new : s.socketsAccepted = id
      · obtain ⟨before,now,accepted⟩ := accept_own valid after
        rw [concern,if_pos new] at concerned
        cases concerned
        rw [← new,before]
        exact congrArg Except.ok (Prod.ext now.symm accepted.symm)
      · rw [concern,if_neg new] at concerned
        cases concerned
    | purge =>
      cases Except.ok.inj ran
      cases concerned
      exact purge_solo valid after
    | database players characters => cases concerned
    | connected ios =>
      obtain ⟨⟨session,io⟩,found,rfl⟩ := Option.map_eq_some_iff.mp concerned
      obtain ⟨listed,own⟩ := listed_concern found
      exact connected_own valid after ran listed own
    | incoming index io =>
      rcases step_incoming_parts ran with ⟨missing,_,_⟩ | ⟨c,handled,present,visited,rfl,rfl⟩
      · simp [concern,missing] at concerned
      · by_cases own : c.socket.map Socket.id = some id
        · simp only [concern,present,own,if_true,Option.some.injEq] at concerned
          subst concerned
          exact incoming_own (accounted_sole valid) (accounted_sole after) present own visited
        · simp [concern,present,own] at concerned

theorem start_peer (players : PlayersTable) (characters : List Character) (allMaps : List Location)
    (mapIDToName : UnorderedMap UInt64 Bytes) (id : Nat) : peer (.start players characters allMaps mapIDToName) id = .unknown :=
  rfl

theorem run_solo
    (path : Runs.Run (LoginServer.step env) (.start players characters allMaps mapIDToName) events trace t) (id : Nat) :
    Runs.Run (solo env id) .unknown
      (Projections.own (LoginServer.step env) (concern id) (.start players characters allMaps mapIDToName) events)
      (trace.filterMap (tagged id)) (peer t id) := by
  have run := (projected env id).run ⟨[],start_accounted⟩ path
  rw [start_peer] at run
  exact run

theorem forget_stamp (players : PlayersTable) (id : UInt64) (now : Nat) :
    forgetLogins (players.setLastLogin id now) = forgetLogins players := by
  have rows : (players.setLastLogin id now).rows.map unstamped = players.rows.map unstamped := by
    unfold PlayersTable.setLastLogin
    rw [List.map_map]
    apply List.map_congr_left
    intro row _
    unfold Function.comp PlayersTable.stamp
    split
    · rfl
    · rfl
  unfold forgetLogins
  simp only [rows]

theorem frame_secluded (frame : Frame before after) : secluded after = secluded before := by
  obtain ⟨players,characters,_,allMaps,mapServers,mapIDToName,mapNameToConnection⟩ := frame
  unfold secluded
  rw [players,characters,allMaps,mapServers,mapIDToName,mapNameToConnection]

-- What the turns of a socket see of the others comes from the database and from the map servers.
theorem step_secluded (ran : LoginServer.step env s event = .ok (t,fresh))
    (kept : ∀ players characters, event ≠ .database players characters)
    (unregistered : MapAssignment.acknowledged s event = none) : secluded t.toWorld = secluded s.toWorld := by
  cases event with
  | accept | purge =>
    cases Except.ok.inj ran
    rfl
  | database players characters => exact absurd rfl (kept players characters)
  | connected ios => exact frame_secluded (step_connected ran).1.frame
  | incoming index io =>
    rcases step_incoming ran with ⟨_,rfl,_⟩ | ⟨c,handled,present,visit,rfl,_⟩
    · rfl
    · change secluded handled.world = secluded s.toWorld
      cases visit with
      | accepted login turn identity accepts =>
        unfold secluded World.addSession
        simp only [forget_stamp]
      | registered waiting turn got maps name port address =>
        exact absurd (MapAssignment.acknowledged_some present waiting turn got maps) (by simp [unregistered])
      | _ => rfl

-- A socket lives as if the server had no other; its turns see of the others what the database and the map servers say.
theorem sockets_isolated
    (path : Runs.Run (LoginServer.step env) (.start players characters allMaps mapIDToName) events trace t) (id : Nat) :
    Runs.Run (solo env id) .unknown
      (Projections.own (LoginServer.step env) (concern id) (.start players characters allMaps mapIDToName) events)
      (trace.filterMap (tagged id)) (peer t id) ∧
    (∀ {rows others maps names turns rest u}, Runs.Run (LoginServer.step env) (.start rows others maps names) turns rest u →
      Projections.own (LoginServer.step env) (concern id) (.start rows others maps names) turns =
        Projections.own (LoginServer.step env) (concern id) (.start players characters allMaps mapIDToName) events →
      rest.filterMap (tagged id) = trace.filterMap (tagged id) ∧ peer u id = peer t id) ∧
    ∀ event next fresh, LoginServer.step env t event = .ok (next,fresh) → (∀ rows others, event ≠ .database rows others) →
      MapAssignment.acknowledged t event = none → secluded next.toWorld = secluded t.toWorld := by
  have run := run_solo path id
  refine ⟨run,?_,fun event next fresh ran kept unregistered => step_secluded ran kept unregistered⟩
  intro rows others maps names turns rest u other same
  have again := run_solo other id
  rw [same] at again
  exact again.deterministic run

theorem sockets_isolated_hero : ∃ trace t,
    Runs.Run (LoginServer.step CharacterChoice.playing) CharacterChoice.world CharacterChoice.picking trace t ∧
    Runs.Run (solo CharacterChoice.playing 1) .unknown (Projections.own (LoginServer.step CharacterChoice.playing) (concern 1)
      CharacterChoice.world CharacterChoice.picking) (trace.filterMap (tagged 1)) (peer t 1) ∧
    (trace.filterMap (tagged 1)).length = 9 ∧ ∃ session, peer t 1 = .playing session ∧ session.characterID = 9 := by
  obtain ⟨trace,t,path,left⟩ := Runs.execute_check (LoginServer.step CharacterChoice.playing) CharacterChoice.world
    CharacterChoice.picking (fun last => (last.2.filterMap (tagged 1)).length == 9 && match peer last.1 1 with
      | .playing session => session.characterID == 9
      | _ => false) (by decide +kernel)
  obtain ⟨length,who⟩ := Bool.and_eq_true_iff.mp left
  refine ⟨trace,t,path,(sockets_isolated path 1).1,by simpa using length,?_⟩
  cases found : peer t 1 with
  | playing session => exact ⟨session,rfl,by simpa [found] using who⟩
  | unknown | connecting | serving | gone => simp [found] at who

end PlayPG.Isolation
