import Mathlib.Data.List.Nodup
import PlayPG.CharacterChoice
import PlayPG.Ownership

namespace PlayPG.Sockets
open Bytes IncomingHandler Visits ServerSteps Connections Ownership

variable {id : Nat}

-- Each socket that was accepted has at most one owner.
structure Sole (s : LoginServer) : Prop where
  ready : ∀ c ∈ s.incomingConnections, Ready c
  single : (owners s).Nodup
  known : ∀ id ∈ owners s, id < s.socketsAccepted

theorem accounted_sole (valid : Accounted trace s) : Sole s := by
  have counts : ∀ id, (owners s).count id ≤ if id < s.socketsAccepted then 1 else 0 := by
    intro id
    have conserved := valid.conserved id
    have accepted := valid.accepted id
    omega
  refine ⟨valid.ready,List.nodup_iff_count_le_one.mpr (fun id => ?_),fun id member => ?_⟩
  · have bound := counts id
    split_ifs at bound <;> omega
  · have bound := counts id
    have positive := List.count_pos_iff.mpr member
    split_ifs at bound with accepted
    · exact accepted
    · omega

theorem accounted_grows (before : Ownership.Accounted trace s) (after : Ownership.Accounted (trace ++ fresh) t) :
    s.socketsAccepted ≤ t.socketsAccepted := by
  by_contra shrunk
  have known := before.accepted t.socketsAccepted
  have later := after.accepted t.socketsAccepted
  rw [List.count_append] at later
  split_ifs at known later <;> omega

def Holds (s : LoginServer) (id : Nat) (c : IncomingConnection) : Prop :=
  c ∈ s.incomingConnections ∧ c.socket.map Socket.id = some id

def Serves (s : LoginServer) (id : Nat) (server : MapServerConnection) : Prop :=
  server ∈ s.mapServers.items ∧ server.connection.id = id

def Plays (s : LoginServer) (id : Nat) (session : PlayerSession) : Prop :=
  some session ∈ s.playerSessions ∧ session.socket.id = id

theorem Holds.incoming (holds : Holds s id c) : id ∈ incomingSockets s.incomingConnections :=
  List.mem_filterMap.mpr ⟨c,holds.1,holds.2⟩

theorem Serves.world (serves : Serves s id server) : id ∈ worldSockets s.toWorld :=
  List.mem_append_right _ (List.mem_map.mpr ⟨server,serves.1,serves.2⟩)

theorem Plays.world (plays : Plays s id session) : id ∈ worldSockets s.toWorld :=
  List.mem_append_left _ (List.mem_filterMap.mpr ⟨some session,plays.1,congrArg some plays.2⟩)

theorem Sole.apart (sole : Sole s) (holds : Holds s id c) : id ∉ worldSockets s.toWorld := by
  intro other
  exact (List.nodup_append.mp sole.single).2.2 id holds.incoming id other rfl

-- A list whose keys differ holds at most one entry of a key.
theorem filterMap_single {f : α → Option Nat} {list : List α} (single : (list.filterMap f).Nodup) (first : a ∈ list) (second : b ∈ list)
    (named : f a = some id) (alike : f b = some id) : a = b := by
  induction list with
  | nil => cases first
  | cons head rest ih =>
    have clash : ∀ c ∈ rest, f c = some id → f head ≠ some id := by
      intro c within own same
      rw [List.filterMap_cons_some same] at single
      exact (List.nodup_cons.mp single).1 (List.mem_filterMap.mpr ⟨c,within,own⟩)
    have tail : (rest.filterMap f).Nodup := single.sublist ((List.sublist_cons_self head rest).filterMap _)
    rcases List.mem_cons.mp first with rfl | early
    · rcases List.mem_cons.mp second with rfl | late
      · rfl
      · exact absurd named (clash b late alike)
    · rcases List.mem_cons.mp second with rfl | late
      · exact absurd alike (clash a early named)
      · exact ih tail early late

theorem Sole.holder (sole : Sole s) (one : Holds s id c) (two : Holds s id d) : c = d :=
  filterMap_single (List.nodup_append.mp sole.single).1 one.1 two.1 one.2 two.2

theorem Sole.sessions (sole : Sole s) : (sessionSockets s.playerSessions).Nodup :=
  (List.nodup_append.mp (List.nodup_append.mp sole.single).2.1).1

theorem Sole.player (sole : Sole s) (one : Plays s id session) (two : Plays s id other) : session = other :=
  Option.some.inj (filterMap_single sole.sessions one.1 two.1 (congrArg some one.2) (congrArg some two.2))

-- A step in which the connection of a socket has its turn.
structure Turned (env : Env) (s t : LoginServer) (id : Nat) (c : IncomingConnection) (event : Event)
    (fresh : List (Nat × Effect)) (handled : Handled) : Prop where
  event : ∃ index io, event = .incoming index io ∧ s.incomingConnections[index]? = some c ∧
    processIncoming env s.toWorld c io = .ok handled ∧ t = s.store index handled
  fresh : fresh = handled.effects.map (Prod.mk id)

-- A step that has nothing to do with the owner of a socket.
structure Away (s t : LoginServer) (id : Nat) (c : IncomingConnection) (fresh : List (Nat × Effect)) : Prop where
  stays : c.state = .DONE ∨ Holds t id c
  quiet : ∀ effect, (id,effect) ∈ fresh → effect = .purged
  servers : ∀ server, Serves t id server → Serves s id server
  sessions : ∀ session, Plays t id session → ∃ before, Plays s id before

theorem visit_socket (visit : Visit env world io c handled) :
    handled.connection.socket.map Socket.id = c.socket.map Socket.id ∨ handled.connection.socket = none := by
  have one : ∀ d : IncomingConnection, incomingSockets [d] = (d.socket.map Socket.id).toList := by
    intro d
    cases owned : d.socket <;> simp [incomingSockets,owned]
  rcases (visit_handed visit).traded with ⟨same,_⟩ | ⟨gone,_,_⟩
  · rw [one,one] at same
    exact .inl (by simpa using congrArg List.head? same)
  · rw [one] at gone
    exact .inr (by simpa using gone)

-- A visit makes an owner only of the socket of its own connection.
theorem visit_servers (visit : Visit env world io c handled) (member : server ∈ handled.world.mapServers.items) :
    server ∈ world.mapServers.items ∨ c.socket.map Socket.id = some server.connection.id := by
  cases visit with
  | registered waiting turn got maps name port address =>
    rcases List.mem_append.mp (StdVector.emplaceBack_items world.mapServers _ ▸ member) with old | new
    · exact .inl old
    · obtain rfl := List.mem_singleton.mp new
      exact .inr (by simp [turn.owned])
  | _ => exact .inl member

theorem visit_sessions (visit : Visit env world io c handled) (member : some session ∈ handled.world.playerSessions) :
    some session ∈ world.playerSessions ∨ c.socket.map Socket.id = some session.socket.id := by
  cases visit with
  | accepted login turn identity accepts =>
    rcases List.mem_append.mp member with old | new
    · exact .inl old
    · obtain rfl := Option.some.inj (List.mem_singleton.mp new)
      exact .inr (by simp [turn.owned,World.newSession])
  | _ => exact .inl member

theorem connected_tag (ran : LoginServer.step env s (.connected ios) = .ok (t,fresh)) (member : (id,effect) ∈ fresh) :
    ∃ session, Plays s id session := by
  obtain ⟨last,sessions,loop,_⟩ := processConnected_parts (step_connected_parts ran).1
  obtain ⟨found,within,same⟩ := List.mem_filterMap.mp (visitSessions_tags loop member)
  obtain ⟨session,rfl,own⟩ := Option.map_eq_some_iff.mp same
  exact ⟨session,within,own⟩

theorem done_visit (done : c.state = .DONE) (visit : Visit env world io c handled) : handled = ⟨world,c,[]⟩ := by
  cases visit <;> simp_all [Login]

-- A connection without a socket is done, and its visit does nothing; else the effects carry its socket.
theorem visit_effect (ready : Ready d) (visit : Visit env world io d handled)
    (tagged : (id,effect) ∈ handled.effects.map (Prod.mk (LoginServer.connectionId d))) :
    d.socket.map Socket.id = some id ∧ effect ∈ handled.effects := by
  obtain ⟨effect,within,same⟩ := List.mem_map.mp tagged
  obtain ⟨tag,rfl⟩ := Prod.mk.inj same
  cases owned : d.socket with
  | none =>
    have done : d.state = .DONE := by
      by_contra live
      obtain ⟨socket,some⟩ := ready.owned live
      rw [owned] at some
      cases some
    rw [done_visit done visit] at within
    cases within
  | some socket =>
    rw [LoginServer.connectionId_owned owned] at tag
    exact ⟨congrArg some tag,within⟩

theorem incoming_holds (sole : Sole s) (holds : Holds s id c) (present : s.incomingConnections[index]? = some d)
    (ran : processIncoming env s.toWorld d io = .ok handled) :
    (c = d ∧ ∃ socket, c.socket = some socket ∧ socket.id = id) ∨
    Away s (s.store index handled) id c (handled.effects.map (Prod.mk (LoginServer.connectionId d))) := by
  have visit := processIncoming_parts ran
  by_cases own : d.socket.map Socket.id = some id
  · obtain ⟨socket,owned,same⟩ := Option.map_eq_some_iff.mp own
    obtain rfl := sole.holder holds ⟨List.mem_of_getElem? present,own⟩
    exact .inl ⟨rfl,socket,owned,same⟩
  · refine .inr ⟨.inr ⟨?_,holds.2⟩,?_,?_,?_⟩
    · obtain ⟨place,found⟩ := List.getElem?_of_mem holds.1
      have elsewhere : index ≠ place := by
        rintro rfl
        obtain rfl := Option.some.inj (present.symm.trans found)
        exact own holds.2
      have kept : (s.incomingConnections.set index handled.connection)[place]? = some c := by
        rw [List.getElem?_set_ne elsewhere,found]
      exact List.mem_of_getElem? kept
    · intro effect member
      exact absurd (visit_effect (sole.ready d (List.mem_of_getElem? present)) visit member).1 own
    · intro server serves
      rcases visit_servers visit serves.1 with old | mine
      · exact ⟨old,serves.2⟩
      · exact absurd (mine.trans (congrArg some serves.2)) own
    · intro session plays
      rcases visit_sessions visit plays.1 with old | mine
      · exact ⟨session,old,plays.2⟩
      · exact absurd (mine.trans (congrArg some plays.2)) own

-- A new socket is none of the known ones, and a purge says only that it purged.
theorem accept_quiet {id : Nat} (known : id < s.socketsAccepted) (ran : LoginServer.step env s .accept = .ok (t,fresh)) :
    (id,effect) ∉ fresh := by
  cases Except.ok.inj ran
  intro member
  have new : id = s.socketsAccepted := (Prod.mk.inj (List.mem_singleton.mp member)).1
  omega

theorem purge_quiet {id : Nat} (ran : LoginServer.step env s .purge = .ok (t,fresh)) (member : (id,effect) ∈ fresh) :
    effect = .purged := by
  cases Except.ok.inj ran
  obtain ⟨_,_,same⟩ := List.mem_map.mp member
  exact (Prod.mk.inj same).2.symm

theorem step_holds (sole : Sole s) (holds : Holds s id c) (ran : LoginServer.step env s event = .ok (t,fresh)) :
    (∃ handled, Turned env s t id c event fresh handled) ∨ Away s t id c fresh := by
  cases event with
  | accept =>
    have known := sole.known id (List.mem_append_left _ holds.incoming)
    have quiet : ∀ effect, (id,effect) ∈ fresh → effect = .purged := by
      intro effect member
      exact absurd member (accept_quiet known ran)
    cases Except.ok.inj ran
    exact .inr ⟨.inr ⟨List.mem_append_left _ holds.1,holds.2⟩,quiet,fun _ serves => serves,fun session plays => ⟨session,plays⟩⟩
  | purge =>
    have quiet : ∀ effect, (id,effect) ∈ fresh → effect = .purged := by
      intro effect member
      exact purge_quiet ran member
    cases Except.ok.inj ran
    refine .inr ⟨?_,quiet,fun _ serves => serves,fun session plays => ⟨session,plays⟩⟩
    by_cases finished : c.state = .DONE
    · exact .inl finished
    · exact .inr ⟨List.mem_filter.mpr ⟨holds.1,by simpa using finished⟩,holds.2⟩
  | database players characters =>
    cases Except.ok.inj ran
    exact .inr ⟨.inr holds,fun effect member => (nomatch member),fun _ serves => serves,fun session plays => ⟨session,plays⟩⟩
  | connected ios =>
    obtain ⟨pass,entries,_⟩ := step_connected ran
    refine .inr ⟨.inr ⟨entries ▸ holds.1,holds.2⟩,fun effect member => ?_,fun server serves => ?_,fun session plays => ?_⟩
    · obtain ⟨session,plays⟩ := connected_tag ran member
      exact absurd plays.world (sole.apart holds)
    · exact ⟨pass.frame.mapServers ▸ serves.1,serves.2⟩
    · obtain ⟨before,within,kept⟩ := pass.survivors session plays.1
      exact ⟨before,within,kept.socket.symm.trans plays.2⟩
  | incoming index io =>
    rcases step_incoming_parts ran with ⟨_,rfl,rfl⟩ | ⟨d,handled,present,visited,rfl,rfl⟩
    · exact .inr ⟨.inr holds,fun effect member => (nomatch member),fun _ serves => serves,fun session plays => ⟨session,plays⟩⟩
    · rcases incoming_holds sole holds present visited with ⟨rfl,socket,owned,rfl⟩ | away
      · refine .inl ⟨handled,⟨index,io,rfl,present,visited,rfl⟩,?_⟩
        rw [LoginServer.connectionId_owned owned]
      · exact .inr away

theorem serves_step (serves : Serves s id server) (ran : LoginServer.step env s event = .ok (t,fresh)) :
    Serves t id server := by
  have mapping := MapAssignment.step_mapping ran
  generalize MapAssignment.acknowledged s event = acked at mapping
  cases mapping with
  | same servers index => exact ⟨servers ▸ serves.1,serves.2⟩
  | added newest servers index =>
    refine ⟨?_,serves.2⟩
    rw [servers,StdVector.emplaceBack_items]
    exact List.mem_append_left _ serves.1

-- The connection finished, if it is still there, and nothing came of it.
structure Finished (s : LoginServer) (id : Nat) : Prop where
  done : ∀ c, Holds s id c → c.state = .DONE
  unserved : ∀ server, ¬ Serves s id server
  unplayed : ∀ session, ¬ Plays s id session

theorem Sole.finished (sole : Sole s) (holds : Holds s id c) (done : c.state = .DONE) : Finished s id := by
  refine ⟨fun d other => ?_,fun server serves => sole.apart holds serves.world,
    fun session plays => sole.apart holds plays.world⟩
  rw [← sole.holder holds other]
  exact done

-- The connection that holds a socket held it before the step, and a finished one did not change.
theorem held_before (known : id < s.socketsAccepted) (ran : LoginServer.step env s event = .ok (t,fresh)) (holds : Holds t id c) :
    ∃ d, Holds s id d ∧ (d.state = .DONE → c = d) := by
  cases event with
  | accept =>
    cases Except.ok.inj ran
    rcases List.mem_append.mp holds.1 with old | new
    · exact ⟨c,⟨old,holds.2⟩,fun _ => rfl⟩
    · obtain rfl := List.mem_singleton.mp new
      have same : s.socketsAccepted = id := Option.some.inj holds.2
      omega
  | purge =>
    cases Except.ok.inj ran
    exact ⟨c,⟨(List.mem_filter.mp holds.1).1,holds.2⟩,fun _ => rfl⟩
  | database players characters =>
    cases Except.ok.inj ran
    exact ⟨c,holds,fun _ => rfl⟩
  | connected ios =>
    obtain ⟨_,entries,_⟩ := step_connected ran
    exact ⟨c,⟨entries ▸ holds.1,holds.2⟩,fun _ => rfl⟩
  | incoming index io =>
    rcases step_incoming ran with ⟨_,rfl,_⟩ | ⟨d,handled,present,visit,rfl,_⟩
    · exact ⟨c,holds,fun _ => rfl⟩
    · rcases List.mem_or_eq_of_mem_set holds.1 with old | rfl
      · exact ⟨c,⟨old,holds.2⟩,fun _ => rfl⟩
      · rcases visit_socket visit with same | gone
        · refine ⟨d,⟨List.mem_of_getElem? present,same.symm.trans holds.2⟩,fun done => ?_⟩
          rw [done_visit done visit]
        · have owned := holds.2
          rw [gone] at owned
          cases owned

-- The socket of a finished connection gets no map server, no session and no effect from a visit.
theorem finished_incoming (ready : ∀ c ∈ s.incomingConnections, Ready c) (finished : Finished s id)
    (present : s.incomingConnections[index]? = some d) (visit : Visit env s.toWorld io d handled) :
    (∀ server, ¬ Serves (s.store index handled) id server) ∧ (∀ session, ¬ Plays (s.store index handled) id session) ∧
      ∀ effect, (id,effect) ∉ handled.effects.map (Prod.mk (LoginServer.connectionId d)) := by
  have member := List.mem_of_getElem? present
  -- A connection that still owns the socket is done, so its visit changes nothing.
  have own : d.socket.map Socket.id = some id → handled = ⟨s.toWorld,d,[]⟩ :=
    fun mine => done_visit (finished.done d ⟨member,mine⟩) visit
  refine ⟨fun server serves => ?_,fun session plays => ?_,fun effect tagged => ?_⟩
  · rcases visit_servers visit serves.1 with old | mine
    · exact finished.unserved server ⟨old,serves.2⟩
    · rw [serves.2] at mine
      have old := serves.1
      rw [own mine] at old
      exact finished.unserved server ⟨old,serves.2⟩
  · rcases visit_sessions visit plays.1 with old | mine
    · exact finished.unplayed session ⟨old,plays.2⟩
    · rw [plays.2] at mine
      have old := plays.1
      rw [own mine] at old
      exact finished.unplayed session ⟨old,plays.2⟩
  · obtain ⟨mine,within⟩ := visit_effect (ready d member) visit tagged
    rw [own mine] at within
    cases within

theorem finished_step (sole : Sole s) (finished : Finished s id) (known : id < s.socketsAccepted)
    (ran : LoginServer.step env s event = .ok (t,fresh)) :
    Finished t id ∧ ∀ effect, (id,effect) ∈ fresh → effect = .purged := by
  have done : ∀ c, Holds t id c → c.state = .DONE := by
    intro c holds
    obtain ⟨d,held,same⟩ := held_before known ran holds
    rw [same (finished.done d held)]
    exact finished.done d held
  cases event with
  | accept =>
    refine ⟨?_,fun effect member => absurd member (accept_quiet known ran)⟩
    cases Except.ok.inj ran
    exact ⟨done,finished.unserved,finished.unplayed⟩
  | purge =>
    refine ⟨?_,fun effect member => purge_quiet ran member⟩
    cases Except.ok.inj ran
    exact ⟨done,finished.unserved,finished.unplayed⟩
  | database players characters =>
    cases Except.ok.inj ran
    exact ⟨⟨done,finished.unserved,finished.unplayed⟩,fun effect member => (nomatch member)⟩
  | connected ios =>
    obtain ⟨pass,_,_⟩ := step_connected ran
    refine ⟨⟨done,fun server serves => ?_,fun session plays => ?_⟩,fun effect member => ?_⟩
    · exact finished.unserved server ⟨pass.frame.mapServers ▸ serves.1,serves.2⟩
    · obtain ⟨before,within,kept⟩ := pass.survivors session plays.1
      exact finished.unplayed before ⟨within,kept.socket.symm.trans plays.2⟩
    · obtain ⟨session,plays⟩ := connected_tag ran member
      exact absurd plays (finished.unplayed session)
  | incoming index io =>
    rcases step_incoming ran with ⟨_,rfl,rfl⟩ | ⟨d,handled,present,visit,rfl,rfl⟩
    · exact ⟨finished,fun effect member => (nomatch member)⟩
    · obtain ⟨unserved,unplayed,silent⟩ := finished_incoming sole.ready finished present visit
      exact ⟨⟨done,unserved,unplayed⟩,fun effect member => absurd member (silent effect)⟩

end PlayPG.Sockets
