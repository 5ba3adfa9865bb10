import PlayPG.Decoders
import PlayPG.ServerSteps

namespace PlayPG.LoginOrigins
open Bytes IncomingHandler Visits ServerSteps Decoders

theorem setLastLogin_row (table : PlayersTable) (now : Nat) (member : person ∈ table.rows) :
    ∃ before after, table.rows = before ++ person :: after ∧
      (table.setLastLogin person.id now).rows = before ++ {person with lastLogin := now} :: after := by
  obtain ⟨before,after,split⟩ := List.append_of_mem member
  refine ⟨before,after,split,?_⟩
  have unique := table.uniqueId
  rw [split,List.map_append,List.map_cons] at unique
  -- The id is the primary key: stamp leaves every other row alone.
  have others : ∀ rows : List Player, (∀ row ∈ rows, row ∈ before ∨ row ∈ after) →
      rows.map (PlayersTable.stamp person.id now) = rows := by
    intro rows within
    refine (List.map_congr_left (g:=id) ?_).trans (List.map_id rows)
    intro row member
    have differs : row.id ≠ person.id := by
      intro same
      rcases within row member with early | late
      · exact (List.nodup_append.mp unique).2.2 _ (List.mem_map_of_mem early) _ (List.mem_cons_self ..) same
      · apply (List.nodup_cons.mp (List.nodup_append.mp unique).2.1).1
        rw [← same]
        exact List.mem_map_of_mem late
    simp [PlayersTable.stamp,differs]
  change table.rows.map (PlayersTable.stamp person.id now) = _
  rw [split,List.map_append,List.map_cons]
  rw [others before (fun _ => .inl),others after (fun _ => .inr)]
  simp [PlayersTable.stamp]

theorem processLoginAttempt_world (ran : processLoginAttempt env world c authID io = .ok handled) :
    ((∀ person, ¬ Accepts env world.players authID person) → handled.world = world) ∧
    ∀ person, Accepts env world.players authID person →
      ∃ before after, world.players.rows = before ++ person :: after ∧
        handled.world.players.rows = before ++ {person with lastLogin := io.now} :: after := by
  obtain ⟨socket,_,outcome⟩ := processLoginAttempt_parts ran
  rcases outcome with ⟨refuses,_,charged⟩ | ⟨row,found,locked,rfl⟩ | ⟨row,accepts,rfl⟩
  · refine ⟨fun _ => ?_,fun person accepts => absurd accepts (refuses person)⟩
    unfold failAttempt at charged
    split at charged
    · cases charged
    · cases charged; rfl
  · refine ⟨fun _ => rfl,fun person accepts => ?_⟩
    obtain rfl : row = person := Option.some.inj (found.symm.trans accepts.1)
    exact absurd locked (by simp [accepts.2.1])
  · refine ⟨fun refuses => absurd accepts (refuses row),fun person again => ?_⟩
    obtain rfl : row = person := Option.some.inj (accepts.1.symm.trans again.1)
    have member : row ∈ world.players.query authID.username := List.mem_of_mem_head? accepts.1
    exact setLastLogin_row world.players io.now (List.mem_filter.mp member).1

-- What made a session: an attempt that the row found for its name lets through.
structure LoggedIn (env : Env) (middle next : LoginServer) (fresh : List (Nat × Effect)) (index : Nat) (io : SocketIO)
    (authID : AuthenticationIdentity) (person : Player) (session : PlayerSession) : Prop where
  connection : ∃ c, middle.incomingConnections[index]? = some c ∧ Login c ∧
    c.socket.map Socket.id = some session.socket.id
  identity : Identifies env io authID
  attempted : (session.socket.id,.loginAttempt authID) ∈ fresh
  accepts : Accepts env middle.players authID person
  added : next.playerSessions = middle.playerSessions ++ [some session]
  playerID : session.playerID = person.id
  username : session.username = authID.username

def Origin (env : Env) (start : LoginServer) (events : List Event) (session : PlayerSession) : Prop :=
  ∃ before index io after early middle next fresh authID person created,
    events = before ++ .incoming index io :: after ∧ Runs.Run (LoginServer.step env) start before early middle ∧
      LoginServer.step env middle (.incoming index io) = .ok (next,fresh) ∧
      LoggedIn env middle next fresh index io authID person created ∧ SameSession created session

theorem Origin.extend (origin : Origin env start events session) (event : Event) :
    Origin env start (events ++ [event]) session := by
  obtain ⟨before,index,io,after,early,middle,next,fresh,authID,person,created,rfl,path,ran,login,same⟩ := origin
  exact ⟨before,index,io,after ++ [event],early,middle,next,fresh,authID,person,created,by simp,path,ran,login,same⟩

-- Outside of a pass a session is an old one, or it is the new one of a login.
theorem step_added (other : ∀ ios, event ≠ .connected ios) (ran : LoginServer.step env s event = .ok (t,fresh))
    (member : some session ∈ t.playerSessions) : some session ∈ s.playerSessions ∨
      ∃ index io authID person socket, event = .incoming index io ∧
        LoggedIn env s t fresh index io authID person session ∧
        session = s.newSession env.md5 person authID.username socket io.diceRoll := by
  cases event with
  | accept | purge | database => cases Except.ok.inj ran; exact .inl member
  | connected ios => exact absurd rfl (other ios)
  | incoming index io =>
    rcases step_incoming ran with ⟨_,rfl,_⟩ | ⟨c,handled,present,visit,rfl,rfl⟩
    · exact .inl member
    · cases visit with
      | @accepted socket authID person login turn identity accepts =>
        rcases List.mem_append.mp member with old | new
        · exact .inl old
        · obtain rfl := Option.some.inj (List.mem_singleton.mp new)
          have owner := LoginServer.connectionId_owned turn.owned
          refine .inr ⟨index,io,authID,person,answered socket io,rfl,?_,rfl⟩
          exact {
            connection := ⟨c,present,login,by simp [turn.owned,World.newSession]⟩
            identity := identity
            attempted := by simp [owner,World.newSession]
            accepts := accepts
            added := rfl
            playerID := rfl
            username := rfl }
      | _ => exact .inl member

theorem step_sessions (ran : LoginServer.step env s event = .ok (t,fresh)) (member : some session ∈ t.playerSessions) :
    (∃ before, some before ∈ s.playerSessions ∧ SameSession before session) ∨
    ∃ index io authID person, event = .incoming index io ∧
      LoggedIn env s t fresh index io authID person session := by
  by_cases pass : ∃ ios, event = .connected ios
  · obtain ⟨ios,rfl⟩ := pass
    exact .inl ((step_connected ran).1.survivors session member)
  · rcases step_added (fun ios same => pass ⟨ios,same⟩) ran member with old | ⟨index,io,authID,person,_,same,login,_⟩
    · exact .inl ⟨session,old,.refl session⟩
    · exact .inr ⟨index,io,authID,person,same,login⟩

theorem run_origins (path : Runs.Run (LoginServer.step env) (.start players characters allMaps mapIDToName) events trace t)
    (member : some session ∈ t.playerSessions) :
    Origin env (.start players characters allMaps mapIDToName) events session := by
  induction path generalizing session with
  | nil => cases member
  | @snoc events trace middle event next fresh prior ran ih =>
    rcases step_sessions ran member with ⟨before,old,same⟩ | ⟨index,io,authID,person,rfl,login⟩
    · obtain ⟨_,_,_,_,_,_,_,_,_,_,_,rest⟩ := (ih old).extend event
      exact ⟨_,_,_,_,_,_,_,_,_,_,_,rest.1,rest.2.1,rest.2.2.1,rest.2.2.2.1,rest.2.2.2.2.trans same⟩
    · exact ⟨events,index,io,[],trace,middle,next,fresh,authID,person,session,rfl,prior,ran,login,.refl session⟩

-- Every session has its login; an attempt that is refused changes nothing.
theorem session_origins
    (path : Runs.Run (LoginServer.step env) (.start players characters allMaps mapIDToName) events trace t) :
    (∀ session, some session ∈ t.playerSessions →
      Origin env (.start players characters allMaps mapIDToName) events session) ∧
    ∀ world c authID io handled, processLoginAttempt env world c authID io = .ok handled →
      ((∀ person, ¬ Accepts env world.players authID person) →
        handled.world.playerSessions = world.playerSessions ∧
        handled.world.usernameToPlayerSession = world.usernameToPlayerSession ∧
        handled.world.players = world.players) ∧
      ∀ person, Accepts env world.players authID person →
        ∃ before after, world.players.rows = before ++ person :: after ∧
          handled.world.players.rows = before ++ {person with lastLogin := io.now} :: after := by
  refine ⟨fun session member => run_origins path member,?_⟩
  intro world c authID io handled ran
  obtain ⟨unchanged,stamped⟩ := processLoginAttempt_world ran
  refine ⟨fun refuses => ?_,stamped⟩
  rw [unchanged refuses]
  exact ⟨rfl,rfl,rfl⟩

def member : Player := ⟨7,text "test@example.com",List.replicate 64 48,[],0,false,0,0⟩

def members : PlayersTable := ⟨[member],by simp,by simp⟩

def login : List Event :=
  [.accept,.incoming 0 (.delivers []),
    .incoming 0 (.delivers ((ClientPacket.authenticationIdentity credentials).buffer .network))]

theorem session_origins_login : ∃ trace t,
    Runs.Run (LoginServer.step (.plain [credentials.document])) (.start members [] [] .empty) login trace t ∧
      t.playerSessions.length = 1 ∧ ∀ session, some session ∈ t.playerSessions →
        Origin (.plain [credentials.document]) (.start members [] [] .empty) login session := by
  obtain ⟨trace,t,path,one⟩ := Runs.execute_check (LoginServer.step (.plain [credentials.document]))
    (.start members [] [] .empty) login (fun last => last.1.playerSessions.length == 1) (by decide +kernel)
  exact ⟨trace,t,path,by simpa using one,(session_origins path).1⟩

end PlayPG.LoginOrigins
