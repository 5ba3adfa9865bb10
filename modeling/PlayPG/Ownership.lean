import PlayPG.Connections

namespace PlayPG.Ownership
open IncomingHandler ConnectedHandler Visits ServerSteps Connections SocketIO

-- The sockets behind each kind of owner, one entry for each unique_ptr.
def incomingSockets (connections : List IncomingConnection) : List Nat :=
  connections.filterMap (fun c => c.socket.map Socket.id)

def serverSockets (servers : StdVector MapServerConnection) : List Nat := servers.items.map (·.connection.id)

def worldSockets (world : World) : List Nat := sessionSockets world.playerSessions ++ serverSockets world.mapServers

def owners (server : LoginServer) : List Nat := incomingSockets server.incomingConnections ++ worldSockets server.toWorld

def yields (fresh : List Effect) : Nat := fresh.count .sessionCreated + fresh.count .mapServerRegistered

theorem incomingSockets_set (next : IncomingConnection) (present : connections[index]? = some c) (id : Nat) :
    (incomingSockets (connections.set index next)).count id + (incomingSockets [c]).count id =
      (incomingSockets connections).count id + (incomingSockets [next]).count id := by
  induction connections generalizing index with
  | nil => cases present
  | cons head rest ih =>
    have split : ∀ d tail, (incomingSockets (d :: tail)).count id =
        (incomingSockets [d]).count id + (incomingSockets tail).count id := by
      intro d tail
      rw [← List.count_append,incomingSockets,incomingSockets,incomingSockets,← List.filterMap_append]
      rfl
    cases index with
    | zero =>
      obtain rfl : head = c := by simpa using present
      rw [List.set_cons_zero,split next rest,split head rest]
      omega
    | succ index =>
      have within : rest[index]? = some c := by simpa using present
      have counted := ih within
      rw [List.set_cons_succ,split head,split head rest]
      omega

structure Handed (world : World) (c : IncomingConnection) (handled : Handled) : Prop where
  conserved : ∀ id, (incomingSockets [handled.connection]).count id + (worldSockets handled.world).count id =
    (incomingSockets [c]).count id + (worldSockets world).count id
  traded : (incomingSockets [handled.connection] = incomingSockets [c] ∧ yields handled.effects = 0) ∨
    (incomingSockets [handled.connection] = [] ∧ (∃ id, incomingSockets [c] = [id]) ∧ yields handled.effects = 1)
  calm : ∀ effect ∈ handled.effects, effect ≠ .accepted ∧ effect ≠ .purged

theorem Handed.keeps (owned : c.socket = some socket) (kept : handled.connection.socket = some after)
    (same : after.id = socket.id) (still : handled.world = world) (nothing : yields handled.effects = 0)
    (calm : ∀ effect ∈ handled.effects, effect ≠ .accepted ∧ effect ≠ .purged) : Handed world c handled :=
  ⟨fun id => by simp [incomingSockets,owned,kept,same,still],
    .inl ⟨by simp [incomingSockets,owned,kept,same],nothing⟩,calm⟩

theorem visit_handed (visit : Visit env world io c handled) : Handed world c handled := by
  cases visit with
  | done finished => exact ⟨fun id => rfl,.inl ⟨rfl,rfl⟩,by simp⟩
  | dropped live owned failed => exact .keeps owned rfl rfl rfl rfl (by simp)
  | greeted fresh owned alive => exact .keeps owned rfl rfl rfl rfl (by simp)
  | quiet live met owned idle => exact .keeps owned rfl rfl rfl rfl (by simp)
  | closed live turn closes => exact .keeps turn.owned rfl rfl rfl rfl (by simp)
  | unexpected login turn other => exact .keeps turn.owned rfl rfl rfl rfl (by simp)
  | refused login turn identity refuses unlocked => exact .keeps turn.owned rfl rfl rfl rfl (by simp)
  | locked login turn identity row locked => exact .keeps turn.owned rfl rfl rfl rfl (by simp)
  | accepted login turn identity accepts =>
    refine ⟨fun id => ?_,.inr ⟨rfl,⟨_,by simp [incomingSockets,turn.owned]; rfl⟩,by simp [yields]⟩,by simp⟩
    simp only [incomingSockets,worldSockets,sessionSockets,serverSockets,turn.owned,World.addSession_sessions,
      World.addSession_mapServers,World.newSession,List.filterMap_append,List.filterMap_cons,List.filterMap_nil,
      Option.map_some,Option.map_none,List.count_append,List.count_nil,answered_id]
    omega
  | registering challenged turn request reached => exact .keeps turn.owned rfl rfl rfl rfl (by simp)
  | unanswered challenged turn request lost => exact .keeps turn.owned rfl rfl rfl rfl (by simp)
  | notNeeded listing turn opcode decoded none => exact .keeps turn.owned rfl rfl rfl rfl (by simp)
  | listed listing turn opcode decoded some => exact .keeps turn.owned rfl rfl rfl rfl (by simp)
  | registered waiting turn got maps name port address =>
    refine ⟨fun id => ?_,.inr ⟨rfl,⟨_,by simp [incomingSockets,turn.owned]; rfl⟩,by simp [yields]⟩,by simp⟩
    simp only [incomingSockets,worldSockets,serverSockets,turn.owned,World.addMapServer_sessions,
      World.addMapServer_mapServers,StdVector.emplaceBack_items,List.map_append,List.map_cons,List.map_nil,
      List.filterMap_cons,List.filterMap_nil,Option.map_some,Option.map_none,List.count_append,List.count_nil,read_id]
    omega

theorem purge_counts (connections : List IncomingConnection) (id : Nat) :
    (incomingSockets (connections.filter (·.state != .DONE))).count id +
      (((connections.filter (·.state == .DONE)).filterMap (·.socket)).map
        (fun socket => (socket.id,Effect.purged))).count (id,.purged) = (incomingSockets connections).count id := by
  induction connections with
  | nil => rfl
  | cons c rest ih =>
    simp only [incomingSockets] at ih ⊢
    by_cases finished : c.state = .DONE
    · cases owned : c.socket with
      | none => simpa [finished,owned] using ih
      | some socket => simp [finished,owned,List.count_cons]; omega
    · cases owned : c.socket with
      | none => simpa [finished,owned] using ih
      | some socket => simp [finished,owned,List.count_cons]; omega

theorem connectionId_of {id : Nat} (single : incomingSockets [c] = [id]) : LoginServer.connectionId c = id := by
  unfold LoginServer.connectionId
  cases owned : c.socket with
  | none => simp [incomingSockets,owned] at single
  | some socket => simpa [incomingSockets,owned] using single

-- Every socket is accepted once and then has one owner until it is purged.
structure Accounted (trace : List (Nat × Effect)) (s : LoginServer) : Prop where
  ready : ∀ c ∈ s.incomingConnections, Ready c
  present : none ∉ s.playerSessions
  accepted : ∀ id, trace.count (id,.accepted) = if id < s.socketsAccepted then 1 else 0
  conserved : ∀ id, (owners s).count id + trace.count (id,.purged) = trace.count (id,.accepted)
  single : ∀ id, trace.count (id,.sessionCreated) + trace.count (id,.mapServerRegistered) +
    (incomingSockets s.incomingConnections).count id ≤ trace.count (id,.accepted)

theorem start_accounted : Accounted [] (.start players characters allMaps mapIDToName) :=
  ⟨by simp [LoginServer.start],by simp [LoginServer.start],by simp [LoginServer.start],fun id => rfl,fun id => by
    simp [incomingSockets,LoginServer.start]⟩

theorem accept_accounted (valid : Accounted trace s) (ready : ∀ c ∈ s.acceptSocket.1.incomingConnections, Ready c) :
    Accounted (trace ++ s.acceptSocket.2) s.acceptSocket.1 := by
  have entries : incomingSockets s.acceptSocket.1.incomingConnections =
      incomingSockets s.incomingConnections ++ [s.socketsAccepted] := by
    simp [incomingSockets,LoginServer.acceptSocket,IncomingConnection.ofSocket]
  have world : worldSockets s.acceptSocket.1.toWorld = worldSockets s.toWorld := rfl
  have fresh : ∀ id effect, (s.acceptSocket.2).count (id,effect) =
      if id = s.socketsAccepted then [Effect.accepted].count effect else 0 :=
    fun id effect => tagged_count [.accepted] s.socketsAccepted id effect
  have one : ∀ id, [s.socketsAccepted].count id = if id = s.socketsAccepted then 1 else 0 := by
    intro id
    by_cases new : id = s.socketsAccepted
    · simp [new]
    · simp [new,Ne.symm new]
  refine ⟨ready,valid.present,fun id => ?_,fun id => ?_,fun id => ?_⟩
  · have bounded := valid.accepted id
    rw [List.count_append,fresh,bounded]
    change _ = if id < s.socketsAccepted + 1 then 1 else 0
    have here : [Effect.accepted].count .accepted = 1 := rfl
    split_ifs <;> omega
  · have conserved := valid.conserved id
    have here : [Effect.accepted].count .accepted = 1 := rfl
    have away : [Effect.accepted].count .purged = 0 := rfl
    simp only [owners,entries,world,List.count_append,one,fresh] at conserved ⊢
    split_ifs <;> omega
  · have single := valid.single id
    have here : [Effect.accepted].count .accepted = 1 := rfl
    have session : [Effect.accepted].count .sessionCreated = 0 := rfl
    have registered : [Effect.accepted].count .mapServerRegistered = 0 := rfl
    simp only [entries,List.count_append,one,fresh] at single ⊢
    split_ifs <;> omega

theorem purge_accounted (valid : Accounted trace s) (ready : ∀ c ∈ s.purgeDone.1.incomingConnections, Ready c) :
    Accounted (trace ++ s.purgeDone.2) s.purgeDone.1 := by
  have world : worldSockets s.purgeDone.1.toWorld = worldSockets s.toWorld := rfl
  have only : ∀ id effect, effect ≠ .purged → (s.purgeDone.2).count (id,effect) = 0 := by
    intro id effect other
    apply List.count_eq_zero.mpr
    intro member
    obtain ⟨socket,_,same⟩ := List.mem_map.mp member
    exact other (Prod.mk.inj same).2.symm
  have counts := purge_counts s.incomingConnections
  refine ⟨ready,valid.present,fun id => ?_,fun id => ?_,fun id => ?_⟩
  · rw [List.count_append,only id .accepted (by simp)]
    exact valid.accepted id
  · have conserved := valid.conserved id
    have split := counts id
    have none := only id .accepted (by simp)
    change _ + List.count (id,.purged) s.purgeDone.2 = _ at split
    change List.count id (incomingSockets s.purgeDone.1.incomingConnections) + _ = _ at split
    simp only [owners,world,List.count_append] at conserved ⊢
    omega
  · have single := valid.single id
    have split := counts id
    have none := only id .accepted (by simp)
    have session := only id .sessionCreated (by simp)
    have registered := only id .mapServerRegistered (by simp)
    change List.count id (incomingSockets s.purgeDone.1.incomingConnections) + _ = _ at split
    simp only [List.count_append] at single ⊢
    omega

theorem incoming_accounted (valid : Accounted trace s) (present : s.incomingConnections[index]? = some c)
    (visit : Visit env s.toWorld io c handled) (ready : ∀ c ∈ (s.store index handled).incomingConnections, Ready c) :
    Accounted (trace ++ handled.effects.map (Prod.mk (LoginServer.connectionId c))) (s.store index handled) := by
  have handed := visit_handed visit
  have calm : ∀ id effect, effect = .accepted ∨ effect = .purged →
      (handled.effects.map (Prod.mk (LoginServer.connectionId c))).count (id,effect) = 0 := by
    intro id effect loud
    refine tagged_absent _ _ (fun member => ?_)
    have quiet := handed.calm effect member
    rcases loud with rfl | rfl
    · exact quiet.1 rfl
    · exact quiet.2 rfl
  have moved := fun id => incomingSockets_set handled.connection present id
  refine ⟨ready,?_,fun id => ?_,fun id => ?_,fun id => ?_⟩
  · have kept := valid.present
    cases visit with
    | accepted login turn identity accepts => simpa [LoginServer.store] using kept
    | _ => exact kept
  · rw [List.count_append,calm id .accepted (.inl rfl)]
    exact valid.accepted id
  · have conserved := valid.conserved id
    have accepted := calm id .accepted (.inl rfl)
    have purged := calm id .purged (.inr rfl)
    have shared := handed.conserved id
    have entries := moved id
    simp only [owners,LoginServer.store,List.count_append] at conserved ⊢
    omega
  · have single := valid.single id
    have accepted := calm id .accepted (.inl rfl)
    have entries := moved id
    simp only [LoginServer.store,List.count_append,tagged_count] at single accepted ⊢
    rcases handed.traded with ⟨same,nothing⟩ | ⟨gone,⟨owner,had⟩,traded⟩
    · rw [same] at entries
      unfold yields at nothing
      split_ifs at accepted ⊢ <;> omega
    · have key := connectionId_of had
      rw [gone,had] at entries
      unfold yields at traded
      subst key
      by_cases own : id = LoginServer.connectionId c
      · subst own
        simp only [List.count_cons_self,List.count_nil,if_true] at entries accepted ⊢
        omega
      · simp only [own,if_false,List.count_cons_of_ne (Ne.symm own),List.count_nil] at entries accepted ⊢
        omega

theorem connected_accounted (valid : Accounted trace s) (pass : Pass s.toWorld s.playerSessions t.toWorld t.playerSessions fresh)
    (present : none ∉ t.playerSessions) (entries : t.incomingConnections = s.incomingConnections)
    (clock : t.socketsAccepted = s.socketsAccepted) : Accounted (trace ++ fresh) t := by
  have only : ∀ id effect, effect ≠ .purged → moves effect = true → fresh.count (id,effect) = 0 := by
    intro id effect other loud
    exact List.count_eq_zero.mpr (fun member => other (pass.quiet _ member loud))
  refine ⟨by simpa [entries] using valid.ready,present,fun id => ?_,fun id => ?_,fun id => ?_⟩
  · rw [List.count_append,only id .accepted (by simp) rfl,clock]
    exact valid.accepted id
  · have conserved := valid.conserved id
    have accepted := only id .accepted (by simp) rfl
    have purges := pass.purges id
    simp only [owners,worldSockets,entries,pass.frame.mapServers,List.count_append] at conserved ⊢
    omega
  · have single := valid.single id
    have accepted := only id .accepted (by simp) rfl
    have session := only id .sessionCreated (by simp) rfl
    have registered := only id .mapServerRegistered (by simp) rfl
    simp only [entries,List.count_append] at single ⊢
    omega

theorem processConnected_present (ran : processConnected env world ios = .ok (next,effects)) :
    none ∉ next.playerSessions := by
  obtain ⟨last,sessions,_,rfl⟩ := processConnected_parts ran
  simp

theorem characterSelect_fault (failed : processCharacterSelect env world session io = .error fault) :
    fault = .danglingPointer := by
  unfold processCharacterSelect at failed
  dsimp only at failed
  split at failed
  · cases failed
  · split at failed
    · split at failed
      · cases failed
      · split at failed
        · cases failed
        · split at failed
          · cases failed; rfl
          · split at failed <;> cases failed
    · cases failed

theorem serveSession_fault (failed : serveSession env world session io = .error fault) : fault = .danglingPointer := by
  unfold serveSession at failed
  dsimp only at failed
  split at failed
  · cases failed
  · split at failed
    · cases failed
    · split at failed
      · cases failed
      · split at failed
        · split at failed
          · rename_i other chose
            cases failed
            exact characterSelect_fault chose
          · cases failed
        · cases failed

theorem visitSession_fault (failed : visitSession env world session io = .error fault) : fault = .danglingPointer := by
  unfold visitSession at failed
  dsimp only at failed
  split at failed
  · cases failed
  · split at failed
    · rename_i other served
      cases failed
      exact serveSession_fault served
    · cases failed

theorem visitSessions_fault (present : none ∉ sessions) (failed : visitSessions env world sessions ios = .error fault) :
    fault = .danglingPointer := by
  induction sessions generalizing world ios with
  | nil => cases failed
  | cons head rest ih =>
    obtain ⟨here,later⟩ : head ≠ none ∧ none ∉ rest := by simpa [eq_comm] using present
    cases head with
    | none => exact absurd rfl here
    | some session =>
      unfold visitSessions at failed
      split at failed
      · rename_i other turn
        cases failed
        exact visitSession_fault turn
      · split at failed
        · rename_i other loop
          cases failed
          exact ih later loop
        · cases failed

theorem step_accounted (valid : Accounted trace s) (ran : LoginServer.step env s event = .ok (t,fresh)) :
    Accounted (trace ++ fresh) t := by
  have ready := step_ready valid.ready ran
  cases event with
  | accept => cases Except.ok.inj ran; exact accept_accounted valid ready
  | purge => cases Except.ok.inj ran; exact purge_accounted valid ready
  | database players characters =>
    cases Except.ok.inj ran
    rw [List.append_nil]
    exact ⟨valid.ready,valid.present,valid.accepted,valid.conserved,valid.single⟩
  | connected ios =>
    obtain ⟨pass,entries,clock⟩ := step_connected ran
    exact connected_accounted valid pass (processConnected_present (step_connected_parts ran).1) entries clock
  | incoming index io =>
    rcases step_incoming ran with ⟨_,rfl,rfl⟩ | ⟨c,handled,present,visit,rfl,rfl⟩
    · simpa using valid
    · exact incoming_accounted valid present visit ready

theorem run_accounted
    (path : Runs.Run (LoginServer.step env) (.start players characters allMaps mapIDToName) events trace t) :
    Accounted trace t :=
  path.history (P:=Accounted) start_accounted (fun _ valid ran => step_accounted valid ran)

-- How a moved socket, a null session or a broken REQUIRE would show.
def Internal : Fault → Prop
  | .nullSocket | .nullSession | .require _ => True
  | _ => False

theorem accounted_fault (valid : Accounted trace s) (failed : LoginServer.step env s event = .error fault) :
    ¬ Internal fault := by
  cases event with
  | accept | purge | database => cases failed
  | incoming index io =>
    simp only [LoginServer.step] at failed
    split at failed
    · cases failed
    · rename_i c present
      split at failed
      · rename_i other stopped
        cases failed
        rcases ready_fault (valid.ready c (List.mem_of_getElem? present)) stopped with decoder | rfl
        · cases fault <;> simp_all [Internal,Fault.ofDecoder]
        · exact id
      · cases failed
  | connected ios =>
    simp only [LoginServer.step,processConnected] at failed
    split at failed
    · rename_i other pass
      cases failed
      split at pass
      · rename_i first loop
        cases pass
        rw [visitSessions_fault valid.present loop]
        exact id
      · cases pass
    · cases failed

theorem socket_ownership
    (path : Runs.Run (LoginServer.step env) (.start players characters allMaps mapIDToName) events trace t) :
    (∀ c ∈ t.incomingConnections, Ready c) ∧
    (∀ id, (id,.accepted) ∈ trace → (owners t).count id = if (id,.purged) ∈ trace then 0 else 1) ∧
    (∀ id, trace.count (id,.sessionCreated) + trace.count (id,.mapServerRegistered) ≤ 1) ∧
    ∀ event fault, LoginServer.step env t event = .error fault → ¬ Internal fault := by
  have valid := run_accounted path
  have once : ∀ id, trace.count (id,.accepted) ≤ 1 := by
    intro id; rw [valid.accepted id]; split <;> omega
  refine ⟨valid.ready,fun id member => ?_,fun id => ?_,fun event fault failed => accounted_fault valid failed⟩
  · have conserved := valid.conserved id
    have single := once id
    have accepted := List.count_pos_iff.mpr member
    split
    · rename_i purged
      have gone := List.count_pos_iff.mpr purged
      omega
    · rename_i kept
      have here := List.count_eq_zero.mpr kept
      omega
  · have single := valid.single id
    have bound := once id
    omega

-- Two connections, one of them lost and purged.
def visitors : List Event :=
  [.accept,.accept,.incoming 0 (.delivers []),.incoming 1 {delivers [] with pollError := true},.purge]

theorem socket_ownership_visitors : ∃ trace t,
    Runs.Run (LoginServer.step (.plain [])) (.start .empty [] [] .empty) visitors trace t ∧
      owners t = [0] ∧ (∀ id, (id,.accepted) ∈ trace → (owners t).count id = if (id,.purged) ∈ trace then 0 else 1) := by
  obtain ⟨trace,t,path,left⟩ := Runs.execute_check (LoginServer.step (.plain []))
    (.start .empty [] [] .empty) visitors (fun last => owners last.1 == [0]) (by decide +kernel)
  exact ⟨trace,t,path,by simpa using left,(socket_ownership path).2.1⟩

end PlayPG.Ownership
