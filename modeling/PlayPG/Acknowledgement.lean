import PlayPG.MapAssignment

namespace PlayPG.Acknowledgement
open Bytes IncomingHandler Visits ServerSteps Connections MapAssignment LoginServer

def receivedIn : Effect → Option Bytes
  | .received bytes => some bytes
  | _ => none

def receivedBy (id : Nat) (trace : List (Nat × Effect)) : List Bytes :=
  trace.filterMap (fun entry => if entry.1 = id then receivedIn entry.2 else none)

def registrations (trace : List (Nat × Effect)) : List Nat :=
  (trace.filter (fun entry => entry.2 == .mapServerRegistered)).map Prod.fst

theorem receivedBy_append (id : Nat) (early late : List (Nat × Effect)) :
    receivedBy id (early ++ late) = receivedBy id early ++ receivedBy id late := List.filterMap_append

theorem registrations_append (early late : List (Nat × Effect)) :
    registrations (early ++ late) = registrations early ++ registrations late := by
  simp [registrations]

theorem receivedBy_tagged (effects : List Effect) (id : Nat) :
    receivedBy id (effects.map (Prod.mk id)) = effects.filterMap receivedIn := by
  simp [receivedBy,List.filterMap_map]

def Requested (env : Env) (packets : List Bytes) : Prop :=
  ∃ request, request ∈ packets ∧ env.apg.getShort request = ServerOpcode.MAP_SERVER_REGISTRATION_REQUEST.code

def Listed (env : Env) (packets : List Bytes) : Prop :=
  ∃ request list, [request,list].Sublist packets ∧
    env.apg.getShort request = ServerOpcode.MAP_SERVER_REGISTRATION_REQUEST.code ∧
    env.apg.getShort list = ServerOpcode.MAP_SERVER_MAP_LIST.code

def Evidence (env : Env) (packets : List Bytes) : Prop :=
  ∃ request list ack, [request,list,ack].Sublist packets ∧ packets.getLast? = some ack ∧
    env.apg.getShort request = ServerOpcode.MAP_SERVER_REGISTRATION_REQUEST.code ∧
    env.apg.getShort list = ServerOpcode.MAP_SERVER_MAP_LIST.code ∧
    env.apg.getShort ack = ServerOpcode.MAP_SERVER_ACK.code

def Ordered (env : Env) (trace : List (Nat × Effect)) : Prop :=
  ∀ early id late, trace = early ++ (id,.mapServerRegistered) :: late → Evidence env (receivedBy id early)

theorem ordered_append : Ordered env (trace ++ fresh) ↔ Ordered env trace ∧
    ∀ early id late, fresh = early ++ (id,.mapServerRegistered) :: late →
      Evidence env (receivedBy id (trace ++ early)) := by
  constructor
  · intro ordered
    refine ⟨fun early id late whole => ?_,fun early id late whole => ?_⟩
    · exact ordered early id (late ++ fresh) (by simp [whole])
    · exact ordered (trace ++ early) id late (by simp [whole])
  · intro both early id late whole
    obtain ⟨prior,new⟩ := both
    rcases List.append_eq_append_iff.mp whole with ⟨middle,rfl,rest⟩ | ⟨middle,split,rest⟩
    · exact new middle id late rest
    · cases middle with
      | nil =>
        rw [List.append_nil] at split
        subst split
        simpa using new [] id late (by simpa using rest.symm)
      | cons head tail =>
        obtain ⟨rfl,_⟩ := List.cons.inj rest
        exact prior early id tail split

-- What the packets read so far show for a connection in a registration state.
structure Shown (env : Env) (trace : List (Nat × Effect)) (c : IncomingConnection) : Prop where
  requested : c.state = .MAP_LIST → Requested env (receivedBy (connectionId c) trace)
  listed : c.state = .MAP_WAIT_ACK → Listed env (receivedBy (connectionId c) trace)

theorem Shown.grow (shown : Shown env trace c) (fresh : List (Nat × Effect)) : Shown env (trace ++ fresh) c := by
  refine ⟨fun listing => ?_,fun waiting => ?_⟩
  · obtain ⟨request,member,opcode⟩ := shown.requested listing
    exact ⟨request,by rw [receivedBy_append]; exact List.mem_append_left _ member,opcode⟩
  · obtain ⟨request,list,within,opcodes⟩ := shown.listed waiting
    exact ⟨request,list,by rw [receivedBy_append]; exact within.trans (List.sublist_append_left ..),opcodes⟩

theorem Shown.idle (elsewhere : c.state ≠ .MAP_LIST ∧ c.state ≠ .MAP_WAIT_ACK) : Shown env trace c :=
  ⟨fun listing => absurd listing elsewhere.1,fun waiting => absurd waiting elsewhere.2⟩

theorem visit_shown (shown : Shown env trace c) (visit : Visit env world io c handled) :
    Shown env (trace ++ handled.effects.map (Prod.mk (connectionId c))) handled.connection := by
  cases visit_registration visit with
  | elsewhere others => exact .idle others
  | @quiet socket owned =>
    have same : connectionId {c with socket := some (polled socket io)} = connectionId c :=
      (connectionId_owned owned).symm
    exact Shown.grow ⟨fun listing => same ▸ shown.requested listing,fun waiting => same ▸ shown.listed waiting⟩ _
  | @requested socket turn request tried =>
    have key := connectionId_owned turn.owned
    refine ⟨fun _ => ⟨io.recv.bytes,?_,request⟩,fun waiting => ?_⟩
    · rw [key,receivedBy_append]
      change _ ∈ _ ++ receivedBy socket.id _
      rw [receivedBy_tagged]
      simp [receivedIn]
    · cases waiting
  | @listed socket mapHashes listing turn opcode decoded =>
    have key := connectionId_owned turn.owned
    obtain ⟨request,member,first⟩ := shown.requested listing
    refine ⟨fun impossible => ?_,fun _ => ⟨request,io.recv.bytes,?_,first,opcode⟩⟩
    · cases impossible
    · rw [key] at member
      rw [key,receivedBy_append]
      change List.Sublist _ (_ ++ receivedBy socket.id _)
      rw [receivedBy_tagged]
      exact (List.singleton_sublist.mpr member).append (by simp [receivedIn])

inductive Registers (s t : LoginServer) (event : Event) : List (Nat × Effect) → Prop where
  | nobody (none : acknowledged s event = none) (items : t.mapServers.items = s.mapServers.items)
      (quiet : ∀ id, (id,.mapServerRegistered) ∉ fresh) : Registers s t event fresh
  | one (index : Nat) (io : SocketIO) (c : IncomingConnection) (server : MapServerConnection) (locations : List Location)
      (incoming : event = .incoming index io) (present : c ∈ s.incomingConnections) (waiting : c.state = .MAP_WAIT_ACK)
      (owner : server.connection.id = connectionId c) (acked : acknowledged s event = some locations)
      (items : t.mapServers.items = s.mapServers.items ++ [server]) : Registers s t event
        [(connectionId c,.received io.recv.bytes),(connectionId c,.mapServerRegistered)]

theorem mapping_none (mapping : Mapping s t acked) (same : t.mapServers.items = s.mapServers.items) : acked = none := by
  cases mapping with
  | same servers index => rfl
  | added server servers index =>
    rw [servers,StdVector.emplaceBack_items] at same
    simp at same

theorem mapping_some (mapping : Mapping s t acked) (longer : t.mapServers.items = s.mapServers.items ++ [server]) :
    ∃ locations, acked = some locations := by
  cases mapping with
  | same servers index => rw [servers] at longer; simp at longer
  | added other servers index => exact ⟨_,rfl⟩

theorem step_registers (ran : LoginServer.step env s event = .ok (t,fresh)) : Registers s t event fresh := by
  have mapping := step_mapping ran
  have nobody : t.mapServers.items = s.mapServers.items → (∀ id, (id,.mapServerRegistered) ∉ fresh) →
      Registers s t event fresh := fun items quiet => .nobody (mapping_none mapping items) items quiet
  cases event with
  | accept => cases Except.ok.inj ran; exact nobody rfl (by simp)
  | purge =>
    cases Except.ok.inj ran
    refine nobody rfl (fun id member => ?_)
    obtain ⟨_,_,same⟩ := List.mem_map.mp member
    cases same
  | database => cases Except.ok.inj ran; exact nobody rfl (by simp)
  | connected ios =>
    have pass := (step_connected ran).1
    refine nobody (by rw [pass.frame.mapServers]) (fun id member => ?_)
    cases pass.quiet _ member rfl
  | incoming index io =>
    rcases step_incoming ran with ⟨_,rfl,rfl⟩ | ⟨c,handled,present,visit,rfl,rfl⟩
    · exact nobody rfl (by simp)
    · cases visit with
      | registered waiting turn got maps name port address =>
        have items := StdVector.emplaceBack_items s.mapServers
        obtain ⟨locations,acked⟩ := mapping_some mapping (items _)
        exact .one index io c _ locations rfl (List.mem_of_getElem? present) waiting (connectionId_owned turn.owned).symm
          acked (items _)
      | _ => exact nobody rfl (by simp)

def Acks (env : Env) (s : LoginServer) : Event → Prop
  | .incoming index io => (acknowledged s (.incoming index io)).isSome →
      env.apg.getShort io.recv.bytes = ServerOpcode.MAP_SERVER_ACK.code
  | _ => True

instance (env : Env) (s : LoginServer) (event : Event) : Decidable (Acks env s event) := by
  cases event <;> unfold Acks <;> infer_instance

structure Recorded (env : Env) (trace : List (Nat × Effect)) (s : LoginServer) : Prop where
  shown : ∀ c ∈ s.incomingConnections, Shown env trace c
  items : s.mapServers.items.map (·.connection.id) = registrations trace

theorem registrations_none (quiet : ∀ id, (id,.mapServerRegistered) ∉ fresh) : registrations fresh = [] := by
  simp only [registrations,List.map_eq_nil_iff,List.filter_eq_nil_iff]
  intro entry member
  obtain ⟨id,effect⟩ := entry
  simp only [beq_iff_eq]
  rintro rfl
  exact quiet id member

theorem recorded_step (recorded : Recorded env trace s) (ran : LoginServer.step env s event = .ok (t,fresh)) :
    Recorded env (trace ++ fresh) t := by
  refine ⟨fun c member => ?_,?_⟩
  · rcases step_entries ran member with rfl | old | ⟨before,io,effects,within,turned,rfl⟩
    · exact .idle (by simp [IncomingConnection.ofSocket])
    · exact (recorded.shown c old).grow _
    · obtain ⟨handled,visit,rfl,rfl⟩ := turn_visit turned
      exact visit_shown (recorded.shown before within) visit
  · rw [registrations_append,← recorded.items]
    cases step_registers ran with
    | nobody none items quiet => simp [items,registrations_none quiet]
    | one index io c server locations incoming present waiting owner acked items =>
      simp [items,owner,registrations]

theorem run_recorded
    (path : Runs.Run (LoginServer.step env) (.start players characters allMaps mapIDToName) events trace t) :
    Recorded env trace t := by
  refine path.history (P:=Recorded env) ⟨by simp [LoginServer.start],rfl⟩ (fun _ recorded ran => recorded_step recorded ran)

theorem ordered_step (recorded : Recorded env trace s) (ordered : Ordered env trace)
    (ran : LoginServer.step env s event = .ok (t,fresh)) : Ordered env (trace ++ fresh) ↔ Acks env s event := by
  rw [ordered_append]
  cases step_registers ran with
  | nobody none items quiet =>
    refine ⟨fun _ => ?_,fun _ => ⟨ordered,fun early id late whole => ?_⟩⟩
    · cases event with
      | incoming index io => intro acked; rw [none] at acked; cases acked
      | _ => trivial
    · exact absurd (by rw [whole]; simp) (quiet id)
  | one index io c server locations incoming present waiting owner acked items =>
    obtain ⟨request,list,within,first,second⟩ := (recorded.shown c present).listed waiting
    have packets : receivedBy (connectionId c)
        (trace ++ [(connectionId c,.received io.recv.bytes)]) =
          receivedBy (connectionId c) trace ++ [io.recv.bytes] := by
      rw [receivedBy_append]; simp [receivedBy,receivedIn]
    subst incoming
    constructor
    · intro both _
      obtain ⟨_,new⟩ := both
      obtain ⟨_,_,ack,_,last,_,_,opcode⟩ := new [_] _ [] rfl
      rw [packets,List.getLast?_append_of_ne_nil _ (by simp)] at last
      obtain rfl : io.recv.bytes = ack := by simpa using last
      exact opcode
    · intro acks
      refine ⟨ordered,fun early id late whole => ?_⟩
      obtain ⟨rfl,rfl,rfl⟩ : early = [(connectionId c,.received io.recv.bytes)] ∧
          id = connectionId c ∧ late = [] := by
        rcases early with _ | ⟨head,_ | ⟨next,rest⟩⟩
        · simp at whole
        · simpa [eq_comm] using whole
        · simp at whole
      rw [packets]
      exact ⟨request,list,io.recv.bytes,by simpa using within.append (List.Sublist.refl [io.recv.bytes]),by simp,
        first,second,acks (by rw [acked]; rfl)⟩

theorem ordered_run
    (path : Runs.Run (LoginServer.step env) (.start players characters allMaps mapIDToName) events trace t) :
    Ordered env trace ↔
      Runs.StepsMeet (LoginServer.step env) (.start players characters allMaps mapIDToName) events (Acks env) := by
  induction path with
  | nil =>
    refine ⟨fun _ before event after whole => ?_,fun _ early id late whole => ?_⟩
    · simp at whole
    · simp at whole
  | snoc prior ran ih =>
    rw [Runs.StepsMeet.snoc prior,← ih]
    constructor
    · intro ordered
      have early := (ordered_append.mp ordered).1
      exact ⟨early,(ordered_step (run_recorded prior) early ran).mp ordered⟩
    · intro both
      obtain ⟨early,acks⟩ := both
      exact (ordered_step (run_recorded prior) early ran).mpr acks

-- The order holds exactly when every packet taken for an acknowledgement is one.
theorem registration_order
    (path : Runs.Run (LoginServer.step env) (.start players characters allMaps mapIDToName) events trace t) :
    t.mapServers.items.map (·.connection.id) = registrations trace ∧
      (Ordered env trace ↔
        Runs.StepsMeet (LoginServer.step env) (.start players characters allMaps mapIDToName) events (Acks env)) :=
  ⟨(run_recorded path).items,ordered_run path⟩

theorem registration_order_town : ∃ trace t,
    Runs.Run (LoginServer.step towns) (.start .empty [] [town] .empty)
      (.accept :: listing 0 ++ [acknowledgement 0]) trace t ∧ registrations trace = [0] ∧ Ordered towns trace := by
  obtain ⟨trace,t,path,registered⟩ := Runs.execute_check (LoginServer.step towns) (.start .empty [] [town] .empty)
    (.accept :: listing 0 ++ [acknowledgement 0]) (fun last => registrations last.2 == [0]) (by decide +kernel)
  exact ⟨trace,t,path,by simpa using registered,
    (registration_order path).2.mpr (Runs.checkSteps_meet (by decide +kernel))⟩

-- Two bytes that are no acknowledgement register the server.
def unacknowledged : List Event := .accept :: listing 0 ++ [.incoming 0 (.delivers (text "no"))]

theorem registration_order_unacknowledged : ∃ trace t,
    Runs.Run (LoginServer.step towns) (.start .empty [] [town] .empty) unacknowledged trace t ∧
      (trace.getLast? = some (0,.mapServerRegistered) ∧ (receivedBy 0 trace).getLast? = some (text "no") ∧
        t.mapServers.size = 1) ∧ ¬ Ordered towns trace := by
  obtain ⟨trace,t,path,registered⟩ := Runs.execute_check (LoginServer.step towns)
    (.start .empty [] [town] .empty) unacknowledged
    (fun last => decide (last.2.getLast? = some (0,.mapServerRegistered) ∧
      (receivedBy 0 last.2).getLast? = some (text "no") ∧ last.1.mapServers.size = 1)) (by decide +kernel)
  have registered := of_decide_eq_true registered
  refine ⟨trace,t,path,registered,fun ordered => ?_⟩
  have whole := (List.dropLast_append_getLast? _ registered.1).symm
  obtain ⟨_,_,ack,_,last,_,_,opcode⟩ := ordered _ 0 [] whole
  have packet := registered.2.1
  rw [whole,receivedBy_append] at packet
  have nothing : receivedBy 0 [(0,.mapServerRegistered)] = [] := rfl
  rw [nothing,List.append_nil,last] at packet
  obtain rfl := Option.some.inj packet
  exact absurd opcode (by decide)

end PlayPG.Acknowledgement
