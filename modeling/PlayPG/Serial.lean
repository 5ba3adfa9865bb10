import PlayPG.Threads

-- The threads of the server against its sequential steps: a pass of processConnected counts as a step where it ends.
namespace PlayPG.Serial
open Bytes IncomingHandler ConnectedHandler Visits ServerSteps Connections Ownership Sockets Seclusion Isolation Threads

variable {id : Nat}

-- The sessions and their index, as a pass that is under way has left them.
def overlay (u : LoginServer) (sessions : List (Option PlayerSession)) (users : UnorderedMap Bytes Nat) : LoginServer := {u with
  playerSessions := sessions
  usernameToPlayerSession := users}

-- A turn that leaves the connection in its place leaves the world as it is.
theorem still_world (ran : processIncoming env world c io = .ok handled) (still : successor world handled = .connecting d) :
    handled.world = world ∧ handled.connection = d := by
  have stays : handled.world = world → handled.world = world ∧ handled.connection = d := by
    intro same
    exact ⟨same,Peer.connecting.inj ((successor_same same).symm.trans still)⟩
  cases processIncoming_parts ran with
  | accepted login turn identity accepts => simp [successor] at still
  | registered waiting turn got maps name port address => simp [successor,StdVector.size] at still
  | _ => exact stays rfl

-- No login got through and no map server registered.
theorem plain_world (present : s.incomingConnections[index]? = some c) (ran : processIncoming env s.toWorld c io = .ok handled)
    (unlogged : handled.world.sessionsCreated = s.sessionsCreated)
    (unregistered : MapAssignment.acknowledged s (.incoming index io) = none) : handled.world = s.toWorld := by
  cases processIncoming_parts ran with
  | accepted login turn identity accepts => simp [World.addSession] at unlogged
  | registered waiting turn got maps name port address =>
    exact absurd (MapAssignment.acknowledged_some present waiting turn got maps) (by simp [unregistered])
  | _ => rfl

-- A turn that is neither does the same over the sessions of a pass that is under way.
theorem overlay_incoming (ran : LoginServer.step env (overlay u sessions users) (.incoming index io) = .ok (server,fresh))
    (unlogged : server.sessionsCreated = u.sessionsCreated)
    (unregistered : MapAssignment.acknowledged (overlay u sessions users) (.incoming index io) = none) :
    ∃ v, LoginServer.step env u (.incoming index io) = .ok (v,fresh) ∧ server = overlay v sessions users ∧
      v.toWorld = u.toWorld := by
  rcases step_incoming_parts ran with ⟨missing,rfl,rfl⟩ | ⟨c,handled,present,visited,rfl,rfl⟩
  · have idle : LoginServer.step env u (.incoming index io) = .ok (u,[]) := by
      have missing : u.incomingConnections[index]? = none := missing
      simp only [LoginServer.step,missing]
    exact ⟨u,idle,rfl,rfl⟩
  · have present : u.incomingConnections[index]? = some c := present
    have plain : handled.world = (overlay u sessions users).toWorld := plain_world present visited unlogged unregistered
    have same := (processIncoming_secluded env (overlay u sessions users).toWorld c io).symm.trans
      (processIncoming_secluded env u.toWorld c io)
    rw [visited] at same
    obtain ⟨other,again,alike⟩ := map_ok same.symm
    obtain ⟨left,effects⟩ := Prod.mk.inj alike
    obtain ⟨world,connection⟩ := still_world again (left.trans (successor_same plain))
    have turned : LoginServer.step env u (.incoming index io) =
        .ok (u.store index other,other.effects.map (Prod.mk (LoginServer.connectionId c))) := by
      simp only [LoginServer.step,present,again]
    refine ⟨u.store index other,?_,?_,world⟩
    · rw [turned,← effects]
    · unfold LoginServer.store overlay
      rw [plain,world,connection]
      rfl

-- What a pass of processConnected reads is left as it was.
def Spares (s : LoginServer) : Event → Prop
  | .database _ characters => characters = s.characters
  | event => MapAssignment.acknowledged s event = none

instance : Decidable (Spares s event) :=
  match event with
  | .database _ characters => inferInstanceAs (Decidable (characters = s.characters))
  | .accept | .incoming _ _ | .purge | .connected _ => inferInstanceAs (Decidable (MapAssignment.acknowledged s _ = none))

-- The steps of the others go over the sessions of a pass that is under way.
theorem overlay_step (other : ∀ ios, event ≠ .connected ios) (spares : Spares (overlay u sessions users) event)
    (ran : LoginServer.step env (overlay u sessions users) event = .ok (server,fresh))
    (unlogged : server.sessionsCreated = u.sessionsCreated) : ∃ v, LoginServer.step env u event = .ok (v,fresh) ∧
      server = overlay v sessions users ∧ v.toWorld = {u.toWorld with players := v.players} := by
  cases event with
  | connected ios => exact absurd rfl (other ios)
  | accept =>
    cases Except.ok.inj ran
    exact ⟨_,rfl,rfl,rfl⟩
  | purge =>
    cases Except.ok.inj ran
    exact ⟨_,rfl,rfl,rfl⟩
  | database players characters =>
    cases Except.ok.inj ran
    obtain rfl : characters = u.characters := spares
    exact ⟨_,rfl,rfl,rfl⟩
  | incoming index io =>
    obtain ⟨v,turned,same,world⟩ := overlay_incoming ran unlogged spares
    exact ⟨v,turned,same,by rw [world]⟩

-- They speak on other sockets than the sessions.
theorem step_sockets (sole : Sole u) (other : ∀ ios, event ≠ .connected ios)
    (ran : LoginServer.step env u event = .ok (v,fresh)) (member : (id,effect) ∈ fresh) : id ∉ worldSockets u.toWorld := by
  cases event with
  | connected ios => exact absurd rfl (other ios)
  | accept =>
    cases Except.ok.inj ran
    obtain ⟨rfl,_⟩ := Prod.mk.inj (List.mem_singleton.mp member)
    intro owned
    exact Nat.lt_irrefl _ (sole.known _ (List.mem_append_right _ owned))
  | purge =>
    cases Except.ok.inj ran
    obtain ⟨socket,gone,same⟩ := List.mem_map.mp member
    obtain ⟨c,finished,owned⟩ := List.mem_filterMap.mp gone
    obtain ⟨rfl,_⟩ := Prod.mk.inj same
    exact sole.apart ⟨(List.mem_filter.mp finished).1,by rw [owned]; rfl⟩
  | database players characters =>
    cases Except.ok.inj ran
    cases member
  | incoming index io =>
    rcases step_incoming ran with ⟨_,_,rfl⟩ | ⟨c,handled,present,visit,_,rfl⟩
    · cases member
    · have within := List.mem_of_getElem? present
      exact sole.apart ⟨within,(visit_effect (sole.ready c within) visit member).1⟩

-- The state of the sequential server at a state of the threads, and what a pass under way has said already.
inductive Sequential (env : Env) (s : State) : LoginServer → List (Nat × Effect) → Prop where
  | between (free : s.visiting = none) : Sequential env s s.server []
  | within (held : s.visiting = some ios) (bound : ios.length ≤ u.playerSessions.length)
      (ran : visitSessions env u.toWorld (u.playerSessions.take ios.length) ios = .ok (last,after,pending))
      (left : s.server = overlay u (after ++ u.playerSessions.drop ios.length) last.usernameToPlayerSession) :
      Sequential env s u pending

theorem Sequential.alike (serial : Sequential env s u pending) (server : t.server = s.server) (visiting : t.visiting = s.visiting) :
    Sequential env t u pending := by
  cases serial with
  | between free =>
    rw [← server]
    exact .between (visiting.trans free)
  | within held bound ran left => exact .within (visiting.trans held) bound ran (server.trans left)

def Alike (one other : List (Nat × Effect)) : Prop := ∀ id, one.filterMap (tagged id) = other.filterMap (tagged id)

theorem Alike.append (first : Alike one other) (second : Alike more others) : Alike (one ++ more) (other ++ others) := by
  intro id
  rw [List.filterMap_append,List.filterMap_append,first id,second id]

-- Outputs on different sockets may be told in either order.
theorem alike_swap {one other : List (Nat × Effect)} (apart : ∀ id effect, (id,effect) ∈ other → ∀ first, (id,first) ∉ one) :
    Alike (one ++ other) (other ++ one) := by
  intro id
  rw [List.filterMap_append,List.filterMap_append]
  by_cases speaks : ∃ effect, (id,effect) ∈ other
  · obtain ⟨effect,member⟩ := speaks
    rw [tagged_silent (apart id effect member),List.nil_append,List.append_nil]
  · rw [tagged_silent (fun effect member => speaks ⟨effect,member⟩),List.nil_append,List.append_nil]

-- A step that another thread makes, in a pass of processConnected or out of one.
theorem sequential_follow (sole : Sole u) (sequential : Sequential env s u pending) (other : ∀ ios, event ≠ .connected ios)
    (spares : s.visiting.isSome = true → Spares s.server event) (ran : LoginServer.step env s.server event = .ok (t.server,fresh))
    (free : s.waits t.server = false) (visiting : t.visiting = s.visiting) :
    ∃ v, LoginServer.step env u event = .ok (v,fresh) ∧ Sequential env t v pending ∧ Alike (pending ++ fresh) (fresh ++ pending) := by
  cases sequential with
  | between none => exact ⟨t.server,ran,.between (visiting.trans none),fun id => by rw [List.nil_append,List.append_nil]⟩
  | within held bound loop left =>
    rename_i ios last after
    have unlogged : t.server.sessionsCreated = u.sessionsCreated := by
      have kept : t.server.sessionsCreated = s.server.sessionsCreated := by simpa [State.waits,held] using free
      rw [kept,left]
      rfl
    have spares := spares (by rw [held]; rfl)
    rw [left] at ran spares
    obtain ⟨v,turned,same,world⟩ := overlay_step other spares ran unlogged
    have sessions : v.playerSessions = u.playerSessions := by rw [world]
    refine ⟨v,turned,?_,alike_swap ?_⟩
    · have again : visitSessions env v.toWorld (v.playerSessions.take ios.length) ios =
          .ok ({last with players := v.players},after,pending) := by
        rw [sessions,world]
        exact (players_aside env v.players).visits.trans (by rw [loop]; rfl)
      refine .within (visiting.trans held) (sessions ▸ bound) again ?_
      rw [same,sessions]
    · intro id effect member first pended
      have listed := visitSessions_tags loop pended
      have within : id ∈ sessionSockets u.playerSessions :=
        ((List.take_sublist ios.length u.playerSessions).filterMap _).subset listed
      exact step_sockets sole other turned member (List.mem_append_left _ within)

-- The turn of one more session, and the end of the pass.
theorem sequential_visit (sequential : Sequential env s u pending) (held : s.visiting = some ios)
    (present : s.server.playerSessions[ios.length]? = some (some session))
    (ran : visitSession env s.server.toWorld session io = .ok (world,visited)) :
    Sequential env {s with
      server := {s.server with
        playerSessions := s.server.playerSessions.set ios.length visited.session
        usernameToPlayerSession := world.usernameToPlayerSession}
      visiting := some (ios ++ [io])} u (pending ++ visited.effects.map (Prod.mk session.socket.id)) := by
  cases sequential with
  | between free => exact absurd (free.symm.trans held) (by simp)
  | within again bound loop left =>
    rename_i others last after
    obtain rfl : ios = others := Option.some.inj (held.symm.trans again)
    obtain ⟨same,length⟩ := visitSessions_world loop
    have length : after.length = ios.length := by rw [length,List.length_take,Nat.min_eq_left bound]
    rw [left] at present ran ⊢
    have listed : u.playerSessions[ios.length]? = some (some session) := by
      have listed : (after ++ u.playerSessions.drop ios.length)[ios.length]? = some (some session) := present
      rwa [← length,List.getElem?_append_right (Nat.le_refl _),Nat.sub_self,List.getElem?_drop,Nat.add_zero,length] at listed
    obtain ⟨inside,item⟩ := List.getElem?_eq_some_iff.mp listed
    have turn : visitSession env last session io = .ok ({world with playerSessions := u.playerSessions},visited) := by
      rw [same]
      exact (sessions_aside env u.playerSessions).visit.trans (by rw [ran])
    have further := visitSessions_snoc loop (by rw [List.length_take,Nat.min_eq_left bound]) turn
    have taken : u.playerSessions.take (ios ++ [io]).length = u.playerSessions.take ios.length ++ [some session] := by
      rw [List.length_append,List.length_singleton,List.take_add_one,listed]
      rfl
    refine .within rfl (by rw [List.length_append]; exact inside) (taken ▸ further) ?_
    have dropped : u.playerSessions.drop ios.length = some session :: u.playerSessions.drop (ios.length + 1) := by
      rw [List.drop_eq_getElem_cons inside,item]
    have rest : (after ++ u.playerSessions.drop ios.length).set ios.length visited.session =
        after ++ [visited.session] ++ u.playerSessions.drop (ios ++ [io]).length := by
      rw [dropped,List.set_append_right _ _ (Nat.le_of_eq length),length,Nat.sub_self,List.set_cons_zero]
      simp
    exact congrArg (fun list => overlay u list world.usernameToPlayerSession) rest

theorem sequential_unlock (sequential : Sequential env s u pending) (held : s.visiting = some ios)
    (whole : ios.length = s.server.playerSessions.length) :
    LoginServer.step env u (.connected ios) = .ok (sweep s.server,pending) := by
  cases sequential with
  | between free => exact absurd (free.symm.trans held) (by simp)
  | within again bound loop left =>
    rename_i others last after
    obtain rfl : ios = others := Option.some.inj (held.symm.trans again)
    obtain ⟨same,length⟩ := visitSessions_world loop
    rw [left] at whole ⊢
    have size : u.playerSessions.length ≤ ios.length := by
      have counted : ios.length = (after ++ u.playerSessions.drop ios.length).length := whole
      rw [List.length_append,length,List.length_take,List.length_drop] at counted
      omega
    rw [List.take_of_length_le size] at loop
    rw [List.drop_of_length_le size,List.append_nil]
    simp only [LoginServer.step,processConnected,loop]
    rw [same]
    rfl

-- No map server is registered and no character is changed while a pass of processConnected lasts.
def Apart (env : Env) (s : State) (act : Act) : Prop :=
  s.visiting.isSome = true → ∀ event ∈ issues env s act, Spares s.server event

instance : Decidable (Apart env s act) := inferInstanceAs (Decidable (_ → _))

theorem sequential_step (sole : Sole u) (sequential : Sequential env s u pending) (apart : Apart env s act)
    (ran : step env s act = .ok (t,fresh)) : ∃ v seen rest, Runs.Run (LoginServer.step env) u (issues env s act).toList seen v ∧
      Sequential env t v rest ∧ Alike (pending ++ fresh) (seen ++ rest) := by
  obtain ⟨issued,named,acted⟩ := step_acts ran
  unfold Apart at apart
  rw [named] at apart ⊢
  have idle : fresh = [] → Sequential env t u pending → ∃ v seen rest, Runs.Run (LoginServer.step env) u [] seen v ∧
      Sequential env t v rest ∧ Alike (pending ++ fresh) (seen ++ rest) := by
    rintro rfl still
    exact ⟨u,[],pending,.nil,still,fun id => by rw [List.append_nil,List.nil_append]⟩
  have follow : ∀ {event}, issued = some event → (∀ ios, event ≠ .connected ios) → s.waits t.server = false →
      t.visiting = s.visiting → LoginServer.step env s.server event = .ok (t.server,fresh) →
      ∃ v seen rest, Runs.Run (LoginServer.step env) u issued.toList seen v ∧ Sequential env t v rest ∧
        Alike (pending ++ fresh) (seen ++ rest) := by
    rintro event rfl other free visiting stepped
    obtain ⟨v,turned,still,alike⟩ := sequential_follow sole sequential other (fun held => apart held event rfl) stepped free visiting
    exact ⟨v,fresh,pending,.snoc .nil turned,still,alike⟩
  cases acted with
  | accepted free => exact follow rfl (by simp) (by simp [State.waits,LoginServer.acceptSocket]) rfl rfl
  | entered free => exact idle rfl (sequential.alike rfl rfl)
  | turned here calm inside turned held plain => exact follow rfl (by simp) held rfl turned
  | registers here calm inside turned held grown => exact follow rfl (by simp) held rfl turned
  | registered busy => exact idle rfl (sequential.alike rfl rfl)
  | left calm whole soon => exact idle rfl (sequential.alike rfl rfl)
  | purged calm whole late => exact follow rfl (by simp) (by simp [State.waits,LoginServer.purgeDone]) rfl rfl
  | locked free =>
    cases sequential with
    | between _ => exact idle rfl (.within rfl (Nat.zero_le _) rfl rfl)
    | within held => exact absurd (free.symm.trans held) (by simp)
  | visited held present _ turn =>
    exact ⟨u,[],_,.nil,sequential_visit sequential held present turn,fun _ => rfl⟩
  | unlocked held whole =>
    exact ⟨_,pending,[],.snoc .nil (sequential_unlock sequential held whole),.between rfl,fun _ => rfl⟩
  | changed => exact follow rfl (by simp) (by simp [State.waits]) rfl rfl
  | waited quiet => exact idle rfl (sequential.alike rfl rfl)

theorem run_sequential (path : Runs.Run (step env) (started players characters allMaps mapIDToName) acts trace t)
    (apart : Runs.StepsMeet (step env) (started players characters allMaps mapIDToName) acts (Apart env)) :
    ∃ serial u pending, Runs.Run (LoginServer.step env) (.start players characters allMaps mapIDToName)
        (Projections.own (step env) (issues env) (started players characters allMaps mapIDToName) acts) serial u ∧
      Sequential env t u pending ∧ Alike trace (serial ++ pending) := by
  induction path with
  | nil => exact ⟨[],_,[],.nil,.between rfl,fun _ => rfl⟩
  | @snoc acts trace middle act next fresh prior ran ih =>
    obtain ⟨before,last⟩ := (Runs.StepsMeet.snoc prior).mp apart
    obtain ⟨serial,u,pending,run,sequential,alike⟩ := ih before
    obtain ⟨v,seen,rest,further,still,same⟩ := sequential_step (accounted_sole (run_accounted run)) sequential last ran
    rw [Projections.own_snoc prior]
    refine ⟨serial ++ seen,v,rest,run.append further,still,fun id => ?_⟩
    calc (trace ++ fresh).filterMap (tagged id)
        = (serial ++ pending ++ fresh).filterMap (tagged id) := alike.append (fun _ => rfl) id
      _ = (serial ++ (pending ++ fresh)).filterMap (tagged id) := by rw [List.append_assoc]
      _ = (serial ++ (seen ++ rest)).filterMap (tagged id) := Alike.append (fun _ => rfl) same id
      _ = (serial ++ seen ++ rest).filterMap (tagged id) := by rw [List.append_assoc]

-- The threads leave what their steps leave one after the other, and say the same on every socket. A pass of
-- processIncoming holds off new connections and serves the ones that are there once each, in their order;
-- after it none is ungreeted, nor settled since the last purge.
theorem threads_serialize (path : Runs.Run (step env) (started players characters allMaps mapIDToName) acts trace t) :
    (Runs.StepsMeet (step env) (started players characters allMaps mapIDToName) acts (Apart env) → t.visiting = none →
      ∃ serial, Runs.Run (LoginServer.step env) (.start players characters allMaps mapIDToName)
          (Projections.own (step env) (issues env) (started players characters allMaps mapIDToName) acts) serial t.server ∧
        Alike trace serial) ∧
    (∀ later rest u, t.pass = none → (∀ act ∈ later, ¬ Leaves act) → Runs.Run (step env) t (.enter :: later) rest u →
      u.server.incomingConnections.length = t.server.incomingConnections.length ∧
      ∃ count, u.served = some count ∧
        (Projections.own (step env) (issues env) t (.enter :: later)).filterMap serves = List.range count) ∧
    ∀ elapsed next fresh, t.pass = some t.server.incomingConnections.length →
      step env t (.leave elapsed) = .ok (next,fresh) → next.pass = none ∧
      (∀ c ∈ next.server.incomingConnections, c.state ≠ .FRESH) ∧
      (DONE_PURGE_TIME < elapsed → ∀ c ∈ next.server.incomingConnections, c.state ≠ .DONE) := by
  have passing := run_passing path
  refine ⟨fun apart rests => ?_,fun _ _ _ free inside onward => pass_turns free (passing.calm free) inside onward,
    fun _ _ _ whole ran => leave_parts passing whole ran⟩
  obtain ⟨serial,u,pending,run,sequential,alike⟩ := run_sequential path apart
  cases sequential with
  | between _ =>
    rw [List.append_nil] at alike
    exact ⟨serial,run,alike⟩
  | within held => exact absurd (rests.symm.trans held) (by simp)

-- A session is lost in a pass of processConnected, and before the pass ends the next connection is greeted.
def overlapping : List Act :=
  [.accept,.enter,.turn (.delivers []),.leave 0,.enter,
    .turn (.delivers ((ClientPacket.authenticationIdentity Decoders.credentials).buffer .network)),.leave 0,.accept,.lock 1,
    .enter,.turn (.delivers []),.visit { SessionIO.quiet with pollError := true},.turn (.delivers []),.unlock]

theorem threads_serialize_overlapping : ∃ trace t,
    Runs.Run (step (.plain [Decoders.credentials.document])) (started LoginOrigins.members [] [] .empty) overlapping trace t ∧
    trace.map Prod.fst = [0,0,0,0,0,0,1,0,1] ∧
    ∃ serial, Runs.Run (LoginServer.step (.plain [Decoders.credentials.document])) (.start LoginOrigins.members [] [] .empty)
        (Projections.own (step (.plain [Decoders.credentials.document])) (issues (.plain [Decoders.credentials.document]))
          (started LoginOrigins.members [] [] .empty) overlapping) serial t.server ∧ Alike trace serial := by
  obtain ⟨trace,t,path,there⟩ := Runs.execute_check (step (.plain [Decoders.credentials.document]))
    (started LoginOrigins.members [] [] .empty) overlapping
    (fun last => last.1.visiting.isNone && decide (last.2.map Prod.fst = [0,0,0,0,0,0,1,0,1])) (by decide +kernel)
  obtain ⟨rests,tags⟩ := Bool.and_eq_true_iff.mp there
  exact ⟨trace,t,path,of_decide_eq_true tags,
    (threads_serialize path).1 (Runs.checkSteps_meet (by decide +kernel)) (by simpa using rests)⟩

end PlayPG.Serial
