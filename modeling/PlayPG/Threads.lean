import PlayPG.Settlement

-- The accepting, the processing and the connected thread of LoginServer::run, and the mutexes between them.
namespace PlayPG.Threads
open Bytes IncomingHandler ConnectedHandler Visits ServerSteps LifeCycle

def DONE_PURGE_TIME : Nat := 5

inductive ThreadFault where
  | handler (fault : Fault)
  | race

-- A pass of processIncoming holds incomingConnectionsMutex and has come to a place; a turn of it that registers a map
-- server holds mapServersMutex; a pass of processConnected holds playerSessionMutex and has had these answers.
structure State where
  server : LoginServer
  pass : Option Nat
  registering : Bool
  visiting : Option (List SessionIO)

-- A turn of a loop is one act, and one more where it registers a map server, which takes until registered.
-- The whole seconds since the last purge and since the last run are read from the clock.
inductive Act where
  | accept
  | enter
  | turn (io : SocketIO)
  | registered
  | leave (timeSinceLastPurge : Nat)
  | lock (timeSinceLastRun : Nat)
  | visit (io : SessionIO)
  | unlock
  | database (players : PlayersTable) (characters : List Character)

-- A login that gets through waits for playerSessionMutex.
def State.waits (s : State) (server : LoginServer) : Bool :=
  s.visiting.isSome && server.sessionsCreated != s.server.sessionsCreated

-- Whether a selection gets to mapNameToConnection, which it reads without mapServersMutex.
def looksUp (env : Env) (world : World) (session : PlayerSession) (io : SessionIO) : Bool :=
  !inError session io && decide (CharacterChoice.Asked env io) && decide (io.characterID.result = 8) &&
    match ownedCharacters world session (env.apg.getLong io.characterID.bytes) with
    | [character] => (world.mapIDToName character.locationID).isSome
    | _ => false

def sweep (server : LoginServer) : LoginServer := {server with
  playerSessions := if server.playerSessions.any Option.isNone then server.playerSessions.filter Option.isSome
    else server.playerSessions}

-- An act out of place, or of a thread that waits for a mutex, changes nothing.
def step (env : Env) : Runs.Machine State Act (Nat × Effect) ThreadFault
  | s,.accept =>
    if s.pass.isSome then .ok (s,[]) else .ok ({s with server := s.server.acceptSocket.1},s.server.acceptSocket.2)
  | s,.enter => if s.pass.isSome then .ok (s,[]) else .ok ({s with pass := some 0},[])
  | s,.turn io =>
    match s.pass with
    | none => .ok (s,[])
    | some place =>
      if s.registering = true ∨ s.server.incomingConnections.length ≤ place then .ok (s,[])
      else
        match LoginServer.step env s.server (.incoming place io) with
        | .error fault => .error (.handler fault)
        | .ok (server,fresh) =>
          if s.waits server then .ok (s,[])
          else if server.mapServers.size ≠ s.server.mapServers.size then
            .ok ({s with server := server,registering := true},fresh)
          else .ok ({s with server := server,pass := some (place + 1)},fresh)
  | s,.registered =>
    if s.registering then .ok ({s with registering := false,pass := s.pass.map (· + 1)},[]) else .ok (s,[])
  | s,.leave timeSinceLastPurge =>
    if s.registering = true ∨ s.pass ≠ some s.server.incomingConnections.length then .ok (s,[])
    else if DONE_PURGE_TIME < timeSinceLastPurge then
      .ok ({s with server := s.server.purgeDone.1,pass := none},s.server.purgeDone.2)
    else .ok ({s with pass := none},[])
  -- RUN_WAIT_TIME is half a second.
  | s,.lock timeSinceLastRun =>
    if s.visiting.isSome ∨ timeSinceLastRun < 1 then .ok (s,[]) else .ok ({s with visiting := some []},[])
  | s,.visit io =>
    match s.visiting with
    | none => .ok (s,[])
    | some ios =>
      match s.server.playerSessions[ios.length]? with
      | none => .ok (s,[])
      | some none => .error (.handler .nullSession)
      | some (some session) =>
        if s.registering && looksUp env s.server.toWorld session io then .error .race
        else
          match visitSession env s.server.toWorld session io with
          | .error fault => .error (.handler fault)
          | .ok (world,visited) =>
            .ok ({s with
              server := {s.server with
                playerSessions := s.server.playerSessions.set ios.length visited.session
                usernameToPlayerSession := world.usernameToPlayerSession}
              visiting := some (ios ++ [io])},visited.effects.map (Prod.mk session.socket.id))
  | s,.unlock =>
    match s.visiting with
    | none => .ok (s,[])
    | some ios =>
      if ios.length = s.server.playerSessions.length then .ok ({s with server := sweep s.server,visiting := none},[])
      else .ok (s,[])
  | s,.database players characters =>
    .ok ({s with server := {s.server with players := players,characters := characters}},[])

-- The step of the sequential server that an act stands for; a pass of processConnected is one when it ends.
def issues (env : Env) (s : State) : Act → Option Event
  | .accept => if s.pass.isSome then none else some .accept
  | .turn io =>
    match s.pass with
    | none => none
    | some place =>
      if s.registering = true ∨ s.server.incomingConnections.length ≤ place then none
      else
        match LoginServer.step env s.server (.incoming place io) with
        | .error _ => none
        | .ok (server,_) => if s.waits server then none else some (.incoming place io)
  | .leave timeSinceLastPurge =>
    if s.registering = true ∨ s.pass ≠ some s.server.incomingConnections.length then none
    else if DONE_PURGE_TIME < timeSinceLastPurge then some .purge else none
  | .unlock =>
    match s.visiting with
    | none => none
    | some ios => if ios.length = s.server.playerSessions.length then some (.connected ios) else none
  | .database players characters => some (.database players characters)
  | .enter | .registered | .lock _ | .visit _ => none

-- What one act does, with the step that it stands for.
inductive Step (env : Env) (s : State) : Act → State → List (Nat × Effect) → Option Event → Prop where
  | accepted (free : s.pass = none) :
      Step env s .accept {s with server := s.server.acceptSocket.1} s.server.acceptSocket.2 (some .accept)
  | entered (free : s.pass = none) : Step env s .enter {s with pass := some 0} [] none
  | turned (here : s.pass = some place) (calm : s.registering = false) (inside : place < s.server.incomingConnections.length)
      (ran : LoginServer.step env s.server (.incoming place io) = .ok (server,fresh)) (held : s.waits server = false)
      (plain : server.mapServers.size = s.server.mapServers.size) :
      Step env s (.turn io) {s with server := server,pass := some (place + 1)} fresh (some (.incoming place io))
  | registers (here : s.pass = some place) (calm : s.registering = false) (inside : place < s.server.incomingConnections.length)
      (ran : LoginServer.step env s.server (.incoming place io) = .ok (server,fresh)) (held : s.waits server = false)
      (grown : server.mapServers.size ≠ s.server.mapServers.size) :
      Step env s (.turn io) {s with server := server,registering := true} fresh (some (.incoming place io))
  | registered (busy : s.registering = true) :
      Step env s .registered {s with registering := false,pass := s.pass.map (· + 1)} [] none
  | left (calm : s.registering = false) (whole : s.pass = some s.server.incomingConnections.length)
      (soon : ¬ DONE_PURGE_TIME < elapsed) : Step env s (.leave elapsed) {s with pass := none} [] none
  | purged (calm : s.registering = false) (whole : s.pass = some s.server.incomingConnections.length)
      (late : DONE_PURGE_TIME < elapsed) :
      Step env s (.leave elapsed) {s with server := s.server.purgeDone.1,pass := none} s.server.purgeDone.2 (some .purge)
  | locked (free : s.visiting = none) : Step env s (.lock elapsed) {s with visiting := some []} [] none
  | visited (held : s.visiting = some ios) (present : s.server.playerSessions[ios.length]? = some (some session))
      (apart : s.registering = true → looksUp env s.server.toWorld session io = false)
      (ran : visitSession env s.server.toWorld session io = .ok (world,visited)) :
      Step env s (.visit io) {s with
        server := {s.server with
          playerSessions := s.server.playerSessions.set ios.length visited.session
          usernameToPlayerSession := world.usernameToPlayerSession}
        visiting := some (ios ++ [io])} (visited.effects.map (Prod.mk session.socket.id)) none
  | unlocked (held : s.visiting = some ios) (whole : ios.length = s.server.playerSessions.length) :
      Step env s .unlock {s with server := sweep s.server,visiting := none} [] (some (.connected ios))
  | changed : Step env s (.database players characters)
      {s with server := {s.server with players := players,characters := characters}} [] (some (.database players characters))
  | waited (quiet : ∀ elapsed, act = .leave elapsed → s.registering = true ∨ s.pass ≠ some s.server.incomingConnections.length) :
      Step env s act s [] none

theorem step_parts (ran : step env s act = .ok (t,fresh)) : Step env s act t fresh (issues env s act) := by
  cases act with
  | accept =>
    dsimp only [step] at ran
    dsimp only [issues]
    split at ran
    · rename_i busy
      cases Except.ok.inj ran
      rw [if_pos busy]
      exact .waited (by simp)
    · rename_i free
      cases Except.ok.inj ran
      rw [if_neg free]
      exact .accepted (by simpa using free)
  | enter =>
    dsimp only [step] at ran
    split at ran
    · cases Except.ok.inj ran
      exact .waited (by simp)
    · rename_i free
      cases Except.ok.inj ran
      exact .entered (by simpa using free)
  | turn io =>
    dsimp only [step] at ran
    dsimp only [issues]
    cases here : s.pass with
    | none =>
      simp only [here] at ran ⊢
      cases Except.ok.inj ran
      exact .waited (by simp)
    | some place =>
      simp only [here] at ran ⊢
      split at ran
      · rename_i away
        cases Except.ok.inj ran
        rw [if_pos away]
        exact .waited (by simp)
      · rename_i inside
        rw [if_neg inside]
        obtain ⟨calm,inside⟩ := not_or.mp inside
        split at ran
        · cases ran
        · rename_i server effects stepped
          split at ran
          · rename_i waits
            cases Except.ok.inj ran
            rw [if_pos waits]
            exact .waited (by simp)
          · rename_i held
            rw [if_neg held]
            split at ran
            · rename_i grown
              cases Except.ok.inj ran
              rw [← here]
              exact .registers here (by simpa using calm) (Nat.not_le.mp inside) stepped (by simpa using held) grown
            · rename_i plain
              cases Except.ok.inj ran
              exact .turned here (by simpa using calm) (Nat.not_le.mp inside) stepped (by simpa using held) (not_not.mp plain)
  | registered =>
    dsimp only [step] at ran
    split at ran
    · rename_i busy
      cases Except.ok.inj ran
      exact .registered busy
    · cases Except.ok.inj ran
      exact .waited (by simp)
  | leave elapsed =>
    dsimp only [step] at ran
    dsimp only [issues]
    split at ran
    · rename_i inside
      cases Except.ok.inj ran
      rw [if_pos inside]
      exact .waited (fun _ _ => inside)
    · rename_i whole
      rw [if_neg whole]
      obtain ⟨calm,whole⟩ := not_or.mp whole
      split at ran
      · rename_i late
        cases Except.ok.inj ran
        rw [if_pos late]
        exact .purged (by simpa using calm) (not_not.mp whole) late
      · rename_i soon
        cases Except.ok.inj ran
        rw [if_neg soon]
        exact .left (by simpa using calm) (not_not.mp whole) soon
  | lock elapsed =>
    dsimp only [step] at ran
    split at ran
    · cases Except.ok.inj ran
      exact .waited (by simp)
    · rename_i free
      cases Except.ok.inj ran
      exact .locked (by simpa using (not_or.mp free).1)
  | visit io =>
    dsimp only [step] at ran
    cases held : s.visiting with
    | none =>
      simp only [held] at ran
      cases Except.ok.inj ran
      exact .waited (by simp)
    | some ios =>
      simp only [held] at ran
      split at ran
      · cases Except.ok.inj ran
        exact .waited (by simp)
      · cases ran
      · rename_i session present
        split at ran
        · cases ran
        · rename_i apart
          split at ran
          · cases ran
          · rename_i world visited turn
            cases Except.ok.inj ran
            exact .visited held present (by simpa using apart) turn
  | unlock =>
    dsimp only [step] at ran
    dsimp only [issues]
    cases held : s.visiting with
    | none =>
      simp only [held] at ran ⊢
      cases Except.ok.inj ran
      exact .waited (by simp)
    | some ios =>
      simp only [held] at ran ⊢
      split at ran
      · rename_i whole
        cases Except.ok.inj ran
        rw [if_pos whole]
        exact .unlocked held whole
      · rename_i early
        cases Except.ok.inj ran
        rw [if_neg early]
        exact .waited (by simp)
  | database players characters =>
    cases Except.ok.inj ran
    exact .changed

theorem step_acts (ran : step env s act = .ok (t,fresh)) : ∃ event, issues env s act = event ∧ Step env s act t fresh event :=
  ⟨_,rfl,step_parts ran⟩

-- No other thread changes how many connections there are while a pass lasts.
theorem incoming_length (ran : LoginServer.step env s (.incoming place io) = .ok (t,fresh)) :
    t.incomingConnections.length = s.incomingConnections.length := by
  rcases step_incoming ran with ⟨_,rfl,_⟩ | ⟨c,handled,present,visit,rfl,_⟩
  · rfl
  · exact List.length_set

theorem incoming_greeted (ran : LoginServer.step env s (.incoming place io) = .ok (t,fresh))
    (greeted : ∀ i < place, ∀ c, s.incomingConnections[i]? = some c → c.state ≠ .FRESH) :
    ∀ i < place + 1, ∀ c, t.incomingConnections[i]? = some c → c.state ≠ .FRESH := by
  intro i early c present
  rcases step_incoming ran with ⟨missing,rfl,_⟩ | ⟨d,handled,found,visit,rfl,_⟩
  · by_cases here : i = place
    · rw [here,missing] at present
      cases present
    · exact greeted i (by omega) c present
  · change (s.incomingConnections.set place handled.connection)[i]? = some c at present
    by_cases here : i = place
    · subst i
      rw [List.getElem?_set_self (List.getElem?_eq_some_iff.mp found).1] at present
      cases Option.some.inj present
      exact visit_greeted visit
    · rw [List.getElem?_set_ne (Ne.symm here)] at present
      exact greeted i (by omega) c present

-- How many connections have had their turn in the pass, the one that registers included.
def State.served (s : State) : Option Nat := s.pass.map (· + s.registering.toNat)

structure Passing (s : State) : Prop where
  calm : s.pass = none → s.registering = false
  within : ∀ count, s.served = some count → count ≤ s.server.incomingConnections.length
  greeted : ∀ count, s.served = some count → ∀ i < count, ∀ c, s.server.incomingConnections[i]? = some c → c.state ≠ .FRESH

theorem Passing.free (free : s.pass = none) (calm : s.registering = false) : Passing s :=
  ⟨fun _ => calm,by simp [State.served,free],by simp [State.served,free]⟩

theorem Passing.alike (passing : Passing s) (connections : t.server.incomingConnections = s.server.incomingConnections)
    (pass : t.pass = s.pass) (registering : t.registering = s.registering) : Passing t := by
  have served : t.served = s.served := by rw [State.served,State.served,pass,registering]
  exact ⟨fun free => registering.trans (passing.calm (pass.symm.trans free)),
    fun count now => connections ▸ passing.within count (served ▸ now),
    fun count now => connections ▸ passing.greeted count (served ▸ now)⟩

-- A turn of the pass is one more that has had its turn.
theorem Passing.turned (passing : Passing s) (here : s.pass = some place) (calm : s.registering = false)
    (inside : place < s.server.incomingConnections.length)
    (ran : LoginServer.step env s.server (.incoming place io) = .ok (t.server,fresh)) (served : t.served = some (place + 1)) :
    Passing t := by
  have before : s.served = some place := by rw [State.served,here,calm]; rfl
  refine ⟨fun free => ?_,fun count now => ?_,fun count now => ?_⟩
  · rw [State.served,free] at served
    cases served
  · cases Option.some.inj (served.symm.trans now)
    rw [incoming_length ran]
    exact inside
  · cases Option.some.inj (served.symm.trans now)
    exact incoming_greeted ran (passing.greeted place before)

theorem passing_step (passing : Passing s) (ran : step env s act = .ok (t,fresh)) : Passing t := by
  obtain ⟨_,_,acted⟩ := step_acts ran
  cases acted with
  | accepted free => exact .free free (passing.calm free)
  | entered free =>
    have calm := passing.calm free
    have served : (⟨s.server,some 0,s.registering,s.visiting⟩ : State).served = some 0 := by
      rw [State.served,calm]
      rfl
    refine ⟨fun _ => calm,fun count now => ?_,fun count now i early => ?_⟩
    · cases Option.some.inj (served.symm.trans now)
      exact Nat.zero_le _
    · cases Option.some.inj (served.symm.trans now)
      exact absurd early (Nat.not_lt_zero i)
  | turned here calm inside ran held plain =>
    exact passing.turned here calm inside ran (by rw [State.served,calm]; rfl)
  | registers here calm inside ran held grown =>
    exact passing.turned here calm inside ran (by rw [State.served,here]; rfl)
  | registered busy =>
    cases here : s.pass with
    | none => exact absurd busy (by simp [passing.calm here])
    | some place =>
      have before : s.served = some (place + 1) := by rw [State.served,here,busy]; rfl
      have served : (⟨s.server,some (place + 1),false,s.visiting⟩ : State).served = some (place + 1) := rfl
      exact ⟨fun _ => rfl,fun count now => passing.within count (before.trans (served.symm.trans now)),
        fun count now => passing.greeted count (before.trans (served.symm.trans now))⟩
  | left calm whole soon => exact .free rfl calm
  | purged calm whole late => exact .free rfl calm
  | locked free => exact passing.alike rfl rfl rfl
  | visited held present apart ran => exact passing.alike rfl rfl rfl
  | unlocked held whole => exact passing.alike rfl rfl rfl
  | changed => exact passing.alike rfl rfl rfl
  | waited quiet => exact passing

def started (players : PlayersTable) (characters : List Character) (allMaps : List Location)
    (mapIDToName : UnorderedMap UInt64 Bytes) : State := ⟨.start players characters allMaps mapIDToName,none,false,none⟩

theorem run_passing (path : Runs.Run (step env) (started players characters allMaps mapIDToName) acts trace t) : Passing t :=
  path.invariant (P:=Passing) (.free rfl rfl) (fun passing ran => passing_step passing ran)

def serves : Event → Option Nat
  | .incoming index _ => some index
  | _ => none

def Leaves : Act → Prop
  | .leave _ => True
  | _ => False

-- Inside a pass an act is a turn at the next place, or none.
theorem step_served (ran : step env s act = .ok (t,fresh)) (inside : s.served = some count) (lasts : ¬ Leaves act) :
    t.server.incomingConnections.length = s.server.incomingConnections.length ∧
      ((t.served = some count ∧ (issues env s act).toList.filterMap serves = []) ∨
        (t.served = some (count + 1) ∧ (issues env s act).toList.filterMap serves = [count])) := by
  obtain ⟨place,here,reached⟩ := Option.map_eq_some_iff.mp inside
  have turn : s.registering = false → place = count := by
    intro calm
    simpa [calm] using reached
  obtain ⟨event,issued,acted⟩ := step_acts ran
  rw [issued]
  cases acted with
  | accepted free => exact absurd (free.symm.trans here) (by simp)
  | entered free => exact absurd (free.symm.trans here) (by simp)
  | @turned now _ _ _ found calm within ran held plain =>
    obtain rfl : place = now := Option.some.inj (here.symm.trans found)
    obtain rfl := turn calm
    exact ⟨incoming_length ran,.inr ⟨by rw [State.served,calm]; rfl,rfl⟩⟩
  | @registers now _ _ _ found calm within ran held grown =>
    obtain rfl : place = now := Option.some.inj (here.symm.trans found)
    obtain rfl := turn calm
    exact ⟨incoming_length ran,.inr ⟨by rw [State.served,here]; rfl,rfl⟩⟩
  | registered busy =>
    refine ⟨rfl,.inl ⟨?_,rfl⟩⟩
    rw [State.served,here,← reached,busy]
    rfl
  | left calm whole soon => exact absurd trivial lasts
  | purged calm whole late => exact absurd trivial lasts
  | locked free => exact ⟨rfl,.inl ⟨inside,rfl⟩⟩
  | visited held present apart ran => exact ⟨rfl,.inl ⟨inside,rfl⟩⟩
  | unlocked held whole => exact ⟨rfl,.inl ⟨inside,rfl⟩⟩
  | changed => exact ⟨rfl,.inl ⟨inside,rfl⟩⟩
  | waited quiet => exact ⟨rfl,.inl ⟨inside,rfl⟩⟩

-- While a pass lasts the number of connections stays, and its turns are at 0, 1, 2 and so on.
theorem pass_turns (free : s.pass = none) (calm : s.registering = false) (inside : ∀ act ∈ acts, ¬ Leaves act)
    (path : Runs.Run (step env) s (.enter :: acts) trace u) :
    u.server.incomingConnections.length = s.server.incomingConnections.length ∧
    ∃ count, u.served = some count ∧
      (Projections.own (step env) (issues env) s (.enter :: acts)).filterMap serves = List.range count := by
  induction acts using List.reverseRecOn generalizing u trace with
  | nil =>
    obtain ⟨next,fresh,rest,ran,none,_⟩ := path.cons_inv
    obtain ⟨rfl,_⟩ := none.nil_inv
    have entered := ran
    simp only [step,free,Option.isSome_none,Bool.false_eq_true,if_false] at entered
    cases Except.ok.inj entered
    refine ⟨rfl,0,by rw [State.served,calm]; rfl,?_⟩
    simp only [Projections.own,issues,ran,Option.toList_none,List.nil_append]
    rfl
  | append_singleton acts act ih =>
    rw [← List.cons_append] at path
    obtain ⟨middle,early,fresh,prior,ran,_⟩ := path.snoc_inv
    obtain ⟨length,count,served,turns⟩ := ih (fun other member => inside other (List.mem_append_left _ member)) prior
    rw [← List.cons_append,Projections.own_snoc prior,List.filterMap_append,turns]
    obtain ⟨same,⟨still,none⟩ | ⟨further,next⟩⟩ := step_served ran served (inside act (by simp))
    · exact ⟨same.trans length,count,still,by rw [none,List.append_nil]⟩
    · exact ⟨same.trans length,count + 1,further,by rw [next,List.range_succ]⟩

-- A pass that is left has greeted every connection, and after five seconds the finished ones go.
theorem leave_parts (passing : Passing s) (whole : s.pass = some s.server.incomingConnections.length)
    (ran : step env s (.leave elapsed) = .ok (t,fresh)) : t.pass = none ∧
      (∀ c ∈ t.server.incomingConnections, c.state ≠ .FRESH) ∧
      (DONE_PURGE_TIME < elapsed → ∀ c ∈ t.server.incomingConnections, c.state ≠ .DONE) := by
  have calm : s.registering = false := by
    by_contra busy
    have most := passing.within _ (by rw [State.served,whole]; rfl)
    simp [busy] at most
  have served : s.served = some s.server.incomingConnections.length := by rw [State.served,whole,calm]; rfl
  have greeted : ∀ c ∈ s.server.incomingConnections, c.state ≠ .FRESH := by
    intro c member
    obtain ⟨i,present⟩ := List.getElem?_of_mem member
    exact passing.greeted _ served i (List.getElem?_eq_some_iff.mp present).1 c present
  obtain ⟨_,_,acted⟩ := step_acts ran
  cases acted with
  | left _ _ soon => exact ⟨rfl,greeted,fun late => absurd late soon⟩
  | purged _ _ late =>
    refine ⟨rfl,fun c member => greeted c (List.mem_filter.mp member).1,fun _ c member => ?_⟩
    simpa using (List.mem_filter.mp member).2
  | waited quiet =>
    rcases quiet elapsed rfl with busy | elsewhere
    · exact absurd busy (by simp [calm])
    · exact absurd whole elsewhere

end PlayPG.Threads
