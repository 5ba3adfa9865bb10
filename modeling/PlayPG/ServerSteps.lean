import PlayPG.Visits

namespace PlayPG.ServerSteps
open IncomingHandler ConnectedHandler Visits

-- The effects that make, move or destroy an owner of a socket.
def moves : Effect → Bool
  | .accepted | .sessionCreated | .mapServerRegistered | .purged => true
  | _ => false

-- A pass may write the socket and the chosen character of a session, nothing else.
structure SameSession (before after : PlayerSession) : Prop where
  pointer : after.pointer = before.pointer
  playerID : after.playerID = before.playerID
  username : after.username = before.username
  socket : after.socket.id = before.socket.id

theorem SameSession.refl (session : PlayerSession) : SameSession session session := ⟨rfl,rfl,rfl,rfl⟩

theorem SameSession.trans (one : SameSession a b) (two : SameSession b c) : SameSession a c :=
  ⟨two.1.trans one.1,two.2.trans one.2,two.3.trans one.3,two.4.trans one.4⟩

def Kept (session : PlayerSession) (visited : Visited) : Prop :=
  (∃ after, visited.session = some after ∧ SameSession session after) ∧ ∀ effect ∈ visited.effects, moves effect = false

theorem characterRequest_kept (world : World) (session : PlayerSession) (io : SessionIO) :
    Kept session (processCharacterRequest world session io) := by
  unfold processCharacterRequest
  dsimp only
  split
  · exact ⟨⟨_,rfl,rfl,rfl,rfl,rfl⟩,by simp [moves]⟩
  · exact ⟨⟨_,rfl,rfl,rfl,rfl,rfl⟩,by simp [moves]⟩

-- How a selection comes out; the socket of the session has seen the read of the identifier.
inductive Selection (env : Env) (world : World) (session : PlayerSession) (io : SessionIO) : Visited → Prop where
  | malformed (short : io.characterID.result ≠ 8) :
      Selection env world session io ⟨some (reply session io),[.sent .malformedPacket io.sendResult]⟩
  | unavailable (whole : io.characterID.result = 8)
      (row : ownedCharacters world session (env.apg.getLong io.characterID.bytes) = [character]) (message : Bytes) :
      Selection env world session io ⟨some (reply session io),
        [.characterSelect (env.apg.getLong io.characterID.bytes),.sent (.noMapServerError message) io.sendResult]⟩
  | instructed (whole : io.characterID.result = 8)
      (row : ownedCharacters world session (env.apg.getLong io.characterID.bytes) = [character])
      (named : world.mapIDToName character.locationID = some locationName)
      (indexed : world.mapNameToConnection locationName = some address)
      (found : world.mapServers.deref address = some server)
      (taken : after = if io.sendResult = 0 then reply session io
        else {reply session io with characterID := env.apg.getLong io.characterID.bytes}) :
      Selection env world session io ⟨some after,[.characterSelect (env.apg.getLong io.characterID.bytes),
        .sent (.mapServerConnectionInstructions ⟨server.friendlyName,server.hostname,server.port⟩) io.sendResult]⟩
  | refused (whole : io.characterID.result = 8)
      (others : ∀ character, ownedCharacters world session (env.apg.getLong io.characterID.bytes) ≠ [character]) :
      Selection env world session io ⟨some {session with socket := session.socket.disconnect},
        [.characterSelect (env.apg.getLong io.characterID.bytes)]⟩

theorem characterSelect_parts (ran : processCharacterSelect env world session io = .ok visited) :
    Selection env world {session with socket := session.socket.raise io.characterIDError} io visited := by
  unfold processCharacterSelect at ran
  dsimp only at ran
  split at ran
  · rename_i short
    cases Except.ok.inj ran
    exact .malformed short
  · rename_i whole
    have whole := not_not.mp whole
    split at ran
    · rename_i character row
      split at ran
      · cases Except.ok.inj ran
        exact .unavailable whole row _
      · rename_i locationName named
        split at ran
        · cases Except.ok.inj ran
          exact .unavailable whole row _
        · rename_i address indexed
          split at ran
          · cases ran
          · rename_i server found
            split at ran
            · rename_i lost
              cases Except.ok.inj ran
              exact .instructed whole row named indexed found (if_pos lost).symm
            · rename_i sent
              cases Except.ok.inj ran
              exact .instructed whole row named indexed found (if_neg sent).symm
    · rename_i others
      cases Except.ok.inj ran
      exact .refused whole others

-- And how a turn of a session without error comes out.
inductive Serving (env : Env) (world : World) (session : PlayerSession) (io : SessionIO) : Visited → Prop where
  | idle (quiet : io.activity = false) : Serving env world session io ⟨some session,[]⟩
  | short (active : io.activity = true) (cut : io.opcode.result ≠ 2) : Serving env world session io
      ⟨some {session with socket := (session.socket.raise io.opcodeError).setError},[.opcodeRead io.opcode.bytes]⟩
  | characters (active : io.activity = true) (two : io.opcode.result = 2)
      (opcode : env.apg.getShort io.opcode.bytes = ClientOpcode.REQUEST_CHARACTERS.code)
      (listed : visited = processCharacterRequest world {session with socket := session.socket.raise io.opcodeError} io) :
      Serving env world session io ⟨visited.session,.opcodeRead io.opcode.bytes :: visited.effects⟩
  | selection (active : io.activity = true) (two : io.opcode.result = 2)
      (opcode : env.apg.getShort io.opcode.bytes = ClientOpcode.CHARACTER_SELECT.code)
      (chose : processCharacterSelect env world {session with socket := session.socket.raise io.opcodeError} io = .ok visited) :
      Serving env world session io ⟨visited.session,.opcodeRead io.opcode.bytes :: visited.effects⟩
  | unknown (active : io.activity = true) (two : io.opcode.result = 2) : Serving env world session io
      ⟨some {session with socket := session.socket.raise io.opcodeError},[.opcodeRead io.opcode.bytes]⟩

theorem serveSession_parts (ran : serveSession env world session io = .ok visited) :
    Serving env world session io visited := by
  unfold serveSession at ran
  dsimp only at ran
  split at ran
  · rename_i quiet
    cases Except.ok.inj ran
    exact .idle (by simpa using quiet)
  · rename_i active
    have active : io.activity = true := by simpa using active
    split at ran
    · rename_i cut
      cases Except.ok.inj ran
      exact .short active cut
    · rename_i two
      have two := not_not.mp two
      split at ran
      · rename_i opcode
        cases Except.ok.inj ran
        exact .characters active two opcode rfl
      · split at ran
        · rename_i opcode
          split at ran
          · cases ran
          · rename_i selected chose
            cases Except.ok.inj ran
            exact .selection active two opcode chose
        · cases Except.ok.inj ran
          exact .unknown active two

theorem characterSelect_kept (ran : processCharacterSelect env world session io = .ok visited) :
    Kept session visited := by
  cases characterSelect_parts ran with
  | malformed | unavailable | refused => exact ⟨⟨_,rfl,rfl,rfl,rfl,rfl⟩,by simp [moves]⟩
  | instructed whole row named indexed found taken =>
    refine ⟨⟨_,rfl,?_⟩,by simp [moves]⟩
    rw [taken]
    split
    · exact ⟨rfl,rfl,rfl,rfl⟩
    · exact ⟨rfl,rfl,rfl,rfl⟩

-- The read of the opcode writes only the socket.
theorem Kept.read {visited : Visited} (kept : Kept {session with socket := session.socket.raise flag} visited) :
    Kept session ⟨visited.session,.opcodeRead bytes :: visited.effects⟩ := by
  obtain ⟨⟨after,same,stays⟩,quiet⟩ := kept
  exact ⟨⟨after,same,stays.pointer,stays.playerID,stays.username,stays.socket⟩,List.forall_mem_cons.mpr ⟨rfl,quiet⟩⟩

theorem serveSession_kept (ran : serveSession env world session io = .ok visited) : Kept session visited := by
  cases serveSession_parts ran with
  | idle => exact ⟨⟨session,rfl,rfl,rfl,rfl,rfl⟩,by simp⟩
  | short | unknown => exact ⟨⟨_,rfl,rfl,rfl,rfl,rfl⟩,by simp [moves]⟩
  | characters active two opcode listed => exact Kept.read (listed ▸ characterRequest_kept world _ io)
  | selection active two opcode chose => exact Kept.read (characterSelect_kept chose)

-- The test at the top of the loop over playerSessions.
def inError (session : PlayerSession) (io : SessionIO) : Bool := (session.socket.raise io.pollError).error

theorem visitSession_turn (ran : visitSession env world session io = .ok (next,visited)) :
    (inError session io = false ∧ next = world ∧
      serveSession env world {session with socket := session.socket.raise io.pollError} io = .ok visited) ∨
    (inError session io = true ∧ visited = ⟨none,[.purged]⟩ ∧
      next = {world with usernameToPlayerSession := world.usernameToPlayerSession.erase session.username}) := by
  unfold visitSession at ran
  dsimp only at ran
  split at ran
  · rename_i lost
    cases Except.ok.inj ran
    exact .inr ⟨lost,rfl,rfl⟩
  · rename_i alive
    split at ran
    · cases ran
    · rename_i result served
      cases Except.ok.inj ran
      exact .inl ⟨by simpa [inError] using alive,rfl,served⟩

theorem visitSession_parts (ran : visitSession env world session io = .ok (next,visited)) :
    (inError session io = false ∧ next = world ∧ Kept session visited) ∨
    (inError session io = true ∧ visited = ⟨none,[.purged]⟩ ∧
      next = {world with usernameToPlayerSession := world.usernameToPlayerSession.erase session.username}) := by
  rcases visitSession_turn ran with ⟨alive,same,served⟩ | lost
  · obtain ⟨⟨after,left,kept⟩,quiet⟩ := serveSession_kept served
    exact .inl ⟨alive,same,⟨after,left,kept.pointer,kept.playerID,kept.username,kept.socket⟩,quiet⟩
  · exact .inr lost

-- A turn does not look at the index.
theorem visitSession_users (users : UnorderedMap Bytes Nat) :
    (visitSession env {world with usernameToPlayerSession := users} session io).map Prod.snd =
      (visitSession env world session io).map Prod.snd := by
  have same : ∀ served, serveSession env {world with usernameToPlayerSession := users} served io =
      serveSession env world served io := fun _ => rfl
  unfold visitSession
  dsimp only
  split
  · rfl
  · rw [same]
    cases serveSession env world {session with socket := session.socket.raise io.pollError} io <;> rfl

-- A change of the world that no turn of a pass looks at.
structure Aside (env : Env) (change : World → World) : Prop where
  served : ∀ world session io, serveSession env (change world) session io = serveSession env world session io
  lost : ∀ world name, {change world with usernameToPlayerSession := (change world).usernameToPlayerSession.erase name} =
    change {world with usernameToPlayerSession := world.usernameToPlayerSession.erase name}

theorem players_aside (env : Env) (players : PlayersTable) : Aside env (fun world => {world with players := players}) :=
  ⟨fun _ _ _ => rfl,fun _ _ => rfl⟩

theorem sessions_aside (env : Env) (sessions : List (Option PlayerSession)) :
    Aside env (fun world => {world with playerSessions := sessions}) :=
  ⟨fun _ _ _ => rfl,fun _ _ => rfl⟩

theorem Aside.visit (aside : Aside env change) : visitSession env (change world) session io =
    (visitSession env world session io).map fun left => (change left.1,left.2) := by
  unfold visitSession
  simp only [aside.served]
  split
  · exact congrArg (fun next => Except.ok (next,_)) (aside.lost world session.username)
  · cases serveSession env world _ io <;> rfl

theorem Aside.visits (aside : Aside env change) : visitSessions env (change world) sessions ios =
    (visitSessions env world sessions ios).map fun left => (change left.1,left.2) := by
  induction sessions generalizing world ios with
  | nil => rfl
  | cons head rest ih =>
    cases head with
    | none => rfl
    | some session =>
      simp only [visitSessions]
      rw [aside.visit]
      cases visitSession env world session (ios.headD SessionIO.quiet) with
      | error fault => rfl
      | ok turn =>
        simp only [Except.map]
        rw [ih]
        cases visitSessions env turn.1 rest ios.tail <;> rfl

def sessionSockets (sessions : List (Option PlayerSession)) : List Nat :=
  sessions.filterMap (Option.map (·.socket.id))

-- What no pass of processConnected writes.
structure Frame (before after : World) : Prop where
  players : after.players = before.players
  characters : after.characters = before.characters
  sessionsCreated : after.sessionsCreated = before.sessionsCreated
  allMaps : after.allMaps = before.allMaps
  mapServers : after.mapServers = before.mapServers
  mapIDToName : after.mapIDToName = before.mapIDToName
  mapNameToConnection : after.mapNameToConnection = before.mapNameToConnection

theorem Frame.refl (world : World) : Frame world world := ⟨rfl,rfl,rfl,rfl,rfl,rfl,rfl⟩

-- The loop of one pass: survivors were there before, and lost sockets are reported.
structure Pass (world : World) (sessions : List (Option PlayerSession)) (next : World)
    (after : List (Option PlayerSession)) (effects : List (Nat × Effect)) : Prop where
  frame : Frame world next
  survivors : ∀ session, some session ∈ after → ∃ before, some before ∈ sessions ∧ SameSession before session
  purges : ∀ id, (sessionSockets after).count id + effects.count (id,.purged) = (sessionSockets sessions).count id
  quiet : ∀ entry ∈ effects, moves entry.2 = true → entry.2 = .purged

theorem tagged_count (effects : List Effect) (key id : Nat) (effect : Effect) :
    (effects.map (Prod.mk key)).count (id,effect) = if id = key then effects.count effect else 0 := by
  induction effects with
  | nil => simp
  | cons head rest ih =>
    rw [List.map_cons,List.count_cons,List.count_cons,ih]
    by_cases same : id = key
    · subst id; simp
    · simp [same,Ne.symm same]

theorem tagged_absent {effects : List Effect} (key id : Nat) (absent : effect ∉ effects) :
    (effects.map (Prod.mk key)).count (id,effect) = 0 := by
  rw [tagged_count,List.count_eq_zero.mpr absent,ite_self]

-- The loop over the rest of the sessions, after a session that stays.
theorem Pass.serve {effects : List Effect} (pass : Pass world rest next tail late) (kept : SameSession session served)
    (quiet : ∀ effect ∈ effects, moves effect = false) : Pass world (some session :: rest) next (some served :: tail)
      (effects.map (Prod.mk session.socket.id) ++ late) := by
  refine ⟨pass.frame,?_,?_,?_⟩
  · intro found member
    rcases List.mem_cons.mp member with first | later
    · obtain rfl := Option.some.inj first
      exact ⟨session,by simp,kept⟩
    · obtain ⟨before,within,kept⟩ := pass.survivors found later
      exact ⟨before,by simp [within],kept⟩
  · intro id
    have rest := pass.purges id
    have unpurged : Effect.purged ∉ effects := fun member => by simpa [moves] using quiet _ member
    have none := tagged_absent session.socket.id id unpurged
    simp only [sessionSockets,List.filterMap_cons,Option.map_some,List.count_append,none,List.count_cons,
      kept.socket] at rest ⊢
    omega
  · intro entry member loud
    rcases List.mem_append.mp member with first | later
    · obtain ⟨effect,within,rfl⟩ := List.mem_map.mp first
      simp [quiet effect within] at loud
    · exact pass.quiet entry later loud

-- And after one that goes, with its name.
theorem Pass.lose (pass : Pass {world with usernameToPlayerSession := users} rest next tail late) :
    Pass world (some session :: rest) next (none :: tail) ((session.socket.id,.purged) :: late) := by
  refine ⟨?_,?_,?_,?_⟩
  · have frame := pass.frame
    exact ⟨frame.1,frame.2,frame.3,frame.4,frame.5,frame.6,frame.7⟩
  · intro found member
    rcases List.mem_cons.mp member with first | later
    · cases first
    · obtain ⟨before,within,kept⟩ := pass.survivors found later
      exact ⟨before,by simp [within],kept⟩
  · intro id
    have rest := pass.purges id
    simp only [sessionSockets,List.filterMap_cons,Option.map_some,Option.map_none,List.count_cons] at rest ⊢
    by_cases same : session.socket.id = id
    · simp [same]; omega
    · simp [same]; omega
  · intro entry member loud
    rcases List.mem_cons.mp member with rfl | later
    · rfl
    · exact pass.quiet entry later loud

-- The loop of a pass: the turn of the first session, and then the rest of them.
theorem visitSessions_cons (ran : visitSessions env world (head :: rest) ios = .ok (next,after,effects)) :
    ∃ session middle visited tail late, head = some session ∧
      visitSession env world session (ios.headD SessionIO.quiet) = .ok (middle,visited) ∧
      visitSessions env middle rest ios.tail = .ok (next,tail,late) ∧ after = visited.session :: tail ∧
      effects = visited.effects.map (Prod.mk session.socket.id) ++ late := by
  cases head with
  | none => cases ran
  | some session =>
    unfold visitSessions at ran
    split at ran
    · cases ran
    · rename_i middle visited turn
      split at ran
      · cases ran
      · rename_i last tail late loop
        cases Except.ok.inj ran
        exact ⟨session,middle,visited,tail,late,rfl,turn,loop,rfl,rfl⟩

-- A pass writes nothing else of the world than the index.
theorem visitSessions_world (ran : visitSessions env world sessions ios = .ok (last,after,effects)) :
    last = {world with usernameToPlayerSession := last.usernameToPlayerSession} ∧ after.length = sessions.length := by
  induction sessions generalizing world ios last after effects with
  | nil =>
    cases Except.ok.inj ran
    exact ⟨rfl,rfl⟩
  | cons head rest ih =>
    obtain ⟨session,middle,visited,tail,late,rfl,turn,loop,rfl,_⟩ := visitSessions_cons ran
    obtain ⟨same,length⟩ := ih loop
    refine ⟨?_,congrArg (· + 1) length⟩
    rcases visitSession_parts turn with ⟨_,rfl,_⟩ | ⟨_,_,rfl⟩
    · exact same
    · exact same

theorem visitSessions_snoc (ran : visitSessions env world sessions ios = .ok (last,after,effects)) (whole : ios.length = sessions.length)
    (turn : visitSession env last session io = .ok (next,visited)) :
    visitSessions env world (sessions ++ [some session]) (ios ++ [io]) =
      .ok (next,after ++ [visited.session],effects ++ visited.effects.map (Prod.mk session.socket.id)) := by
  induction sessions generalizing world ios last after effects with
  | nil =>
    cases Except.ok.inj ran
    obtain rfl := List.eq_nil_of_length_eq_zero whole
    simp [visitSessions,turn]
  | cons head rest ih =>
    obtain ⟨first,middle,served,tail,late,rfl,own,loop,rfl,rfl⟩ := visitSessions_cons ran
    cases ios with
    | nil => simp at whole
    | cons answer ios =>
      simp only [List.tail_cons] at loop
      have onward := ih loop (by simpa using whole) turn
      simp only [List.headD_cons] at own
      simp only [List.cons_append,visitSessions,List.headD_cons,List.tail_cons,own,onward,List.append_assoc]

theorem visitSessions_tags {id : Nat} (ran : visitSessions env world sessions ios = .ok (last,after,effects))
    (member : (id,effect) ∈ effects) : id ∈ sessionSockets sessions := by
  induction sessions generalizing world ios last after effects with
  | nil =>
    cases Except.ok.inj ran
    cases member
  | cons head rest ih =>
    obtain ⟨session,middle,visited,tail,late,rfl,turn,loop,_,rfl⟩ := visitSessions_cons ran
    have listed : sessionSockets (some session :: rest) = session.socket.id :: sessionSockets rest := rfl
    rw [listed]
    rcases List.mem_append.mp member with own | others
    · obtain ⟨_,_,same⟩ := List.mem_map.mp own
      exact List.mem_cons.mpr (.inl (Prod.mk.inj same).1.symm)
    · exact List.mem_cons_of_mem _ (ih loop others)

theorem visitSessions_pass (ran : visitSessions env world sessions ios = .ok (next,after,effects)) :
    Pass world sessions next after effects := by
  induction sessions generalizing world ios next after effects with
  | nil =>
    cases Except.ok.inj ran
    exact ⟨.refl _,by simp,by simp [sessionSockets],by simp⟩
  | cons head rest ih =>
    obtain ⟨session,middle,visited,tail,late,rfl,turn,loop,rfl,rfl⟩ := visitSessions_cons ran
    have pass := ih loop
    rcases visitSession_parts turn with ⟨_,rfl,⟨served,same,kept⟩,quiet⟩ | ⟨_,rfl,rfl⟩
    · rw [same]
      exact pass.serve kept quiet
    · exact pass.lose

theorem sessionSockets_filter (sessions : List (Option PlayerSession)) :
    sessionSockets (sessions.filter Option.isSome) = sessionSockets sessions := by
  induction sessions with
  | nil => rfl
  | cons head rest ih => cases head <;> simp_all [sessionSockets]

-- With or without the clear, the sessions that are still there are kept.
theorem processConnected_parts (ran : processConnected env world ios = .ok (next,effects)) :
    ∃ last sessions, visitSessions env world world.playerSessions ios = .ok (last,sessions,effects) ∧
      next = {last with playerSessions := sessions.filter Option.isSome} := by
  unfold processConnected at ran
  split at ran
  · cases ran
  · rename_i last sessions late loop
    cases Except.ok.inj ran
    refine ⟨last,sessions,loop,?_⟩
    split
    · rfl
    · rename_i whole
      have present : sessions.filter Option.isSome = sessions := by
        apply List.filter_eq_self.mpr
        intro session member
        cases session with
        | none => exact absurd (List.any_eq_true.mpr ⟨none,member,rfl⟩) whole
        | some session => rfl
      rw [present]

theorem processConnected_pass (ran : processConnected env world ios = .ok (next,effects)) :
    Pass world world.playerSessions next next.playerSessions effects := by
  obtain ⟨last,sessions,loop,rfl⟩ := processConnected_parts ran
  have pass := visitSessions_pass loop
  have frame := pass.frame
  refine ⟨?_,?_,?_,pass.quiet⟩
  · exact ⟨frame.1,frame.2,frame.3,frame.4,frame.5,frame.6,frame.7⟩
  · exact fun session member => pass.survivors session (List.mem_filter.mp member).1
  · intro id
    rw [sessionSockets_filter]
    exact pass.purges id

theorem step_incoming_parts (ran : LoginServer.step env s (.incoming index io) = .ok (t,fresh)) :
    (s.incomingConnections[index]? = none ∧ t = s ∧ fresh = []) ∨
    ∃ c handled, s.incomingConnections[index]? = some c ∧ processIncoming env s.toWorld c io = .ok handled ∧
      t = s.store index handled ∧ fresh = handled.effects.map (Prod.mk (LoginServer.connectionId c)) := by
  simp only [LoginServer.step] at ran
  split at ran
  · rename_i missing
    cases Except.ok.inj ran
    exact .inl ⟨missing,rfl,rfl⟩
  · rename_i c present
    split at ran
    · cases ran
    · rename_i handled visited
      cases Except.ok.inj ran
      exact .inr ⟨c,handled,present,visited,rfl,rfl⟩

theorem step_incoming (ran : LoginServer.step env s (.incoming index io) = .ok (t,fresh)) :
    (s.incomingConnections[index]? = none ∧ t = s ∧ fresh = []) ∨
    ∃ c handled, s.incomingConnections[index]? = some c ∧ Visit env s.toWorld io c handled ∧
      t = s.store index handled ∧ fresh = handled.effects.map (Prod.mk (LoginServer.connectionId c)) := by
  rcases step_incoming_parts ran with missing | ⟨c,handled,present,visited,stored,own⟩
  · exact .inl missing
  · exact .inr ⟨c,handled,present,processIncoming_parts visited,stored,own⟩

theorem step_connected_parts (ran : LoginServer.step env s (.connected ios) = .ok (t,fresh)) :
    processConnected env s.toWorld ios = .ok (t.toWorld,fresh) ∧ t.incomingConnections = s.incomingConnections ∧
      t.socketsAccepted = s.socketsAccepted := by
  simp only [LoginServer.step] at ran
  split at ran
  · cases ran
  · rename_i world effects pass
    cases Except.ok.inj ran
    exact ⟨pass,rfl,rfl⟩

theorem step_connected (ran : LoginServer.step env s (.connected ios) = .ok (t,fresh)) :
    Pass s.toWorld s.playerSessions t.toWorld t.playerSessions fresh ∧
      t.incomingConnections = s.incomingConnections ∧ t.socketsAccepted = s.socketsAccepted := by
  obtain ⟨pass,entries,clock⟩ := step_connected_parts ran
  exact ⟨processConnected_pass pass,entries,clock⟩

end PlayPG.ServerSteps
