import PlayPG.MapAssignment
import PlayPG.SessionIndex

namespace PlayPG.CharacterChoice
open Bytes ConnectedHandler ServerSteps SessionIndex

-- The connection instructions that a send did not lose.
def delivered (effects : List Effect) : List MapServerConnectionInstructions :=
  effects.filterMap (fun effect => match effect with
    | .sent (.mapServerConnectionInstructions instructions) result => if result = 0 then none else some instructions
    | _ => none)

-- What has to hold for a selection, up to the send.
structure Allowed (env : Env) (world : World) (session : PlayerSession) (io : SessionIO) (character : Character)
    (server : MapServerConnection) : Prop where
  whole : io.characterID.result = 8
  row : ownedCharacters world session (env.apg.getLong io.characterID.bytes) = [character]
  served : ∃ locationName address, world.mapIDToName character.locationID = some locationName ∧
    world.mapNameToConnection locationName = some address ∧ world.mapServers.deref address = some server
  sent : io.sendResult ≠ 0

theorem Allowed.owned (allowed : Allowed env world session io character server) :
    character ∈ world.characters ∧ character.playerID = session.playerID ∧
      character.id = env.apg.getLong io.characterID.bytes := by
  have member : character ∈ ownedCharacters world session (env.apg.getLong io.characterID.bytes) := by
    rw [allowed.row]
    exact List.mem_singleton_self _
  obtain ⟨within,both⟩ := List.mem_filter.mp member
  simp only [Bool.and_eq_true,beq_iff_eq] at both
  exact ⟨within,both.1,both.2⟩

def Asked (env : Env) (io : SessionIO) : Prop :=
  io.activity = true ∧ io.opcode.result = 2 ∧ env.apg.getShort io.opcode.bytes = ClientOpcode.CHARACTER_SELECT.code

instance (env : Env) (io : SessionIO) : Decidable (Asked env io) := by
  unfold Asked
  infer_instance

-- The stored pointer to the map server of the character, if the selection gets as far as that.
def pointer (env : Env) (world : World) (session : PlayerSession) (io : SessionIO) : Option StdVector.Address :=
  match ownedCharacters world session (env.apg.getLong io.characterID.bytes) with
  | [character] => (world.mapIDToName character.locationID).bind world.mapNameToConnection
  | _ => none

-- A selection that follows its pointer to where the map server no longer is.
def Misses (env : Env) (world : World) (session : PlayerSession) (io : SessionIO) : Prop :=
  io.characterID.result = 8 ∧ ∃ address ∈ pointer env world session io, world.mapServers.deref address = none

def Dangles (env : Env) (world : World) (session : PlayerSession) (io : SessionIO) : Prop :=
  inError session io = false ∧ Asked env io ∧ Misses env world session io

instance (env : Env) (world : World) (session : PlayerSession) (io : SessionIO) : Decidable (Dangles env world session io) := by
  unfold Dangles Misses
  infer_instance

-- No selection of a pass comes to a pointer that dangles.
def Points (env : Env) (s : LoginServer) : Event → Prop
  | .connected ios => ∀ turn ∈ turns s.playerSessions ios, ¬ Dangles env s.toWorld turn.1 turn.2
  | _ => True

instance (env : Env) (s : LoginServer) : (event : Event) → Decidable (Points env s event)
  | .connected ios => inferInstanceAs (Decidable (∀ turn ∈ turns s.playerSessions ios, ¬ Dangles env s.toWorld turn.1 turn.2))
  | .accept | .incoming _ _ | .purge | .database _ _ => instDecidableTrue

-- A session after a turn: it went, it got the character that it asked for, or it kept its own.
inductive Outcome (env : Env) (world : World) (session : PlayerSession) (io : SessionIO) : Visited → Prop where
  | gone (silent : delivered effects = []) : Outcome env world session io ⟨none,effects⟩
  | chose (asked : Asked env io) (allowed : Allowed env world session io character server) (same : SameSession session after)
      (chosen : after.characterID = character.id)
      (instructed : delivered effects = [⟨server.friendlyName,server.hostname,server.port⟩]) :
      Outcome env world session io ⟨some after,effects⟩
  | kept (same : SameSession session after) (unchanged : after.characterID = session.characterID)
      (silent : delivered effects = []) : Outcome env world session io ⟨some after,effects⟩

theorem characterSelect_outcome (asked : Asked env io) (ran : processCharacterSelect env world session io = .ok visited) :
    Outcome env world session io visited := by
  cases characterSelect_parts ran with
  | malformed | unavailable | refused => exact .kept ⟨rfl,rfl,rfl,rfl⟩ rfl rfl
  | @instructed character locationName address server after whole row named indexed found taken =>
    by_cases lost : io.sendResult = 0
    · rw [taken,if_pos lost]
      exact .kept ⟨rfl,rfl,rfl,rfl⟩ rfl (by simp [delivered,lost])
    · rw [taken,if_neg lost]
      have allowed : Allowed env world session io character server :=
        ⟨whole,row,⟨locationName,address,named,indexed,found⟩,lost⟩
      exact .chose asked allowed ⟨rfl,rfl,rfl,rfl⟩ allowed.owned.2.2.symm (by simp [delivered,lost])

theorem delivered_append (early late : List Effect) : delivered (early ++ late) = delivered early ++ delivered late :=
  List.filterMap_append

-- The poll and the opcode write only the socket of the session, and tell it nothing.
theorem Outcome.after (outcome : Outcome env world {session with socket := session.socket.raise flag} io visited)
    (silent : delivered early = []) : Outcome env world session io ⟨visited.session,early ++ visited.effects⟩ := by
  cases outcome with
  | gone quiet => exact .gone (by rw [delivered_append,silent,quiet]; rfl)
  | chose asked allowed same chosen instructed =>
    exact .chose asked ⟨allowed.whole,allowed.row,allowed.served,allowed.sent⟩
      ⟨same.pointer,same.playerID,same.username,same.socket⟩ chosen (by rw [delivered_append,silent,instructed]; rfl)
  | kept same unchanged quiet =>
    exact .kept ⟨same.pointer,same.playerID,same.username,same.socket⟩ unchanged
      (by rw [delivered_append,silent,quiet]; rfl)

theorem serveSession_outcome (ran : serveSession env world session io = .ok visited) :
    Outcome env world session io visited := by
  cases serveSession_parts ran with
  | idle => exact .kept (.refl session) rfl rfl
  | short | unknown => exact .kept ⟨rfl,rfl,rfl,rfl⟩ rfl rfl
  | characters active two opcode listed =>
    rw [listed]
    unfold processCharacterRequest
    dsimp only
    split
    · exact .kept ⟨rfl,rfl,rfl,rfl⟩ rfl rfl
    · exact .kept ⟨rfl,rfl,rfl,rfl⟩ rfl rfl
  | selection active two opcode chose =>
    have outcome : Outcome env world session io ⟨_,[.opcodeRead io.opcode.bytes] ++ _⟩ :=
      (characterSelect_outcome ⟨active,two,opcode⟩ chose).after rfl
    exact outcome

theorem visitSession_outcome (ran : visitSession env world session io = .ok (next,visited)) :
    Outcome env world session io visited := by
  rcases visitSession_turn ran with ⟨_,_,served⟩ | ⟨_,rfl,_⟩
  · have outcome : Outcome env world session io ⟨visited.session,[] ++ visited.effects⟩ :=
      (serveSession_outcome served).after rfl
    exact outcome
  · exact .gone rfl

-- One pass, turn by turn; of the world only the index has changed when a turn comes.
structure Served (env : Env) (world : World) (sessions : List (Option PlayerSession)) (ios : List SessionIO)
    (visits : List ((PlayerSession × SessionIO) × Visited)) (effects : List (Nat × Effect)) : Prop where
  order : visits.map Prod.fst = turns sessions ios
  visited : ∀ visit ∈ visits, ∃ users next,
    visitSession env {world with usernameToPlayerSession := users} visit.1.1 visit.1.2 = .ok (next,visit.2)
  effects : effects = visits.flatMap (fun visit => visit.2.effects.map (Prod.mk visit.1.1.socket.id))

theorem visitSessions_served (ran : visitSessions env world sessions ios = .ok (next,after,effects)) :
    ∃ visits, Served env world sessions ios visits effects ∧ after = visits.map (·.2.session) := by
  induction sessions generalizing world ios next after effects with
  | nil =>
    cases Except.ok.inj ran
    exact ⟨[],⟨rfl,by simp,rfl⟩,rfl⟩
  | cons head rest ih =>
    obtain ⟨session,middle,visited,tail,late,rfl,turn,loop,rfl,rfl⟩ := visitSessions_cons ran
    obtain ⟨visits,later,left⟩ := ih loop
    refine ⟨((session,ios.headD SessionIO.quiet),visited) :: visits,⟨?_,?_,?_⟩,by simp [left]⟩
    · simp [turns,later.order]
    · intro visit member
      rcases List.mem_cons.mp member with rfl | old
      · exact ⟨world.usernameToPlayerSession,middle,turn⟩
      · obtain ⟨users,next,onward⟩ := later.visited visit old
        rcases visitSession_parts turn with ⟨_,rfl,_⟩ | ⟨_,_,rfl⟩
        · exact ⟨users,next,onward⟩
        · exact ⟨users,next,onward⟩
    · simp [later.effects]

theorem present_sessions (visits : List ((PlayerSession × SessionIO) × Visited)) :
    (visits.map (·.2.session)).filter Option.isSome = (visits.filterMap (·.2.session)).map some := by
  induction visits with
  | nil => rfl
  | cons head rest ih =>
    obtain ⟨_,session,_⟩ := head
    cases session <;> simp [ih]

theorem step_served (ran : LoginServer.step env s (.connected ios) = .ok (t,fresh)) :
    ∃ visits, Served env s.toWorld s.playerSessions ios visits fresh ∧
      t.playerSessions = (visits.filterMap (·.2.session)).map some := by
  obtain ⟨last,sessions,loop,same⟩ := processConnected_parts (step_connected_parts ran).1
  obtain ⟨visits,served,rfl⟩ := visitSessions_served loop
  refine ⟨visits,served,?_⟩
  rw [same]
  exact present_sessions visits

-- A session that is there after a pass had a turn that left it.
theorem left_turn {visits : List ((PlayerSession × SessionIO) × Visited)} (order : visits.map Prod.fst = turns before ios)
    (sessions : after = (visits.filterMap (·.2.session)).map some) (member : some session ∈ after) :
    ∃ early io visited, ((early,io),visited) ∈ visits ∧ (early,io) ∈ turns before ios ∧ visited.session = some session := by
  rw [sessions] at member
  obtain ⟨found,within,same⟩ := List.mem_map.mp member
  obtain rfl := Option.some.inj same
  obtain ⟨⟨⟨early,io⟩,visited⟩,visit,left⟩ := List.mem_filterMap.mp within
  exact ⟨early,io,visited,visit,order ▸ List.mem_map_of_mem visit,left⟩

-- What the turns of a pass do; the members that a selection looks at stay as they are.
structure Turns (env : Env) (world : World) (sessions : List (Option PlayerSession)) (ios : List SessionIO)
    (visits : List ((PlayerSession × SessionIO) × Visited)) (effects : List (Nat × Effect)) : Prop where
  order : visits.map Prod.fst = turns sessions ios
  outcomes : ∀ visit ∈ visits, Outcome env world visit.1.1 visit.1.2 visit.2
  effects : effects = visits.flatMap (fun visit => visit.2.effects.map (Prod.mk visit.1.1.socket.id))

theorem Outcome.users {users : UnorderedMap Bytes Nat} (outcome : Outcome env {world with usernameToPlayerSession := users} session io visited) :
    Outcome env world session io visited := by
  cases outcome with
  | gone quiet => exact .gone quiet
  | chose asked allowed same chosen instructed =>
    exact .chose asked ⟨allowed.whole,allowed.row,allowed.served,allowed.sent⟩ same chosen instructed
  | kept same unchanged quiet => exact .kept same unchanged quiet

theorem Served.turns (served : Served env world sessions ios visits fresh) : Turns env world sessions ios visits fresh := by
  refine ⟨served.order,fun visit member => ?_,served.effects⟩
  obtain ⟨users,next,turn⟩ := served.visited visit member
  exact (visitSession_outcome turn).users

theorem step_turns (ran : LoginServer.step env s (.connected ios) = .ok (t,fresh)) :
    ∃ visits, Turns env s.toWorld s.playerSessions ios visits fresh ∧
      t.playerSessions = (visits.filterMap (·.2.session)).map some := by
  obtain ⟨visits,served,sessions⟩ := step_served ran
  exact ⟨visits,served.turns,sessions⟩

theorem select_runs : (∃ visited, processCharacterSelect env world session io = .ok visited) ↔
    ¬ Misses env world session io := by
  have same : ownedCharacters world {session with socket := session.socket.raise io.characterIDError} =
      ownedCharacters world session := rfl
  unfold processCharacterSelect Misses pointer
  dsimp only
  rw [same]
  split
  · rename_i short
    exact ⟨fun _ misses => short misses.1,fun _ => ⟨_,rfl⟩⟩
  · rename_i whole
    have whole := not_not.mp whole
    cases ownedCharacters world session (env.apg.getLong io.characterID.bytes) with
    | nil => exact ⟨fun _ misses => by simp at misses,fun _ => ⟨_,rfl⟩⟩
    | cons character others =>
      cases others with
      | cons second rest => exact ⟨fun _ misses => by simp at misses,fun _ => ⟨_,rfl⟩⟩
      | nil =>
        dsimp only
        cases named : world.mapIDToName character.locationID with
        | none => simp
        | some locationName =>
          cases indexed : world.mapNameToConnection locationName with
          | none => simp [indexed]
          | some address =>
            cases found : world.mapServers.deref address with
            | none => simp [whole,indexed,found]
            | some server =>
              refine ⟨fun _ misses => ?_,fun _ => ?_⟩
              · simp [indexed,found] at misses
              · simp only [indexed,found]
                split
                · exact ⟨_,rfl⟩
                · exact ⟨_,rfl⟩

theorem serve_runs : (∃ visited, serveSession env world session io = .ok visited) ↔
    ¬ (Asked env io ∧ Misses env world session io) := by
  unfold serveSession
  dsimp only
  split
  · rename_i quiet
    exact ⟨fun _ dangles => by simp [dangles.1.1] at quiet,fun _ => ⟨_,rfl⟩⟩
  · rename_i active
    split
    · rename_i cut
      exact ⟨fun _ dangles => cut dangles.1.2.1,fun _ => ⟨_,rfl⟩⟩
    · rename_i two
      split
      · rename_i opcode
        refine ⟨fun _ dangles => ?_,fun _ => ⟨_,rfl⟩⟩
        have select := dangles.1.2.2
        simp [opcode,ClientOpcode.code] at select
      · split
        · rename_i opcode
          have asked : Asked env io := ⟨by simpa using active,not_not.mp two,opcode⟩
          have selection := @select_runs env world {session with socket := session.socket.raise io.opcodeError} io
          have same : Misses env world {session with socket := session.socket.raise io.opcodeError} io =
              Misses env world session io := rfl
          rw [same] at selection
          refine Iff.trans ⟨?_,?_⟩ (selection.trans (not_congr (and_iff_right asked).symm))
          · rintro ⟨visited,ran⟩
            split at ran
            · cases ran
            · exact ⟨_,by assumption⟩
          · rintro ⟨visited,ran⟩
            rw [ran]
            exact ⟨_,rfl⟩
        · rename_i other
          exact ⟨fun _ dangles => other dangles.1.2.2,fun _ => ⟨_,rfl⟩⟩

theorem visit_runs : (∃ visited, (visitSession env world session io).map Prod.snd = .ok visited) ↔
    ¬ Dangles env world session io := by
  have serving := @serve_runs env world {session with socket := session.socket.raise io.pollError} io
  unfold visitSession Dangles inError
  dsimp only
  split
  · rename_i lost
    exact ⟨fun _ dangles => by simp [lost] at dangles,fun _ => ⟨_,rfl⟩⟩
  · rename_i alive
    refine Iff.trans ⟨?_,?_⟩ (serving.trans (not_congr (and_iff_right (by simpa using alive)).symm))
    · rintro ⟨visited,ran⟩
      split at ran
      · cases ran
      · exact ⟨_,by assumption⟩
    · rintro ⟨visited,ran⟩
      rw [ran]
      exact ⟨_,rfl⟩

-- A pass gets through exactly when no selection in it comes to a pointer that dangles.
theorem step_runs (present : none ∉ s.playerSessions) :
    (∃ next fresh, LoginServer.step env s (.connected ios) = .ok (next,fresh)) ↔ Points env s (.connected ios) := by
  constructor
  · rintro ⟨next,fresh,ran⟩ turn member
    obtain ⟨visits,served,_⟩ := step_served ran
    obtain ⟨visit,within,rfl⟩ := List.mem_map.mp (served.order ▸ member)
    obtain ⟨users,last,visiting⟩ := served.visited visit within
    apply visit_runs.mp
    rw [← visitSession_users users,visiting]
    exact ⟨_,rfl⟩
  · intro points
    obtain ⟨⟨last,sessions,effects⟩,loop⟩ := visitSessions_runs present (fun turn member => visit_runs.mpr (points turn member))
    simp only [LoginServer.step,processConnected,loop]
    exact ⟨_,_,rfl⟩

-- No other step touches the character of a session; a login starts without one.
theorem step_untouched (other : ∀ ios, event ≠ .connected ios) (ran : LoginServer.step env s event = .ok (t,fresh))
    (member : some session ∈ t.playerSessions) : some session ∈ s.playerSessions ∨ session.characterID = 0 := by
  rcases LoginOrigins.step_added other ran member with old | ⟨_,_,_,_,_,_,_,rfl⟩
  · exact .inl old
  · exact .inr rfl

theorem turns_member (member : (session,io) ∈ turns sessions ios) : some session ∈ sessions := by
  induction sessions generalizing ios with
  | nil => cases member
  | cons head rest ih =>
    cases head with
    | none => exact List.mem_cons_of_mem _ (ih member)
    | some first =>
      rcases List.mem_cons.mp member with same | later
      · cases same
        exact List.mem_cons_self ..
      · exact List.mem_cons_of_mem _ (ih later)

-- A session from its login on: what the login establishes and its turns keep is so in every state.
theorem run_sessions {P : List Event → PlayerSession → Prop}
    (login : ∀ {events trace middle index io next fresh authID person socket session},
      Runs.Run (LoginServer.step env) (.start players characters allMaps mapIDToName) events trace middle →
      LoginServer.step env middle (.incoming index io) = .ok (next,fresh) →
      LoginOrigins.LoggedIn env middle next fresh index io authID person session →
      session = middle.newSession env.md5 person authID.username socket io.diceRoll →
      P (events ++ [.incoming index io]) session)
    (stays : ∀ {events session} event, P events session → P (events ++ [event]) session)
    (turn : ∀ {events trace middle ios before io users last visited session},
      Runs.Run (LoginServer.step env) (.start players characters allMaps mapIDToName) events trace middle →
      (before,io) ∈ turns middle.playerSessions ios →
      visitSession env {middle.toWorld with usernameToPlayerSession := users} before io = .ok (last,visited) →
      visited.session = some session → P events before → P (events ++ [.connected ios]) session)
    (path : Runs.Run (LoginServer.step env) (.start players characters allMaps mapIDToName) events trace t)
    (member : some session ∈ t.playerSessions) : P events session := by
  induction path generalizing session with
  | nil => cases member
  | @snoc events trace middle event next fresh prior ran ih =>
    by_cases pass : ∃ ios, event = .connected ios
    · obtain ⟨ios,rfl⟩ := pass
      obtain ⟨visits,served,sessions⟩ := step_served ran
      obtain ⟨before,io,visited,visit,listed,left⟩ := left_turn served.order sessions member
      obtain ⟨users,last,visiting⟩ := served.visited _ visit
      exact turn prior listed visiting left (ih (turns_member listed))
    · rcases LoginOrigins.step_added (fun ios same => pass ⟨ios,same⟩) ran member with
        old | ⟨index,io,authID,person,socket,rfl,logged,new⟩
      · exact stays event (ih old)
      · exact login prior ran logged new

-- The selection that gave a session its character, in the state of that moment.
def Chosen (env : Env) (start : LoginServer) (events : List Event) (session : PlayerSession) : Prop :=
  ∃ before ios after early middle chooser io character server,
    events = before ++ .connected ios :: after ∧ Runs.Run (LoginServer.step env) start before early middle ∧
      (chooser,io) ∈ turns middle.playerSessions ios ∧ SameSession chooser session ∧ Asked env io ∧
      Allowed env middle.toWorld chooser io character server ∧ character ∈ middle.characters ∧
      character.playerID = session.playerID ∧ character.id = session.characterID

theorem Chosen.extend (chosen : Chosen env start events before) (same : SameSession before session)
    (unchanged : session.characterID = before.characterID) (event : Event) :
    Chosen env start (events ++ [event]) session := by
  obtain ⟨prior,ios,after,early,middle,chooser,io,character,server,rfl,path,turn,own,asked,allowed,row,player,id⟩ := chosen
  exact ⟨prior,ios,after ++ [event],early,middle,chooser,io,character,server,by simp,path,turn,own.trans same,asked,allowed,
    row,player.trans same.playerID.symm,id.trans unchanged.symm⟩

theorem run_chosen
    (path : Runs.Run (LoginServer.step env) (.start players characters allMaps mapIDToName) events trace t)
    (member : some session ∈ t.playerSessions) (nonzero : session.characterID ≠ 0) :
    Chosen env (.start players characters allMaps mapIDToName) events session := by
  refine run_sessions (P:=fun events session => session.characterID ≠ 0 → Chosen env _ events session) ?_ ?_ ?_ path member nonzero
  · rintro events trace middle index io next fresh authID person socket session prior ran login rfl nonzero
    exact absurd rfl nonzero
  · intro events session event chosen nonzero
    exact (chosen nonzero).extend (.refl session) rfl event
  · intro events trace middle ios before io users last visited session prior turn visit left chosen nonzero
    cases (visitSession_outcome visit).users with
    | gone silent => cases left
    | chose asked allowed kept chosen instructed =>
      obtain rfl := Option.some.inj left
      obtain ⟨row,player,_⟩ := allowed.owned
      exact ⟨events,ios,[],trace,middle,before,io,_,_,rfl,prior,turn,kept,asked,allowed,row,
        player.trans kept.playerID.symm,chosen.symm⟩
    | kept kept unchanged silent =>
      obtain rfl := Option.some.inj left
      exact (chosen (unchanged ▸ nonzero)).extend kept unchanged _

-- What a step does with the characters of the sessions: in a pass every turn has its outcome.
def Chooses (env : Env) (s : LoginServer) : Event → Prop
  | .connected ios => ∃ next fresh visits, LoginServer.step env s (.connected ios) = .ok (next,fresh) ∧
      Turns env s.toWorld s.playerSessions ios visits fresh ∧ next.playerSessions = (visits.filterMap (·.2.session)).map some
  | event => ∀ next fresh, LoginServer.step env s event = .ok (next,fresh) →
      ∀ session, some session ∈ next.playerSessions → some session ∈ s.playerSessions ∨ session.characterID = 0

theorem step_chooses (present : none ∉ s.playerSessions) : Chooses env s event ↔ Points env s event := by
  cases event with
  | connected ios =>
    rw [← step_runs present]
    constructor
    · rintro ⟨next,fresh,_,ran,_⟩
      exact ⟨next,fresh,ran⟩
    · rintro ⟨next,fresh,ran⟩
      obtain ⟨visits,turned,sessions⟩ := step_turns ran
      exact ⟨next,fresh,visits,ran,turned,sessions⟩
  | accept | incoming | purge | database =>
    refine ⟨fun _ => trivial,fun _ next fresh ran session member => ?_⟩
    exact step_untouched (by simp) ran member

-- Every pass of a run does what the selections ask for, and a session has only a character that it chose.
def Selects (env : Env) (start : LoginServer) (events : List Event) : Prop :=
  Runs.StepsMeet (LoginServer.step env) start events (Chooses env) ∧
    ∀ before after trace t, events = before ++ after → Runs.Run (LoginServer.step env) start before trace t →
      ∀ session, some session ∈ t.playerSessions → session.characterID ≠ 0 → Chosen env start before session

-- A session gets a character that is its player's, on a map with a server, of whose address it was told,
-- as long as no selection follows a pointer that dangles.
theorem character_choice : Selects env (.start players characters allMaps mapIDToName) events ↔
    Runs.StepsMeet (LoginServer.step env) (.start players characters allMaps mapIDToName) events (Points env) := by
  constructor
  · rintro ⟨met,_⟩ before event after whole trace middle path
    exact (step_chooses (Ownership.run_accounted path).present).mp (met before event after whole trace middle path)
  · intro met
    refine ⟨?_,fun before after trace t whole path session member nonzero => run_chosen path member nonzero⟩
    intro before event after whole trace middle path
    exact (step_chooses (Ownership.run_accounted path).present).mpr (met before event after whole trace middle path)

-- A map server registers, a member logs in and picks the character that stands on its map.
def hero : Character := ⟨9,7,text "Ann",1,3,9,9,1,1⟩

def playing : Env := .plain [MapServerMapList.document [MapAssignment.town],Decoders.credentials.document]

def pick : SessionIO := { SessionIO.quiet with
  activity := true
  opcode := .ofBytes (putBig 2 ClientOpcode.CHARACTER_SELECT.code.toNat)
  characterID := .ofBytes (putBig 8 9)
  sendResult := 1}

def picking : List Event :=
  [.accept,.accept] ++ MapAssignment.listing 0 ++ [MapAssignment.acknowledgement 0,.incoming 1 (.delivers []),
    .incoming 1 (.delivers ((ClientPacket.authenticationIdentity Decoders.credentials).buffer .network)),.connected [pick]]

def world : LoginServer := .start LoginOrigins.members [hero] [MapAssignment.town]
  (UnorderedMap.empty.emplace hero.locationID MapAssignment.town.locationName)

theorem character_choice_hero : ∃ trace t, Runs.Run (LoginServer.step playing) world picking trace t ∧
    ∃ session, some session ∈ t.playerSessions ∧ session.characterID = 9 ∧ Chosen playing world picking session := by
  obtain ⟨trace,t,path,picked⟩ := Runs.execute_check (LoginServer.step playing) world picking
    (fun last => last.1.playerSessions.map (Option.map (·.characterID)) == [some 9]) (by decide +kernel)
  have picked : t.playerSessions.map (Option.map (·.characterID)) = [some 9] := by simpa using picked
  obtain ⟨found,within,same⟩ := List.mem_map.mp (picked ▸ List.mem_singleton_self (some (9 : UInt64)))
  obtain ⟨session,rfl,id⟩ := Option.map_eq_some_iff.mp same
  have selects : Selects playing world picking := character_choice.mpr (Runs.checkSteps_meet (by decide +kernel))
  exact ⟨trace,t,path,session,within,id,selects.2 picking [] trace t (by simp) path session within (by rw [id]; decide)⟩

-- Two map servers for her map: the second one outgrows the vector, and her selection follows the old pointer.
def crowding : List Event := [.accept,.accept,.accept] ++ MapAssignment.listing 0 ++ MapAssignment.listing 1 ++
  [MapAssignment.acknowledgement 0,MapAssignment.acknowledgement 1,.incoming 2 (.delivers []),
    .incoming 2 (.delivers ((ClientPacket.authenticationIdentity Decoders.credentials).buffer .network))]

def strands (s : LoginServer) : Bool :=
  match LoginServer.step playing s (.connected [pick]) with
  | .error fault => fault == .danglingPointer
  | .ok _ => false

theorem character_choice_crowded : (∃ trace t, Runs.Run (LoginServer.step playing) world crowding trace t ∧
    LoginServer.step playing t (.connected [pick]) = .error .danglingPointer) ∧
    ¬ Selects playing world (crowding ++ [.connected [pick]]) := by
  obtain ⟨trace,t,path,stranded⟩ := Runs.execute_check (LoginServer.step playing) world crowding
    (fun last => strands last.1) (by decide +kernel)
  have faults : LoginServer.step playing t (.connected [pick]) = .error .danglingPointer := by
    unfold strands at stranded
    split at stranded
    · rename_i fault ran
      rw [ran,beq_iff_eq.mp stranded]
    · cases stranded
  refine ⟨⟨trace,t,path,faults⟩,fun selects => ?_⟩
  obtain ⟨next,fresh,visits,ran,_⟩ := selects.1 crowding (.connected [pick]) [] rfl trace t path
  rw [faults] at ran
  cases ran

end PlayPG.CharacterChoice
