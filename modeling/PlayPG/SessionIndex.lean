import PlayPG.LoginOrigins
import PlayPG.Ownership
import PlayPG.Registry

namespace PlayPG.SessionIndex
open Bytes IncomingHandler ConnectedHandler Visits ServerSteps

-- The sessions as items of a registry: a username with a pointer.
def entry (session : PlayerSession) : Bytes × Nat := (session.username,session.pointer)
def entries (sessions : List (Option PlayerSession)) : List (Bytes × Nat) := sessions.filterMap (Option.map entry)

theorem SameSession.entry (same : SameSession before after) : entry after = entry before :=
  Prod.ext same.username same.pointer

theorem entries_mem : (name,pointer) ∈ entries sessions ↔
    ∃ session, some session ∈ sessions ∧ session.username = name ∧ session.pointer = pointer := by
  constructor
  · intro member
    obtain ⟨found,within,same⟩ := List.mem_filterMap.mp member
    cases found with
    | none => cases same
    | some session =>
      obtain ⟨rfl,rfl⟩ := Prod.mk.inj (Option.some.inj same)
      exact ⟨session,within,rfl,rfl⟩
  · rintro ⟨session,within,rfl,rfl⟩
    exact List.mem_filterMap.mpr ⟨some session,within,rfl⟩

theorem entries_filter (sessions : List (Option PlayerSession)) :
    entries (sessions.filter Option.isSome) = entries sessions := by
  induction sessions with
  | nil => rfl
  | cons head rest ih => cases head <;> simp_all [entries]

theorem entries_snoc (added : after = before ++ [some session]) : entries after = entries before ++ [entry session] := by
  rw [added,entries,List.filterMap_append]
  rfl

-- The sessions of a pass, each with what its socket answers at its turn.
def turns : List (Option PlayerSession) → List SessionIO → List (PlayerSession × SessionIO)
  | [],_ => []
  | none :: rest,ios => turns rest ios.tail
  | some session :: rest,ios => (session,ios.headD SessionIO.quiet) :: turns rest ios.tail

-- A pass in which every turn gets through does so as well.
theorem visitSessions_runs (present : none ∉ sessions) (each : ∀ turn ∈ turns sessions ios,
    ∃ visited, (visitSession env world turn.1 turn.2).map Prod.snd = .ok visited) :
    ∃ result, visitSessions env world sessions ios = .ok result := by
  induction sessions generalizing world ios with
  | nil => exact ⟨_,rfl⟩
  | cons head rest ih =>
    obtain ⟨here,later⟩ : head ≠ none ∧ none ∉ rest := by simpa [eq_comm] using present
    cases head with
    | none => exact absurd rfl here
    | some session =>
      obtain ⟨first,others⟩ := List.forall_mem_cons.mp each
      obtain ⟨visited,served⟩ := first
      obtain ⟨⟨middle,own⟩,ran,_⟩ := map_ok served
      have onward : ∀ turn ∈ turns rest ios.tail,
          ∃ visited, (visitSession env middle turn.1 turn.2).map Prod.snd = .ok visited := by
        intro turn member
        rcases visitSession_parts ran with ⟨_,rfl,_⟩ | ⟨_,_,rfl⟩
        · exact others turn member
        · rw [visitSession_users]
          exact others turn member
      obtain ⟨⟨last,left,effects⟩,loop⟩ := ih later onward
      have whole : visitSessions env world (some session :: rest) ios =
          .ok (last,own.session :: left,own.effects.map (Prod.mk session.socket.id) ++ effects) := by
        simp only [visitSessions,ran,loop]
      exact ⟨_,whole⟩

def survivors (sessions : List (Option PlayerSession)) (ios : List SessionIO) : List PlayerSession :=
  ((turns sessions ios).filter (fun turn => !inError turn.1 turn.2)).map Prod.fst

-- The sessions in error at their turn are gone; the others stay, in their order.
def Removes (sessions : List (Option PlayerSession)) (ios : List SessionIO) (after : List (Option PlayerSession)) : Prop :=
  ∃ kept, after = kept.map some ∧ List.Forall₂ SameSession (survivors sessions ios) kept

theorem visitSessions_purge (ran : visitSessions env world sessions ios = .ok (next,after,effects)) :
    Registry.Purge (entries sessions) world.usernameToPlayerSession (entries after) next.usernameToPlayerSession ∧
      ∃ kept, after.filter Option.isSome = kept.map some ∧ List.Forall₂ SameSession (survivors sessions ios) kept := by
  induction sessions generalizing world ios next after effects with
  | nil =>
    cases Except.ok.inj ran
    exact ⟨.nil,[],rfl,.nil⟩
  | cons head rest ih =>
    obtain ⟨session,middle,visited,tail,late,rfl,turn,loop,rfl,rfl⟩ := visitSessions_cons ran
    obtain ⟨purge,kept,left,same⟩ := ih loop
    rcases visitSession_parts turn with ⟨alive,rfl,⟨served,stays,again⟩,_⟩ | ⟨lost,rfl,rfl⟩
    · refine ⟨?_,served :: kept,?_,?_⟩
      · have item : entries (visited.session :: tail) = entry session :: entries tail := by
          rw [stays,← SameSession.entry again]
          rfl
        rw [item]
        exact purge.keep
      · rw [stays,List.map_cons,← left]
        rfl
      · simp only [survivors,turns,List.filter_cons,alive,Bool.not_false,if_true,List.map_cons]
        exact .cons again same
    · refine ⟨purge.lose,kept,left,?_⟩
      simpa only [survivors,turns,List.filter_cons,lost,Bool.not_true,Bool.false_eq_true,if_false] using same

theorem processConnected_purge (ran : processConnected env world ios = .ok (next,effects)) :
    Registry.Purge (entries world.playerSessions) world.usernameToPlayerSession (entries next.playerSessions)
      next.usernameToPlayerSession ∧ Removes world.playerSessions ios next.playerSessions := by
  obtain ⟨last,sessions,loop,rfl⟩ := processConnected_parts ran
  obtain ⟨purge,kept,left,same⟩ := visitSessions_purge loop
  exact ⟨by rwa [entries_filter],kept,left,same⟩

-- The login that a step lets through.
structure Succeeds (env : Env) (s : LoginServer) (index : Nat) (io : SocketIO) (authID : AuthenticationIdentity)
    (person : Player) : Prop where
  connection : ∃ c socket, s.incomingConnections[index]? = some c ∧ Login c ∧ Turn io c socket ∧ ¬ Closes env io c
  identity : Identifies env io authID
  accepts : Accepts env s.players authID person

theorem closes_world (login : Login c) (turn : Turn io c socket) (identity : Identifies env io authID)
    (closes : Closes env io c) (ran : processIncoming env world c io = .ok handled) : handled.world = world := by
  obtain ⟨owned,alive,active⟩ := turn
  unfold polled at alive
  rcases closes with none | ⟨failed,none⟩ | ⟨_,mismatch⟩ | ⟨listing,_⟩
  · rcases login with state | state
    all_goals
      simp [processIncoming,processChallengeSentSocket,processLoginFailedSocket,state,owned,alive,active,none] at ran
      rw [← ran]
  · simp [processIncoming,processLoginFailedSocket,failed,owned,alive,active,none] at ran
    rw [← ran]
  · rw [identity.1] at mismatch; cases mismatch
  · rcases login with login | login <;> cases listing.symm.trans login

theorem attempt_accepted (owned : c.socket = some socket) (accepts : Accepts env world.players authID person) :
    ∃ handled, processLoginAttempt env world c authID io = .ok handled := by
  obtain ⟨row,unlocked,decPass,decrypted,matched⟩ := accepts
  obtain ⟨rest,rows⟩ : ∃ rest, world.players.query authID.username = person :: rest := List.head?_eq_some_iff.mp row
  simp [processLoginAttempt,decrypted,rows,owned,unlocked,matched]

theorem accepted_runs (world : World) (login : Login c) (turn : Turn io c socket) (opened : ¬ Closes env io c)
    (identity : Identifies env io authID) (accepts : Accepts env world.players authID person) :
    ∃ handled, processIncoming env world c io = .ok handled := by
  have attempts : ∃ handled, processLoginAttempt env world {c with socket := some (read socket io)} authID io = .ok handled :=
    attempt_accepted rfl accepts
  obtain ⟨attempted,ran⟩ := attempts
  rw [Decoders.identity_turn world login turn opened identity.1,attemptAuth,identity.2]
  simp only [ran]
  exact ⟨_,rfl⟩

theorem succeeds_step (succeeds : Succeeds env s index io authID person) :
    ∃ t fresh session, LoginServer.step env s (.incoming index io) = .ok (t,fresh) ∧
      t.playerSessions = s.playerSessions ++ [some session] ∧ session.username = authID.username := by
  obtain ⟨⟨c,socket,present,login,turn,opened⟩,identity,accepts⟩ := succeeds
  obtain ⟨handled,ran⟩ := accepted_runs s.toWorld login turn opened identity accepts
  have step : LoginServer.step env s (.incoming index io) =
      .ok (s.store index handled,handled.effects.map (Prod.mk (LoginServer.connectionId c))) := by
    simp only [LoginServer.step,present,ran]
  rcases identity_visit login turn opened identity (processIncoming_parts ran) with
    ⟨refuses,_⟩ | ⟨other,row,locked,_⟩ | ⟨other,_,rfl⟩
  · exact absurd accepts (refuses person)
  · obtain rfl := Option.some.inj (row.symm.trans accepts.1)
    exact absurd locked (by simp [accepts.2.1])
  · exact ⟨_,_,s.newSession env.md5 other authID.username (answered socket io) io.diceRoll,step,rfl,rfl⟩

-- The steps as seen by the index: a login adds a session, a pass purges.
inductive Change (env : Env) (s t : LoginServer) : Event → Prop where
  | same (sessions : t.playerSessions = s.playerSessions) (names : t.usernameToPlayerSession = s.usernameToPlayerSession)
      (created : t.sessionsCreated = s.sessionsCreated) : Change env s t event
  | login (session : PlayerSession) (succeeds : Succeeds env s index io authID person)
      (username : session.username = authID.username) (pointer : session.pointer = s.sessionsCreated)
      (sessions : t.playerSessions = s.playerSessions ++ [some session])
      (names : t.usernameToPlayerSession = Registry.add s.usernameToPlayerSession (entry session))
      (created : t.sessionsCreated = s.sessionsCreated + 1) : Change env s t (.incoming index io)
  | pass (purge : Registry.Purge (entries s.playerSessions) s.usernameToPlayerSession (entries t.playerSessions)
      t.usernameToPlayerSession) (removes : Removes s.playerSessions ios t.playerSessions)
      (created : t.sessionsCreated = s.sessionsCreated) : Change env s t (.connected ios)

theorem step_purge (ran : LoginServer.step env s (.connected ios) = .ok (t,fresh)) :
    Registry.Purge (entries s.playerSessions) s.usernameToPlayerSession (entries t.playerSessions)
      t.usernameToPlayerSession ∧ Removes s.playerSessions ios t.playerSessions :=
  processConnected_purge (step_connected_parts ran).1

theorem step_change (ran : LoginServer.step env s event = .ok (t,fresh)) : Change env s t event := by
  cases event with
  | accept => cases Except.ok.inj ran; exact .same rfl rfl rfl
  | purge => cases Except.ok.inj ran; exact .same rfl rfl rfl
  | database players characters => cases Except.ok.inj ran; exact .same rfl rfl rfl
  | connected ios =>
    obtain ⟨purge,removes⟩ := step_purge ran
    exact .pass purge removes (step_connected ran).1.frame.sessionsCreated
  | incoming index io =>
    rcases step_incoming_parts ran with ⟨_,rfl,_⟩ | ⟨c,handled,present,visited,rfl,_⟩
    · exact .same rfl rfl rfl
    · cases processIncoming_parts visited with
      | @accepted socket authID person login turn identity accepts =>
        have opened : ¬ Closes env io c := by
          intro closes
          have unchanged := congrArg World.sessionsCreated (closes_world login turn identity closes visited)
          simp [World.addSession] at unchanged
        exact .login (s.newSession env.md5 person authID.username (answered socket io) io.diceRoll)
          ⟨⟨c,socket,present,login,turn,opened⟩,identity,accepts⟩ rfl rfl rfl rfl rfl
      | _ => exact .same rfl rfl rfl

-- Every pointer of the index designates a session of its name; pointers are not used twice.
structure Indexed (s : LoginServer) : Prop where
  present : none ∉ s.playerSessions
  pointers : ((entries s.playerSessions).map Prod.snd).Nodup
  created : ∀ item ∈ entries s.playerSessions, item.2 < s.sessionsCreated
  sound : Registry.Sound (entries s.playerSessions) s.usernameToPlayerSession

theorem start_indexed : Indexed (.start players characters allMaps mapIDToName) :=
  ⟨by simp [LoginServer.start],List.nodup_nil,by simp [LoginServer.start,entries],Registry.sound_empty⟩

theorem change_indexed (indexed : Indexed s) (change : Change env s t event) : Indexed t := by
  cases change with
  | same sessions names created => exact ⟨sessions ▸ indexed.present,sessions ▸ indexed.pointers,
      sessions ▸ created ▸ indexed.created,sessions ▸ names ▸ indexed.sound⟩
  | login session succeeds username pointer sessions names created =>
    have items := entries_snoc sessions
    refine ⟨?_,?_,?_,?_⟩
    · simpa [sessions] using indexed.present
    · rw [items,List.map_append]
      refine List.Nodup.append indexed.pointers (List.nodup_singleton _) ?_
      rw [List.map_singleton,List.disjoint_singleton]
      intro used
      obtain ⟨item,member,same⟩ := List.mem_map.mp used
      have bound := indexed.created item member
      rw [same,entry,pointer] at bound
      exact Nat.lt_irrefl _ bound
    · intro item member
      rw [items] at member
      rcases List.mem_append.mp member with old | new
      · exact created ▸ Nat.lt_succ_of_lt (indexed.created item old)
      · obtain rfl := List.mem_singleton.mp new
        simp [entry,pointer,created]
    · rw [items,names]
      exact indexed.sound.add
  | pass purge removes created =>
    refine ⟨?_,?_,?_,purge.sound indexed.sound⟩
    · obtain ⟨kept,same,_⟩ := removes
      simp [same]
    · exact indexed.pointers.sublist (purge.sublist.map Prod.snd)
    · intro item member
      exact created ▸ indexed.created item (purge.sublist.subset member)

theorem run_indexed
    (path : Runs.Run (LoginServer.step env) (.start players characters allMaps mapIDToName) events trace t) : Indexed t :=
  path.invariant (P:=Indexed) start_indexed (fun indexed ran => change_indexed indexed (step_change ran))

-- No pointer of the index dangles, and a pass takes away just the sessions in error.
theorem sessions_indexed
    (path : Runs.Run (LoginServer.step env) (.start players characters allMaps mapIDToName) events trace t) :
    none ∉ t.playerSessions ∧ ((entries t.playerSessions).map Prod.snd).Nodup ∧
    (∀ name pointer, t.usernameToPlayerSession name = some pointer →
      ∃ session, some session ∈ t.playerSessions ∧ session.username = name ∧ session.pointer = pointer) ∧
    ∀ ios next fresh, LoginServer.step env t (.connected ios) = .ok (next,fresh) →
      Removes t.playerSessions ios next.playerSessions := by
  have indexed := run_indexed path
  refine ⟨indexed.present,indexed.pointers,fun name pointer found => ?_,fun ios next fresh ran => ?_⟩
  · exact entries_mem.mp (indexed.sound name pointer found)
  · exact (step_purge ran).2

-- One member logs in on two connections.
def twice : List Event :=
  [.accept,.accept,.incoming 0 (.delivers []),.incoming 1 (.delivers []),
    .incoming 0 (.delivers ((ClientPacket.authenticationIdentity Decoders.credentials).buffer .network)),
    .incoming 1 (.delivers ((ClientPacket.authenticationIdentity Decoders.credentials).buffer .network))]

def gone : List SessionIO := [{ SessionIO.quiet with pollError := true}]

theorem sessions_indexed_twice : ∃ trace t,
    Runs.Run (LoginServer.step (.plain [Decoders.credentials.document])) (.start LoginOrigins.members [] [] .empty)
      twice trace t ∧ (entries t.playerSessions).map Prod.snd = [0,1] ∧
    ∀ next fresh, LoginServer.step (.plain [Decoders.credentials.document]) t (.connected gone) = .ok (next,fresh) →
      Removes t.playerSessions gone next.playerSessions := by
  obtain ⟨trace,t,path,both⟩ := Runs.execute_check (LoginServer.step (.plain [Decoders.credentials.document]))
    (.start LoginOrigins.members [] [] .empty) twice (fun last => (entries last.1.playerSessions).map Prod.snd == [0,1])
    (by decide +kernel)
  exact ⟨trace,t,path,by simpa using both,(sessions_indexed path).2.2.2 gone⟩

-- Each session is found under its username, so no two sessions share one.
structure Findable (s : LoginServer) : Prop where
  found : ∀ session, some session ∈ s.playerSessions →
    s.usernameToPlayerSession session.username = some session.pointer
  single : ((entries s.playerSessions).map Prod.fst).Nodup

-- A login that succeeds is for a username without a session.
def Apart (env : Env) (s : LoginServer) : Event → Prop
  | .incoming index io => ∀ authID person, Succeeds env s index io authID person →
      ∀ session, some session ∈ s.playerSessions → session.username ≠ authID.username
  | _ => True

theorem findable_iff (indexed : Indexed s) :
    Findable s ↔ Registry.Complete (entries s.playerSessions) s.usernameToPlayerSession := by
  constructor
  · intro findable item member
    obtain ⟨session,within,name,pointer⟩ := entries_mem.mp member
    rw [← name,← pointer]
    exact findable.found session within
  · intro complete
    refine ⟨fun session within => ?_,complete.keys indexed.pointers⟩
    exact complete (entry session) (entries_mem.mpr ⟨session,within,rfl,rfl⟩)

theorem change_complete (indexed : Indexed s) (change : Change env s t event) (apart : Apart env s event)
    (complete : Registry.Complete (entries s.playerSessions) s.usernameToPlayerSession) :
    Registry.Complete (entries t.playerSessions) t.usernameToPlayerSession := by
  cases change with
  | same sessions names created => rwa [sessions,names]
  | login session succeeds username pointer sessions names created =>
    have items := entries_snoc sessions
    have absent : s.usernameToPlayerSession session.username = none := by
      apply indexed.sound.absent
      intro item member
      obtain ⟨other,within,name,_⟩ := entries_mem.mp member
      rw [← name,username]
      exact apart _ _ succeeds other within
    rw [items,names]
    exact complete.add absent
  | pass purge removes created => exact purge.complete complete (complete.keys indexed.pointers)

theorem findable_apart
    (findable : Runs.StatesMeet (LoginServer.step env) (.start players characters allMaps mapIDToName) events Findable) :
    Runs.StepsMeet (LoginServer.step env) (.start players characters allMaps mapIDToName) events (Apart env) := by
  rintro before event after rfl trace middle path
  cases event with
  | incoming index io =>
    intro authID person succeeds session within same
    obtain ⟨next,fresh,added,ran,sessions,username⟩ := succeeds_step succeeds
    have single := (findable (before ++ [.incoming index io]) after (by simp) _ next (.snoc path ran)).single
    rw [entries_snoc sessions,List.map_append,List.nodup_append] at single
    refine single.2.2 session.username ?_ added.username ?_ (same.trans username.symm)
    · exact List.mem_map_of_mem (entries_mem.mpr ⟨session,within,rfl,rfl⟩)
    · exact List.mem_singleton_self _
  | accept | purge | connected | database => trivial

-- emplace keeps the entry of the first session, and a purge goes by the username.
theorem sessions_found :
    Runs.StatesMeet (LoginServer.step env) (.start players characters allMaps mapIDToName) events Findable ↔
      Runs.StepsMeet (LoginServer.step env) (.start players characters allMaps mapIDToName) events (Apart env) := by
  refine ⟨findable_apart,fun apart => ?_⟩
  have both := Runs.Run.guarded_states (P:=fun s => Indexed s ∧ Findable s) apart
    ⟨start_indexed,by simp [LoginServer.start],by simp [LoginServer.start,entries]⟩ (fun valid apart ran => by
      have change := step_change ran
      have indexed := change_indexed valid.1 change
      exact ⟨indexed,(findable_iff indexed).mpr
        (change_complete valid.1 change apart ((findable_iff valid.1).mp valid.2))⟩)
  exact fun before after whole trace middle path => (both before after whole trace middle path).2

-- The first of the two sessions is lost, and the entry of both goes with it.
theorem sessions_found_twice : ∃ trace t,
    Runs.Run (LoginServer.step (.plain [Decoders.credentials.document])) (.start LoginOrigins.members [] [] .empty)
      (twice ++ [.connected gone]) trace t ∧
    (entries t.playerSessions = [(Decoders.credentials.username,1)] ∧
      t.usernameToPlayerSession Decoders.credentials.username = none) ∧ ¬ Findable t := by
  obtain ⟨trace,t,path,left⟩ := Runs.execute_check (LoginServer.step (.plain [Decoders.credentials.document]))
    (.start LoginOrigins.members [] [] .empty) (twice ++ [.connected gone])
    (fun last => decide (entries last.1.playerSessions = [(Decoders.credentials.username,1)] ∧
      last.1.usernameToPlayerSession Decoders.credentials.username = none)) (by decide +kernel)
  obtain ⟨items,none⟩ := of_decide_eq_true left
  refine ⟨trace,t,path,⟨items,none⟩,fun findable => ?_⟩
  have complete := (findable_iff (run_indexed path)).mp findable
  have found := complete (Decoders.credentials.username,1) (by simp [items])
  cases none.symm.trans found

end PlayPG.SessionIndex
