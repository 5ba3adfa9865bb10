import PlayPG.LoginAttempts
import PlayPG.Sockets

-- A session leaves the list by the error flag of its socket, so a socket that the
-- server disconnects has to have it; which turns of a pass disconnect without it.
namespace PlayPG.DisconnectedSessions
open Bytes IncomingHandler ConnectedHandler Visits ServerSteps SessionIndex

def Marked (session : PlayerSession) : Prop := session.socket.connected = false → session.socket.error = true

-- The next pass takes the session out of the list and its name out of the index.
structure Leaves (env : Env) (s : LoginServer) (session : PlayerSession) : Prop where
  marked : session.socket.error = true
  sessions : ∀ ios next fresh, LoginServer.step env s (.connected ios) = .ok (next,fresh) →
    ∀ other, some other ∈ next.playerSessions → other.pointer ≠ session.pointer
  names : ∀ ios next fresh, LoginServer.step env s (.connected ios) = .ok (next,fresh) →
    next.usernameToPlayerSession session.username = none

def Retired (env : Env) (s : LoginServer) : Prop :=
  ∀ session, some session ∈ s.playerSessions → session.socket.connected = false → Leaves env s session

-- A select of a character that is not the player's, read without an error on the way.
def Orphans (env : Env) (world : World) (session : PlayerSession) (io : SessionIO) : Prop :=
  inError session io = false ∧ CharacterChoice.Asked env io ∧ io.opcodeError = false ∧
    io.characterID.result = 8 ∧ io.characterIDError = false ∧
    (ownedCharacters world session (env.apg.getLong io.characterID.bytes)).length ≠ 1

instance (env : Env) (world : World) (session : PlayerSession) (io : SessionIO) :
    Decidable (Orphans env world session io) := by
  unfold Orphans CharacterChoice.Asked
  infer_instance

def Spares (env : Env) (s : LoginServer) : Event → Prop
  | .connected ios => ∀ turn ∈ turns s.playerSessions ios, ¬Orphans env s.toWorld turn.1 turn.2
  | _ => True

instance (env : Env) (s : LoginServer) : (event : Event) → Decidable (Spares env s event)
  | .connected ios =>
    inferInstanceAs (Decidable (∀ turn ∈ turns s.playerSessions ios, ¬Orphans env s.toWorld turn.1 turn.2))
  | .accept | .incoming _ _ | .purge | .database _ _ => instDecidableTrue

theorem orphans_world (same : next.characters = world.characters) :
    Orphans env next session io ↔ Orphans env world session io := by
  unfold Orphans ownedCharacters
  rw [same]

theorem marked_connected (connected : session.socket.connected = true) : Marked session := by
  intro cut
  cases connected.symm.trans cut

theorem request_marked (left : (processCharacterRequest world session io).session = some after)
    (linked : session.socket.connected = true) : Marked after := by
  unfold processCharacterRequest at left
  dsimp only at left
  split at left
  · cases left
    intro _
    rfl
  · cases left
    exact marked_connected linked

theorem select_marked (ran : processCharacterSelect env world session io = .ok visited)
    (left : visited.session = some after) (linked : session.socket.connected = true) :
    Marked after ∨ (after.socket.error = (session.socket.error || io.characterIDError) ∧ io.characterID.result = 8 ∧
      ∀ character, ownedCharacters world session (env.apg.getLong io.characterID.bytes) ≠ [character]) := by
  cases characterSelect_parts ran with
  | malformed | unavailable =>
    cases left
    exact .inl (marked_connected linked)
  | instructed whole row named indexed found taken =>
    cases left
    refine .inl (marked_connected ?_)
    rw [taken]
    split
    · exact linked
    · exact linked
  | refused whole others =>
    cases left
    exact .inr ⟨rfl,whole,others⟩

-- What a turn leaves behind is marked, unless it was a select of that kind.
theorem turn_marked (alive : inError session io = false) (marked : Marked session)
    (ran : serveSession env world {session with socket := session.socket.raise io.pollError} io = .ok visited)
    (left : visited.session = some after) (spared : ¬Orphans env world session io) : Marked after := by
  have linked : session.socket.connected = true := by
    cases connected : session.socket.connected with
    | true => rfl
    | false =>
      have raised : inError session io = true := by simp [inError,Socket.raise,marked connected]
      rw [alive] at raised
      cases raised
  cases serveSession_parts ran with
  | idle | short | unknown =>
    cases left
    exact marked_connected linked
  | characters active two opcode listed =>
    rw [listed] at left
    exact request_marked left linked
  | selection active two opcode chose =>
    rcases select_marked chose left linked with marked | ⟨raised,whole,others⟩
    · exact marked
    · intro _
      by_contra unraised
      have quiet : inError session io = false ∧ io.opcodeError = false ∧ io.characterIDError = false := by
        rw [raised] at unraised
        simpa [inError,Socket.raise,and_assoc] using unraised
      apply spared
      refine ⟨alive,⟨active,two,opcode⟩,quiet.2.1,whole,quiet.2.2,?_⟩
      intro single
      obtain ⟨character,row⟩ := List.length_eq_one_iff.mp single
      exact others character row

theorem orphan_left (orphans : Orphans env world session io)
    (ran : serveSession env world {session with socket := session.socket.raise io.pollError} io = .ok visited) :
    ∃ after, visited.session = some after ∧ ¬Marked after := by
  obtain ⟨alive,⟨active,two,opcode⟩,quiet,whole,still,others⟩ := orphans
  have notRequest : ClientOpcode.CHARACTER_SELECT.code ≠ ClientOpcode.REQUEST_CHARACTERS.code := by decide
  have refusal : ∀ character,
      ownedCharacters world session (env.apg.getLong io.characterID.bytes) ≠ [character] := by
    intro character row
    exact others (by rw [row]; rfl)
  have unmarked : ∀ socket : Socket, socket.error = false →
      ¬Marked {session with socket := socket.disconnect} := by
    intro socket clear marked
    have raised : socket.error = true := marked rfl
    rw [clear] at raised
    cases raised
  have clear : (((session.socket.raise io.pollError).raise io.opcodeError).raise io.characterIDError).error = false := by
    unfold inError at alive
    simp [Socket.raise,quiet,still] at alive ⊢
    exact alive
  simp only [serveSession,active,two,opcode,notRequest,Bool.not_true,Bool.false_eq_true,if_false,if_true,
    ne_eq,not_true_eq_false] at ran
  split at ran
  · cases ran
  · rename_i selected chose
    cases ran
    cases characterSelect_parts chose with
    | malformed short => exact absurd whole short
    | unavailable whole row message => exact absurd row (refusal _)
    | instructed whole row named indexed found taken => exact absurd row (refusal _)
    | refused whole others => exact ⟨_,rfl,unmarked _ clear⟩

theorem turn_exact (alive : inError session io = false) (marked : Marked session)
    (ran : serveSession env world {session with socket := session.socket.raise io.pollError} io = .ok visited)
    (left : visited.session = some after) : Marked after ↔ ¬Orphans env world session io := by
  constructor
  · intro good orphans
    obtain ⟨other,same,bad⟩ := orphan_left orphans ran
    cases left.symm.trans same
    exact bad good
  · intro spared
    exact turn_marked alive marked ran left spared

theorem forall_turns {P : PlayerSession × SessionIO → Prop} : (∀ turn ∈ turns (some session :: rest) ios, P turn) ↔
    P (session,ios.headD SessionIO.quiet) ∧ ∀ turn ∈ turns rest ios.tail, P turn := List.forall_mem_cons

-- One pass from marked sessions leaves marked sessions exactly if it spares all of them.
theorem visitSessions_marked (ran : visitSessions env world sessions ios = .ok (next,after,effects))
    (marked : ∀ session, some session ∈ sessions → Marked session) :
    (∀ session, some session ∈ after → Marked session) ↔
      ∀ turn ∈ turns sessions ios, ¬Orphans env world turn.1 turn.2 := by
  induction sessions generalizing world ios next after effects with
  | nil =>
    cases Except.ok.inj ran
    simp [turns]
  | cons head rest ih =>
    obtain ⟨session,middle,visited,tail,late,rfl,turn,loop,rfl,rfl⟩ := visitSessions_cons ran
    have later := ih loop fun other member => marked other (List.mem_cons_of_mem _ member)
    rcases visitSession_turn turn with ⟨alive,rfl,served⟩ | ⟨lost,rfl,rfl⟩
    · obtain ⟨⟨kept,left,_⟩,_⟩ := serveSession_kept served
      have here := turn_exact alive (marked session List.mem_cons_self) served left
      rw [left,forall_turns,← here,← later]
      constructor
      · intro marked
        exact ⟨marked kept List.mem_cons_self,fun other member => marked other (List.mem_cons_of_mem _ member)⟩
      · intro both other member
        obtain ⟨first,others⟩ := both
        rcases List.mem_cons.mp member with same | member
        · cases same
          exact first
        · exact others other member
    · have passed : ¬Orphans env world session (ios.headD SessionIO.quiet) := by
        intro orphans
        rw [orphans.1] at lost
        cases lost
      have others : (∀ other, some other ∈ none :: tail → Marked other) ↔ ∀ other, some other ∈ tail → Marked other := by
        simp
      rw [forall_turns,others,later]
      constructor
      · intro spared
        exact ⟨passed,fun turn member => (not_congr (orphans_world rfl)).mp (spared turn member)⟩
      · intro spared turn member
        exact (not_congr (orphans_world rfl)).mpr (spared.2 turn member)

-- A connection that is not done has not been disconnected by the server.
def Linked (c : IncomingConnection) : Prop :=
  c.state ≠ .DONE → ∀ socket, c.socket = some socket → socket.connected = true

theorem Linked.keeps {next : IncomingConnection} (linked : Linked c) (live : c.state ≠ .DONE)
    (owned : c.socket = some socket) (stored : next.socket = some after) (same : after.connected = socket.connected) :
    Linked next := by
  intro _ other held
  rw [stored] at held
  cases held
  rw [same]
  exact linked live socket owned

theorem visit_linked (linked : Linked c) (visit : Visit env world io c handled) : Linked handled.connection := by
  have finishes : ∀ next : IncomingConnection, next.state = .DONE → Linked next := fun next done live => absurd done live
  cases visit with
  | done finished => exact linked
  | dropped live owned failed => exact finishes _ rfl
  | greeted fresh owned alive => exact linked.keeps (by simp [fresh]) owned rfl rfl
  | quiet live met owned idle => exact linked.keeps live owned rfl rfl
  | closed live turn closes => exact finishes _ rfl
  | unexpected login turn other => exact linked.keeps (LoginAttempts.login_live login) turn.owned rfl rfl
  | refused login turn identity refuses unlocked => exact linked.keeps (LoginAttempts.login_live login) turn.owned rfl rfl
  | locked login turn identity row locked => exact finishes _ rfl
  | accepted login turn identity accepts => exact finishes _ rfl
  | registering challenged turn request reached got => exact linked.keeps (by simp [challenged]) turn.owned rfl rfl
  | unanswered challenged turn request lost => exact linked.keeps (by simp [challenged]) turn.owned rfl rfl
  | notNeeded listing turn opcode decoded none got => exact finishes _ rfl
  | listed listing turn opcode decoded some got => exact linked.keeps (by simp [listing]) turn.owned rfl rfl
  | registered waiting turn got maps name port address => exact finishes _ rfl

theorem run_linked
    (path : Runs.Run (LoginServer.step env) (.start players characters allMaps mapIDToName) events trace t) :
    ∀ c ∈ t.incomingConnections, Linked c := by
  refine path.invariant (P:=fun s => ∀ c ∈ s.incomingConnections, Linked c) (by simp [LoginServer.start]) ?_
  intro s event next fresh linked ran c member
  rcases Connections.step_entries ran member with rfl | old | ⟨before,io,effects,within,turned,_⟩
  · intro _ socket owned
    cases owned
    rfl
  · exact linked c old
  · obtain ⟨handled,visit,rfl,_⟩ := Connections.turn_visit turned
    exact visit_linked (linked before within) visit

-- Only a pass can leave a session that is not marked.
theorem incoming_marked (linked : ∀ c ∈ s.incomingConnections, Linked c)
    (marked : ∀ session, some session ∈ s.playerSessions → Marked session)
    (ran : LoginServer.step env s (.incoming index io) = .ok (t,fresh)) :
    ∀ session, some session ∈ t.playerSessions → Marked session := by
  rcases step_incoming ran with ⟨_,rfl,_⟩ | ⟨c,handled,present,visit,rfl,_⟩
  · exact marked
  · cases visit with
    | @accepted socket authID person login turn identity accepts =>
      intro session member
      rcases List.mem_append.mp member with old | new
      · exact marked session old
      · cases List.mem_singleton.mp new
        apply marked_connected
        exact linked c (List.mem_of_getElem? present) (LoginAttempts.login_live login) socket turn.owned
    | _ => exact marked

theorem step_marked (linked : ∀ c ∈ s.incomingConnections, Linked c)
    (marked : ∀ session, some session ∈ s.playerSessions → Marked session)
    (ran : LoginServer.step env s event = .ok (t,fresh)) :
    (∀ session, some session ∈ t.playerSessions → Marked session) ↔ Spares env s event := by
  cases event with
  | accept | purge | database =>
    cases Except.ok.inj ran
    exact ⟨fun _ => trivial,fun _ => marked⟩
  | incoming index io => exact ⟨fun _ => trivial,fun _ => incoming_marked linked marked ran⟩
  | connected ios =>
    obtain ⟨last,sessions,loop,stored⟩ := processConnected_parts (step_connected_parts ran).1
    have same : t.playerSessions = sessions.filter Option.isSome := congrArg World.playerSessions stored
    have members : (∀ session, some session ∈ t.playerSessions → Marked session) ↔
        ∀ session, some session ∈ sessions → Marked session := by
      simp [same]
    rw [members]
    exact visitSessions_marked loop marked

theorem related_left {xs : List α} {ys : List β} (all : List.Forall₂ R xs ys) (member : y ∈ ys) : ∃ x ∈ xs, R x y := by
  induction all with
  | nil => cases member
  | cons first rest ih =>
    rcases List.mem_cons.mp member with rfl | later
    · exact ⟨_,List.mem_cons_self,first⟩
    · obtain ⟨x,within,related⟩ := ih later
      exact ⟨x,List.mem_cons_of_mem _ within,related⟩

theorem same_pointer (indexed : Indexed s) (one : some session ∈ s.playerSessions) (two : some other ∈ s.playerSessions)
    (same : session.pointer = other.pointer) : session = other := by
  have keys : (entries s.playerSessions).map Prod.snd = s.playerSessions.filterMap (Option.map (·.pointer)) := by
    rw [entries,List.map_filterMap]
    congr 1
    funext found
    cases found <;> rfl
  have distinct := indexed.pointers
  rw [keys] at distinct
  exact Option.some.inj (Sockets.filterMap_single distinct one two rfl (congrArg some same.symm))

-- A session in error is gone after the next pass, and so is its name.
theorem error_leaves (indexed : Indexed s) (member : some session ∈ s.playerSessions)
    (error : session.socket.error = true) : Leaves env s session := by
  have gone : ∀ ios next fresh, LoginServer.step env s (.connected ios) = .ok (next,fresh) →
      ∀ other, some other ∈ next.playerSessions → other.pointer ≠ session.pointer := by
    intro ios next fresh ran other within same
    obtain ⟨kept,stored,survived⟩ := (step_purge ran).2
    rw [stored] at within
    obtain ⟨found,keeps,equal⟩ := List.mem_map.mp within
    cases equal
    obtain ⟨before,survivor,stays⟩ := related_left survived keeps
    obtain ⟨⟨turned,io⟩,listed,rfl⟩ := List.mem_map.mp survivor
    obtain ⟨turn,alive⟩ := List.mem_filter.mp listed
    have own := same_pointer indexed (CharacterChoice.turns_member turn) member (stays.pointer.symm.trans same)
    rw [own] at alive
    simp [inError,Socket.raise,error] at alive
  refine ⟨error,gone,?_⟩
  intro ios next fresh ran
  obtain ⟨purge,_⟩ := step_purge ran
  have listed : entry session ∈ entries s.playerSessions := entries_mem.mpr ⟨session,member,rfl,rfl⟩
  apply purge.removed listed
  intro stays
  obtain ⟨other,within,_,same⟩ := entries_mem.mp stays
  exact gone ios next fresh ran other within same

theorem retired_marked (indexed : Indexed s) :
    Retired env s ↔ ∀ session, some session ∈ s.playerSessions → Marked session := by
  constructor
  · intro retired session member cut
    exact (retired session member cut).marked
  · intro marked session member cut
    exact error_leaves indexed member (marked session member cut)

theorem disconnected_retired
    (path : Runs.Run (LoginServer.step env) (.start players characters allMaps mapIDToName) events trace t) :
    Runs.StatesMeet (LoginServer.step env) (.start players characters allMaps mapIDToName) events (Retired env) ↔
      Runs.StepsMeet (LoginServer.step env) (.start players characters allMaps mapIDToName) events (Spares env) := by
  refine path.states_steps (by simp [Retired,LoginServer.start]) ?_
  intro before early middle event next fresh reached retired ran
  rw [retired_marked (run_indexed (reached.snoc ran))]
  exact step_marked (run_linked reached) ((retired_marked (run_indexed reached)).mp retired) ran

theorem disconnected_retired_hero :
    Runs.StatesMeet (LoginServer.step CharacterChoice.playing) CharacterChoice.world CharacterChoice.picking
      (Retired CharacterChoice.playing) := by
  obtain ⟨trace,t,path,_⟩ := Runs.execute_check (LoginServer.step CharacterChoice.playing) CharacterChoice.world
    CharacterChoice.picking (fun _ => true) (by decide +kernel)
  exact (disconnected_retired path).mpr (Runs.checkSteps_meet (by decide +kernel))

-- A member asks for a character of somebody else, and after the disconnect is served again.
def steal : SessionIO := {CharacterChoice.pick with characterID := .ofBytes (putBig 8 10)}

def stealing : List Event := CharacterChoice.picking.dropLast ++ [.connected [steal],.connected [steal]]

theorem disconnected_retired_steal : ∃ trace t,
    Runs.Run (LoginServer.step CharacterChoice.playing) CharacterChoice.world stealing trace t ∧
    (t.playerSessions.map (Option.map (·.socket)) = [some ⟨1,false,false⟩] ∧ trace.count (1,.characterSelect 10) = 2) ∧
    ¬Runs.StatesMeet (LoginServer.step CharacterChoice.playing) CharacterChoice.world stealing
      (Retired CharacterChoice.playing) := by
  obtain ⟨trace,t,path,left⟩ := Runs.execute_check (LoginServer.step CharacterChoice.playing) CharacterChoice.world
    stealing (fun last => decide (last.1.playerSessions.map (Option.map (·.socket)) = [some ⟨1,false,false⟩] ∧
      last.2.count (1,.characterSelect 10) = 2)) (by decide +kernel)
  have left := of_decide_eq_true left
  refine ⟨trace,t,path,left,?_⟩
  intro retired
  have member : some (⟨1,false,false⟩ : Socket) ∈ t.playerSessions.map (Option.map (·.socket)) := by simp [left.1]
  obtain ⟨found,within,same⟩ := List.mem_map.mp member
  obtain ⟨session,rfl,socket⟩ := Option.map_eq_some_iff.mp same
  have leaves := retired stealing [] (by simp) trace t path session within (by rw [socket])
  have error := leaves.marked
  rw [socket] at error
  cases error

end PlayPG.DisconnectedSessions
