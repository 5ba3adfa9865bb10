import PlayPG.Network

namespace PlayPG.Network
open Bytes ConnectedHandler ServerSteps SessionIndex CharacterChoice Sockets

theorem turns_sockets (sessions : List (Option PlayerSession)) (ios : List SessionIO) :
    (turns sessions ios).map (·.1.socket.id) = sessionSockets sessions := by
  induction sessions generalizing ios with
  | nil => rfl
  | cons head rest ih =>
    cases head with
    | none => exact ih ios.tail
    | some session => exact congrArg (List.cons session.socket.id) (ih ios.tail)

-- The session of a link hears the link, whatever the others do.
theorem hears_turn (n : Network) (member : (session,io) ∈ turns sessions (n.hears sessions ios))
    (linked : session.socket.id ∈ n.links) : ∃ answer, io = n.heardSession session.socket.id answer := by
  induction sessions generalizing ios with
  | nil => cases member
  | cons head rest ih =>
    cases head with
    | none => exact ih member
    | some first =>
      simp only [hears,turns,List.headD_cons,List.tail_cons,List.mem_cons,Prod.mk.injEq] at member
      rcases member with ⟨rfl,rfl⟩ | later
      · exact ⟨_,if_pos linked⟩
      · exact ih later

theorem effectsOf_other {id : Nat} (effects : List Effect) (differs : other ≠ id) :
    effectsOf id (effects.map (Prod.mk other)) = [] := by
  simp [effectsOf,List.filterMap_map,differs]

theorem effectsOf_visits {visits : List ((PlayerSession × SessionIO) × Visited)}
    (single : (visits.map (·.1.1.socket.id)).Nodup) (member : visit ∈ visits) :
    effectsOf visit.1.1.socket.id (visits.flatMap (fun visit => visit.2.effects.map (Prod.mk visit.1.1.socket.id))) =
      visit.2.effects := by
  induction visits with
  | nil => cases member
  | cons head rest ih =>
    obtain ⟨apart,tail⟩ := List.nodup_cons.mp single
    have split : ∀ id, effectsOf id ((head :: rest).flatMap (fun visit => visit.2.effects.map (Prod.mk visit.1.1.socket.id))) =
        effectsOf id (head.2.effects.map (Prod.mk head.1.1.socket.id)) ++
          effectsOf id (rest.flatMap (fun visit => visit.2.effects.map (Prod.mk visit.1.1.socket.id))) := by
      intro id
      rw [List.flatMap_cons]
      exact List.filterMap_append
    rw [split]
    rcases List.mem_cons.mp member with rfl | later
    · have silent : ∀ other ∈ rest, other.1.1.socket.id ≠ visit.1.1.socket.id :=
        fun other within same => apart (List.mem_map.mpr ⟨other,within,same⟩)
      rw [effectsOf_own]
      refine (congrArg _ ?_).trans (List.append_nil _)
      apply List.filterMap_eq_nil_iff.mpr
      intro entry tagged
      obtain ⟨other,within,carried⟩ := List.mem_flatMap.mp tagged
      obtain ⟨_,_,rfl⟩ := List.mem_map.mp carried
      exact if_neg (silent other within)
    · have differs : head.1.1.socket.id ≠ visit.1.1.socket.id :=
        fun same => apart (List.mem_map.mpr ⟨visit,later,same.symm⟩)
      rw [effectsOf_other _ differs,ih tail later]
      rfl

-- A turn of the session on a link.
structure SessionTurn (env : Env) (n m : Network) (id : Nat) (session : PlayerSession) (fresh : List (Nat × Effect)) (io : SessionIO)
    (visited : Visited) : Prop where
  ran : ∃ users next, visitSession env {n.server.toWorld with usernameToPlayerSession := users} session (n.heardSession id io) =
    .ok (next,visited)
  left : ∀ after, visited.session = some after → after.socket.id = id → Plays m.server id after
  effects : effectsOf id fresh = visited.effects
  up : m.up id = drained (n.up id) visited.effects
  down : m.down id = n.down id ++ packets env.apg visited.effects

structure Apart (n m : Network) (id : Nat) (session : PlayerSession) (fresh : List (Nat × Effect)) : Prop where
  plays : Plays m.server id session
  quiet : ∀ effect, (id,effect) ∈ fresh → effect = .purged
  up : m.up id = n.up id
  down : m.down id = n.down id

theorem connected_plays {id : Nat} (sole : Sole s) (plays : Plays s id session)
    (ran : LoginServer.step env s (.connected ios) = .ok (t,fresh)) :
    ∃ io visited, (session,io) ∈ turns s.playerSessions ios ∧
      (∃ users next, visitSession env {s.toWorld with usernameToPlayerSession := users} session io = .ok (next,visited)) ∧
      (∀ after, visited.session = some after → after.socket.id = id → Plays t id after) ∧ effectsOf id fresh = visited.effects := by
  obtain ⟨visits,served,sessions⟩ := step_served ran
  have sockets : visits.map (·.1.1.socket.id) = sessionSockets s.playerSessions := by
    rw [← turns_sockets _ ios,← served.order,List.map_map]
    rfl
  have named : id ∈ visits.map (·.1.1.socket.id) := by
    rw [sockets]
    exact List.mem_filterMap.mpr ⟨some session,plays.1,congrArg some plays.2⟩
  obtain ⟨⟨⟨own,io⟩,visited⟩,within,rfl⟩ := List.mem_map.mp named
  have turn : (own,io) ∈ turns s.playerSessions ios := served.order ▸ List.mem_map_of_mem within
  obtain rfl : own = session := sole.player ⟨turns_member turn,rfl⟩ plays
  refine ⟨io,visited,turn,served.visited _ within,fun after left same => ⟨?_,same⟩,?_⟩
  · rw [sessions]
    exact List.mem_map_of_mem (List.mem_filterMap.mpr ⟨_,within,left⟩)
  · have single : (visits.map (·.1.1.socket.id)).Nodup := sockets ▸ sole.sessions
    rw [served.effects]
    exact effectsOf_visits single within

-- The other steps keep the sessions, and at most drop connections.
theorem step_plays {id : Nat} (sole : Sole s) (plays : Plays s id session) (other : ∀ ios, event ≠ .connected ios)
    (ran : LoginServer.step env s event = .ok (t,fresh)) :
    Plays t id session ∧ ∀ effect, (id,effect) ∈ fresh → effect = .purged := by
  cases event with
  | connected ios => exact absurd rfl (other ios)
  | accept =>
    have known := sole.known id (List.mem_append_right _ plays.world)
    refine ⟨?_,fun effect member => absurd member (accept_quiet known ran)⟩
    cases Except.ok.inj ran
    exact plays
  | purge =>
    refine ⟨?_,fun effect member => purge_quiet ran member⟩
    cases Except.ok.inj ran
    exact plays
  | database players characters =>
    cases Except.ok.inj ran
    exact ⟨plays,fun effect member => (nomatch member)⟩
  | incoming index io =>
    rcases step_incoming ran with ⟨_,rfl,rfl⟩ | ⟨d,handled,present,visit,rfl,rfl⟩
    · exact ⟨plays,fun effect member => (nomatch member)⟩
    · have here := List.mem_of_getElem? present
      refine ⟨⟨?_,plays.2⟩,fun effect tagged => ?_⟩
      · cases visit with
        | accepted => exact List.mem_append_left _ plays.1
        | _ => exact plays.1
      · have mine := (visit_effect (sole.ready d here) visit tagged).1
        exact absurd plays.world (sole.apart ⟨here,mine⟩)

theorem serve_plays {id : Nat} (sole : Sole n.server) (linked : id ∈ n.links) (plays : Plays n.server id session)
    (ran : serve env n event = .ok (m,fresh)) :
    (∃ io visited, SessionTurn env n m id session fresh io visited) ∨ Apart n m id session fresh := by
  obtain ⟨stepped,absorbed⟩ := serve_parts ran
  by_cases pass : ∃ ios, event = .connected ios
  · obtain ⟨ios,rfl⟩ := pass
    obtain ⟨io,visited,turn,visits,left,effects⟩ := connected_plays sole plays stepped
    obtain ⟨answer,rfl⟩ := hears_turn n turn (plays.2 ▸ linked)
    rw [plays.2] at visits
    refine .inl ⟨answer,visited,visits,left,effects,?_,?_⟩
    · rw [absorbed,← effects]; rfl
    · rw [absorbed,← effects]; rfl
  · have other : ∀ ios, n.wired event ≠ .connected ios := by
      intro ios same
      cases event with
      | connected answers => exact pass ⟨answers,rfl⟩
      | incoming index io =>
        obtain ⟨_,wires⟩ := n.wired_incoming index io
        rw [wires] at same
        cases same
      | accept | purge | database => cases same
    obtain ⟨still,quiet⟩ := step_plays sole plays other stepped
    have silent := effectsOf_quiet quiet
    refine .inr ⟨still,quiet,?_,?_⟩
    · rw [absorbed]
      exact quiet_drained silent _
    · rw [absorbed]
      simp [absorb,quiet_packets env.apg silent]

-- The socket of the session is alive, so its turn gets past the poll.
theorem visit_served {world : World} {n : Network} {id : Nat} (alive : session.socket.error = false)
    (ran : visitSession env world session (n.heardSession id io) = .ok (next,visited)) :
    serveSession env world session (n.heardSession id io) = .ok visited := by
  have calm : session.socket.raise (n.heardSession id io).pollError = session.socket := Socket.raise_false _
  rcases ServerSteps.visitSession_turn ran with ⟨_,_,served⟩ | ⟨lost,_,_⟩
  · rw [calm] at served
    exact served
  · unfold ServerSteps.inError at lost
    rw [calm] at lost
    cases alive.symm.trans lost

theorem idle_serve {world : World} {n : Network} {id : Nat} (idle : (n.heardSession id io).activity = false)
    (ran : serveSession env world session (n.heardSession id io) = .ok visited) : visited = ⟨some session,[]⟩ := by
  simp only [serveSession,idle,Bool.not_false,if_true] at ran
  exact (Except.ok.inj ran).symm

end PlayPG.Network
