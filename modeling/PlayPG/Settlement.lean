import PlayPG.LifeCycle

-- How long a connection can go on before its socket is settled.
namespace PlayPG.Settlement
open Bytes IncomingHandler Visits Connections Seclusion Isolation LifeCycle

-- The packets that a phase may still read before the socket is settled.
def budget : Phase → Nat
  | .unknown | .greeting | .challenged => 3
  | .retrying failures => (3 - failures).toNat
  | .listing => 2
  | .acknowledging _ => 1
  | .finished | .member _ _ | .mapServer _ | .gone => 0

def isReceived : Effect → Bool
  | .received _ => true
  | _ => false

-- The answer to a registration that the server could not send, after which it waits for another.
def isUnanswered : Effect → Bool
  | .sent (.mapServerRegistrationResponse _) result => decide (result ≤ 0)
  | _ => false

-- Three failures end a connection.
def Counted (p : Phase) : Prop := ∀ failures, p.failures = some failures → failures + 1 ≤ 3

theorem talks_counted (counted : Counted p) (talks : Talks env p label q) : Counted q := by
  intro failures trying
  cases talks with
  | idle => exact counted failures trying
  | failed _ _ left =>
    split_ifs at left with last
    · rw [left] at trying
      cases trying
    · obtain ⟨early,rfl⟩ := left
      cases Option.some.inj trying
      omega
  | greeted left =>
    rcases left with rfl | rfl
    · cases Option.some.inj trying
      decide
    · cases trying
  | unanswered lost => exact counted failures trying
  | _ => cases trying

theorem hears_budget (hears : p.Hears) (counted : Counted p) : 1 ≤ budget p := by
  cases p with
  | retrying failures =>
    have bound := counted failures rfl
    simp only [budget]
    omega
  | challenged | listing | acknowledging => simp [budget]
  | unknown | greeting | finished | member | mapServer | gone => cases hears

theorem trying_budget (trying : p.failures = some failures) : budget p = (3 - failures).toNat := by
  cases p with
  | challenged | retrying =>
    cases Option.some.inj trying
    rfl
  | unknown | greeting | listing | acknowledging | finished | member | mapServer | gone => cases trying

theorem failed_budget (counted : Counted p) (trying : p.failures = some failures)
    (left : if failures + 1 = 3 then q = .finished else failures + 1 < 3 ∧ q = .retrying (failures + 1)) :
    1 + budget q ≤ budget p := by
  have bound := counted failures trying
  rw [trying_budget trying]
  split_ifs at left with last
  · rw [left]
    change 1 + 0 ≤ _
    omega
  · obtain ⟨early,rfl⟩ := left
    change 1 + (3 - (failures + 1)).toNat ≤ _
    omega

theorem talks_budget (counted : Counted p) (talks : Talks env p label q) :
    label.countP isReceived + budget q ≤ budget p + label.countP isUnanswered := by
  cases talks with
  | greeted left =>
    rcases left with rfl | rfl
    · exact Nat.le_refl 3
    · exact Nat.zero_le 3
  | dropped waits => exact Nat.zero_le _
  | closed hears => exact hears_budget hears counted
  | failed trying attempt left =>
    have spent := failed_budget counted trying left
    rcases attempt with rfl | ⟨authID,rfl⟩
    · exact spent
    · exact spent
  | locked trying =>
    have bound := counted _ trying
    rw [trying_budget trying]
    change 1 + 0 ≤ _ + 0
    omega
  | loggedIn trying =>
    have bound := counted _ trying
    rw [trying_budget trying]
    change 1 + 0 ≤ _ + 0
    omega
  | unanswered lost => simp [List.countP_cons,isReceived,isUnanswered,budget,lost]
  | idle | accepted | registering | notNeeded | listed | registered | purged | heard | characters | malformed | unavailable
    | instructed | refused | lost => simp [List.countP_cons,isReceived,isUnanswered,budget]

def unchallenged : Phase → Nat
  | .unknown | .greeting => 1
  | _ => 0

def isChallenge : Effect → Bool
  | .sent (.authenticationChallenge _) _ => true
  | _ => false

theorem talks_challenge (talks : Talks env p label q) :
    label.countP isChallenge + unchallenged q ≤ unchallenged p + label.countP (fun _ => false) := by
  cases talks with
  | greeted left =>
    rcases left with rfl | rfl
    · exact Nat.le_refl 1
    · exact Nat.le_refl 1
  | failed trying attempt left =>
    have same : unchallenged q = 0 := by
      split_ifs at left with last
      · rw [left]
        rfl
      · rw [left.2]
        rfl
    rcases attempt with rfl | ⟨authID,rfl⟩
    · simp [isChallenge,same]
    · simp [isChallenge,same]
  | _ => simp [isChallenge,unchallenged]

-- One challenge is sent to a socket, and at most three packets are read from it before it is settled,
-- with one more for each answer to a registration that was lost.
theorem packets_bounded
    (path : Runs.Run (LoginServer.step env) (.start players characters allMaps mapIDToName) events trace t) (id : Nat) :
    (trace.filterMap (tagged id)).countP isChallenge ≤ 1 ∧
    (trace.filterMap (tagged id)).countP isReceived + budget (phase (peer t id)) ≤
      3 + (trace.filterMap (tagged id)).countP isUnanswered := by
  have walk := run_talks path id
  have counted : Counted .unknown := fun _ trying => by cases trying
  obtain ⟨_,received⟩ := walk.balance counted talks_counted talks_budget
  obtain ⟨_,challenged⟩ := walk.balance (I:=fun _ => True) trivial (fun _ _ => trivial) (fun _ talks => talks_challenge talks)
  refine ⟨?_,received⟩
  simp [unchallenged] at challenged
  omega

-- The map server of that run is settled with its third packet.
theorem packets_bounded_hero : ∃ trace t,
    Runs.Run (LoginServer.step CharacterChoice.playing) CharacterChoice.world CharacterChoice.picking trace t ∧
    (trace.filterMap (tagged 0)).countP isReceived = 3 ∧ budget (phase (peer t 0)) = 0 ∧
    (trace.filterMap (tagged 0)).countP isReceived + budget (phase (peer t 0)) ≤
      3 + (trace.filterMap (tagged 0)).countP isUnanswered := by
  obtain ⟨trace,t,path,left⟩ := Runs.execute_check (LoginServer.step CharacterChoice.playing) CharacterChoice.world
    CharacterChoice.picking (fun last => decide ((last.2.filterMap (tagged 0)).countP isReceived = 3 ∧
      budget (phase (peer last.1 0)) = 0)) (by decide +kernel)
  obtain ⟨three,settled⟩ := of_decide_eq_true left
  exact ⟨trace,t,path,three,settled,(packets_bounded path 0).2⟩

-- A turn at which the peer has sent something and takes what is sent to it.
def attentive : Concern → Bool
  | .turn _ io => io.activity && decide (0 < io.sendResult)
  | _ => false

-- The attentive turns that are left until the socket is settled.
def patience (p : Phase) : Nat := budget p + unchallenged p

theorem open_budget (waits : p.Open) (counted : Counted p) : 1 ≤ patience p := by
  unfold patience
  cases p with
  | greeting => exact Nat.le_add_left 1 3
  | retrying failures =>
    have bound := hears_budget (p:=.retrying failures) trivial counted
    omega
  | challenged | listing | acknowledging =>
    simp only [budget]
    omega
  | unknown | finished | member | mapServer | gone => cases waits

theorem talks_patience (counted : Counted p) (talks : Talks env p label q) : patience q ≤ patience p := by
  have spent := talks_budget counted talks
  have greeted := talks_challenge talks
  have answered : label.countP isUnanswered ≤ label.countP isReceived := by
    cases talks with
    | failed trying attempt left => rcases attempt with rfl | ⟨authID,rfl⟩ <;> simp [isUnanswered]
    | unanswered lost => simp [List.countP_cons,isReceived,isUnanswered,lost]
    | registering reached => simp [List.countP_cons,isReceived,isUnanswered,Int.not_le.mpr reached]
    | _ => simp [List.countP_cons,isReceived,isUnanswered]
  unfold patience
  simp at greeted
  omega

-- What an attentive turn leaves open has come a step nearer to its end.
theorem attentive_talks (active : io.activity = true) (sent : 0 < io.sendResult)
    (visit : Visit env world io c handled) (met : c.state ≠ .FRESH) (waits : (connecting handled.connection).Open) :
    1 ≤ handled.effects.countP isReceived ∧ handled.effects.countP isUnanswered = 0 := by
  cases visit with
  | done finished => simp [connecting,finished,Phase.Open] at waits
  | dropped live owned failed => cases waits
  | greeted fresh owned alive => exact absurd fresh met
  | quiet live _ owned idle => rw [active] at idle; cases idle
  | closed live turn closes => cases waits
  | locked login turn identity row locked => cases waits
  | accepted login turn identity accepts => cases waits
  | notNeeded listing turn opcode decoded none got => cases waits
  | registered waiting turn got maps name port address => cases waits
  | unanswered challenged turn request lost => omega
  | unexpected | refused | registering | listed =>
    have reached : ¬ io.sendResult ≤ 0 := by omega
    simp [failureResponse,isReceived,isUnanswered,reached]

theorem counted_connecting (counting : Counting c) : Counted (connecting c) := by
  intro failures trying
  unfold connecting at trying
  cases state : c.state with
  | CHALLENGE_SENT =>
    simp only [state,Phase.failures,Option.some.injEq] at trying
    omega
  | LOGIN_FAILED =>
    obtain ⟨_,bound⟩ := counting.failures (.inr state)
    simp only [state,Phase.failures,Option.some.injEq] at trying
    omega
  | FRESH | MAP_LIST | MAP_WAIT_ACK | DONE => simp [state,Phase.failures] at trying

theorem valid_counted (valid : Valid who) : Counted (phase who) := by
  cases who with
  | connecting c => exact counted_connecting valid
  | unknown | playing | serving | gone =>
    intro failures trying
    cases trying

theorem successor_open (waits : (phase (successor world handled)).Open) : successor world handled = .connecting handled.connection := by
  unfold successor at waits ⊢
  split
  · rename_i session others new
    simp only [new] at waits
    cases waits
  · rename_i none
    split at waits
    · rename_i session others new
      exact absurd new (none session others)
    · split
      · rename_i server others new
        simp only [new] at waits
        cases waits
      · rfl

theorem turn_nearer (counting : Counting c) (active : io.activity = true) (sent : 0 < io.sendResult)
    (ran : processIncoming env world c io = .ok handled) (waits : (phase (successor world handled)).Open) :
    patience (phase (successor world handled)) + 1 ≤ patience (connecting c) := by
  have stays := successor_open waits
  rw [stays] at waits ⊢
  by_cases fresh : c.state = .FRESH
  · have greeting : connecting c = .greeting := by simp only [connecting,fresh]
    have left : connecting handled.connection = .challenged ∨ connecting handled.connection = .finished := by
      obtain ⟨_,⟨left,_⟩ | ⟨left,_⟩⟩ := fresh_parts fresh ran
      · exact .inr left
      · exact left
    rcases left with challenged | finished
    · rw [phase,challenged,greeting]
      exact Nat.le_refl 4
    · rw [phase,finished] at waits
      cases waits
  · have visit := processIncoming_parts ran
    have talks := visit_talks counting fresh visit
    rw [stays] at talks
    obtain ⟨received,answered⟩ := attentive_talks active sent visit fresh waits
    have spent := talks_budget (counted_connecting counting) talks
    have greeted := talks_challenge talks
    rw [answered] at spent
    simp at greeted
    unfold patience
    change budget (connecting handled.connection) + _ + 1 ≤ _
    change _ + budget (connecting handled.connection) ≤ _ at spent
    omega

theorem turn_concern {id : Nat} (sole : Sockets.Sole s) (concerned : concern id s event = some (.turn world io)) :
    ∃ c, peer s id = .connecting c := by
  cases event with
  | accept =>
    simp only [concern] at concerned
    split at concerned <;> cases concerned
  | purge | database => cases concerned
  | connected ios =>
    obtain ⟨_,_,same⟩ := Option.map_eq_some_iff.mp concerned
    cases same
  | incoming index io =>
    simp only [concern] at concerned
    split at concerned
    · rename_i c present
      split at concerned
      · rename_i own
        exact ⟨c,peer_owner sole (.connecting ⟨List.mem_of_getElem? present,own⟩)⟩
      · cases concerned
    · cases concerned

def Waiting (p : Phase) : Prop := p = .unknown ∨ p.Open

theorem connecting_known (c : IncomingConnection) : connecting c ≠ .unknown := by
  unfold connecting
  cases c.state <;> simp

theorem talks_unknown (talks : Talks env p label q) (unknown : q = .unknown) : p = .unknown := by
  cases talks with
  | idle => exact unknown
  | greeted left => rcases left with rfl | rfl <;> cases unknown
  | failed trying attempt left =>
    split_ifs at left with last
    · rw [left] at unknown
      cases unknown
    · rw [left.2] at unknown
      cases unknown
  | _ => cases unknown

theorem talks_waiting (talks : Talks env p label q) (waits : q.Open) : Waiting p := by
  cases talks with
  | idle => exact .inr waits
  | accepted => exact .inl rfl
  | greeted => exact .inr trivial
  | failed trying attempt left =>
    cases p with
    | challenged | retrying => exact .inr trivial
    | unknown | greeting | listing | acknowledging | finished | member | mapServer | gone => cases trying
  | registering | unanswered | listed => exact .inr trivial
  | dropped | closed | locked | loggedIn | notNeeded | registered | purged | heard | characters | malformed | unavailable
    | instructed | refused | lost => cases waits

theorem attended
    (path : Runs.Run (LoginServer.step env) (.start players characters allMaps mapIDToName) events trace t) (id : Nat)
    (waits : Waiting (phase (peer t id))) :
    (Projections.own (LoginServer.step env) (concern id) (.start players characters allMaps mapIDToName) events).countP attentive +
      patience (phase (peer t id)) ≤ 4 := by
  induction path with
  | nil => exact Nat.le_refl 4
  | @snoc events trace middle event next fresh prior ran ih =>
    have accounted := Ownership.run_accounted prior
    have valid := run_valid prior id
    have talks := step_talks prior id ran
    have slower := talks_patience (valid_counted valid) talks
    have before : Waiting (phase (peer middle id)) := by
      rcases waits with unknown | waits
      · exact .inl (talks_unknown talks unknown)
      · exact talks_waiting talks waits
    have count := ih before
    rw [Projections.own_snoc prior,List.countP_append]
    cases concerned : concern id middle event with
    | none =>
      simp only [Option.toList_none,List.countP_nil]
      omega
    | some what =>
      by_cases heeds : attentive what = true
      · cases what with
        | turn world io =>
          obtain ⟨c,same⟩ := turn_concern (Sockets.accounted_sole accounted) concerned
          have turned := (projected env id).turned ⟨trace,accounted⟩ ran concerned
          rw [same] at turned valid talks
          obtain ⟨handled,visited,left⟩ := map_ok turned
          obtain ⟨left,_⟩ := Prod.mk.inj left
          obtain ⟨active,sent⟩ := Bool.and_eq_true_iff.mp heeds
          rw [← left] at waits talks ⊢
          have waits := waits.resolve_left (fun unknown => connecting_known c (talks_unknown talks unknown))
          have nearer := turn_nearer valid active (of_decide_eq_true sent) visited waits
          rw [same] at count
          simp only [Option.toList_some,List.countP_cons,List.countP_nil,heeds,if_true]
          change _ + patience (connecting c) ≤ 4 at count
          omega
        | accept | purge | session => cases heeds
      · simp only [Option.toList_some,List.countP_cons,List.countP_nil,heeds]
        simp only [Bool.false_eq_true,if_false]
        omega

-- A peer that sends and takes packets is settled by its fourth turn at the latest.
theorem settled_within
    (path : Runs.Run (LoginServer.step env) (.start players characters allMaps mapIDToName) events trace t) (id : Nat)
    (waits : (phase (peer t id)).Open) :
    (Projections.own (LoginServer.step env) (concern id) (.start players characters allMaps mapIDToName) events).countP attentive
      ≤ 3 := by
  have count := attended path id (.inr waits)
  have left := open_budget waits (valid_counted (run_valid path id))
  omega

-- One member of the table fails twice and has a turn left.
def guess : Event := .incoming 0 (.delivers ((ClientPacket.authenticationIdentity Decoders.credentials).buffer .network))

theorem settled_within_guesses : ∃ trace t,
    Runs.Run (LoginServer.step (.plain [Decoders.credentials.document])) (.start .empty [] [] .empty)
      [.accept,.incoming 0 (.delivers []),guess,guess] trace t ∧ phase (peer t 0) = .retrying 2 ∧
    (Projections.own (LoginServer.step (.plain [Decoders.credentials.document])) (concern 0) (.start .empty [] [] .empty)
      [.accept,.incoming 0 (.delivers []),guess,guess]).countP attentive ≤ 3 := by
  obtain ⟨trace,t,path,failed⟩ := Runs.execute_check (LoginServer.step (.plain [Decoders.credentials.document]))
    (.start .empty [] [] .empty) [.accept,.incoming 0 (.delivers []),guess,guess]
    (fun last => phase (peer last.1 0) == .retrying 2) (by decide +kernel)
  have failed : phase (peer t 0) = .retrying 2 := by simpa using failed
  refine ⟨trace,t,path,failed,settled_within path 0 ?_⟩
  rw [failed]
  trivial

end PlayPG.Settlement
