import PlayPG.Connections

namespace PlayPG.LoginAttempts
open Bytes IncomingHandler Visits Connections

def attempt : Effect → Bool
  | .loginAttempt _ => true
  | _ => false

def tried (trace : List Effect) : Nat := trace.countP attempt
def created (trace : List Effect) : Nat := trace.count .sessionCreated

theorem tried_append (early late : List Effect) : tried (early ++ late) = tried early + tried late :=
  List.countP_append

theorem created_append (early late : List Effect) : created (early ++ late) = created early + created late :=
  List.count_append

-- While a connection is open every login attempt has cost it one of its three.
structure Charged (trace : List Effect) (c : IncomingConnection) : Prop where
  attempts : tried trace ≤ 3
  failures : c.loginAttempts ≤ 3
  sessions : created trace ≤ 1
  spent : c.state ≠ .DONE → tried trace ≤ c.loginAttempts ∧ c.loginAttempts ≤ 2 ∧ created trace = 0

theorem Charged.free (charged : Charged trace c) (none : tried fresh = 0) (nobody : created fresh = 0)
    (same : next.loginAttempts = c.loginAttempts) (live : c.state ≠ .DONE) : Charged (trace ++ fresh) next := by
  have spent := charged.spent live
  refine ⟨?_,?_,?_,fun _ => ⟨?_,?_,?_⟩⟩
  · rw [tried_append,none]; exact charged.attempts
  · rw [same]; exact charged.failures
  · rw [created_append,nobody]; exact charged.sessions
  · rw [tried_append,none,same]; exact spent.1
  · rw [same]; exact spent.2.1
  · rw [created_append,nobody]; exact spent.2.2

theorem Charged.failed (charged : Charged trace c) (single : tried fresh ≤ 1) (nobody : created fresh = 0)
    (live : c.state ≠ .DONE) : Charged (trace ++ fresh) (failedOnce c socket) := by
  have spent := charged.spent live
  have counted := tried_append trace fresh
  have logged := created_append trace fresh
  have failures : (failedOnce c socket).loginAttempts = c.loginAttempts + 1 := rfl
  refine ⟨by omega,by omega,by omega,fun open_ => ⟨by omega,?_,by omega⟩⟩
  by_cases last : c.loginAttempts + 1 = IncomingConnection.MAX_ATTEMPTS_ALLOWED
  · simp [failedOnce,last] at open_
  · simp only [IncomingConnection.MAX_ATTEMPTS_ALLOWED] at last; omega

theorem login_live (login : Login c) : c.state ≠ .DONE := by
  rcases login with login | login <;> simp [login]

theorem Charged.ended (charged : Charged trace c) (single : tried fresh ≤ 1) (person : created fresh ≤ 1)
    (same : next.loginAttempts = c.loginAttempts) (live : c.state ≠ .DONE) (finished : next.state = .DONE) :
    Charged (trace ++ fresh) next := by
  have spent := charged.spent live
  have counted := tried_append trace fresh
  have logged := created_append trace fresh
  exact ⟨by omega,by omega,by omega,fun live => absurd finished live⟩

theorem visit_charged (charged : Charged trace c) (visit : Visit env world io c handled) :
    Charged (trace ++ handled.effects) handled.connection := by
  cases visit with
  | done finished => simpa using charged
  | dropped live owned failed => exact charged.free rfl rfl rfl live
  | greeted fresh owned alive => exact charged.free rfl rfl rfl (by simp [fresh])
  | quiet live met owned idle => exact charged.free rfl rfl rfl live
  | closed live turn closes => exact charged.free rfl rfl rfl live
  | unexpected login turn other => exact charged.failed (Nat.zero_le _) rfl (login_live login)
  | refused login turn identity refuses unlocked => exact charged.failed (Nat.le_refl _) rfl (login_live login)
  | locked login turn identity row locked =>
    exact charged.ended (Nat.le_refl _) (Nat.zero_le _) rfl (login_live login) rfl
  | accepted login turn identity accepts =>
    exact charged.ended (Nat.le_refl _) (Nat.le_refl _) rfl (login_live login) rfl
  | registering challenged turn request reached => exact charged.free rfl rfl rfl (by simp [challenged])
  | unanswered challenged turn request lost => exact charged.free rfl rfl rfl (by simp [challenged])
  | notNeeded listing turn opcode decoded none => exact charged.free rfl rfl rfl (by simp [listing])
  | listed listing turn opcode decoded some => exact charged.free rfl rfl rfl (by simp [listing])
  | registered waiting turn got maps name port address => exact charged.free rfl rfl rfl (by simp [waiting])

theorem run_charged (path : Runs.Run (turn env) (.ofSocket socket) events trace c) : Charged trace c := by
  refine path.history (P:=Charged) ⟨by simp [tried],by simp [IncomingConnection.ofSocket],by simp [created],?_⟩ ?_
  · intro _; simp [tried,created,IncomingConnection.ofSocket]
  · intro events trace before ⟨world,io⟩ next fresh prior charged ran
    obtain ⟨handled,visit,rfl,rfl⟩ := turn_visit ran
    exact visit_charged charged visit

def LockedOut (world : World) (fresh : List Effect) : Prop :=
  ∃ authID person, .loginAttempt authID ∈ fresh ∧ found world.players authID = some person ∧ person.locked = true

-- What an AuthenticationResponse says is what its turn did to the connection.
structure Agrees (world : World) (c next : IncomingConnection) (fresh : List Effect)
    (response : AuthenticationResponse) : Prop where
  successful : response.successful = true ↔ .sessionCreated ∈ fresh ∧ next.state = .DONE
  ended : response.successful = false ∧ response.attemptsRemaining = 0 ↔
    (c.state ≠ .DONE ∧ next.state = .DONE) ∧ (next.loginAttempts = 3 ∨ LockedOut world fresh)
  again : response.successful = false ∧ response.attemptsRemaining = 3 - next.loginAttempts ∧
      0 < response.attemptsRemaining ↔ next.state = .LOGIN_FAILED

theorem failed_agrees (live : c.state ≠ .DONE) (left : c.loginAttempts ≤ 2) (uncreated : .sessionCreated ∉ fresh)
    (unlocked : ¬ LockedOut world fresh) :
    Agrees world c (failedOnce c socket) fresh
      ⟨false,IncomingConnection.MAX_ATTEMPTS_ALLOWED - (c.loginAttempts + 1),message⟩ := by
  by_cases last : c.loginAttempts + 1 = 3
  · exact ⟨by simp [uncreated],by simp [failedOnce,IncomingConnection.MAX_ATTEMPTS_ALLOWED,last,live],
      by simp [failedOnce,IncomingConnection.MAX_ATTEMPTS_ALLOWED,last]⟩
  · refine ⟨by simp [uncreated],?_,?_⟩
    · simp only [failedOnce,IncomingConnection.MAX_ATTEMPTS_ALLOWED,last,if_false,unlocked]
      constructor
      · intro both
        have zero := both.2
        omega
      · intro both
        have impossible := both.1.2
        cases impossible
    · simp only [failedOnce,IncomingConnection.MAX_ATTEMPTS_ALLOWED,last,if_false,iff_true,true_and]
      omega

theorem visit_agrees (charged : Charged trace c) (visit : Visit env world io c handled)
    (sent : .sent (.authenticationResponse response) result ∈ handled.effects) :
    Agrees world c handled.connection handled.effects response := by
  cases visit with
  | unexpected login turn other =>
    have live := login_live login
    obtain ⟨rfl,rfl⟩ : response = _ ∧ result = _ := by simpa [failureResponse] using sent
    exact failed_agrees live (charged.spent live).2.1 (by simp) (by simp [LockedOut])
  | refused login turn identity refuses unlocked =>
    have live := login_live login
    obtain ⟨rfl,rfl⟩ : response = _ ∧ result = _ := by simpa [failureResponse] using sent
    apply failed_agrees live (charged.spent live).2.1 (by simp)
    intro out
    obtain ⟨authID,person,named,row,locked⟩ := out
    obtain rfl : authID = _ := by simpa using named
    exact absurd locked (by simp [unlocked person row])
  | @locked socket authID person login turn identity row locked =>
    obtain ⟨rfl,rfl⟩ : response = _ ∧ result = _ := by simpa using sent
    have out : LockedOut world [.received io.recv.bytes,.loginAttempt authID,
        .sent (.authenticationResponse ⟨false,0,lockedMessage⟩) io.sendResult] := ⟨authID,person,by simp,row,locked⟩
    exact ⟨by simp,by simp [login_live login,out],by simp⟩
  | @accepted socket authID person login turn identity accepts =>
    have live := login_live login
    obtain ⟨rfl,rfl⟩ : response = _ ∧ result = _ := by simpa using sent
    have left := (charged.spent live).2.1
    refine ⟨by simp,?_,by simp⟩
    simp only [Bool.true_eq_false,false_and,false_iff,not_and,not_or]
    refine fun _ => ⟨by omega,?_⟩
    intro out
    obtain ⟨other,row,named,found,locked⟩ := out
    obtain rfl : other = authID := by simpa using named
    obtain rfl : person = row := Option.some.inj (accepts.1.symm.trans found)
    exact absurd locked (by simp [accepts.2.1])
  | _ => simp at sent

theorem done_stays (finished : c.state = .DONE) (path : Runs.Run (turn env) c events trace next) :
    trace = [] ∧ next = c := by
  refine path.history (P:=fun trace next => trace = [] ∧ next = c) ⟨rfl,rfl⟩ ?_
  intro events trace before event next fresh prior same ran
  obtain ⟨rfl,rfl⟩ := same
  simp only [turn,processIncoming,finished,if_true,Except.map,Except.ok.injEq,Prod.mk.injEq] at ran
  obtain ⟨rfl,rfl⟩ := ran
  exact ⟨rfl,rfl⟩

structure Limited (env : Env) (trace : List Effect) (c : IncomingConnection) : Prop where
  attempts : tried trace ≤ 3 ∧ (c.state ≠ .DONE → tried trace ≤ 2)
  failures : c.loginAttempts ≤ 3
  sessions : created trace ≤ 1
  final : c.state = .DONE → ∀ events later next, Runs.Run (turn env) c events later next → later = [] ∧ next = c
  answers : ∀ world io next fresh, turn env c (world,io) = .ok (next,fresh) → ∀ response result,
    .sent (.authenticationResponse response) result ∈ fresh → Agrees world c next fresh response

theorem login_limited (path : Runs.Run (turn env) (.ofSocket socket) events trace c) : Limited env trace c := by
  have charged := run_charged path
  refine ⟨⟨charged.attempts,?_⟩,charged.failures,charged.sessions,?_,?_⟩
  · intro live; have spent := charged.spent live; omega
  · exact fun finished events later next path => done_stays finished path
  · intro world io next fresh ran response result sent
    obtain ⟨handled,visit,rfl,rfl⟩ := turn_visit ran
    exact visit_agrees charged visit sent

-- Three guesses at a name that nobody has, and a fourth packet that is not read.
def guess : AuthenticationIdentity := ⟨text "nobody",text "testa"⟩

def guesses : List (World × SocketIO) :=
  let world := (LoginServer.start .empty [] [] .empty).toWorld
  (world,.delivers []) :: List.replicate 4 (world,.delivers ((ClientPacket.authenticationIdentity guess).buffer .network))

theorem login_limited_guesses : ∃ trace c,
    Runs.Run (turn (.plain [guess.document])) (.ofSocket ⟨0,false,true⟩) guesses trace c ∧
      (c.state = .DONE ∧ tried trace = 3) ∧ Limited (.plain [guess.document]) trace c := by
  obtain ⟨trace,c,path,ended⟩ := Runs.execute_check (turn (.plain [guess.document])) (.ofSocket ⟨0,false,true⟩) guesses
    (fun last => decide (last.1.state = .DONE ∧ tried last.2 = 3)) (by decide +kernel)
  exact ⟨trace,c,path,by simpa using ended,login_limited path⟩

end PlayPG.LoginAttempts
