import PlayPG.CharacterChoice
import PlayPG.Codecs
import PlayPG.Numerals

namespace PlayPG.SessionKeys
open Bytes Codecs ConnectedHandler ServerSteps LoginOrigins PlayerSession Numerals

-- std::to_string is the decimal numeral.
def decimal : Radix UInt8 where
  base := 10
  symbol digit := UInt8.ofNat (48 + digit)
  read byte := byte.toNat - 48
  bound := by decide
  reads := by decide

theorem text_append (s t : String) : text (s ++ t) = text s ++ text t := by
  unfold text
  rw [String.toUTF8_eq_toByteArray,String.toByteArray_append,ByteArray.toList_data_append]
  rfl

theorem text_digit : ∀ digit < 10, text (String.singleton digit.digitChar) = [decimal.symbol digit] := by decide +kernel

theorem toString_numeral (n : Nat) : text (toString n) = decimal.numeral n := by
  induction n using decimal.digits_induction with
  | single digit small =>
    have written : toString digit = String.singleton digit.digitChar := Nat.repr_of_lt small
    rw [written,text_digit digit small,decimal.numeral_digit small]
  | snoc n digit positive small ih =>
    obtain ⟨rest,last⟩ := Radix.split_exact (n:=n) small
    have ten : 10 ≤ n * decimal.base + digit :=
      Nat.le_trans (Nat.le_mul_of_pos_left 10 positive) (Nat.le_add_right ..)
    have written := Nat.repr_of_ge ten
    change toString (n * decimal.base + digit) =
      toString ((n * decimal.base + digit) / decimal.base) ++
        String.singleton ((n * decimal.base + digit) % decimal.base).digitChar at written
    rw [rest,last] at written
    rw [written,text_append,ih,text_digit digit small,decimal.numeral_snoc positive small]

def combinedString (pair : Bytes × UInt64) : Bytes := pair.1 ++ text (toString pair.2.toNat)

-- Two different texts with one digest. Digests have sixteen bytes, so MD5 has
-- some; what counts is whether these two texts are such a pair.
def Collides (md5 : Bytes → Bytes) (s t : Bytes) : Prop := s ≠ t ∧ md5 s = md5 t

def Distinguishes (md5 : Bytes → Bytes) (one two : Bytes × UInt64) : Prop :=
  ¬ Collides md5 (combinedString one) (combinedString two) → one ≠ two →
    generateSessionKey md5 one.1 one.2 ≠ generateSessionKey md5 two.1 two.2

-- Ten to the number of digits of the key.
def shift (key : UInt64) : Nat := 10 ^ (text (toString key.toNat)).length

-- The first digits of the one key are the end of the other username; the rest of
-- them are the other key.
structure Shifts (one two : Bytes × UInt64) : Prop where
  more : shift two.2 ≤ one.2.toNat
  rest : one.2.toNat % shift two.2 = two.2.toNat
  longer : two.1 = one.1 ++ text (toString (one.2.toNat / shift two.2))

theorem shift_decimal (key : UInt64) : shift key = decimal.shift key.toNat := by
  unfold shift Radix.shift
  rw [toString_numeral]
  rfl

theorem shifts_carries : Shifts one two ↔ decimal.Carries one.1 one.2.toNat two.1 two.2.toNat := by
  constructor
  · intro shifts
    obtain ⟨more,rest,longer⟩ := shifts
    rw [shift_decimal] at more rest longer
    rw [toString_numeral] at longer
    exact ⟨more,rest,longer⟩
  · intro carries
    obtain ⟨more,rest,longer⟩ := carries
    rw [← shift_decimal] at more rest longer
    rw [← toString_numeral] at longer
    exact ⟨more,rest,longer⟩

theorem combined_exact (one two : Bytes × UInt64) :
    combinedString one = combinedString two ↔ one = two ∨ Shifts one two ∨ Shifts two one := by
  unfold combinedString
  rw [toString_numeral,toString_numeral,decimal.append_exact,shifts_carries,shifts_carries]
  apply or_congr_left
  rw [UInt64.toNat_inj]
  exact Prod.ext_iff.symm

theorem shifts_differ (shifts : Shifts one two) : one ≠ two := by
  rintro rfl
  have more := shifts.more
  rw [shift_decimal] at more
  exact absurd (decimal.lt_shift one.2.toNat) (Nat.not_lt_of_le more)

-- The hexadecimal text of a digest can be read back.
theorem keys_equal (md5 : Bytes → Bytes) (one two : Bytes × UInt64) :
    generateSessionKey md5 one.1 one.2 = generateSessionKey md5 two.1 two.2 ↔
      md5 (combinedString one) = md5 (combinedString two) := by
  have reads : Function.LeftInverse (fun s => (pairs s).map (fun piece => UInt8.ofNat (strtoul16 piece)))
      ByteArrayUtil.byteArrayToString := digits_read (.inl rfl)
  exact reads.injective.eq_iff

-- Without a collision the keys tell apart exactly what the hashed texts tell apart.
theorem keys_apart (md5 : Bytes → Bytes) (one two : Bytes × UInt64) :
    (¬ Collides md5 (combinedString one) (combinedString two) →
      generateSessionKey md5 one.1 one.2 ≠ generateSessionKey md5 two.1 two.2) ↔ combinedString one ≠ combinedString two := by
  constructor
  · intro apart same
    have uncollided : ¬ Collides md5 (combinedString one) (combinedString two) := fun collides => collides.1 same
    apply apart uncollided
    rw [keys_equal,same]
  · intro distinct uncollided same
    apply uncollided
    exact ⟨distinct,(keys_equal md5 one two).mp same⟩

theorem distinct_exact (different : one ≠ two) :
    combinedString one ≠ combinedString two ↔ ¬ Shifts one two ∧ ¬ Shifts two one := by
  rw [ne_eq,combined_exact,or_iff_right different,not_or]

theorem distinguishes_exact (md5 : Bytes → Bytes) (one two : Bytes × UInt64) :
    Distinguishes md5 one two ↔ ¬ Shifts one two ∧ ¬ Shifts two one := by
  by_cases different : one ≠ two
  · rw [← distinct_exact different,← keys_apart md5]
    constructor
    · exact fun distinguishes uncollided => distinguishes uncollided different
    · exact fun apart uncollided _ => apart uncollided
  · constructor
    · intro _
      exact ⟨fun shifts => different (shifts_differ shifts),fun shifts => different (shifts_differ shifts).symm⟩
    · intro _ _ distinct
      exact absurd distinct different

-- The turn of a session writes its socket and its character; the key is const.
theorem characterRequest_key (left : (processCharacterRequest world session io).session = some after) :
    after.sessionKey = session.sessionKey := by
  unfold processCharacterRequest at left
  dsimp only at left
  split at left
  · obtain rfl := Option.some.inj left
    rfl
  · obtain rfl := Option.some.inj left
    rfl

theorem characterSelect_key (ran : processCharacterSelect env world session io = .ok visited)
    (left : visited.session = some after) : after.sessionKey = session.sessionKey := by
  cases characterSelect_parts ran with
  | malformed | unavailable | refused =>
    obtain rfl := Option.some.inj left
    rfl
  | instructed whole row named indexed found taken =>
    obtain rfl := Option.some.inj left
    rw [taken]
    split
    · rfl
    · rfl

theorem serveSession_key (ran : serveSession env world session io = .ok visited)
    (left : visited.session = some after) : after.sessionKey = session.sessionKey := by
  cases serveSession_parts ran with
  | idle | short | unknown =>
    obtain rfl := Option.some.inj left
    rfl
  | characters active two opcode listed =>
    rw [listed] at left
    have key := characterRequest_key left
    exact key
  | selection active two opcode chose =>
    have key := characterSelect_key chose left
    exact key

theorem visitSession_kept (ran : visitSession env world session io = .ok (next,visited))
    (left : visited.session = some after) : SameSession session after ∧ after.sessionKey = session.sessionKey := by
  constructor
  · rcases visitSession_parts ran with ⟨_,_,⟨served,stays,kept⟩,_⟩ | ⟨_,rfl,_⟩
    · obtain rfl := Option.some.inj (stays.symm.trans left)
      exact kept
    · cases left
  · rcases visitSession_turn ran with ⟨_,_,served⟩ | ⟨_,rfl,_⟩
    · have key := serveSession_key served left
      exact key
    · cases left

-- The session of a login of the run, whose key was made with this roll.
def Drawn (env : Env) (start : LoginServer) (events : List Event) (session : PlayerSession) (roll : UInt64) : Prop :=
  session.sessionKey = generateSessionKey env.md5 session.username roll ∧
  ∃ before index io after early middle next fresh authID person created,
    events = before ++ .incoming index io :: after ∧ Runs.Run (LoginServer.step env) start before early middle ∧
      LoginServer.step env middle (.incoming index io) = .ok (next,fresh) ∧
      LoggedIn env middle next fresh index io authID person created ∧ SameSession created session ∧ io.diceRoll = roll

theorem Drawn.extend (drawn : Drawn env start events before roll) (same : SameSession before session)
    (unchanged : session.sessionKey = before.sessionKey) (rest : List Event) :
    Drawn env start (events ++ rest) session roll := by
  obtain ⟨key,prior,index,io,after,early,middle,next,fresh,authID,person,created,rfl,path,ran,login,own,rolled⟩ := drawn
  rw [← unchanged,← same.username] at key
  exact ⟨key,prior,index,io,after ++ rest,early,middle,next,fresh,authID,person,created,by simp,path,ran,login,
    own.trans same,rolled⟩

theorem run_drawn
    (path : Runs.Run (LoginServer.step env) (.start players characters allMaps mapIDToName) events trace t)
    (member : some session ∈ t.playerSessions) :
    ∃ roll, Drawn env (.start players characters allMaps mapIDToName) events session roll := by
  refine CharacterChoice.run_sessions (P:=fun events session => ∃ roll, Drawn env _ events session roll) ?_ ?_ ?_ path member
  · intro events trace middle index io next fresh authID person socket session prior ran login new
    have key : session.sessionKey = generateSessionKey env.md5 session.username io.diceRoll := by
      rw [new]
      rfl
    exact ⟨io.diceRoll,key,events,index,io,[],trace,middle,next,fresh,authID,person,session,rfl,prior,ran,login,
      .refl session,rfl⟩
  · intro events session event drawn
    obtain ⟨roll,drawn⟩ := drawn
    exact ⟨roll,drawn.extend (.refl session) rfl _⟩
  · intro events trace middle ios before io users last visited session prior listed visit left drawn
    obtain ⟨same,unchanged⟩ := visitSession_kept visit left
    obtain ⟨roll,drawn⟩ := drawn
    exact ⟨roll,drawn.extend same unchanged _⟩

-- The sessions of all the states of a run, with those that a later pass removes.
def Occurs (env : Env) (start : LoginServer) (events : List Event) (session : PlayerSession) : Prop :=
  ∃ before after trace t, events = before ++ after ∧ Runs.Run (LoginServer.step env) start before trace t ∧
    some session ∈ t.playerSessions

theorem occurs_drawn (occurs : Occurs env (.start players characters allMaps mapIDToName) events session) :
    ∃ roll, Drawn env (.start players characters allMaps mapIDToName) events session roll := by
  obtain ⟨before,after,trace,t,rfl,path,member⟩ := occurs
  obtain ⟨roll,drawn⟩ := run_drawn path member
  exact ⟨roll,drawn.extend (.refl session) rfl after⟩

-- No mark stands between the username and the number: digits may be carried from one
-- to the other. Two pairs, and two sessions of different users, are kept apart
-- (by a digest without collision) exactly if no digits are.
theorem session_keys_apart (env : Env) (one two : Bytes × UInt64) :
    (Distinguishes env.md5 one two ↔ ¬ Shifts one two ∧ ¬ Shifts two one) ∧
    ∀ players characters allMaps mapIDToName events early late,
      Occurs env (.start players characters allMaps mapIDToName) events early →
      Occurs env (.start players characters allMaps mapIDToName) events late → early.username ≠ late.username →
      ∃ roll other, Drawn env (.start players characters allMaps mapIDToName) events early roll ∧
        Drawn env (.start players characters allMaps mapIDToName) events late other ∧
        ((¬ Collides env.md5 (combinedString (early.username,roll)) (combinedString (late.username,other)) →
          early.sessionKey ≠ late.sessionKey) ↔
          ¬ Shifts (early.username,roll) (late.username,other) ∧ ¬ Shifts (late.username,other) (early.username,roll)) := by
  refine ⟨distinguishes_exact env.md5 one two,?_⟩
  intro players characters allMaps mapIDToName events early late first second users
  obtain ⟨roll,drawn⟩ := occurs_drawn first
  obtain ⟨other,again⟩ := occurs_drawn second
  refine ⟨roll,other,drawn,again,?_⟩
  have different : (early.username,roll) ≠ (late.username,other) := by
    intro same
    exact users (Prod.mk.inj same).1
  rw [drawn.1,again.1,← distinct_exact different]
  exact keys_apart env.md5 (early.username,roll) (late.username,other)

-- ann draws 12 and ann1 draws 2, and both keys are the digest of ann12.
def ann : AuthenticationIdentity := ⟨text "ann",text "testa"⟩

def ann1 : AuthenticationIdentity := ⟨text "ann1",text "testb"⟩

theorem ann_shifts : Shifts (ann.username,12) (ann1.username,2) where
  more := by decide +kernel
  rest := by decide +kernel
  longer := by decide +kernel

def anns : PlayersTable where
  rows := [{ member with username := ann.username},{ member with id := 8, username := ann1.username}]
  uniqueId := by decide
  uniqueEmail := by decide +kernel

def identity (authID : AuthenticationIdentity) (diceRoll : UInt64) : SocketIO :=
  { SocketIO.delivers ((ClientPacket.authenticationIdentity authID).buffer .network) with diceRoll := diceRoll}

def logins : List Event :=
  [.accept,.accept,.incoming 0 (.delivers []),.incoming 1 (.delivers []),
    .incoming 0 (identity ann 12),.incoming 1 (identity ann1 2)]

def hashing (md5 : Bytes → Bytes) : Env := { Env.plain [ann.document,ann1.document] with md5 := md5}

def loggedIn (md5 : Bytes → Bytes) (n : Nat) (playerID : UInt64) (username : Bytes) (key : UInt64) : PlayerSession where
  pointer := n
  playerID := playerID
  username := username
  sessionKey := generateSessionKey md5 username key
  characterID := 0
  guid := UInt64.ofNat n
  socket := ⟨n,false,true⟩

theorem session_keys_shared : (¬ ∃ md5, ∀ one two, Distinguishes md5 one two) ∧
    ∀ md5, ∃ trace t, Runs.Run (LoginServer.step (hashing md5)) (.start anns [] [] .empty) logins trace t ∧
      ∃ one two, t.playerSessions = [some one,some two] ∧ one.username ≠ two.username ∧ one.sessionKey = two.sessionKey := by
  constructor
  · rintro ⟨md5,distinguishes⟩
    exact ((distinguishes_exact md5 _ _).mp (distinguishes _ _)).1 ann_shifts
  · intro md5
    have ran : (Runs.execute (LoginServer.step (hashing md5)) (.start anns [] [] .empty) logins).toOption.isSome = true := rfl
    obtain ⟨trace,path⟩ := Runs.final_run ran
    have users : ann.username ≠ ann1.username := by decide +kernel
    have together := (combined_exact _ _).mpr (.inr (.inl ann_shifts))
    refine ⟨trace,_,path,loggedIn md5 0 7 ann.username 12,loggedIn md5 1 8 ann1.username 2,rfl,users,?_⟩
    exact (keys_equal md5 (ann.username,12) (ann1.username,2)).mpr (congrArg md5 together)

end PlayPG.SessionKeys
