import PlayPG.Visits

-- A failed decryption is an empty string to its callers: where that string is
-- what they compare with, the failure passes for an empty message.
namespace PlayPG.FailedDecryption
open Bytes IncomingHandler Visits

def Undecryptable (crypto : RSACrypto) (vec : Bytes) : Prop :=
  crypto.hasPriKey = false ∨ ∃ keyPair, crypto.keyPair = some keyPair ∧ keyPair.privateDecrypt vec = none

theorem decrypt_undecryptable (undecryptable : Undecryptable crypto vec) :
    crypto.decryptStringPrivate vec = .ok [] := by
  unfold RSACrypto.decryptStringPrivate
  cases undecryptable with
  | inl keyless => simp [keyless]
  | inr failed =>
    obtain ⟨keyPair,key,none⟩ := failed
    rw [key]
    simp only [none]
    split <;> rfl

theorem failAttempt_total (world : World) (io : SocketIO) (message : Bytes) (owned : c.socket = some socket) :
    ∃ handled attempts, failAttempt world c io message = .ok handled ∧ handled.world = world ∧
      handled.effects = [.sent (.authenticationResponse ⟨false,attempts,message⟩) io.sendResult] := by
  simp [failAttempt,owned]

theorem processLoginAttempt_total (world : World) (io : SocketIO) (owned : c.socket = some socket)
    (decrypted : env.crypto.decryptStringPrivate authID.password = .ok decPass) :
    ∃ handled, processLoginAttempt env world c authID io = .ok handled := by
  unfold processLoginAttempt
  rw [decrypted,owned]
  cases rows : world.players.query authID.username with
  | nil =>
    obtain ⟨handled,_,failed,_⟩ := failAttempt_total world io (text "Authentication failure.") owned
    exact ⟨handled,failed⟩
  | cons person others =>
    dsimp only
    split_ifs
    · exact ⟨_,rfl⟩
    · exact ⟨_,rfl⟩
    · obtain ⟨handled,_,failed,_⟩ := failAttempt_total world io (text "Authentication failure.") owned
      exact ⟨handled,failed⟩

-- Nobody is logged in, and the one answer that goes out tells so.
def Unsuccessful (world : World) (result : Except Fault Handled) : Prop :=
  ∃ handled response sent, result = .ok handled ∧ handled.world = world ∧
    handled.effects = [.sent (.authenticationResponse response) sent] ∧ response.successful = false

-- The row that would be read for the name is open and carries the digest of no password at all.
def EmptyPassword (env : Env) (players : PlayersTable) (authID : AuthenticationIdentity) : Prop :=
  ∃ person, found players authID = some person ∧ person.locked = false ∧
    SHACrypto.sha256ToString (env.hasher.hashPasswordSHA256 [] (SHACrypto.stringToSalt person.salt)) = person.password

theorem emptyPassword_accepts (decrypted : env.crypto.decryptStringPrivate authID.password = .ok []) :
    EmptyPassword env players authID ↔ ∃ person, Accepts env players authID person := by
  constructor
  · intro blank
    obtain ⟨person,row,unlocked,digest⟩ := blank
    exact ⟨person,row,unlocked,[],decrypted,digest⟩
  · intro accepted
    obtain ⟨person,row,unlocked,decPass,same,digest⟩ := accepted
    rw [decrypted] at same
    cases same
    exact ⟨person,row,unlocked,digest⟩

theorem undecryptable_login (owned : c.socket = some socket)
    (undecryptable : Undecryptable env.crypto authID.password) :
    Unsuccessful world (processLoginAttempt env world c authID io) ↔ ¬EmptyPassword env world.players authID := by
  have decrypted := decrypt_undecryptable undecryptable
  obtain ⟨handled,ran⟩ := processLoginAttempt_total world io owned decrypted
  obtain ⟨_,_,ways⟩ := processLoginAttempt_parts ran
  rw [emptyPassword_accepts decrypted]
  constructor
  · intro unsuccessful accepted
    obtain ⟨other,response,sent,same,_,answer,refusal⟩ := unsuccessful
    rw [ran] at same
    cases same
    obtain ⟨person,accepts⟩ := accepted
    rcases ways with ⟨nobody,_⟩ | ⟨row,found,locked,_⟩ | ⟨_,_,welcome⟩
    · exact nobody person accepts
    · obtain rfl : person = row := Option.some.inj (accepts.1.symm.trans found)
      exact absurd locked (by simp [accepts.2.1])
    · rw [welcome] at answer
      simp at answer
  · intro nobody
    rcases ways with ⟨_,_,failed⟩ | ⟨_,_,_,locked⟩ | ⟨person,accepts,_⟩
    · obtain ⟨other,attempts,same,kept,answer⟩ := failAttempt_total world io (text "Authentication failure.") owned
      rw [failed] at same
      cases same
      exact ⟨handled,_,_,ran,kept,answer,rfl⟩
    · rw [locked] at ran
      exact ⟨_,_,_,ran,rfl,rfl,rfl⟩
    · exact absurd ⟨person,accepts⟩ nobody

-- A key that decrypts nothing, and an account that was stored with an empty password.
def deaf (hasher : SHACrypto) : Env := {Env.plain [] with
  crypto := ⟨[],some ⟨32,fun _ => none,fun _ => none,fun _ => none,fun _ => none⟩,true,true⟩
  hasher := hasher}

def blankAccount (hasher : SHACrypto) : Player :=
  ⟨1,text "anna",SHACrypto.sha256ToString (hasher.hashPasswordSHA256 [] []),[],0,false,0,0⟩

def blankTable (hasher : SHACrypto) : PlayersTable := ⟨[blankAccount hasher],by simp,by simp⟩

theorem deaf_undecryptable (hasher : SHACrypto) (vec : Bytes) : Undecryptable (deaf hasher).crypto vec :=
  .inr ⟨_,rfl,rfl⟩

theorem undecryptable_login_absent :
    Unsuccessful (LoginServer.start .empty [] [] .empty).toWorld
      (processLoginAttempt (deaf .zero) (LoginServer.start .empty [] [] .empty).toWorld
        (.ofSocket ⟨0,false,true⟩) ⟨text "anna",[1,2]⟩ (.delivers [])) :=
  (undecryptable_login rfl (deaf_undecryptable .zero [1,2])).mpr (by
    intro blank
    obtain ⟨person,row,_⟩ := blank
    cases row)

-- No choice of hash function helps: the account's digest is the one the failure hashes to.
theorem undecryptable_login_blank :
    ¬∃ hasher : SHACrypto, ∀ world c socket authID io, c.socket = some socket →
      Undecryptable (deaf hasher).crypto authID.password →
      Unsuccessful world (processLoginAttempt (deaf hasher) world c authID io) := by
  intro claim
  obtain ⟨hasher,refused⟩ := claim
  let world := (LoginServer.start (blankTable hasher) [] [] .empty).toWorld
  let authID : AuthenticationIdentity := ⟨text "anna",[1,2]⟩
  have undecryptable := deaf_undecryptable hasher authID.password
  obtain ⟨handled,response,sent,ran,_,answer,_⟩ :=
    refused world (.ofSocket ⟨0,false,true⟩) ⟨0,false,true⟩ authID (.delivers []) rfl undecryptable
  have accepted : Accepts (deaf hasher) world.players authID (blankAccount hasher) :=
    ⟨by simp [world,found,PlayersTable.query,LoginServer.start,blankTable,blankAccount,authID],rfl,[],
      decrypt_undecryptable undecryptable,rfl⟩
  obtain ⟨_,_,ways⟩ := processLoginAttempt_parts ran
  rcases ways with ⟨nobody,_⟩ | ⟨row,found,locked,_⟩ | ⟨_,_,welcome⟩
  · exact nobody _ accepted
  · obtain rfl := Option.some.inj (accepted.1.symm.trans found)
    cases locked
  · rw [welcome] at answer
    simp at answer

-- What the header of verifyStringPublic promises to tell.
def Signed (crypto : RSACrypto) (vec expected : Bytes) : Prop :=
  crypto.hasPubKey = true ∧ ∃ keyPair, crypto.keyPair = some keyPair ∧ keyPair.publicDecrypt vec = some expected

def Unverifiable (crypto : RSACrypto) (vec : Bytes) : Prop :=
  crypto.hasPubKey = false ∨ ∃ keyPair, crypto.keyPair = some keyPair ∧ keyPair.publicDecrypt vec = none

-- Verifying says yes to what was signed, and to the empty string where nothing was.
theorem verify_true : crypto.verifyStringPublic vec expected = .ok true ↔
    Signed crypto vec expected ∨ expected = [] ∧ Unverifiable crypto vec := by
  unfold RSACrypto.verifyStringPublic RSACrypto.unsignStringPublic Signed Unverifiable
  cases held : crypto.hasPubKey with
  | false => cases expected <;> simp
  | true =>
    cases key : crypto.keyPair with
    | none => simp
    | some keyPair =>
      cases decrypted : keyPair.publicDecrypt vec with
      | none => cases expected <;> simp [decrypted]
      | some message => simp [decrypted]

theorem signed_verifiable (signed : Signed crypto vec expected) : ¬Unverifiable crypto vec := by
  obtain ⟨held,keyPair,key,decrypted⟩ := signed
  intro unverifiable
  rcases unverifiable with keyless | ⟨other,same,failed⟩
  · exact absurd held (by simp [keyless])
  · obtain rfl : keyPair = other := Option.some.inj (key.symm.trans same)
    exact absurd decrypted (by simp [failed])

theorem verify_signed (crypto : RSACrypto) (vec expected : Bytes) :
    (crypto.verifyStringPublic vec expected = .ok true ↔ Signed crypto vec expected) ↔
      ¬(expected = [] ∧ Unverifiable crypto vec) := by
  rw [verify_true]
  constructor
  · intro faithful collision
    exact signed_verifiable (faithful.mp (.inr collision)) collision.2
  · intro apart
    exact ⟨fun either => either.resolve_right apart,.inl⟩

-- What the key pair signs is verified by whoever has the public key, where the key reads what it wrote.
theorem signature_verified {crypto : RSACrypto} (key : crypto.keyPair = some keyPair) (pair : crypto.hasPubKey ∧ crypto.hasPriKey)
    (written : keyPair.privateEncrypt str = some buffer)
    (reads : keyPair.publicDecrypt (RSACrypto.filled keyPair.size buffer) = some str) :
    ∃ vec, crypto.signStringPrivate str = .ok vec ∧ crypto.verifyStringPublic vec str = .ok true := by
  refine ⟨RSACrypto.filled keyPair.size buffer,?_,?_⟩
  · simp [RSACrypto.signStringPrivate,key,pair.2,written]
  · apply verify_true.mpr
    exact .inl ⟨pair.1,keyPair,key,reads⟩

-- Any vector is a signature of the empty string to a key that cannot read it.
theorem verify_signed_empty :
    ¬∀ crypto vec expected, (RSACrypto.verifyStringPublic crypto vec expected = .ok true ↔ Signed crypto vec expected) := by
  intro claim
  have signed := (claim (deaf .zero).crypto [1,2] []).mp (by rfl)
  exact signed_verifiable signed (.inr ⟨_,rfl,rfl⟩)

end PlayPG.FailedDecryption
