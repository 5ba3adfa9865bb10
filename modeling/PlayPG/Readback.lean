import PlayPG.Codecs

namespace PlayPG.Readback
open Bytes Codecs

inductive Packet where
  | server (packet : ServerPacket)
  | client (packet : ClientPacket)
  deriving DecidableEq

namespace Packet

def buffer (apg : ByteBuffer) : Packet → Bytes
  | server packet => packet.buffer apg
  | client packet => packet.buffer apg

-- The strings that the constructor puts behind a length, in the order of its puts.
def strings : Packet → List Bytes
  | server (.authenticationChallenge challenge) => [challenge.toJSON]
  | server (.authenticationResponse response) => [response.toJSON]
  | server (.mapServerRegistrationRequest friendlyName listenAddress _) => [friendlyName,listenAddress]
  | server (.mapServerRegistrationResponse secretRSA) => [secretRSA]
  | server (.mapServerMapList mapHashes) => [MapServerMapList.toJSON mapHashes]
  | server (.mapServerConnectionInstructions instructions) => [instructions.toJSON]
  | server (.playerCharacters characters) => [PlayerCharacters.toJSON characters]
  | server (.noMapServerError message) => [message]
  | client (.authenticationIdentity identity) => [identity.toJSON]
  | server .mapServerNotNeeded | server .mapServerAck | server .malformedPacket => []
  | client .versionMismatch | client .clientRequestCharacters | client (.characterSelect _) => []

end Packet

-- getShort gives the length of the string that was put, and getStringByLength all of it.
def Reads (apg : ByteBuffer) (bytes : Bytes) : List Bytes → Prop
  | [] => True
  | string :: rest =>
    let length := (apg.getShort bytes).toNat
    length = string.length ∧ apg.getStringByLength length (bytes.drop 2) = string ∧
      Reads apg (bytes.drop (2 + length)) rest

theorem reads_exact (apg : ByteBuffer) (strings : List Bytes) (tail : Bytes) :
    Reads apg (strings.flatMap (putSized apg) ++ tail) strings ↔ ∀ string ∈ strings, string.length < 2^16 := by
  induction strings with
  | nil => simp [Reads]
  | cons string rest ih =>
    rw [List.flatMap_cons,List.append_assoc,List.forall_mem_cons]
    constructor
    · intro read
      obtain ⟨same,_,later⟩ := read
      have short : string.length < 2^16 := by rw [← same]; exact (apg.getShort _).toNat_lt
      obtain ⟨length,_,after⟩ := putSized_parts apg string (rest.flatMap (putSized apg) ++ tail) short
      rw [length,after] at later
      exact ⟨short,ih.mp later⟩
    · intro fits
      obtain ⟨short,shorts⟩ := fits
      obtain ⟨length,body,after⟩ := putSized_parts apg string (rest.flatMap (putSized apg) ++ tail) short
      refine ⟨length,?_,?_⟩
      · rw [length,body,apg.getString_put]
      · rw [length,after]
        exact ih.mpr shorts

theorem strings_put (apg : ByteBuffer) (packet : Packet) : ∃ tail,
    (packet.buffer apg).drop 2 = packet.strings.flatMap (putSized apg) ++ tail := by
  cases packet with
  | server packet =>
    rw [Packet.buffer,ServerPacket.buffer,List.drop_left' (apg.putShort_length _)]
    cases packet with
    | mapServerRegistrationRequest friendlyName listenAddress port =>
      exact ⟨apg.putShort port,by simp [ServerPacket.payload,Packet.strings]⟩
    | _ => exact ⟨[],by simp [ServerPacket.payload,Packet.strings]⟩
  | client packet =>
    rw [Packet.buffer,ClientPacket.buffer,List.drop_left' (apg.putShort_length _)]
    cases packet with
    | characterSelect characterID => exact ⟨apg.putLong characterID,by simp [ClientPacket.payload,Packet.strings]⟩
    | _ => exact ⟨[],by simp [ClientPacket.payload,Packet.strings]⟩

-- Every length written is the length of the string behind it exactly when it fits its two bytes.
theorem lengths_written (apg : ByteBuffer) (packet : Packet) :
    Reads apg ((packet.buffer apg).drop 2) packet.strings ↔ ∀ string ∈ packet.strings, string.length < 2^16 := by
  obtain ⟨tail,puts⟩ := strings_put apg packet
  rw [puts]
  exact reads_exact apg packet.strings tail

-- The length of a name of 65536 bytes is written as zero.
def longName : Packet := .server (.mapServerRegistrationRequest (List.replicate 65536 97) (text "localhost") 10419)

theorem long_name_cut : ¬Reads .network ((longName.buffer .network).drop 2) longName.strings := by
  obtain ⟨tail,puts⟩ := strings_put .network longName
  rw [puts,reads_exact]
  intro fits
  have short := fits (List.replicate 65536 97) List.mem_cons_self
  rw [List.length_replicate] at short
  omega

-- The columns of a character that toJson writes.
def fields (c : Character) : UInt64 × UInt64 × Bytes × UInt64 × Int × Int × Int :=
  (c.id,c.playerID,c.name,c.raceID,c.maxHP,c.strength,c.intelligence)

def Int32Range (n : Int) : Prop := -2^31 ≤ n ∧ n < 2^31

def Storable (c : Character) : Prop :=
  0 ∉ c.name ∧ Int32Range c.maxHP ∧ Int32Range c.strength ∧ Int32Range c.intelligence

def decode (apg : ByteBuffer) (parse : Bytes → Json) (characters : List Character) : Except Fault (List Character) :=
  PlayerCharacters.fromJSON parse (sizedBody apg ((ServerPacket.playerCharacters characters).buffer apg))

def Recovered (apg : ByteBuffer) (parse : Bytes → Json) (characters : List Character) : Prop :=
  ∃ read, decode apg parse characters = .ok read ∧ read.map fields = characters.map fields

theorem characters_decoded (apg : ByteBuffer) (parsed : parse (PlayerCharacters.toJSON characters) =
    PlayerCharacters.document characters) (short : (PlayerCharacters.toJSON characters).length < 2^16) :
    decode apg parse characters = .ok (characters.map carriedCharacter) := by
  have body : sizedBody apg ((ServerPacket.playerCharacters characters).buffer apg) =
      PlayerCharacters.toJSON characters := sized_read apg _ short
  rw [decode,body]
  exact characters_read (text_parsed parsed (characters_free characters))

theorem int32_exact (range : Int32Range n) : (Int32.ofInt n).toInt = n :=
  Int32.toInt_ofInt_of_le range.1 range.2

theorem carried_fields (storable : Storable c) : fields (carriedCharacter c) = fields c ↔ c.raceID = 0 := by
  obtain ⟨free,hp,str,int⟩ := storable
  simp only [fields,carriedCharacter,cString_of_free free,int32_exact hp,int32_exact str,int32_exact int,Prod.mk.injEq,
    true_and,and_true]
  exact eq_comm

-- The reader takes every member that the writer put but the race.
theorem characters_recovered (storable : ∀ c ∈ characters, Storable c)
    (parsed : parse (PlayerCharacters.toJSON characters) = PlayerCharacters.document characters)
    (short : (PlayerCharacters.toJSON characters).length ≤ 65535) :
    Recovered apg parse characters ↔ ∀ c ∈ characters, c.raceID = 0 := by
  have decoded := characters_decoded apg parsed (Nat.lt_succ_of_le short)
  have whole : Recovered apg parse characters ↔ (characters.map carriedCharacter).map fields = characters.map fields := by
    simp [Recovered,decoded]
  rw [whole,List.map_map,List.map_inj_left]
  constructor
  · intro same c member
    exact (carried_fields (storable c member)).mp (same c member)
  · intro raceless c member
    exact (carried_fields (storable c member)).mpr (raceless c member)

def wanderer : Character := ⟨4,7,text "Ann",0,3,20,20,-2147483648,2147483647⟩
def elf : Character := {wanderer with raceID := 2}

theorem characters_recovered_wanderer : Recovered .network (Json.known [PlayerCharacters.document [wanderer]]) [wanderer] := by
  have storable : ∀ c ∈ [wanderer], Storable c := by unfold Storable Int32Range; decide +kernel
  have short : (PlayerCharacters.toJSON [wanderer]).length ≤ 65535 := by decide +kernel
  exact (characters_recovered storable (known_written _) short).mpr (by decide)

theorem race_lost : Storable elf ∧ (PlayerCharacters.toJSON [elf]).length ≤ 65535 ∧
    ¬Recovered .network (Json.known [PlayerCharacters.document [elf]]) [elf] := by
  have storable : Storable elf := by unfold Storable Int32Range; decide +kernel
  have short : (PlayerCharacters.toJSON [elf]).length ≤ 65535 := by decide +kernel
  refine ⟨storable,short,?_⟩
  have decoded := characters_decoded .network (known_written (PlayerCharacters.document [elf])) (Nat.lt_succ_of_le short)
  intro recovered
  obtain ⟨read,ran,same⟩ := recovered
  rw [decoded] at ran
  obtain rfl := Except.ok.inj ran
  have raceless := (carried_fields storable).mp (List.cons.inj same).1
  exact absurd raceless (by decide)

end PlayPG.Readback
