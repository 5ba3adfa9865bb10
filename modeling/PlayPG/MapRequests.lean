import PlayPG.MapAssignment
import PlayPG.MapLoading

namespace PlayPG.MapRequests
open Bytes IncomingHandler MapAssignment MapLoading

-- A map of ours that a received entry names by name and hash, and that no server has yet.
structure Wanted (world : World) (mapID ours : Location) : Prop where
  known : ours ∈ world.allMaps
  name : mapID.locationName = ours.locationName
  hash : mapID.knownMD5Hash = ours.knownMD5Hash
  free : world.mapNameToConnection mapID.locationName = none

-- The handler gets to its search with this list.
structure Receives (env : Env) (connection : IncomingConnection) (io : SocketIO) (mapHashes : List Location) : Prop where
  owned : connection.socket ≠ none
  active : io.activity = true
  got : io.recv.result ≠ 0
  opcode : env.apg.getShort io.recv.bytes = ServerOpcode.MAP_SERVER_MAP_LIST.code
  decoded : MapServerMapList.fromJSON env.parse (receivedJSON env io.recv.bytes) = .ok mapHashes

structure Replies (env : Env) (world : World) (connection : IncomingConnection) (io : SocketIO) (mapHashes : List Location) :
    Prop where
  complete : ∀ mapID ∈ mapHashes, (∃ ours, Wanted world mapID ours) → ∃ ours ∈ requiredMaps world mapHashes, Wanted world mapID ours
  sound : ∀ ours ∈ requiredMaps world mapHashes, ∃ mapID ∈ mapHashes, Wanted world mapID ours
  notNeeded : ∃ handled, processMapListSocket env world connection io = .ok handled ∧
    (.sent .mapServerNotNeeded io.sendResult ∈ handled.effects ↔ ¬ ∃ mapID ∈ mapHashes, ∃ ours, Wanted world mapID ours)

-- Where a map of ours is named, the first one of that name is.
def FirstNamed (world : World) (mapHashes : List Location) : Prop :=
  ∀ mapID ∈ mapHashes, (∃ ours, Wanted world mapID ours) →
    ∃ ours, world.allMaps.find? (fun ours => mapID.locationName == ours.locationName) = some ours ∧
      mapID.knownMD5Hash = ours.knownMD5Hash

theorem required_wanted (required : requiredMap world mapID = some ours) : Wanted world mapID ours := by
  obtain ⟨known,name,hash⟩ := requiredMap_parts required
  exact ⟨known,name,hash,(requiredMap_exact.mp required).2.2⟩

theorem requiredMaps_sound (member : ours ∈ requiredMaps world mapHashes) : ∃ mapID ∈ mapHashes, Wanted world mapID ours := by
  obtain ⟨mapID,within,required⟩ := List.mem_filterMap.mp member
  exact ⟨mapID,within,required_wanted required⟩

-- The list holds a map for the entry exactly if the first one of its name has its hash.
theorem requiredMaps_complete (member : mapID ∈ mapHashes) (wanted : Wanted world mapID any) :
    (∃ ours ∈ requiredMaps world mapHashes, Wanted world mapID ours) ↔
      ∃ ours, world.allMaps.find? (fun ours => mapID.locationName == ours.locationName) = some ours ∧
        mapID.knownMD5Hash = ours.knownMD5Hash := by
  constructor
  · intro listed
    obtain ⟨ours,required,also⟩ := listed
    -- It may be there for another entry of the same name and hash.
    obtain ⟨other,_,chosen⟩ := List.mem_filterMap.mp required
    have found := (requiredMap_exact.mp chosen).1
    have named : other.locationName = ours.locationName := (required_wanted chosen).name
    refine ⟨ours,?_,also.hash⟩
    rw [also.name,← named]
    exact found
  · intro first
    obtain ⟨ours,found,hash⟩ := first
    have required := requiredMap_exact.mpr ⟨found,hash,wanted.free⟩
    exact ⟨ours,List.mem_filterMap.mpr ⟨mapID,member,required⟩,required_wanted required⟩

theorem handler_answers (world : World) (receives : Receives env connection io mapHashes) :
    ∃ handled, processMapListSocket env world connection io = .ok handled ∧ handled.effects = [.received io.recv.bytes,
      .sent (if requiredMaps world mapHashes = [] then .mapServerNotNeeded else .mapServerMapList (requiredMaps world mapHashes))
        io.sendResult] := by
  obtain ⟨socket,owned⟩ := Option.ne_none_iff_exists'.mp receives.owned
  unfold processMapListSocket
  simp only [owned,receives.active,Bool.not_true,Bool.false_eq_true,if_false,receives.got,receives.opcode,ne_eq,
    not_true_eq_false,receives.decoded]
  cases required : requiredMaps world mapHashes with
  | nil => exact ⟨_,rfl,rfl⟩
  | cons first rest => exact ⟨_,rfl,rfl⟩

theorem required_maps_answered (receives : Receives env connection io mapHashes) :
    Replies env world connection io mapHashes ↔ FirstNamed world mapHashes := by
  constructor
  · intro replies mapID member wanted
    obtain ⟨ours,also⟩ := wanted
    exact (requiredMaps_complete member also).mp (replies.complete mapID member ⟨ours,also⟩)
  · intro first
    have complete : ∀ mapID ∈ mapHashes, (∃ ours, Wanted world mapID ours) →
        ∃ ours ∈ requiredMaps world mapHashes, Wanted world mapID ours := by
      intro mapID member any
      obtain ⟨ours,wanted⟩ := any
      exact (requiredMaps_complete member wanted).mpr (first mapID member ⟨ours,wanted⟩)
    refine ⟨complete,fun ours member => requiredMaps_sound member,?_⟩
    obtain ⟨handled,ran,effects⟩ := handler_answers world receives
    refine ⟨handled,ran,?_⟩
    rw [effects]
    cases required : requiredMaps world mapHashes with
    | nil =>
      apply iff_of_true (by simp)
      intro any
      obtain ⟨mapID,member,wanted⟩ := any
      obtain ⟨ours,within,_⟩ := complete mapID member wanted
      rw [required] at within
      cases within
    | cons ours rest =>
      refine iff_of_false (by simp) (not_not.mpr ?_)
      have within : ours ∈ requiredMaps world mapHashes := by rw [required]; exact List.mem_cons_self
      obtain ⟨mapID,member,wanted⟩ := requiredMaps_sound within
      exact ⟨mapID,member,ours,wanted⟩

-- Two files of one name; the second one's hash is asked for.
def twoTowns : List MapFile := [mapFile "a.tmx" "town" 1 "a",mapFile "b.tmx" "town" 1 "b"]

def townAt (hash : String) : Location := ⟨0,text "town",[],makeMD5Hash plainMD5 (text hash),1⟩

def askFor (hash : String) : SocketIO := .delivers ((ServerPacket.mapServerMapList [townAt hash]).buffer .network)

def asking (hash : String) : Env := .plain [MapServerMapList.document [townAt hash]]

def asker : IncomingConnection := {IncomingConnection.ofSocket ⟨0,false,true⟩ with state := .MAP_LIST}

def townWorld (loaded : Loaded) : World := (LoginServer.start .empty [] loaded.allMaps loaded.mapIDToName).toWorld

def loadedTowns : Loaded := (processMaps plainMD5 asGiven noRows twoTowns).get (by decide +kernel)

theorem loadedTowns_ran : processMaps plainMD5 asGiven noRows twoTowns = some loadedTowns := (Option.some_get _).symm

theorem loadedTowns_maps : loadedTowns.allMaps =
    [{townAt "a" with knownFileName := text "a.tmx"},{townAt "b" with knownFileName := text "b.tmx"}] := by decide +kernel

theorem first_hash_answered : Replies (asking "a") (townWorld loadedTowns) asker (askFor "a") [townAt "a"] := by
  have receives : Receives (asking "a") asker (askFor "a") [townAt "a"] :=
    ⟨nofun,rfl,by decide +kernel,by decide +kernel,by decide +kernel⟩
  apply (required_maps_answered receives).mpr
  rintro mapID member _
  rw [List.mem_singleton.mp member]
  refine ⟨{townAt "a" with knownFileName := text "a.tmx"},?_,rfl⟩
  change loadedTowns.allMaps.find? _ = _
  rw [loadedTowns_maps]
  rfl

theorem second_hash_unanswered : processMaps plainMD5 asGiven noRows twoTowns = some loadedTowns ∧
    ¬ Replies (asking "b") (townWorld loadedTowns) asker (askFor "b") [townAt "b"] := by
  refine ⟨loadedTowns_ran,fun replies => ?_⟩
  have wanted : Wanted (townWorld loadedTowns) (townAt "b") {townAt "b" with knownFileName := text "b.tmx"} := by
    refine ⟨?_,rfl,rfl,rfl⟩
    change _ ∈ loadedTowns.allMaps
    rw [loadedTowns_maps]
    exact List.mem_cons_of_mem _ List.mem_cons_self
  obtain ⟨ours,member,_⟩ := replies.complete (townAt "b") List.mem_cons_self ⟨_,wanted⟩
  have none : requiredMaps (townWorld loadedTowns) [townAt "b"] = [] := by decide +kernel
  rw [none] at member
  cases member

end PlayPG.MapRequests
