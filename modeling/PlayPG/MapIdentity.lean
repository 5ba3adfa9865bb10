import PlayPG.MapAssignment
import PlayPG.MapLoading

-- One map file, loaded by the login server from one path and by a map server
-- from another: when what the map server announces is what the login server knows.
namespace PlayPG.MapIdentity
open Bytes IncomingHandler MapAssignment MapLoading

-- GetFilename is the path that ParseFile was given; the rest is read from the file.
def stored (file : Tmx.File) (path : Bytes) : MapFile := ⟨path,some {file with filename := path}⟩

def parseMaps (files : List MapFile) : List Tmx.File := files.filterMap (·.parsed)

-- Location(const Map &), of the map that parseMaps makes of the parsed file.
def ofMap (md5 : MD5) (map : Tmx.File) : Location :=
  ⟨0,resolveNameFromMap map,map.filename,makeMD5Hash md5 map.filehash,resolveVersionFromMap map⟩

def listFromMaps (md5 : MD5) (maps : List Tmx.File) : List Location := maps.map (ofMap md5)

theorem ofMap_parse (md5 : MD5) (map : Tmx.Map) : ofMap md5 map.toFile =
    ⟨0,(Map.parse map).name,(Map.parse map).map.filename,makeMD5Hash md5 (Map.parse map).map.filehash,
      (Map.parse map).version⟩ := rfl

def announced (md5 : MD5) (file : Tmx.File) (mapPath : Bytes) : Location :=
  ofMap md5 {file with filename := mapPath}

def known (md5 : MD5) (file : Tmx.File) (loginPath : Bytes) : Location :=
  fromFile md5 loginPath {file with filename := loginPath}

theorem announced_listed {file : Tmx.File} (member : stored file mapPath ∈ files) :
    announced md5 file mapPath ∈ listFromMaps md5 (parseMaps files) := by
  apply List.mem_map_of_mem
  exact List.mem_filterMap.mpr ⟨_,member,rfl⟩

-- A location as it is before the database gives it an id.
def unnumbered (location : Location) : Location := {location with id := 0}

theorem loadLocation_allMaps (ran : loadLocation db s l = some next) (new : l.id = 0) :
    next.allMaps.map unnumbered = s.allMaps.map unnumbered ++ [l] := by
  have renumbered : ∀ id, unnumbered {l with id := id} = l := by
    intro id
    rw [unnumbered,← new]
  unfold loadLocation at ran
  cases found : s.table.find l.locationName with
  | none =>
    simp only [found] at ran
    obtain ⟨⟨table,newLocID⟩,_,rfl⟩ := Option.map_eq_some_iff.mp ran
    simp [Loaded.add,renumbered]
  | some databaseLocation =>
    simp only [found] at ran
    split_ifs at ran with same older
    · cases ran
      simp [Loaded.add,renumbered]
    · obtain ⟨table,_,rfl⟩ := Option.map_eq_some_iff.mp ran
      simp [Loaded.add,renumbered]
    · cases ran
      simp [Loaded.add,renumbered]

-- The numbers apart, allMaps is what the files hold, in their order.
theorem processMaps_allMaps (ran : processMaps md5 db table files = some loaded) :
    loaded.allMaps.map unnumbered = parsedMaps md5 files := by
  rw [processMaps_locations] at ran
  have all : ∀ (locations : List Location) (s : Loaded), (∀ l ∈ locations, l.id = 0) →
      locations.foldlM (loadLocation db) s = some loaded →
      loaded.allMaps.map unnumbered = s.allMaps.map unnumbered ++ locations := by
    intro locations
    induction locations with
    | nil =>
      intro s _ ran
      cases ran
      simp
    | cons l rest ih =>
      intro s new ran
      rw [List.foldlM_cons] at ran
      obtain ⟨middle,turn,ran⟩ := Option.bind_eq_some_iff.mp ran
      obtain ⟨here,later⟩ := List.forall_mem_cons.mp new
      rw [ih middle later ran,loadLocation_allMaps turn here,List.append_assoc]
      rfl
  refine all _ _ ?_ ran
  intro l member
  obtain ⟨entry,_,same⟩ := List.mem_filterMap.mp member
  obtain ⟨map,_,rfl⟩ := Option.map_eq_some_iff.mp same
  rfl

-- The first location of a name is found among the files as it is among the loaded ones.
theorem allMaps_find (ran : processMaps md5 db table files = some loaded) (name : Bytes) :
    (loaded.allMaps.find? (fun ours => name == ours.locationName)).map unnumbered =
      (parsedMaps md5 files).find? (fun ours => name == ours.locationName) := by
  rw [← processMaps_allMaps ran,List.find?_map]
  rfl

theorem name_same (md5 : MD5) (file : Tmx.File) (loginPath mapPath : Bytes) :
    (announced md5 file mapPath).locationName = (known md5 file loginPath).locationName ↔
      (file.properties.getStringProperty (text "PPG_NAME") ≠ [] ∨ loginPath = mapPath) := by
  change resolveNameFromMap _ = resolveNameFromMap _ ↔ _
  unfold resolveNameFromMap
  by_cases unnamed : file.properties.getStringProperty (text "PPG_NAME") = []
  · simp [unnamed,eq_comm]
  · simp [unnamed]

-- What is announced is what is known, and the list that goes back names it.
structure Recognised (md5 : MD5) (world : World) (file : Tmx.File) (loginPath mapPath : Bytes)
    (mapFiles : List MapFile) : Prop where
  name : (announced md5 file mapPath).locationName = (known md5 file loginPath).locationName
  hash : (announced md5 file mapPath).knownMD5Hash = (known md5 file loginPath).knownMD5Hash
  matched : ∃ ours ∈ requiredMaps world (listFromMaps md5 (parseMaps mapFiles)),
    requiredMap world (announced md5 file mapPath) = some ours

-- The first file of its name has its hash: this one, or one before it.
def Leads (md5 : MD5) (early : List MapFile) (ours : Location) : Prop :=
  ∀ first, (parsedMaps md5 early).find? (fun other => ours.locationName == other.locationName) = some first →
    first.knownMD5Hash = ours.knownMD5Hash

theorem parsedMaps_stored (md5 : MD5) (file : Tmx.File) (loginPath : Bytes) (early late : List MapFile) :
    parsedMaps md5 (early ++ stored file loginPath :: late) =
      parsedMaps md5 early ++ known md5 file loginPath :: parsedMaps md5 late := by
  rw [parsedMaps,List.filterMap_append]
  rfl

-- The search ends at this file, or at an earlier one of its name.
theorem known_first {file : Tmx.File} (ran : processMaps md5 db table (early ++ stored file loginPath :: late) = some loaded) :
    (∃ ours, loaded.allMaps.find? (fun ours => (known md5 file loginPath).locationName == ours.locationName) =
        some ours ∧ (known md5 file loginPath).knownMD5Hash = ours.knownMD5Hash) ↔
      Leads md5 early (known md5 file loginPath) := by
  have search := allMaps_find ran (known md5 file loginPath).locationName
  rw [parsedMaps_stored,List.find?_append] at search
  unfold Leads
  cases earlier : (parsedMaps md5 early).find? (fun other =>
      (known md5 file loginPath).locationName == other.locationName) with
  | none =>
    rw [earlier,Option.none_or,List.find?_cons_of_pos (by simp)] at search
    obtain ⟨ours,found,same⟩ := Option.map_eq_some_iff.mp search
    have hash : (known md5 file loginPath).knownMD5Hash = ours.knownMD5Hash := by
      rw [← same]
      rfl
    simp [found,hash]
  | some first =>
    rw [earlier,Option.some_or] at search
    obtain ⟨ours,found,rfl⟩ := Option.map_eq_some_iff.mp search
    simp only [found,Option.some.injEq,exists_eq_left',forall_eq']
    exact eq_comm

theorem file_recognised {file : Tmx.File} (world : World)
    (ran : processMaps md5 db table (early ++ stored file loginPath :: late) = some loaded)
    (unassigned : world.mapNameToConnection (known md5 file loginPath).locationName = none)
    (announces : stored file mapPath ∈ mapFiles) :
    Recognised md5 {world with allMaps := loaded.allMaps} file loginPath mapPath mapFiles ↔
      (file.properties.getStringProperty (text "PPG_NAME") ≠ [] ∨ loginPath = mapPath) ∧
      Leads md5 early (known md5 file loginPath) := by
  rw [← name_same md5,← known_first ran]
  constructor
  · intro recognised
    obtain ⟨ours,_,required⟩ := recognised.matched
    obtain ⟨found,hash,_⟩ := requiredMap_exact.mp required
    rw [recognised.name] at found
    exact ⟨recognised.name,ours,found,hash⟩
  · intro alike
    obtain ⟨name,ours,found,hash⟩ := alike
    have required : requiredMap {world with allMaps := loaded.allMaps} (announced md5 file mapPath) = some ours := by
      apply requiredMap_exact.mpr
      rw [name]
      exact ⟨found,hash,unassigned⟩
    exact ⟨name,rfl,ours,List.mem_filterMap.mpr ⟨_,announced_listed announces,required⟩,required⟩

def named : Tmx.File := ⟨[],text "b",fun _ => text "town",fun _ default => default⟩

def knownTown : Loaded := (processMaps plainMD5 asGiven noRows [stored named (text "town.tmx")]).get (by decide +kernel)

theorem knownTown_ran : processMaps plainMD5 asGiven noRows ([] ++ stored named (text "town.tmx") :: []) = some knownTown :=
  (Option.some_get _).symm

theorem file_recognised_named : Recognised plainMD5
    {(LoginServer.start .empty [] [] .empty).toWorld with allMaps := knownTown.allMaps} named
    (text "town.tmx") (text "maps/town.tmx") [stored named (text "maps/town.tmx")] := by
  refine (file_recognised (LoginServer.start .empty [] [] .empty).toWorld knownTown_ran rfl (by simp)).mpr ⟨.inl ?_,?_⟩
  · exact List.cons_ne_nil _ _
  · intro first found
    cases found

-- A map without a name is called after where it lies.
def unnamed : Tmx.File := {named with properties.getStringProperty := fun _ => []}

theorem file_unrecognised : ¬∀ file loginPath mapPath,
    (announced plainMD5 file mapPath).locationName = (known plainMD5 file loginPath).locationName := by
  intro claim
  have named := (name_same plainMD5 unnamed (text "town.tmx") (text "maps/town.tmx")).mp (claim _ _ _)
  rcases named with named | same
  · exact named rfl
  · exact absurd same (by decide)

end PlayPG.MapIdentity
