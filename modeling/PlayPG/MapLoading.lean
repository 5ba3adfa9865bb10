import Mathlib.Data.List.Nodup
import PlayPG.Newest
import PlayPG.TiledMap
import PlayPG.ConnectedHandler

namespace PlayPG.MapLoading
open Bytes Newest

-- OpenSSL's MD5.
abbrev MD5 := Bytes → {digest : Bytes // digest.length = 16}

def makeMD5Hash (md5 : MD5) (base64Hash : Bytes) : Bytes := ByteArrayUtil.byteArrayToString (md5 base64Hash).val

-- The rows of locations; id is the primary key.
structure Table where
  rows : List Location
  ids : (rows.map (·.id)).Nodup

-- A new row takes the id that AUTO_INCREMENT gives, and the columns keep what their types
-- allow; none is a write that the database rejects.
structure Database where
  newID : List Location → UInt64
  columns : Location → Option Location

namespace Table

-- The first result of the query by name.
def find (table : Table) (locationName : Bytes) : Option Location :=
  table.rows.find? (fun row => row.locationName == locationName)

def insert (table : Table) (row : Location) : Option Table :=
  if fresh : row.id ∉ table.rows.map (·.id) then
    some ⟨table.rows ++ [row],by
      rw [List.map_append,List.nodup_append]
      refine ⟨table.ids,List.nodup_singleton _,?_⟩
      rintro id member _ last rfl
      rw [List.mem_singleton.mp last] at member
      exact fresh member⟩
  else none

def put (row old : Location) : Location := if old.id = row.id then row else old

theorem put_ids (row : Location) (rows : List Location) : (rows.map (put row)).map (·.id) = rows.map (·.id) := by
  rw [List.map_map]
  apply List.map_congr_left
  intro old _
  by_cases same : old.id = row.id <;> simp [put,same]

def replace (table : Table) (row : Location) : Table := ⟨table.rows.map (put row),by rw [put_ids]; exact table.ids⟩

def Unique (table : Table) : Prop := (table.rows.map (·.locationName)).Nodup

instance (table : Table) : Decidable table.Unique := by unfold Unique; infer_instance

theorem find_parts (found : find table name = some row) : row ∈ table.rows ∧ row.locationName = name := by
  unfold find at found
  exact ⟨List.mem_of_find?_eq_some found,by simpa using List.find?_some found⟩

theorem find_none (absent : find table name = none) (member : row ∈ table.rows) : row.locationName ≠ name := by
  intro same
  exact List.find?_eq_none.mp absent row member (beq_iff_eq.mpr same)

-- Two rows of one id, or of one name, are the same row.
theorem row_id (table : Table) (one : row ∈ table.rows) (other : old ∈ table.rows) (same : row.id = old.id) : row = old :=
  List.inj_on_of_nodup_map table.ids one other same

theorem row_name (unique : Unique table) (one : row ∈ table.rows) (other : old ∈ table.rows)
    (same : row.locationName = old.locationName) : row = old :=
  List.inj_on_of_nodup_map unique one other same

theorem find_mem (unique : Unique table) (member : row ∈ table.rows) : table.find row.locationName = some row := by
  cases found : table.find row.locationName with
  | none => exact absurd rfl (find_none found member)
  | some other =>
    obtain ⟨within,same⟩ := find_parts found
    rw [row_name unique within member same]

theorem insert_parts (inserted : insert table row = some next) : row.id ∉ table.rows.map (·.id) ∧ next.rows = table.rows ++ [row] := by
  unfold insert at inserted
  split at inserted
  · rename_i fresh
    cases inserted
    exact ⟨fresh,rfl⟩
  · cases inserted

theorem insert_unique (inserted : insert table row = some next) (unique : Unique table)
    (absent : table.find row.locationName = none) : Unique next := by
  rw [Unique,(insert_parts inserted).2,List.map_append,List.nodup_append]
  refine ⟨unique,List.nodup_singleton _,?_⟩
  rintro _ member name last rfl
  obtain ⟨old,within,same⟩ := List.mem_map.mp member
  exact find_none absent within (same.trans (List.mem_singleton.mp last))

theorem insert_find (inserted : insert table row = some next) (absent : table.find row.locationName = none) :
    next.find = Function.update table.find row.locationName (some row) := by
  funext name
  rw [find,(insert_parts inserted).2,List.find?_append]
  by_cases same : name = row.locationName
  · subst same
    rw [Function.update_self]
    change (table.find row.locationName).or _ = _
    rw [absent]
    simp
  · rw [Function.update_of_ne same]
    change (table.find name).or _ = _
    simp [Ne.symm same]

-- A row that is put in the place of one with its name leaves every other name alone.
theorem put_name (table : Table) (member : old ∈ table.rows) (held : row ∈ table.rows) (id : new.id = row.id)
    (name : new.locationName = row.locationName) : (put new old).locationName = old.locationName := by
  by_cases same : old.id = new.id
  · rw [put,if_pos same,name,row_id table member held (same.trans id)]
  · rw [put,if_neg same]

theorem replace_unique (unique : Unique table) (held : row ∈ table.rows) (id : new.id = row.id)
    (name : new.locationName = row.locationName) : Unique (table.replace new) := by
  have names : (table.rows.map (put new)).map (·.locationName) = table.rows.map (·.locationName) := by
    rw [List.map_map]
    exact List.map_congr_left fun old member => put_name table member held id name
  rw [Unique,replace,names]
  exact unique

theorem replace_find (unique : Unique table) (held : row ∈ table.rows) (id : new.id = row.id)
    (name : new.locationName = row.locationName) :
    (table.replace new).find = Function.update table.find new.locationName (some new) := by
  funext asked
  have whole := replace_unique unique held id name
  by_cases same : asked = new.locationName
  · subst same
    rw [Function.update_self]
    refine find_mem whole (List.mem_map.mpr ⟨row,held,?_⟩)
    rw [put,if_pos id.symm]
  · rw [Function.update_of_ne same]
    cases found : table.find asked with
    | none =>
      apply List.find?_eq_none.mpr
      intro other member found_
      obtain ⟨old,within,rfl⟩ := List.mem_map.mp member
      rw [put_name table within held id name] at found_
      exact find_none found within (beq_iff_eq.mp found_)
    | some old =>
      obtain ⟨within,rfl⟩ := find_parts found
      have apart : old.id ≠ new.id := fun equal =>
        same (by rw [row_id table within held (equal.trans id),name])
      refine find_mem whole (List.mem_map.mpr ⟨old,within,?_⟩)
      rw [put,if_neg apart]

end Table

-- The object's id is set by persist and names the row for update.
def Database.persist (db : Database) (table : Table) (location : Location) : Option (Table × UInt64) :=
  match db.columns location with
  | none => none
  | some stored =>
    let newLocID := db.newID table.rows
    (table.insert {stored with id := newLocID}).map (·,newLocID)

def Database.update (db : Database) (table : Table) (location : Location) : Option Table :=
  (db.columns location).map fun stored => table.replace {stored with id := location.id}

-- none: HasError after ParseFile.
structure MapFile where
  mapPath : Bytes
  parsed : Option Tmx.File

-- writes keeps the locations that were persisted or updated.
structure Loaded where
  table : Table
  allMaps : List Location
  mapIDToName : UnorderedMap UInt64 Bytes
  writes : List Location

def Loaded.add (s : Loaded) (loadedLocation : Location) : Loaded := {s with
  allMaps := s.allMaps ++ [loadedLocation]
  mapIDToName := s.mapIDToName.emplace loadedLocation.id loadedLocation.locationName}

def fromFile (md5 : MD5) (mapPath : Bytes) (map : Tmx.File) : Location :=
  ⟨0,resolveNameFromMap map,mapPath,makeMD5Hash md5 map.filehash,resolveVersionFromMap map⟩

-- The turn of the loop for a file that was parsed.
def loadLocation (db : Database) (s : Loaded) (loadedLocation : Location) : Option Loaded :=
  match s.table.find loadedLocation.locationName with
  | none =>
    (db.persist s.table loadedLocation).map fun (table,newLocID) =>
      {s with table,writes := s.writes ++ [loadedLocation]}.add {loadedLocation with id := newLocID}
  | some databaseLocation =>
    let loadedLocation := {loadedLocation with id := databaseLocation.id}
    if loadedLocation.version = databaseLocation.version then some (s.add loadedLocation)
    else if databaseLocation.version < loadedLocation.version then
      let databaseLocation := {databaseLocation with
        knownMD5Hash := loadedLocation.knownMD5Hash
        version := loadedLocation.version}
      (db.update s.table databaseLocation).map fun table =>
        {s with table,writes := s.writes ++ [databaseLocation]}.add loadedLocation
    else some (s.add loadedLocation)

variable (md5 : MD5) (db : Database)

def loadMap (s : Loaded) (file : MapFile) : Option Loaded :=
  match file.parsed with
  | none => some s
  | some map => loadLocation db s (fromFile md5 file.mapPath map)

-- none: a database exception leaves the function.
def processMaps (table : Table) (files : List MapFile) : Option Loaded :=
  files.foldlM (loadMap md5 db) ⟨table,[],.empty,[]⟩

-- The locations of the files that were parsed, as they are before the database is asked.
def parsedMaps (files : List MapFile) : List Location :=
  files.filterMap fun file => file.parsed.map (fromFile md5 file.mapPath)

theorem processMaps_locations (table : Table) (files : List MapFile) :
    processMaps md5 db table files = (parsedMaps md5 files).foldlM (loadLocation db) ⟨table,[],.empty,[]⟩ := by
  have all : ∀ s, files.foldlM (loadMap md5 db) s = (parsedMaps md5 files).foldlM (loadLocation db) s := by
    induction files with
    | nil => intro s; rfl
    | cons file files ih =>
      intro s
      rw [List.foldlM_cons,parsedMaps,List.filterMap_cons]
      cases parsed : file.parsed with
      | none =>
        simp only [loadMap,parsed,Option.map_none]
        exact ih s
      | some map =>
        simp only [loadMap,parsed,Option.map_some,List.foldlM_cons]
        exact congrArg _ (funext ih)
  exact all _

-- What the table and the maps of the server know of a version: its number and its hash.
def content (location : Location) : UInt32 × Bytes := (location.version,location.knownMD5Hash)

def number (content : UInt32 × Bytes) : Nat := content.1.toNat

-- A turn of the loop: row is the row of the location's name after it.
structure Enters (s : Loaded) (l row : Location) (next : Loaded) : Prop where
  unique : next.table.Unique
  find : next.table.find = Function.update s.table.find l.locationName (some row)
  name : row.locationName = l.locationName
  kept : ∀ old, s.table.find l.locationName = some old → row.id = old.id ∧ row.knownFileName = old.knownFileName
  allMaps : next.allMaps = s.allMaps ++ [{l with id := row.id}]
  mapIDToName : next.mapIDToName = s.mapIDToName.emplace row.id l.locationName

-- And where the columns keep every value, the newer of the two contents.
structure Loads (s : Loaded) (l row : Location) (next : Loaded) : Prop extends Enters s l row next where
  content : content row = keep number ((s.table.find l.locationName).map content) (content l)
  size : next.table.rows.length ≤ s.table.rows.length + 1

variable {db}

theorem loadLocation_new (stores : ∀ location, db.columns location = some location) (unique : s.table.Unique)
    (absent : s.table.find l.locationName = none) (fresh : db.newID s.table.rows ∉ s.table.rows.map (·.id)) :
    ∃ next, loadLocation db s l = some next ∧ Loads s l {l with id := db.newID s.table.rows} next := by
  have inserted : ∃ table, s.table.insert {l with id := db.newID s.table.rows} = some table := by
    unfold Table.insert
    rw [dif_pos fresh]
    exact ⟨_,rfl⟩
  obtain ⟨table,inserted⟩ := inserted
  refine ⟨_,by simp only [loadLocation,absent,Database.persist,stores,inserted,Option.map_some]; rfl,?_⟩
  refine ⟨⟨Table.insert_unique inserted unique absent,Table.insert_find inserted absent,rfl,?_,rfl,rfl⟩,?_,?_⟩
  · intro old found
    rw [absent] at found
    cases found
  · rw [absent]
    rfl
  · change table.rows.length ≤ _
    rw [(Table.insert_parts inserted).2,List.length_append]
    exact Nat.le_refl _

-- A row that is as new as the location stays.
theorem loads_held (unique : s.table.Unique) (found : s.table.find l.locationName = some old)
    (current : ¬ old.version < l.version) : Loads s l old (s.add {l with id := old.id}) := by
  have same : s.table.find = Function.update s.table.find l.locationName (some old) := by
    rw [← found,Function.update_eq_self]
  have lower : ¬ number (content old) < number (content l) := fun higher => current (UInt32.lt_iff_toNat_lt.mpr higher)
  refine ⟨⟨unique,same,(Table.find_parts found).2,?_,rfl,rfl⟩,?_,Nat.le_succ _⟩
  · intro other again
    cases found.symm.trans again
    exact ⟨rfl,rfl⟩
  · rw [found,Option.map_some,keep,if_neg lower]

theorem loads_replaced (unique : s.table.Unique) (found : s.table.find l.locationName = some old)
    (newer : old.version < l.version) :
    let row := {old with knownMD5Hash := l.knownMD5Hash,version := l.version}
    Loads s l row ({s with table := s.table.replace row,writes := s.writes ++ [row]}.add {l with id := old.id}) := by
  intro row
  obtain ⟨member,name⟩ := Table.find_parts found
  have higher : number (content old) < number (content l) := UInt32.lt_iff_toNat_lt.mp newer
  refine ⟨⟨Table.replace_unique unique member rfl rfl,?_,name,?_,rfl,rfl⟩,?_,?_⟩
  · rw [← name]
    exact Table.replace_find unique member rfl rfl
  · intro other again
    cases found.symm.trans again
    exact ⟨rfl,rfl⟩
  · rw [found,Option.map_some,keep,if_pos higher]
    rfl
  · change (s.table.rows.map _).length ≤ _
    rw [List.length_map]
    exact Nat.le_succ _

theorem loadLocation_found (stores : ∀ location, db.columns location = some location) (unique : s.table.Unique)
    (found : s.table.find l.locationName = some old) : ∃ row next, loadLocation db s l = some next ∧ Loads s l row next := by
  by_cases newer : old.version < l.version
  · have apart : l.version ≠ old.version := by
      intro equal
      rw [equal] at newer
      exact UInt32.lt_irrefl _ newer
    refine ⟨_,_,?_,loads_replaced unique found newer⟩
    simp only [loadLocation,found,if_neg apart,if_pos newer,Database.update,stores,Option.map_some]
  · refine ⟨old,_,?_,loads_held unique found newer⟩
    simp only [loadLocation,found,if_neg newer,ite_self]

def entries (name : Bytes) (locations : List Location) : List (UInt32 × Bytes) :=
  (locations.filter (·.locationName = name)).map content

-- The ids that lead to a map are those of the rows of the loaded names.
def Names (loaded : List Location) (s : Loaded) : Prop := ∀ id name, s.mapIDToName id = some name ↔
  ∃ row, s.table.find name = some row ∧ row.id = id ∧ ∃ l ∈ loaded, l.locationName = name

-- The table after some locations refines the newest content of each name; the ids that were there stay.
structure Refines (table : Table) (loaded : List Location) (s : Loaded) : Prop where
  unique : s.table.Unique
  newest : ∀ name, (s.table.find name).map content = newest number (entries name (table.rows ++ loaded))
  kept : ∀ name old, table.find name = some old →
    ∃ row, s.table.find name = some row ∧ row.id = old.id ∧ row.knownFileName = old.knownFileName
  others : ∀ name, (∀ l ∈ loaded, l.locationName ≠ name) → s.table.find name = table.find name
  allMaps : List.Forall₂ (fun l ours => ∃ row, s.table.find l.locationName = some row ∧ ours = {l with id := row.id})
    loaded s.allMaps
  names : Names loaded s
  size : s.table.rows.length ≤ table.rows.length + loaded.length

theorem filter_find (rows : List Location) (unique : (rows.map (·.locationName)).Nodup) (name : Bytes) :
    rows.filter (·.locationName = name) = (rows.find? (·.locationName == name)).toList := by
  induction rows with
  | nil => rfl
  | cons row rows ih =>
    obtain ⟨fresh,unique⟩ := List.nodup_cons.mp unique
    by_cases same : row.locationName = name
    · have none : ∀ other ∈ rows, ¬ decide (other.locationName = name) = true := by
        intro other member also
        exact fresh (List.mem_map.mpr ⟨other,member,(of_decide_eq_true also).trans same.symm⟩)
      rw [List.filter_cons_of_pos (by simpa using same),List.filter_eq_nil_iff.mpr none,
        List.find?_cons_of_pos (by simpa using same)]
      rfl
    · rw [List.filter_cons_of_neg (by simpa using same),List.find?_cons_of_neg (by simpa using same)]
      exact ih unique

theorem entries_rows (unique : Table.Unique table) (name : Bytes) :
    newest number (entries name table.rows) = (table.find name).map content := by
  rw [entries,filter_find _ unique]
  change newest number ((table.find name).toList.map content) = _
  cases table.find name <;> rfl

theorem refines_start (unique : Table.Unique table) : Refines table [] ⟨table,[],.empty,[]⟩ := by
  refine ⟨unique,?_,?_,fun _ _ => rfl,.nil,?_,Nat.le_refl _⟩
  · intro name
    rw [List.append_nil,entries_rows unique]
  · intro name old found
    exact ⟨old,found,rfl,rfl⟩
  · intro id name
    constructor
    · intro found
      cases found
    · intro named
      obtain ⟨_,_,_,_,member,_⟩ := named
      cases member

theorem enters_here (enters : Enters s l row next) : next.table.find l.locationName = some row := by
  rw [enters.find,Function.update_self]

theorem enters_elsewhere (enters : Enters s l row next) (apart : name ≠ l.locationName) :
    next.table.find name = s.table.find name := by
  rw [enters.find,Function.update_of_ne apart]

-- A row that was there keeps its id and its file name.
theorem enters_row (enters : Enters s l row next) (found : s.table.find name = some old) :
    ∃ new, next.table.find name = some new ∧ new.id = old.id ∧ new.knownFileName = old.knownFileName := by
  by_cases same : name = l.locationName
  · subst same
    exact ⟨row,enters_here enters,enters.kept old found⟩
  · exact ⟨old,by rw [enters_elsewhere enters same,found],rfl,rfl⟩

theorem newest_loads (refines : Refines table loaded s) (loads : Loads s l row next) (name : Bytes) :
    (next.table.find name).map content = newest number (entries name (table.rows ++ (loaded ++ [l]))) := by
  rw [← List.append_assoc,entries,List.filter_append,List.map_append]
  by_cases same : name = l.locationName
  · subst same
    rw [enters_here loads.toEnters,List.filter_singleton]
    simp only [decide_true,cond_true,List.map_cons,List.map_nil,newest_snoc,Option.map_some,loads.content]
    rw [refines.newest]
    rfl
  · rw [enters_elsewhere loads.toEnters same,refines.newest,List.filter_singleton]
    simp [entries,Ne.symm same]

-- No other name has the id of the row, so an id that is known already is known for this name.
theorem names_here (names : Names loaded s) (enters : Enters s l row next) :
    next.mapIDToName row.id = some l.locationName := by
  rw [enters.mapIDToName]
  cases known : s.mapIDToName row.id with
  | none => exact UnorderedMap.emplace_absent _ _ known
  | some name =>
    obtain ⟨old,within,id,_⟩ := (names _ _).mp known
    obtain ⟨new,again,kept,_⟩ := enters_row enters within
    have equal := next.table.row_id (Table.find_parts again).1 (Table.find_parts (enters_here enters)).1 (kept.trans id)
    have named : name = l.locationName := by rw [← (Table.find_parts again).2,equal,enters.name]
    rw [UnorderedMap.emplace_found _ _ _ known,named]

theorem names_enters (names : Names loaded s) (enters : Enters s l row next) : Names (loaded ++ [l]) next := by
  intro id name
  constructor
  · intro found
    rw [enters.mapIDToName] at found
    rcases UnorderedMap.emplace_parts _ _ _ found with old | ⟨rfl,rfl,_⟩
    · obtain ⟨row,within,rfl,other,member,rfl⟩ := (names id name).mp old
      obtain ⟨new,again,same,_⟩ := enters_row enters within
      exact ⟨new,again,same,other,by simp [member],rfl⟩
    · exact ⟨row,enters_here enters,rfl,l,by simp,rfl⟩
  · intro held
    obtain ⟨new,found,rfl,other,member,rfl⟩ := held
    by_cases same : other.locationName = l.locationName
    · rw [same] at found ⊢
      cases (enters_here enters).symm.trans found
      exact names_here names enters
    · have early : other ∈ loaded := by
        rcases List.mem_append.mp member with early | last
        · exact early
        · rw [List.mem_singleton.mp last] at same
          exact absurd rfl same
      rw [enters_elsewhere enters same] at found
      rw [enters.mapIDToName]
      exact UnorderedMap.emplace_found _ _ _ ((names _ _).mpr ⟨new,found,rfl,other,early,rfl⟩)

theorem refines_loads (refines : Refines table loaded s) (loads : Loads s l row next) : Refines table (loaded ++ [l]) next := by
  refine ⟨loads.unique,newest_loads refines loads,?_,?_,?_,names_enters refines.names loads.toEnters,?_⟩
  · intro name old found
    obtain ⟨middle,first,id,file⟩ := refines.kept name old found
    obtain ⟨new,second,same,kept⟩ := enters_row loads.toEnters first
    exact ⟨new,second,same.trans id,kept.trans file⟩
  · intro name none
    rw [enters_elsewhere loads.toEnters (none l (by simp)).symm]
    exact refines.others name fun l member => none l (by simp [member])
  · rw [loads.allMaps]
    refine List.rel_append ?_ (.cons ⟨row,enters_here loads.toEnters,rfl⟩ .nil)
    refine List.Forall₂.imp ?_ refines.allMaps
    intro l ours held
    obtain ⟨old,found,rfl⟩ := held
    obtain ⟨new,again,id,_⟩ := enters_row loads.toEnters found
    exact ⟨new,again,by rw [id]⟩
  · have grown := loads.size
    have bound := refines.size
    rw [List.length_append,List.length_singleton]
    omega

-- The id of a new row is not in use, as long as the table has room for the loaded maps.
def Fresh (db : Database) (table : Table) (count : Nat) : Prop :=
  ∀ rows : List Location, rows.length < table.rows.length + count → db.newID rows ∉ rows.map (·.id)

theorem loadLocations_refines (stores : ∀ location, db.columns location = some location) (unique : Table.Unique table)
    (fresh : Fresh db table loaded.length) :
    ∃ s, loaded.foldlM (loadLocation db) ⟨table,[],.empty,[]⟩ = some s ∧ Refines table loaded s := by
  induction loaded using List.reverseRecOn with
  | nil => exact ⟨_,rfl,refines_start unique⟩
  | append_singleton loaded l ih =>
    have earlier : Fresh db table loaded.length := fun rows bound =>
      fresh rows (by rw [List.length_append,List.length_singleton]; omega)
    obtain ⟨s,ran,refines⟩ := ih earlier
    have turn : ∃ row next, loadLocation db s l = some next ∧ Loads s l row next := by
      cases found : s.table.find l.locationName with
      | none =>
        have bound := refines.size
        have unused := fresh s.table.rows (by rw [List.length_append,List.length_singleton]; omega)
        obtain ⟨next,ran,loads⟩ := loadLocation_new stores refines.unique found unused
        exact ⟨_,next,ran,loads⟩
      | some old => exact loadLocation_found stores refines.unique found
    obtain ⟨row,next,step,loads⟩ := turn
    refine ⟨next,?_,refines_loads refines loads⟩
    rw [List.foldlM_append,ran]
    simpa using step

-- What the loop comes to, whatever the order of the files.
structure Merged (table : Table) (loaded : List Location) (s : Loaded) : Prop where
  unique : s.table.Unique
  present : ∀ l ∈ loaded, ∃ row ∈ s.table.rows, row.locationName = l.locationName
  kept : ∀ old ∈ table.rows, ∃ row ∈ s.table.rows, row.id = old.id ∧ row.locationName = old.locationName ∧
    row.knownFileName = old.knownFileName ∧ old.version ≤ row.version
  greatest : ∀ row ∈ s.table.rows,
    IsGreatest {v | ∃ l ∈ table.rows ++ loaded, l.locationName = row.locationName ∧ l.version.toNat = v} row.version.toNat
  pair : ∀ row ∈ s.table.rows, ∃ l ∈ table.rows ++ loaded, l.locationName = row.locationName ∧
    l.version = row.version ∧ l.knownMD5Hash = row.knownMD5Hash
  others : ∀ row : Location, (∀ l ∈ loaded, l.locationName ≠ row.locationName) → (row ∈ s.table.rows ↔ row ∈ table.rows)
  allMaps : List.Forall₂ (fun l ours => ∃ row ∈ s.table.rows, row.locationName = l.locationName ∧ ours = {l with id := row.id})
    loaded s.allMaps
  names : ∀ id name, s.mapIDToName id = some name ↔
    ∃ row ∈ s.table.rows, row.id = id ∧ row.locationName = name ∧ ∃ l ∈ loaded, l.locationName = name

theorem mem_entries : e ∈ entries name locations ↔ ∃ l ∈ locations, l.locationName = name ∧ content l = e := by
  simp [entries,and_assoc]

-- A row of the table holds the newest content of its name.
theorem row_newest (refines : Refines table loaded s) (member : row ∈ s.table.rows) :
    newest number (entries row.locationName (table.rows ++ loaded)) = some (content row) := by
  rw [← refines.newest,Table.find_mem refines.unique member]
  rfl

theorem find_row (unique : Table.Unique table) (row : Location) (name : Bytes) :
    table.find name = some row ↔ row ∈ table.rows ∧ row.locationName = name := by
  constructor
  · exact Table.find_parts
  · intro present
    obtain ⟨member,rfl⟩ := present
    exact Table.find_mem unique member

theorem row_greatest (refines : Refines table loaded s) (row : Location) (member : row ∈ s.table.rows) : IsGreatest
    {v | ∃ l ∈ table.rows ++ loaded, l.locationName = row.locationName ∧ l.version.toNat = v} row.version.toNat := by
  have same : {v | ∃ l ∈ table.rows ++ loaded, l.locationName = row.locationName ∧ l.version.toNat = v} =
      {v | ∃ e ∈ entries row.locationName (table.rows ++ loaded), number e = v} := by
    ext v
    constructor
    · intro version
      obtain ⟨l,within,name,rfl⟩ := version
      exact ⟨content l,mem_entries.mpr ⟨l,within,name,rfl⟩,rfl⟩
    · intro version
      obtain ⟨_,entry,rfl⟩ := version
      obtain ⟨l,within,name,rfl⟩ := mem_entries.mp entry
      exact ⟨l,within,name,rfl⟩
  rw [same]
  exact newest_greatest number _ (row_newest refines member)

theorem refines_merged (unique : table.Unique) (refines : Refines table loaded s) : Merged table loaded s := by
  refine ⟨refines.unique,?_,?_,row_greatest refines,?_,?_,?_,?_⟩
  · intro l member
    cases found : s.table.find l.locationName with
    | some row => exact ⟨row,Table.find_parts found⟩
    | none =>
      have empty := newest_none number ((refines.newest l.locationName).symm.trans (by rw [found]; rfl))
      have entry := mem_entries.mpr ⟨l,List.mem_append_right table.rows member,rfl,rfl⟩
      rw [empty] at entry
      cases entry
  · intro old member
    obtain ⟨row,found,id,file⟩ := refines.kept old.locationName old (Table.find_mem unique member)
    obtain ⟨within,name⟩ := Table.find_parts found
    refine ⟨row,within,id,name,file,UInt32.le_iff_toNat_le.mpr ?_⟩
    exact (row_greatest refines row within).2 ⟨old,List.mem_append_left _ member,name.symm,rfl⟩
  · intro row member
    obtain ⟨l,within,name,same⟩ := mem_entries.mp (newest_mem number _ (row_newest refines member))
    exact ⟨l,within,name,(Prod.mk.inj same).1,(Prod.mk.inj same).2⟩
  · intro row apart
    have same := refines.others row.locationName apart
    have left := find_row refines.unique row row.locationName
    have right := find_row unique row row.locationName
    rw [same] at left
    simpa using left.symm.trans right
  · refine List.Forall₂.imp ?_ refines.allMaps
    intro l ours held
    obtain ⟨row,found,same⟩ := held
    exact ⟨row,(Table.find_parts found).1,(Table.find_parts found).2,same⟩
  · intro id name
    rw [refines.names]
    constructor
    · intro held
      obtain ⟨row,found,same,loaded⟩ := held
      exact ⟨row,(Table.find_parts found).1,same,(Table.find_parts found).2,loaded⟩
    · intro held
      obtain ⟨row,member,same,rfl,loaded⟩ := held
      exact ⟨row,Table.find_mem refines.unique member,same,loaded⟩

theorem processMaps_merged (table : Table) (files : List MapFile) (unique : table.Unique)
    (stores : ∀ location, db.columns location = some location) (fresh : Fresh db table (parsedMaps md5 files).length) :
    ∃ s, processMaps md5 db table files = some s ∧ Merged table (parsedMaps md5 files) s := by
  rw [processMaps_locations]
  obtain ⟨s,ran,refines⟩ := loadLocations_refines stores unique fresh
  exact ⟨s,ran,refines_merged unique refines⟩

-- A numbering that never runs out before the ids do.
def firstUnused (rows : List Location) : UInt64 :=
  (((List.range (rows.length + 1)).map UInt64.ofNat).find? fun id => !(rows.map (·.id)).contains id).getD 0

theorem firstUnused_fresh (bound : rows.length < 2^64 - 1) : firstUnused rows ∉ rows.map (·.id) := by
  unfold firstUnused
  cases found : ((List.range (rows.length + 1)).map UInt64.ofNat).find? fun id => !(rows.map (·.id)).contains id with
  | some id =>
    have unused := List.find?_some found
    simpa using unused
  | none =>
    -- All of them would be in use, one more than there are rows.
    have used : (List.range (rows.length + 1)).map UInt64.ofNat ⊆ rows.map (·.id) := by
      intro id member
      have taken := List.find?_eq_none.mp found id member
      simpa using taken
    have distinct : ((List.range (rows.length + 1)).map UInt64.ofNat).Nodup := by
      refine List.Nodup.map_on ?_ List.nodup_range
      intro one first other second same
      rw [List.mem_range] at first second
      have equal := congrArg UInt64.toNat same
      rwa [UInt64.toNat_ofNat_of_lt' (show one < 2^64 by omega),UInt64.toNat_ofNat_of_lt' (show other < 2^64 by omega)] at equal
    have count := (distinct.subperm used).length_le
    simp only [List.length_map,List.length_range] at count
    omega

def asGiven : Database := ⟨firstUnused,some⟩

def plainMD5 : MD5 := fun s => ⟨(s ++ List.replicate 16 0).take 16,by simp⟩

def mapFile (path name : String) (version : Int32) (hash : String) : MapFile where
  mapPath := text path
  parsed := some ⟨text path,text hash,fun _ => text name,fun _ _ => version⟩

def noRows : Table := ⟨[],.nil⟩

-- An old version of a known map, a new map, and two versions of it more.
def harbourTable : Table := ⟨[⟨4,text "harbour",text "harbour.tmx",[],3⟩],by decide⟩

def townFiles : List MapFile := [mapFile "old.tmx" "harbour" 2 "a",mapFile "town.tmx" "town" 1 "b",
  ⟨text "broken.tmx",none⟩,mapFile "town2.tmx" "town" 3 "c",mapFile "town1.tmx" "town" 2 "d"]

theorem processMaps_merged_towns : ∃ s, processMaps plainMD5 asGiven harbourTable townFiles = some s ∧
    Merged harbourTable (parsedMaps plainMD5 townFiles) s :=
  processMaps_merged plainMD5 harbourTable townFiles (by decide) (fun _ => rfl) (fun rows bound =>
    firstUnused_fresh (Nat.lt_trans bound (by decide)))

end PlayPG.MapLoading
