import PlayPG.Codecs
import PlayPG.MapLoading

namespace PlayPG.MapSchema
open Bytes MapLoading

-- What MySQL does with a value that its column has no room for.
inductive SqlMode where
  | strict
  | truncating
  deriving DecidableEq

-- A character of utf8 starts at each byte that does not continue one.
def startsCharacter (b : UInt8) : Bool := b.toNat / 64 ≠ 2

def characters (s : Bytes) : Nat := s.countP startsCharacter

def shorten : Nat → Bytes → Bytes
  | _,[] => []
  | 0,b :: rest => if startsCharacter b then [] else b :: shorten 0 rest
  | n + 1,b :: rest => b :: shorten (if startsCharacter b then n else n + 1) rest

def varchar (mode : SqlMode) (n : Nat) (s : Bytes) : Option Bytes :=
  if characters s ≤ n then some s
  else
    match mode with
    | .strict => none
    | .truncating => some (shorten n s)

def int11 (mode : SqlMode) (v : UInt32) : Option UInt32 :=
  if v.toNat < 2 ^ 31 then some v
  else
    match mode with
    | .strict => none
    | .truncating => some 2147483647

-- CREATE TABLE locations
def columns (mode : SqlMode) (location : Location) : Option Location := do
  let locationName ← varchar mode 50 location.locationName
  let knownFileName ← varchar mode 255 location.knownFileName
  let knownMD5Hash ← varchar mode 25 location.knownMD5Hash
  let version ← int11 mode location.version
  return {location with locationName,knownFileName,knownMD5Hash,version}

-- A table that was stored in these columns.
structure Stored (mode : SqlMode) extends Table where
  stored : ∀ row ∈ rows, columns mode row = some row

theorem shorten_characters (n : Nat) (s : Bytes) : characters (shorten n s) ≤ n := by
  induction s generalizing n with
  | nil => cases n <;> exact Nat.zero_le _
  | cons b rest ih =>
    unfold characters at ih ⊢
    cases n with
    | zero =>
      unfold shorten
      split
      · exact Nat.le_refl _
      · rename_i continued
        rw [List.countP_cons_of_neg continued]
        exact ih 0
    | succ n =>
      unfold shorten
      by_cases starts : startsCharacter b = true
      · rw [if_pos starts,List.countP_cons_of_pos starts]
        exact Nat.succ_le_succ (ih n)
      · rw [if_neg starts,List.countP_cons_of_neg starts]
        exact ih (n + 1)

theorem varchar_characters (kept : varchar mode n s = some t) : characters t ≤ n := by
  unfold varchar at kept
  split at kept
  · cases kept
    assumption
  · cases mode with
    | strict => cases kept
    | truncating =>
      cases kept
      exact shorten_characters n s

theorem columns_parts (kept : columns mode location = some stored) :
    ∃ locationName knownFileName knownMD5Hash version, varchar mode 50 location.locationName = some locationName ∧
      varchar mode 255 location.knownFileName = some knownFileName ∧
      varchar mode 25 location.knownMD5Hash = some knownMD5Hash ∧ int11 mode location.version = some version ∧
      stored = ⟨location.id,locationName,knownFileName,knownMD5Hash,version⟩ := by
  unfold columns at kept
  obtain ⟨locationName,name,kept⟩ := Option.bind_eq_some_iff.mp kept
  obtain ⟨knownFileName,file,kept⟩ := Option.bind_eq_some_iff.mp kept
  obtain ⟨knownMD5Hash,hash,kept⟩ := Option.bind_eq_some_iff.mp kept
  obtain ⟨version,number,kept⟩ := Option.bind_eq_some_iff.mp kept
  exact ⟨locationName,knownFileName,knownMD5Hash,version,name,file,hash,number,(Option.some.inj kept).symm⟩

theorem columns_hash (kept : columns mode location = some stored) : characters stored.knownMD5Hash ≤ 25 := by
  obtain ⟨_,_,_,_,_,_,hash,_,rfl⟩ := columns_parts kept
  exact varchar_characters hash

-- Every row fits its columns, as it does once it has been stored.
def Fitted (mode : SqlMode) (table : Table) : Prop := ∀ row ∈ table.rows, columns mode row = some row

-- A name that the column cuts would get a row of another name.
def Fits (mode : SqlMode) (locationName : Bytes) : Prop := mode = .truncating → characters locationName ≤ 50

theorem varchar_again (kept : varchar mode n s = some t) : varchar mode n t = some t := by
  unfold varchar
  rw [if_pos (varchar_characters kept)]

theorem int11_parts (kept : int11 mode v = some w) : w.toNat < 2 ^ 31 ∧ (w = v ∨ 2 ^ 31 ≤ v.toNat ∧ w.toNat = 2 ^ 31 - 1) := by
  unfold int11 at kept
  split at kept
  · rename_i small
    cases kept
    exact ⟨small,.inl rfl⟩
  · rename_i large
    cases mode with
    | strict => cases kept
    | truncating =>
      cases kept
      exact ⟨by decide,.inr ⟨by omega,rfl⟩⟩

theorem int11_again (kept : int11 mode v = some w) : int11 mode w = some w := by
  unfold int11
  rw [if_pos (int11_parts kept).1]

theorem columns_again (kept : columns mode location = some stored) (id : UInt64) :
    columns mode {stored with id := id} = some {stored with id := id} := by
  obtain ⟨_,_,_,_,name,file,hash,version,rfl⟩ := columns_parts kept
  have number := int11_again version
  simp [columns,varchar_again name,varchar_again file,varchar_again hash,number]

theorem fits_name (fits : Fits mode location.locationName) (kept : columns mode location = some stored) :
    stored.locationName = location.locationName := by
  obtain ⟨locationName,_,_,_,name,_,_,_,rfl⟩ := columns_parts kept
  unfold varchar at name
  split at name
  · exact (Option.some.inj name).symm
  · rename_i long
    cases mode with
    | strict => cases name
    | truncating => exact absurd (fits rfl) long

-- What a newer version may change of a row that fits.
theorem columns_update {old stored : Location} {hash : Bytes} {version : UInt32} (fitted : columns mode old = some old) (newer : old.version ≤ version)
    (taken : columns mode {old with knownMD5Hash := hash,version := version} = some stored) :
    stored.locationName = old.locationName ∧ stored.knownFileName = old.knownFileName ∧ old.version ≤ stored.version := by
  obtain ⟨_,_,_,_,name,file,_,number,same⟩ := columns_parts fitted
  obtain ⟨_,_,_,_,again,kept,_,higher,rfl⟩ := columns_parts taken
  have parts := Location.mk.inj same
  refine ⟨?_,?_,?_⟩
  · exact Option.some.inj (again.symm.trans (name.trans (congrArg some parts.2.1.symm)))
  · exact Option.some.inj (kept.symm.trans (file.trans (congrArg some parts.2.2.1.symm)))
  · have held := (int11_parts number).1
    rw [← parts.2.2.2.2] at held
    rcases (int11_parts higher).2 with rfl | ⟨_,most⟩
    · exact newer
    · apply UInt32.le_iff_toNat_le.mpr
      dsimp only
      omega

-- Two hex digits for each of the 16 bytes.
theorem makeMD5Hash_characters (md5 : MD5) (base64Hash : Bytes) : characters (makeMD5Hash md5 base64Hash) = 32 := by
  have digit : ∀ a < 16, startsCharacter (lowerHexDigit a) = true := by decide
  have all : ∀ byte ∈ makeMD5Hash md5 base64Hash, startsCharacter byte = true := by
    intro byte member
    obtain ⟨b,_,here⟩ := List.mem_flatMap.mp member
    have bound := b.toNat_lt
    rcases List.mem_cons.mp here with rfl | low
    · exact digit _ (by omega)
    · rw [List.mem_singleton.mp low]
      exact digit _ (by omega)
  rw [characters,List.countP_eq_length.mpr all]
  exact (Codecs.digits_length lowerHexDigit _).trans (by rw [(md5 base64Hash).property])

-- A turn of the loop either leaves the table alone or writes a row, and it writes
-- exactly if the row of the name is missing or older.
inductive Turn (db : Database) (s : Loaded) (l : Location) (next : Loaded) : Prop where
  | kept (row : Location) (found : s.table.find l.locationName = some row) (newest : l.version ≤ row.version)
      (table : next.table = s.table) (writes : next.writes = s.writes)
  | wrote (written stored : Location) (columns : db.columns written = some stored)
      (hash : written.knownMD5Hash = l.knownMD5Hash) (writes : next.writes = s.writes ++ [written])
      (rows : ∀ row ∈ next.table.rows, row ∈ s.table.rows ∨ row.knownMD5Hash = stored.knownMD5Hash)

theorem loadLocation_turn (ran : loadLocation db s l = some next) : Turn db s l next := by
  unfold loadLocation at ran
  cases found : s.table.find l.locationName with
  | none =>
    simp only [found] at ran
    obtain ⟨⟨table,newLocID⟩,persisted,rfl⟩ := Option.map_eq_some_iff.mp ran
    unfold Database.persist at persisted
    cases kept : db.columns l with
    | none => rw [kept] at persisted; cases persisted
    | some stored =>
      simp only [kept] at persisted
      obtain ⟨grown,inserted,same⟩ := Option.map_eq_some_iff.mp persisted
      obtain ⟨rfl,rfl⟩ := Prod.mk.inj same
      apply Turn.wrote l stored kept rfl rfl
      intro row member
      change row ∈ grown.rows at member
      rw [(Table.insert_parts inserted).2] at member
      rcases List.mem_append.mp member with old | new
      · exact .inl old
      · rw [List.mem_singleton.mp new]
        exact .inr rfl
  | some old =>
    simp only [found] at ran
    split at ran
    · rename_i equal
      cases ran
      exact .kept old found (UInt32.le_of_eq equal) rfl rfl
    · split at ran
      · obtain ⟨table,updated,rfl⟩ := Option.map_eq_some_iff.mp ran
        obtain ⟨stored,kept,rfl⟩ := Option.map_eq_some_iff.mp updated
        refine .wrote _ stored kept rfl rfl fun row member => ?_
        obtain ⟨other,within,rfl⟩ := List.mem_map.mp member
        unfold Table.put
        split
        · exact .inr rfl
        · exact .inl within
      · rename_i newer
        cases ran
        exact .kept old found (UInt32.not_lt.mp newer) rfl rfl

variable (md5 : MD5) (newID : List Location → UInt64) {loaded : List Location} {s t : Loaded}

-- A first run stores what it writes, and a second one finds it and writes nothing.
def Clean (db : Database) (table : Table) (files : List MapFile) : Prop :=
  ∃ first second, processMaps md5 db table files = some first ∧
    (∀ l ∈ first.writes, ∃ row, first.table.find l.locationName = some row ∧ row.version = l.version ∧
      row.knownMD5Hash = l.knownMD5Hash) ∧
    processMaps md5 db first.table files = some second ∧ second.writes = []

def UpToDate (table : Table) (loaded : List Location) : Prop :=
  ∀ l ∈ loaded, ∃ row, table.find l.locationName = some row ∧ l.version ≤ row.version

-- No row has room for a hash, and every write has one.
structure Narrow (s : Loaded) : Prop where
  rows : ∀ row ∈ s.table.rows, characters row.knownMD5Hash ≤ 25
  writes : ∀ l ∈ s.writes, characters l.knownMD5Hash = 32

theorem turn_narrow (turn : Turn ⟨newID,columns mode⟩ s l next) (hash : characters l.knownMD5Hash = 32)
    (narrow : Narrow s) : Narrow next := by
  cases turn with
  | kept row found newest table writes => exact ⟨table ▸ narrow.rows,writes ▸ narrow.writes⟩
  | wrote written stored kept same writes rows =>
    refine ⟨fun row member => ?_,fun other member => ?_⟩
    · rcases rows row member with old | new
      · exact narrow.rows row old
      · rw [new]
        exact columns_hash kept
    · rw [writes] at member
      rcases List.mem_append.mp member with old | last
      · exact narrow.writes other old
      · rw [List.mem_singleton.mp last,same]
        exact hash

theorem run_narrow (ran : loaded.foldlM (loadLocation ⟨newID,columns mode⟩) s = some t)
    (hashes : ∀ l ∈ loaded, characters l.knownMD5Hash = 32) (narrow : Narrow s) : Narrow t := by
  induction loaded generalizing s with
  | nil =>
    cases ran
    exact narrow
  | cons l loaded ih =>
    rw [List.foldlM_cons] at ran
    obtain ⟨next,step,rest⟩ := Option.bind_eq_some_iff.mp ran
    exact ih rest (fun other member => hashes other (List.mem_cons_of_mem _ member))
      (turn_narrow newID (loadLocation_turn step) (hashes l List.mem_cons_self) narrow)

variable {newID}

theorem run_writes (ran : loaded.foldlM (loadLocation db) s = some t) : s.writes.length ≤ t.writes.length := by
  induction loaded generalizing s with
  | nil => cases ran; exact Nat.le_refl _
  | cons l loaded ih =>
    rw [List.foldlM_cons] at ran
    obtain ⟨next,step,rest⟩ := Option.bind_eq_some_iff.mp ran
    refine Nat.le_trans ?_ (ih rest)
    cases loadLocation_turn step with
    | kept row found newest table writes => rw [writes]
    | wrote written stored kept same writes rows =>
      rw [writes,List.length_append]
      exact Nat.le_add_right _ _

-- A run that writes nothing finds every location up to date.
theorem quiet_upToDate (ran : loaded.foldlM (loadLocation db) s = some t) (quiet : t.writes.length = s.writes.length) :
    UpToDate s.table loaded := by
  induction loaded generalizing s with
  | nil => exact fun l member => absurd member List.not_mem_nil
  | cons l loaded ih =>
    rw [List.foldlM_cons] at ran
    obtain ⟨next,step,rest⟩ := Option.bind_eq_some_iff.mp ran
    cases loadLocation_turn step with
    | kept row found newest table writes =>
      have later := ih rest (by rw [writes]; exact quiet)
      rintro other (_ | ⟨_,member⟩)
      · exact ⟨row,found,newest⟩
      · exact table ▸ later other member
    | wrote written stored kept same writes rows =>
      have grown := run_writes rest
      rw [writes,List.length_append,List.length_singleton] at grown
      omega

theorem upToDate_quiet (db : Database) (current : UpToDate s.table loaded) :
    ∃ t, loaded.foldlM (loadLocation db) s = some t ∧ t.table = s.table ∧ t.writes = s.writes := by
  induction loaded generalizing s with
  | nil => exact ⟨s,rfl,rfl,rfl⟩
  | cons l loaded ih =>
    obtain ⟨row,found,newest⟩ := current l List.mem_cons_self
    have step : ∃ next, loadLocation db s l = some next ∧ next.table = s.table ∧ next.writes = s.writes := by
      unfold loadLocation
      simp only [found]
      split
      · exact ⟨_,rfl,rfl,rfl⟩
      · rw [if_neg (UInt32.not_lt.mpr newest)]
        exact ⟨_,rfl,rfl,rfl⟩
    obtain ⟨next,step,table,writes⟩ := step
    have later : UpToDate next.table loaded := by
      rw [table]
      exact fun other member => current other (List.mem_cons_of_mem _ member)
    obtain ⟨t,rest,same,none⟩ := ih later
    refine ⟨t,?_,same.trans table,none.trans writes⟩
    rw [List.foldlM_cons,step]
    exact rest

theorem restart_clean (mode : SqlMode) (newID : List Location → UInt64) (table : Stored mode) (files : List MapFile) :
    Clean md5 ⟨newID,columns mode⟩ table.toTable files ↔ UpToDate table.toTable (parsedMaps md5 files) := by
  have hashes : ∀ l ∈ parsedMaps md5 files, characters l.knownMD5Hash = 32 := by
    intro l member
    obtain ⟨file,_,parsed⟩ := List.mem_filterMap.mp member
    obtain ⟨map,_,rfl⟩ := Option.map_eq_some_iff.mp parsed
    exact makeMD5Hash_characters md5 _
  constructor
  · intro clean
    obtain ⟨first,second,ran,stored,_,_⟩ := clean
    rw [processMaps_locations] at ran
    have narrow := run_narrow newID ran hashes
      ⟨fun row member => columns_hash (table.stored row member),fun l member => absurd member List.not_mem_nil⟩
    apply quiet_upToDate ran
    cases writes : first.writes with
    | nil => rfl
    | cons l rest =>
      obtain ⟨row,found,_,same⟩ := stored l (by rw [writes]; exact List.mem_cons_self)
      have room := narrow.rows row (Table.find_parts found).1
      rw [same,narrow.writes l (by rw [writes]; exact List.mem_cons_self)] at room
      omega
  · intro current
    obtain ⟨first,ran,same,none⟩ := upToDate_quiet (s:=⟨table.toTable,[],.empty,[]⟩) ⟨newID,columns mode⟩ current
    obtain ⟨second,again,_,quiet⟩ := upToDate_quiet (s:=⟨table.toTable,[],.empty,[]⟩) ⟨newID,columns mode⟩ current
    refine ⟨first,second,by rw [processMaps_locations]; exact ran,?_,?_,quiet⟩
    · rw [none]
      exact fun l member => absurd member List.not_mem_nil
    · rw [processMaps_locations,same]
      exact again

theorem loadLocation_enters (unique : s.table.Unique) (fitted : Fitted mode s.table) (fits : Fits mode l.locationName)
    (ran : loadLocation ⟨newID,columns mode⟩ s l = some next) :
    ∃ row, Enters s l row next ∧ (∀ old, s.table.find l.locationName = some old → old.version ≤ row.version) ∧
      Fitted mode next.table := by
  unfold loadLocation at ran
  cases found : s.table.find l.locationName with
  | none =>
    simp only [found] at ran
    obtain ⟨⟨table,newLocID⟩,persisted,rfl⟩ := Option.map_eq_some_iff.mp ran
    unfold Database.persist at persisted
    cases kept : columns mode l with
    | none => simp [kept] at persisted
    | some stored =>
      simp only [kept] at persisted
      obtain ⟨grown,inserted,same⟩ := Option.map_eq_some_iff.mp persisted
      obtain ⟨rfl,rfl⟩ := Prod.mk.inj same
      have name := fits_name fits kept
      have absent : s.table.find stored.locationName = none := by rw [name,found]
      refine ⟨{stored with id := newID s.table.rows},⟨Table.insert_unique inserted unique absent,?_,name,by simp [found],rfl,rfl⟩,
        by simp,?_⟩
      · rw [← name]
        exact Table.insert_find inserted absent
      · intro row member
        change row ∈ grown.rows at member
        rw [(Table.insert_parts inserted).2] at member
        rcases List.mem_append.mp member with old | new
        · exact fitted row old
        · rw [List.mem_singleton.mp new]
          exact columns_again kept _
  | some old =>
    obtain ⟨member,name⟩ := Table.find_parts found
    have held : ¬ old.version < l.version → ∃ row, Enters s l row (s.add {l with id := old.id}) ∧
        (∀ other, some old = some other → other.version ≤ row.version) ∧ Fitted mode s.table := by
      intro current
      refine ⟨old,(loads_held unique found current).toEnters,?_,fitted⟩
      rintro other same
      cases same
      exact UInt32.le_refl _
    simp only [found] at ran
    split at ran
    · rename_i equal
      cases ran
      exact held (by rw [equal]; exact UInt32.lt_irrefl _)
    · split at ran
      · rename_i newer
        obtain ⟨table,updated,rfl⟩ := Option.map_eq_some_iff.mp ran
        obtain ⟨stored,kept,rfl⟩ := Option.map_eq_some_iff.mp updated
        obtain ⟨same,file,version⟩ := columns_update (fitted old member) (UInt32.le_of_lt newer) kept
        refine ⟨{stored with id := old.id},⟨Table.replace_unique unique member rfl same,?_,same.trans name,?_,rfl,rfl⟩,?_,?_⟩
        · rw [← name,← same]
          exact Table.replace_find unique member rfl same
        · intro other again
          cases found.symm.trans again
          exact ⟨rfl,file⟩
        · rintro other same
          cases same
          exact version
        · intro row within
          obtain ⟨other,there,rfl⟩ := List.mem_map.mp within
          unfold Table.put
          split
          · exact columns_again kept _
          · exact fitted other there
      · rename_i older
        cases ran
        exact held older

def outdoorFile : MapFile := mapFile "assets/outdoor.tmx" "StartZone" 1 "ab0123"

-- The first start on an empty table: its hash is rejected or cut to 25 of its 32 characters.
theorem first_start_lossy : ¬ Clean plainMD5 ⟨firstUnused,columns .strict⟩ noRows [outdoorFile] ∧
    ¬ Clean plainMD5 ⟨firstUnused,columns .truncating⟩ noRows [outdoorFile] := by
  constructor
  · intro clean
    obtain ⟨first,_,ran,_⟩ := clean
    have rejected : (processMaps plainMD5 ⟨firstUnused,columns .strict⟩ noRows [outdoorFile]).isNone = true := by decide +kernel
    rw [ran] at rejected
    cases rejected
  · intro clean
    obtain ⟨first,_,ran,stored,_⟩ := clean
    have cut : (processMaps plainMD5 ⟨firstUnused,columns .truncating⟩ noRows [outdoorFile]).any (fun s =>
        s.writes.any fun l => (s.table.find l.locationName).all fun row => row.knownMD5Hash ≠ l.knownMD5Hash) = true := by
      decide +kernel
    rw [ran] at cut
    obtain ⟨l,member,differs⟩ := List.any_eq_true.mp cut
    obtain ⟨row,found,_,same⟩ := stored l member
    rw [found] at differs
    exact absurd same (by simpa using differs)

end PlayPG.MapSchema
