import PlayPG.MapSchema
import PlayPG.Admission

-- One installation of the login server over all its starts: what the disk and the database keep of them.
namespace PlayPG.Installation
open Bytes MapLoading MapSchema ServerSteps

-- login.pub and login.prv, or the files that were named instead of them.
structure KeyFiles where
  publicKey : Option Bytes
  privateKey : Option Bytes

-- What RSACrypto(true) makes: both halves in PEM, and the key.
structure Generated where
  publicKey : Bytes
  privateKey : Bytes
  keyPair : RSA

def Generated.crypto (generated : Generated) : RSACrypto := ⟨generated.publicKey,some generated.keyPair,true,true⟩

-- The constructor dumps the public key first.
inductive KeyFile where
  | publicKey
  | privateKey

def Generated.key (generated : Generated) : KeyFile → Bytes
  | .publicKey => generated.publicKey
  | .privateKey => generated.privateKey

def KeyFiles.put (keys : KeyFiles) (content : Bytes) : KeyFile → KeyFiles
  | .publicKey => {keys with publicKey := some content}
  | .privateKey => {keys with privateKey := some content}

structure Disk where
  keys : KeyFiles
  locations : Table
  players : PlayersTable
  characters : List Character

inductive Phase where
  | down
  | dumping (generated : Generated) (file : KeyFile) (opened : Bool)
  | starting (crypto : Option RSACrypto) (loaded : Loaded)
  | serving (crypto : RSACrypto) (server : LoginServer)

structure State where
  disk : Disk
  phase : Phase

-- What does not change from start to start.
structure Host where
  readKeyPair : Bytes → Bytes → Option RSA
  md5 : MD5
  db : Database
  env : Env

def Host.living (host : Host) (crypto : RSACrypto) : Env := {host.env with crypto := crypto}

-- writeKeyFile does not look whether the stream took the key: on a full disk the file has the first bytes of it.
def taken (room : Option Nat) (key : Bytes) : Bytes :=
  match room with
  | none => key
  | some room => key.take room

def starting (disk : Disk) (crypto : Option RSACrypto) : Phase := .starting crypto ⟨disk.locations,[],.empty,[]⟩

-- What comes after a key file: the other one, or the rest of the start.
def dumped (disk : Disk) (generated : Generated) : KeyFile → Phase
  | .publicKey => .dumping generated .privateKey false
  | .privateKey => starting disk (some generated.crypto)

-- The key pair is kept even where RSA_check_key is not content with it.
def fromFiles (host : Host) (keys : KeyFiles) : Option RSACrypto :=
  match keys.publicKey,keys.privateKey with
  | some publicKey,some privateKey => some ⟨publicKey,host.readKeyPair publicKey privateKey,true,true⟩
  | _,_ => none

def suID : Bytes := text "SgtCoDFish@example.com"

def superUser (hasher : SHACrypto) (salt : Bytes) (now : Nat) : Player where
  id := 1
  username := suID
  password := SHACrypto.sha256ToString (hasher.hashPasswordSHA256 (text "testa") salt)
  salt := SHACrypto.saltToString salt
  languageID := 1
  locked := false
  joinDate := now
  lastLogin := now

def initDB (hasher : SHACrypto) (players : PlayersTable) (salt : Bytes) (now : Nat) : PlayersTable :=
  if players.rows.length = 0 then
    ⟨[superUser hasher salt now],List.nodup_singleton _,List.nodup_singleton _⟩
  else players

-- generate, or construct where the keys are to be read, is the constructor up to its key files; writeKeyFile opens
-- its file, which truncates it, and writes it. load is one turn of processMaps, run is the rest of run() up to the
-- accept loop.
inductive Act where
  | construct
  | generate (generated : Generated)
  | openKeyFile (opens : Bool)
  | writeKeyFile (room : Option Nat)
  | load (file : MapFile)
  | run (salt : Bytes) (now : Nat)
  | event (event : Event)
  | kill

-- An exception or a null pointer ends the process as a kill does.
def step (host : Host) : Runs.Machine State Act (Nat × Effect) Fault
  | ⟨disk,.down⟩,.construct => .ok (⟨disk,starting disk (fromFiles host disk.keys)⟩,[])
  | ⟨disk,.down⟩,.generate generated => .ok (⟨disk,.dumping generated .publicKey false⟩,[])
  | ⟨disk,.dumping generated file false⟩,.openKeyFile opens =>
    if opens then .ok (⟨{disk with keys := disk.keys.put [] file},.dumping generated file true⟩,[])
    else .ok (⟨disk,dumped disk generated file⟩,[])
  | ⟨disk,.dumping generated file true⟩,.writeKeyFile room =>
    let disk := {disk with keys := disk.keys.put (taken room (generated.key file)) file}
    .ok (⟨disk,dumped disk generated file⟩,[])
  | ⟨disk,.starting crypto loaded⟩,.load file =>
    match loadMap host.md5 host.db loaded file with
    | none => .ok (⟨disk,.down⟩,[])
    | some next => .ok (⟨{disk with locations := next.table},.starting crypto next⟩,[])
  | ⟨disk,.starting crypto loaded⟩,.run salt now =>
    let players := initDB host.env.hasher disk.players salt now
    let next := {disk with players := players}
    match crypto with
    -- run() does not look at the null pointer, the thread of processIncoming does; where it is first, this is a kill.
    | none => .ok (⟨next,.down⟩,[])
    | some crypto => .ok (⟨next,.serving crypto (.start players disk.characters loaded.allMaps loaded.mapIDToName)⟩,[])
  | ⟨disk,.serving crypto server⟩,.event event =>
    match LoginServer.step (host.living crypto) server event with
    | .error _ => .ok (⟨disk,.down⟩,[])
    | .ok (next,fresh) =>
      .ok (⟨{disk with players := next.players,characters := next.characters},.serving crypto next⟩,fresh)
  | s,.kill => .ok (⟨s.disk,.down⟩,[])
  | s,_ => .ok (s,[])

def Phase.dumps : Phase → Bool
  | .dumping _ _ _ => true
  | _ => false

-- What one act does: it starts, it dumps a key, it loads a map, it gets to the accept loop, the server steps, or the
-- process ends; all that is left are acts out of place.
inductive Step (host : Host) : State → Act → State → Prop where
  | constructed : Step host ⟨disk,.down⟩ .construct ⟨disk,starting disk (fromFiles host disk.keys)⟩
  | generated : Step host ⟨disk,.down⟩ (.generate generated) ⟨disk,.dumping generated .publicKey false⟩
  | opened : Step host ⟨disk,.dumping generated file false⟩ (.openKeyFile true)
      ⟨{disk with keys := disk.keys.put [] file},.dumping generated file true⟩
  | unopened : Step host ⟨disk,.dumping generated file false⟩ (.openKeyFile false) ⟨disk,dumped disk generated file⟩
  | written (content : Bytes) (took : content = taken room (generated.key file)) :
      Step host ⟨disk,.dumping generated file true⟩ (.writeKeyFile room)
        ⟨{disk with keys := disk.keys.put content file},dumped disk generated file⟩
  | loaded (ran : loadMap host.md5 host.db loaded file = some next) :
      Step host ⟨disk,.starting crypto loaded⟩ (.load file) ⟨{disk with locations := next.table},.starting crypto next⟩
  | ran : Step host ⟨disk,.starting (some crypto) loaded⟩ (.run salt now)
      ⟨{disk with players := initDB host.env.hasher disk.players salt now},.serving crypto
        (.start (initDB host.env.hasher disk.players salt now) disk.characters loaded.allMaps loaded.mapIDToName)⟩
  | unkeyed : Step host ⟨disk,.starting none loaded⟩ (.run salt now)
      ⟨{disk with players := initDB host.env.hasher disk.players salt now},.down⟩
  | served (ran : LoginServer.step (host.living crypto) server event = .ok (next,fresh)) :
      Step host ⟨disk,.serving crypto server⟩ (.event event)
        ⟨{disk with players := next.players,characters := next.characters},.serving crypto next⟩
  | ended (cause : s.phase.dumps = true → act = .kill) : Step host s act ⟨s.disk,.down⟩
  | idle : Step host s act s

variable {host : Host} {s t : State}

theorem step_parts (ran : step host s act = .ok (t,fresh)) : Step host s act t := by
  unfold step at ran
  split at ran
  · cases Except.ok.inj ran
    exact .constructed
  · cases Except.ok.inj ran
    exact .generated
  · rename_i disk generated file opens
    cases opens with
    | true =>
      cases Except.ok.inj ran
      exact .opened
    | false =>
      cases Except.ok.inj ran
      exact .unopened
  · rename_i disk generated file room
    have same : dumped {disk with keys := disk.keys.put (taken room (generated.key file)) file} generated file =
        dumped disk generated file := by cases file <;> rfl
    cases Except.ok.inj ran
    rw [same]
    exact .written _ rfl
  · split at ran
    · cases Except.ok.inj ran
      exact .ended (by simp [Phase.dumps])
    · rename_i next loaded
      cases Except.ok.inj ran
      exact .loaded loaded
  · rename_i disk crypto loaded salt now
    cases crypto with
    | none =>
      cases Except.ok.inj ran
      exact .unkeyed
    | some crypto =>
      cases Except.ok.inj ran
      exact .ran
  · split at ran
    · cases Except.ok.inj ran
      exact .ended (by simp [Phase.dumps])
    · rename_i next effects served
      cases Except.ok.inj ran
      exact .served served
  · cases Except.ok.inj ran
    exact .ended (fun _ => rfl)
  · cases Except.ok.inj ran
    exact .idle

-- A row of a map name, and what the table has for that name later.
structure Kept (old new : Location) : Prop where
  id : new.id = old.id
  file : new.knownFileName = old.knownFileName
  version : old.version ≤ new.version

def Evolves (one two : Table) : Prop := ∀ name old, one.find name = some old → ∃ new, two.find name = some new ∧ Kept old new

theorem Evolves.refl (table : Table) : Evolves table table := by
  intro name old found
  exact ⟨old,found,rfl,rfl,UInt32.le_refl _⟩

theorem Evolves.trans (first : Evolves one two) (second : Evolves two three) : Evolves one three := by
  intro name old found
  obtain ⟨middle,here,one⟩ := first name old found
  obtain ⟨new,there,two⟩ := second name middle here
  exact ⟨new,there,two.id.trans one.id,two.file.trans one.file,UInt32.le_trans one.version two.version⟩

theorem enters_evolves (enters : Enters before l row next)
    (version : ∀ old, before.table.find l.locationName = some old → old.version ≤ row.version) :
    Evolves before.table next.table := by
  intro name old found
  by_cases same : name = l.locationName
  · subst same
    obtain ⟨id,file⟩ := enters.kept old found
    exact ⟨row,enters_here enters,id,file,version old found⟩
  · exact ⟨old,by rw [enters_elsewhere enters same,found],rfl,rfl,UInt32.le_refl _⟩

-- Every map that is loaded has a name that its column keeps.
def Fit (mode : SqlMode) : Act → Prop
  | .load file => ∀ map ∈ file.parsed, Fits mode (resolveNameFromMap map)
  | _ => True

instance (mode : SqlMode) : (act : Act) → Decidable (Fit mode act)
  | .load file => inferInstanceAs (Decidable (∀ map ∈ file.parsed, mode = .truncating → characters (resolveNameFromMap map) ≤ 50))
  | .construct | .generate _ | .openKeyFile _ | .writeKeyFile _ | .run _ _ | .event _ | .kill => instDecidableTrue

-- The maps that a start has loaded so far, and the rows of their names.
structure Indexed (mode : SqlMode) (loaded : Loaded) : Prop where
  unique : loaded.table.Unique
  fitted : Fitted mode loaded.table
  names : Names loaded.allMaps loaded

theorem indexed_start (unique : Table.Unique table) (fitted : Fitted mode table) : Indexed mode ⟨table,[],.empty,[]⟩ := by
  refine ⟨unique,fitted,?_⟩
  intro id name
  constructor
  · intro found
    cases found
  · intro named
    obtain ⟨_,_,_,_,member,_⟩ := named
    cases member

theorem indexed_map (schema : host.db.columns = columns mode) (indexed : Indexed mode before) (fit : Fit mode (.load file))
    (ran : loadMap host.md5 host.db before file = some next) : Indexed mode next ∧ Evolves before.table next.table := by
  unfold loadMap at ran
  split at ran
  · cases Option.some.inj ran
    exact ⟨indexed,.refl _⟩
  · rename_i map parsed
    have schema : host.db = ⟨host.db.newID,columns mode⟩ := by rw [← schema]
    rw [schema] at ran
    obtain ⟨row,enters,version,fitted⟩ := loadLocation_enters indexed.unique indexed.fitted (fit map parsed) ran
    refine ⟨⟨enters.unique,fitted,?_⟩,enters_evolves enters version⟩
    have names := names_enters indexed.names enters
    intro id name
    rw [names,enters.allMaps]
    simp only [List.mem_append,List.mem_singleton,or_and_right,exists_or,exists_eq_left]

-- The ids that lead to a map are those of the rows of the loaded names.
def Named (server : LoginServer) (table : Table) : Prop := ∀ id name, server.mapIDToName id = some name ↔
  ∃ row, table.find name = some row ∧ row.id = id ∧ ∃ ours ∈ server.allMaps, ours.locationName = name

def Places (mode : SqlMode) (disk : Disk) : Phase → Prop
  | .down | .dumping _ _ _ => True
  | .starting _ loaded => loaded.table = disk.locations ∧ Indexed mode loaded
  | .serving _ server => Named server disk.locations

structure Placed (mode : SqlMode) (s : State) : Prop where
  unique : s.disk.locations.Unique
  fitted : Fitted mode s.disk.locations
  places : Places mode s.disk s.phase

theorem step_mapIDToName (ran : LoginServer.step env server event = .ok (next,fresh)) :
    next.mapIDToName = server.mapIDToName := by
  cases event with
  | accept | purge | database =>
    cases Except.ok.inj ran
    rfl
  | connected ios => exact (step_connected ran).1.frame.mapIDToName
  | incoming index io =>
    rcases step_incoming ran with ⟨_,rfl,_⟩ | ⟨c,handled,_,visit,rfl,_⟩
    · rfl
    · cases visit with
      | _ => rfl

theorem places_dumped {disk other : Disk} (unique : disk.locations.Unique) (fitted : Fitted mode disk.locations)
    (generated : Generated) (file : KeyFile) (same : other.locations = disk.locations) :
    Places mode other (dumped disk generated file) := by
  cases file with
  | publicKey => exact trivial
  | privateKey => exact ⟨same.symm,indexed_start unique fitted⟩

theorem placed_step (schema : host.db.columns = columns mode) (placed : Placed mode s) (fit : Fit mode act)
    (ran : step host s act = .ok (t,fresh)) : Placed mode t ∧ Evolves s.disk.locations t.disk.locations := by
  obtain ⟨unique,fitted,places⟩ := placed
  cases step_parts ran with
  | constructed => exact ⟨⟨unique,fitted,rfl,indexed_start unique fitted⟩,.refl _⟩
  | generated | opened => exact ⟨⟨unique,fitted,trivial⟩,.refl _⟩
  | unopened | written => exact ⟨⟨unique,fitted,places_dumped unique fitted _ _ rfl⟩,.refl _⟩
  | loaded turn =>
    obtain ⟨same,indexed⟩ := places
    obtain ⟨onward,evolves⟩ := indexed_map schema indexed fit turn
    exact ⟨⟨onward.unique,onward.fitted,rfl,onward⟩,same ▸ evolves⟩
  | ran =>
    obtain ⟨same,indexed⟩ := places
    exact ⟨⟨unique,fitted,same ▸ indexed.names⟩,.refl _⟩
  | unkeyed => exact ⟨⟨unique,fitted,trivial⟩,.refl _⟩
  | served turn =>
    refine ⟨⟨unique,fitted,?_⟩,.refl _⟩
    change Named _ _
    unfold Named
    rw [step_mapIDToName turn,MapAssignment.step_allMaps turn]
    exact places
  | ended => exact ⟨⟨unique,fitted,trivial⟩,.refl _⟩
  | idle => exact ⟨⟨unique,fitted,places⟩,.refl _⟩

theorem placed_run (schema : host.db.columns = columns mode) (placed : Placed mode s) (fit : ∀ act ∈ acts, Fit mode act)
    (path : Runs.Run (step host) s acts trace t) : Placed mode t ∧ Evolves s.disk.locations t.disk.locations := by
  induction path with
  | nil => exact ⟨placed,.refl _⟩
  | snoc prior ran ih =>
    obtain ⟨before,early⟩ := ih (fun act member => fit act (List.mem_append_left _ member))
    obtain ⟨after,late⟩ := placed_step schema before (fit _ (by simp)) ran
    exact ⟨after,early.trans late⟩

-- A map name keeps its row over all starts, and in every life the id of that row leads to that name, if it was
-- loaded, and otherwise nowhere.
theorem places_kept (schema : host.db.columns = columns mode) (fitted : Fitted mode disk.locations)
    (unique : disk.locations.Unique) (fit : ∀ act ∈ acts ++ later, Fit mode act)
    (path : Runs.Run (step host) ⟨disk,.down⟩ acts trace s) (onward : Runs.Run (step host) s later rest t) :
    t.disk.locations.Unique ∧ Evolves s.disk.locations t.disk.locations ∧
      ∀ crypto server, t.phase = .serving crypto server → ∀ name row, s.disk.locations.find name = some row →
        server.mapIDToName row.id = if ∃ ours ∈ server.allMaps, ours.locationName = name then some name else none := by
  have start : Placed mode ⟨disk,.down⟩ := ⟨unique,fitted,trivial⟩
  obtain ⟨middle,_⟩ := placed_run schema start (fun act member => fit act (List.mem_append_left _ member)) path
  obtain ⟨last,evolves⟩ := placed_run schema middle (fun act member => fit act (List.mem_append_right _ member)) onward
  refine ⟨last.unique,evolves,?_⟩
  intro crypto server serving name row found
  obtain ⟨now,held,kept⟩ := evolves name row found
  have named : Named server t.disk.locations := by
    have places := last.places
    rw [serving] at places
    exact places
  rw [← kept.id]
  split
  · rename_i loaded
    exact (named _ _).mpr ⟨now,held,rfl,loaded⟩
  · rename_i missing
    apply Option.eq_none_iff_forall_ne_some.mpr
    intro other leads
    obtain ⟨row,there,same,loaded⟩ := (named _ _).mp leads
    have equal := t.disk.locations.row_id (Table.find_parts there).1 (Table.find_parts held).1 same
    rw [equal] at there
    rw [← (Table.find_parts there).2,(Table.find_parts held).2] at loaded
    exact missing loaded

def pem : Generated := ⟨text "PEM",text "PRIVATE",AccountLogin.carrier⟩

def inn : Host := ⟨fun _ _ => some AccountLogin.carrier,plainMD5,⟨firstUnused,columns .truncating⟩,Admission.lodge⟩

def bare : Disk := ⟨⟨none,none⟩,noRows,.empty,[]⟩

-- The harbour and the town are loaded in the first life; the second has a newer town and no harbour.
def opening : List Act := [.generate pem,.openKeyFile true,.writeKeyFile none,.openKeyFile true,.writeKeyFile none,
  .load (mapFile "old.tmx" "harbour" 2 "a"),
  .load (mapFile "town.tmx" "town" 1 "b"),.run [0] 0,.kill]

def reopening : List Act := [.construct,.load (mapFile "town2.tmx" "town" 3 "c"),.run [1] 5]

def closed : State := Runs.final (step inn) ⟨bare,.down⟩ opening

def reopened : State := Runs.final (step inn) closed reopening

theorem opening_runs : ∃ trace, Runs.Run (step inn) ⟨bare,.down⟩ opening trace closed := Runs.final_run (by decide +kernel)

theorem reopening_runs : ∃ trace, Runs.Run (step inn) closed reopening trace reopened := Runs.final_run (by decide +kernel)

theorem places_kept_towns : ∃ crypto server town harbour, reopened.phase = .serving crypto server ∧
    closed.disk.locations.find (text "town") = some town ∧ closed.disk.locations.find (text "harbour") = some harbour ∧
    server.mapIDToName town.id = some (text "town") ∧ server.mapIDToName harbour.id = none := by
  obtain ⟨_,first⟩ := opening_runs
  obtain ⟨_,second⟩ := reopening_runs
  obtain ⟨_,_,leads⟩ := places_kept (show inn.db.columns = columns .truncating from rfl)
    (fun row member => absurd member List.not_mem_nil) (by decide) (by decide +kernel) first second
  have served : ∃ crypto server, reopened.phase = .serving crypto server ∧
    server.allMaps.map (·.locationName) = [text "town"] := ⟨_,_,rfl,by decide +kernel⟩
  obtain ⟨crypto,server,serving,names⟩ := served
  have rows : ∃ town harbour, closed.disk.locations.find (text "town") = some town ∧
    closed.disk.locations.find (text "harbour") = some harbour := ⟨_,_,rfl,rfl⟩
  obtain ⟨town,harbour,one,two⟩ := rows
  refine ⟨crypto,server,town,harbour,serving,one,two,?_,?_⟩
  · rw [leads crypto server serving _ _ one,if_pos]
    exact List.mem_map.mp (names ▸ List.mem_singleton_self _)
  · rw [leads crypto server serving _ _ two,if_neg]
    intro loaded
    have member := List.mem_map.mpr loaded
    rw [names] at member
    exact absurd member (by decide)

variable {build : Client.Build} {crypto : RSACrypto} {server next : LoginServer} {players : PlayersTable}
  {salt : Bytes} {row : Player} {io : SocketIO}

-- OpenSSL reads a pair back that it wrote, and a login of the super-user under it is whole.
structure Genuine (host : Host) (build : Client.Build) (generated : Generated) : Prop where
  reads : host.readKeyPair generated.publicKey generated.privateKey = some generated.keyPair
  keys : AccountLogin.Keys (host.living generated.crypto) build
  speaks : Admission.Speaks (host.living generated.crypto) build suID

def Holds (host : Host) (build : Client.Build) (crypto : RSACrypto) : Prop :=
  ∃ generated, Genuine host build generated ∧ crypto = generated.crypto

-- The files hold one such pair, or there are none yet.
def Paired (host : Host) (build : Client.Build) (keys : KeyFiles) : Prop :=
  (keys.publicKey = none ∧ keys.privateKey = none) ∨
    ∃ generated, Genuine host build generated ∧ keys = ⟨some generated.publicKey,some generated.privateKey⟩

theorem paired_read (paired : Paired host build keys) (read : fromFiles host keys = some crypto) :
    Holds host build crypto := by
  rcases paired with ⟨missing,_⟩ | ⟨generated,genuine,rfl⟩
  · simp [fromFiles,missing] at read
  · refine ⟨generated,genuine,?_⟩
    simp only [fromFiles,genuine.reads,Option.some.injEq] at read
    exact read.symm

-- The row of the super-user opens to the password that initDB gave it.
structure Mastered (hasher : SHACrypto) (players : PlayersTable) (salt : Bytes) (row : Player) : Prop where
  held : players.query suID = [row]
  unlocked : row.locked = false
  password : row.password = SHACrypto.sha256ToString (hasher.hashPasswordSHA256 (text "testa") salt)
  salted : row.salt = SHACrypto.saltToString salt

theorem query_setLastLogin (players : PlayersTable) (id : UInt64) (now : Nat) (username : Bytes) :
    (players.setLastLogin id now).query username = (players.query username).map (PlayersTable.stamp id now) := by
  have same : ∀ row, (PlayersTable.stamp id now row).username = row.username := congrFun (PlayersTable.stamp_username id now)
  simp only [PlayersTable.query,PlayersTable.setLastLogin,List.filter_map,Function.comp_def,same]

theorem Mastered.stamped (mastered : Mastered hasher players salt row) (id : UInt64) (now : Nat) :
    Mastered hasher (players.setLastLogin id now) salt (PlayersTable.stamp id now row) := by
  have same : (PlayersTable.stamp id now row).locked = row.locked ∧ (PlayersTable.stamp id now row).password = row.password ∧
      (PlayersTable.stamp id now row).salt = row.salt := by
    unfold PlayersTable.stamp
    split
    · exact ⟨rfl,rfl,rfl⟩
    · exact ⟨rfl,rfl,rfl⟩
  obtain ⟨locked,password,kept⟩ := same
  refine ⟨?_,locked.trans mastered.unlocked,password.trans mastered.password,kept.trans mastered.salted⟩
  rw [query_setLastLogin,mastered.held]
  rfl

theorem Mastered.registered (env : Env) (mastered : Mastered env.hasher world.players salt row) :
    AccountLogin.Registered env world suID (text "testa") salt row :=
  ⟨mastered.held,mastered.unlocked,mastered.password,mastered.salted⟩

theorem initDB_mastered (hasher : SHACrypto) (salt : Bytes) (now : Nat)
    (held : players.rows = [] ∨ ∃ salt row, Mastered hasher players salt row) :
    ∃ other row, Mastered hasher (initDB hasher players salt now) other row := by
  unfold initDB
  rcases held with empty | ⟨other,row,mastered⟩
  · rw [if_pos (by rw [empty]; rfl)]
    refine ⟨salt,superUser hasher salt now,?_,rfl,rfl,rfl⟩
    exact List.filter_cons_of_pos (beq_self_eq_true _)
  · have some : players.rows.length ≠ 0 := by
      intro none
      have found := mastered.held
      rw [PlayersTable.query,List.length_eq_zero_iff.mp none] at found
      cases found
    rw [if_neg some]
    exact ⟨other,row,mastered⟩

-- The server itself only notes the time of a login.
theorem step_players (ran : LoginServer.step env server event = .ok (next,fresh)) :
    next.players = server.players ∨ (∃ id now, next.players = server.players.setLastLogin id now) ∨
      ∃ characters, event = .database next.players characters := by
  cases event with
  | accept | purge =>
    cases Except.ok.inj ran
    exact .inl rfl
  | database players characters =>
    cases Except.ok.inj ran
    exact .inr (.inr ⟨characters,rfl⟩)
  | connected ios => exact .inl (step_connected ran).1.frame.players
  | incoming index io =>
    rcases step_incoming ran with ⟨_,rfl,_⟩ | ⟨c,handled,_,visit,rfl,_⟩
    · exact .inl rfl
    · cases visit with
      | accepted => exact .inr (.inl ⟨_,_,rfl⟩)
      | _ => exact .inl rfl

-- Other programs leave that row alone, OpenSSL makes the pairs, and a start that reads the files finds one pair there.
def Ours (host : Host) (build : Client.Build) (s : State) : Act → Prop
  | .event (.database players _) => players.query suID = s.disk.players.query suID
  | .generate generated => Genuine host build generated
  | .construct => s.phase = .down → Paired host build s.disk.keys
  | _ => True

def Opens (host : Host) (build : Client.Build) (disk : Disk) : Phase → Prop
  | .down => True
  | .dumping generated _ _ => Genuine host build generated
  | .starting crypto _ => ∀ held, crypto = some held → Holds host build held
  | .serving crypto server => Holds host build crypto ∧ server.players = disk.players ∧
    ∃ salt row, Mastered host.env.hasher server.players salt row

structure Standing (host : Host) (build : Client.Build) (s : State) : Prop where
  players : s.disk.players.rows = [] ∨ ∃ salt row, Mastered host.env.hasher s.disk.players salt row
  opens : Opens host build s.disk s.phase

theorem opens_dumped (disk other : Disk) (genuine : Genuine host build generated) (file : KeyFile) :
    Opens host build other (dumped disk generated file) := by
  cases file with
  | publicKey => exact genuine
  | privateKey =>
    intro held same
    exact ⟨_,genuine,(Option.some.inj same).symm⟩

theorem standing_step (standing : Standing host build s) (ours : Ours host build s act)
    (ran : step host s act = .ok (t,fresh)) : Standing host build t := by
  obtain ⟨players,opens⟩ := standing
  cases step_parts ran with
  | constructed =>
    refine ⟨players,?_⟩
    intro held read
    exact paired_read (ours rfl) read
  | generated => exact ⟨players,ours⟩
  | opened => exact ⟨players,opens⟩
  | unopened | written => exact ⟨players,opens_dumped _ _ opens _⟩
  | loaded => exact ⟨players,opens⟩
  | ran =>
    rename_i disk crypto loaded salt now
    have mastered := initDB_mastered host.env.hasher salt now players
    exact ⟨.inr mastered,opens _ rfl,rfl,mastered⟩
  | unkeyed =>
    rename_i disk loaded salt now
    exact ⟨.inr (initDB_mastered host.env.hasher salt now players),trivial⟩
  | served turn =>
    rename_i crypto server event next effects disk
    obtain ⟨holds,same,salt,row,mastered⟩ := opens
    have after : ∃ salt row, Mastered host.env.hasher next.players salt row := by
      rcases step_players turn with still | ⟨id,now,stamped⟩ | ⟨characters,rfl⟩
      · rw [still]
        exact ⟨salt,row,mastered⟩
      · rw [stamped]
        exact ⟨salt,_,mastered.stamped id now⟩
      · have unchanged : next.players.query suID = disk.players.query suID := ours
        refine ⟨salt,row,?_,mastered.unlocked,mastered.password,mastered.salted⟩
        rw [unchanged,← same]
        exact mastered.held
    exact ⟨.inr after,holds,rfl,after⟩
  | ended => exact ⟨players,trivial⟩
  | idle => exact ⟨players,opens⟩

theorem suID_free : 0 ∉ suID := by
  decide

-- Nothing cuts a dump short: no kill comes in it, both files open, and the disk takes the keys.
def Whole (s : State) : Act → Prop
  | .openKeyFile opens => opens = true
  | .writeKeyFile room => room = none
  | .kill => s.phase.dumps = false
  | _ => True

instance (s : State) : (act : Act) → Decidable (Whole s act)
  | .openKeyFile opens => inferInstanceAs (Decidable (opens = true))
  | .writeKeyFile room => inferInstanceAs (Decidable (room = none))
  | .kill => inferInstanceAs (Decidable (s.phase.dumps = false))
  | .construct | .generate _ | .load _ | .run _ _ | .event _ => instDecidableTrue

def Dumped (host : Host) (build : Client.Build) (keys : KeyFiles) : Phase → Prop
  | .dumping generated .publicKey _ => Genuine host build generated
  | .dumping generated .privateKey _ => Genuine host build generated ∧ keys.publicKey = some generated.publicKey
  | _ => Paired host build keys

theorem dumped_step (dumped : Dumped host build s.disk.keys s.phase) (whole : Whole s act)
    (genuine : ∀ generated, act = .generate generated → Genuine host build generated)
    (ran : step host s act = .ok (t,fresh)) : Dumped host build t.disk.keys t.phase := by
  cases step_parts ran with
  | constructed | loaded | ran | unkeyed | served | idle => exact dumped
  | generated => exact genuine _ rfl
  | opened =>
    rename_i disk generated file
    cases file with
    | publicKey => exact dumped
    | privateKey => exact dumped
  | unopened => cases whole
  | written content took =>
    rename_i room disk generated file
    cases whole
    subst took
    cases file with
    | publicKey => exact ⟨dumped,rfl⟩
    | privateKey =>
      obtain ⟨pair,first⟩ := dumped
      refine .inr ⟨generated,pair,?_⟩
      change KeyFiles.mk disk.keys.publicKey _ = _
      rw [first]
      rfl
  | ended cause =>
    cases phase : s.phase with
    | down | starting | serving =>
      rw [phase] at dumped
      exact dumped
    | dumping =>
      cases cause (by rw [phase]; rfl)
      have apart : s.phase.dumps = false := whole
      rw [phase] at apart
      cases apart

-- Where nothing cuts a dump short, every start finds one pair in the files, or none yet.
theorem whole_paired (paired : Paired host build disk.keys) (whole : Runs.StepsMeet (step host) ⟨disk,.down⟩ acts Whole)
    (genuine : ∀ generated, .generate generated ∈ acts → Genuine host build generated)
    (path : Runs.Run (step host) ⟨disk,.down⟩ acts trace t) (down : t.phase = .down) : Paired host build t.disk.keys := by
  have met : Runs.StepsMeet (step host) ⟨disk,.down⟩ acts (fun s act =>
      Whole s act ∧ ∀ generated, act = .generate generated → Genuine host build generated) := by
    intro before act after all trace middle reached
    refine ⟨whole before act after all trace middle reached,?_⟩
    rintro generated rfl
    exact genuine generated (by simp [all])
  have dumped : Dumped host build t.disk.keys t.phase :=
    path.guarded met paired (fun dumped met ran => dumped_step dumped met.1 met.2 ran)
  rw [down] at dumped
  exact dumped

-- Whenever an installation is up, whatever it went through since its tables were empty, the super-user gets in.
theorem account_opens (shared : LoginAgreement.Shared host.env build) (empty : disk.players.rows = [])
    (path : Runs.Run (step host) ⟨disk,.down⟩ acts trace t)
    (ours : Runs.StepsMeet (step host) ⟨disk,.down⟩ acts (Ours host build)) (serving : t.phase = .serving crypto server)
    (active : io.activity = true) :
    ∃ outputs s person, Runs.Run (LoginAgreement.System.step (host.living crypto) build) (.start server)
        (.selectUsername :: Admission.calling server.incomingConnections.length io) outputs s ∧
      s.call = .loggedIn suID ∧ server.players.query suID = [person] ∧
        Admission.Admitted s.network.server.toWorld server.socketsAccepted suID person := by
  have standing : Standing host build t := path.guarded ours ⟨.inl empty,trivial⟩ standing_step
  have opens := standing.opens
  rw [serving] at opens
  obtain ⟨⟨generated,genuine,rfl⟩,_,salt,row,mastered⟩ := opens
  let picked : LoginAgreement.System := {LoginAgreement.System.start server with game := {Client.Game.start with username := suID}}
  have picks : LoginAgreement.System.step (host.living generated.crypto) build (.start server) .selectUsername =
      .ok (picked,[]) := rfl
  have registered : AccountLogin.Registered (host.living generated.crypto) server.toWorld suID (text "testa") salt row :=
    Mastered.registered (host.living generated.crypto) mastered
  obtain ⟨outputs,s,admits,logged,_,admitted,_⟩ := Admission.calling_admits (s:=picked) genuine.keys
    ⟨shared.apg,shared.blank⟩ genuine.speaks suID_free rfl rfl registered active
  exact ⟨outputs,s,row,.cons picks admits,logged,mastered.held,admitted⟩

theorem pem_genuine : Genuine inn Admission.traveller pem where
  reads := rfl
  keys := Admission.lodge_keys
  speaks := Admission.lodge_speaks (by decide +kernel) (by decide +kernel) (by simp [Admission.documents,suID])

theorem opening_ours : Runs.StepsMeet (step inn) ⟨bare,.down⟩ (opening ++ reopening) (Ours inn Admission.traveller) := by
  have whole : Runs.StepsMeet (step inn) ⟨bare,.down⟩ (opening ++ reopening) Whole := Runs.checkSteps_meet (by decide +kernel)
  have pairs : ∀ generated, .generate generated ∈ opening ++ reopening → generated = pem := by
    intro generated member
    simpa [opening,reopening] using member
  intro before act after all trace middle path
  cases act with
  | construct =>
    intro down
    rw [all] at whole pairs
    refine whole_paired (.inl ⟨rfl,rfl⟩) whole.early ?_ path down
    intro generated member
    rw [pairs generated (List.mem_append_left _ member)]
    exact pem_genuine
  | generate generated =>
    rw [pairs generated (by simp [all])]
    exact pem_genuine
  | event event =>
    have member : .event event ∈ opening ++ reopening := by simp [all]
    simp [opening,reopening] at member
  | openKeyFile | writeKeyFile | load | run | kill => exact trivial

theorem account_opens_again : ∃ crypto server outputs s person, reopened.phase = .serving crypto server ∧
    Runs.Run (LoginAgreement.System.step (inn.living crypto) Admission.traveller) (.start server)
      (.selectUsername :: Admission.calling 0 (.delivers [])) outputs s ∧ s.call = .loggedIn suID ∧
    server.players.query suID = [person] ∧ Admission.Admitted s.network.server.toWorld 0 suID person := by
  obtain ⟨_,first⟩ := opening_runs
  obtain ⟨_,second⟩ := reopening_runs
  have served : ∃ crypto server, reopened.phase = .serving crypto server ∧ server.incomingConnections.length = 0 ∧
    server.socketsAccepted = 0 := ⟨_,_,rfl,rfl,rfl⟩
  obtain ⟨crypto,server,serving,none,zero⟩ := served
  obtain ⟨outputs,s,person,run,logged,row,admitted⟩ := account_opens ⟨rfl,by decide +kernel⟩ rfl
    (first.append second) opening_ours serving (show ( SocketIO.delivers []).activity = true from rfl)
  rw [none] at run
  rw [zero] at admitted
  exact ⟨crypto,server,outputs,s,person,serving,run,logged,row,admitted⟩

end PlayPG.Installation
