import Mathlib
import BookCatalogue.Config.File

/-! # What a configuration file says

The settings of a file are the values under its known keys, each on its own. Everything else in it can only
keep the file from being read. -/

namespace BookCatalogue.FileSettings

open Json (Draft Numeral)

/-! ## The value of a key -/

section Value

variable {members : Members} {key : String} {value : Draft}

theorem mem_iff_of_value? (present : value? members key = some value) {other : Draft} (notNull : other ≠ .null) :
    (some key, other) ∈ members ↔ other = value := by
  have mem_iff : (some key, other) ∈ members ↔
      (some key, other) ∈ members.filter (·.1 == some key) := by
    simp
  rw [mem_iff]
  unfold value? at present
  split at present
  case h_1 empty =>
    simp only [Option.some.injEq] at present
    simp [empty, ← present, notNull]
  case h_2 name only one =>
    have named : name = some key := by
      have member : (name, only) ∈ members.filter (·.1 == some key) := by simp [one]
      simpa using (List.mem_filter.mp member).2
    simp only [Option.some.injEq] at present
    simp [one, named, present]
  case h_3 => simp at present

variable {α : Type} {read : Draft → Option (Option α)} {found : Option α}

/-- What is read is the value of a member with the key. -/
theorem eq_some_iff_of_value? (nullReads : read .null = some none) (present : value? members key = some value)
    (reads : read value = some found) {x : α} :
    found = some x ↔ ∃ value, (some key, value) ∈ members ∧ read value = some (some x) := by
  constructor
  · rintro rfl
    have notNull : value ≠ .null := by
      rintro rfl
      simp [nullReads] at reads
    exact ⟨value, (mem_iff_of_value? present notNull).mpr rfl, reads⟩
  · rintro ⟨other, isMember, readsOther⟩
    have notNull : other ≠ .null := by
      rintro rfl
      simp [nullReads] at readsOther
    rw [(mem_iff_of_value? present notNull).mp isMember, reads] at readsOther
    exact Option.some.inj readsOther

end Value

theorem text?_eq_some_iff {value : Draft} {s : String} :
    text? value = some (some s) ↔ value = .string (some s) := by
  cases value with
  | string content => cases content <;> simp [text?]
  | _ => simp [text?]

theorem flag?_eq_some_iff {value : Draft} {b : Bool} : flag? value = some (some b) ↔ value = .bool b := by
  cases value <;> simp [flag?]

theorem port?_eq_some_iff {value : Draft} {port : UInt16} :
    port? value = some (some port) ↔
      ∃ n : Numeral, value = .number n ∧ n.value? = some (.natural port.toNat) := by
  cases value with
  | number n =>
    have small := port.toNat_lt
    simp only [port?, Draft.number.injEq, exists_eq_left']
    cases n.value? with
    | none => simp
    | some number =>
      cases number with
      | natural p =>
        by_cases within : p < 65536
        · simp [within, ← UInt16.toNat_inj, Nat.mod_eq_of_lt within]
        · simp only [within, if_false, Option.some.injEq, Json.Number.natural.injEq, reduceCtorEq, false_iff]
          rintro rfl
          exact within small
      | negative p => simp
      | real minus x => simp
  | _ => simp [port?]

/-! ## Sections -/

/-- A section holds a value for a key: in an object the member with the key, and in an array, which has the
values of all keys in order, the item in the place of the key. -/
inductive SectionHolds (keys : List String) : Draft → String → Draft → Prop
  | member {members : Members} {key : String} {value : Draft} (isMember : (some key, value) ∈ members) :
      SectionHolds keys (.object members) key value
  | item {items : List Draft} {key : String} {value : Draft} (placed : (key, value) ∈ keys.zip items) :
      SectionHolds keys (.array items) key value

def serverKeys : List String := ["host", "port"]

def databaseKeys : List String := ["path"]

section Sections

variable {keys : List String} {key : String} {value : Draft}

@[simp] theorem sectionHolds_object_iff {members : Members} :
    SectionHolds keys (.object members) key value ↔ (some key, value) ∈ members := by
  constructor
  · rintro ⟨isMember⟩
    exact isMember
  · exact .member

@[simp] theorem sectionHolds_array_iff {items : List Draft} :
    SectionHolds keys (.array items) key value ↔ (key, value) ∈ keys.zip items := by
  constructor
  · rintro (_ | placed)
    exact placed
  · exact .item

@[simp] theorem not_sectionHolds_null : ¬ SectionHolds keys .null key value := nofun

theorem eq_some_iff_of_server? {content : Draft} {server : Option ServerSection}
    (reads : server? content = some server) :
    (∀ x, server.bind (·.host) = some x ↔
        ∃ value, SectionHolds serverKeys content "host" value ∧ text? value = some (some x)) ∧
      (∀ x, server.bind (·.port) = some x ↔
        ∃ value, SectionHolds serverKeys content "port" value ∧ port? value = some (some x)) := by
  unfold server? at reads
  split at reads
  case h_1 =>
    simp only [Option.some.injEq] at reads
    simp [← reads]
  case h_2 members =>
    simp only [bind, guard, Option.bind_eq_some_iff, pure, Option.some.injEq] at reads
    obtain ⟨_, _, hostValue, hostPresent, _, hostReads, portValue, portPresent, _, portReads, rfl⟩ := reads
    simp only [sectionHolds_object_iff, Option.bind_some]
    exact ⟨fun x => eq_some_iff_of_value? rfl hostPresent hostReads,
      fun x => eq_some_iff_of_value? rfl portPresent portReads⟩
  case h_3 first second =>
    simp only [bind, Option.bind_eq_some_iff, pure, Option.some.injEq] at reads
    obtain ⟨_, hostReads, _, portReads, rfl⟩ := reads
    simp [serverKeys, hostReads, portReads]
  case h_4 => simp at reads

theorem eq_some_iff_of_database? {content : Draft} {database : Option DatabaseSection}
    (reads : database? content = some database) (x : String) :
    database.bind (·.path) = some x ↔
      ∃ value, SectionHolds databaseKeys content "path" value ∧ text? value = some (some x) := by
  unfold database? at reads
  split at reads
  case h_1 =>
    simp only [Option.some.injEq] at reads
    simp [← reads]
  case h_2 members =>
    simp only [bind, guard, Option.bind_eq_some_iff, pure, Option.some.injEq] at reads
    obtain ⟨_, _, pathValue, present, _, pathReads, rfl⟩ := reads
    simp only [sectionHolds_object_iff, Option.bind_some]
    exact eq_some_iff_of_value? rfl present pathReads
  case h_3 item =>
    simp only [bind, Option.bind_eq_some_iff, pure, Option.some.injEq] at reads
    obtain ⟨_, pathReads, rfl⟩ := reads
    simp [databaseKeys, pathReads]
  case h_4 => simp at reads

end Sections

/-! ## Files -/

section Files

/-- A file holds a value for a key of a section. -/
def Holds (members : Members) (name : String) (keys : List String) (key : String) (value : Draft) : Prop :=
  ∃ content, (some name, content) ∈ members ∧ SectionHolds keys content key value

/-- The settings are what the members of a file say, key by key. A null says nothing. -/
structure AreSaidBy (s : Settings) (members : Members) : Prop where
  host (host : String) :
    s.host = some host ↔ Holds members "server" serverKeys "host" (.string (some host))
  port (port : UInt16) :
    s.port = some port ↔ ∃ n : Numeral, n.value? = some (.natural port.toNat) ∧
      Holds members "server" serverKeys "port" (.number n)
  database (path : String) :
    s.database = some path ↔ Holds members "database" databaseKeys "path" (.string (some path))
  debug (b : Bool) : s.debug = some b ↔ (some "debug", .bool b) ∈ members

/-- The keys that the sections set. -/
def keys (file : FileSettings) : Settings :=
  ⟨file.server.bind (·.host), file.server.bind (·.port), file.database.bind (·.path), file.debug⟩

variable {members : Members} {file : FileSettings}

theorem ofMembers?_eq_some_iff :
    ofMembers? members = some file ↔
      othersAre ["server", "database", "debug"]
        (fun value => value.isReadable && value.depth ≤ depthLimit) members ∧
      ∃ server database debug, value? members "server" = some server ∧ server? server = some file.server ∧
        value? members "database" = some database ∧ database? database = some file.database ∧
        value? members "debug" = some debug ∧ flag? debug = some file.debug := by
  unfold ofMembers?
  simp only [bind, guard, Option.bind_eq_some_iff, pure, Option.some.injEq]
  constructor
  · rintro ⟨_, acceptable, server, isServer, _, serverReads, database, isDatabase, _, databaseReads, debug,
      isDebug, _, debugReads, rfl⟩
    refine ⟨?_, server, database, debug, isServer, serverReads, isDatabase, databaseReads, isDebug, debugReads⟩
    by_contra refused
    simp [refused] at acceptable
  · rintro ⟨acceptable, server, database, debug, isServer, serverReads, isDatabase, databaseReads, isDebug,
      debugReads⟩
    exact ⟨(), by simp [acceptable], server, isServer, _, serverReads, database, isDatabase, _, databaseReads,
      debug, isDebug, _, debugReads, rfl⟩

theorem holds_iff_of_value? {name : String} {content : Draft} (present : value? members name = some content)
    {keys : List String} {key : String} {value : Draft} :
    Holds members name keys key value ↔ SectionHolds keys content key value := by
  constructor
  · rintro ⟨other, isMember, holds⟩
    have notNull : other ≠ .null := by
      rintro rfl
      exact not_sectionHolds_null holds
    rwa [← (mem_iff_of_value? present notNull).mp isMember]
  · intro holds
    have notNull : content ≠ .null := by
      rintro rfl
      exact not_sectionHolds_null holds
    exact ⟨content, (mem_iff_of_value? present notNull).mpr rfl, holds⟩

/-- The keys that are set are what the file says. -/
theorem areSaidBy_keys (reads : ofMembers? members = some file) : AreSaidBy file.keys members := by
  obtain ⟨_, server, database, debug, isServer, serverReads, isDatabase, databaseReads, isDebug, debugReads⟩ :=
    ofMembers?_eq_some_iff.mp reads
  obtain ⟨hostIs, portIs⟩ := eq_some_iff_of_server? serverReads
  have pathIs := eq_some_iff_of_database? databaseReads
  constructor
  · intro host
    simp [keys, hostIs, text?_eq_some_iff, holds_iff_of_value? isServer]
  · intro port
    simp only [keys, portIs, port?_eq_some_iff, holds_iff_of_value? isServer]
    constructor
    · rintro ⟨_, holds, n, rfl, natural⟩
      exact ⟨n, natural, holds⟩
    · rintro ⟨n, natural, holds⟩
      exact ⟨_, holds, n, rfl, natural⟩
  · intro path
    simp [keys, pathIs, text?_eq_some_iff, holds_iff_of_value? isDatabase]
  · intro b
    rw [keys, eq_some_iff_of_value? rfl isDebug debugReads]
    simp [flag?_eq_some_iff]

/-- A file says only one thing. -/
theorem AreSaidBy.unique {s s' : Settings} (said : AreSaidBy s members) (said' : AreSaidBy s' members) : s = s' := by
  rcases s with ⟨host, port, database, debug⟩
  rcases s' with ⟨host', port', database', debug'⟩
  have sameHost : host = host' := Option.ext fun x => (said.host x).trans (said'.host x).symm
  have samePort : port = port' := Option.ext fun x => (said.port x).trans (said'.port x).symm
  have sameDatabase : database = database' := Option.ext fun x => (said.database x).trans (said'.database x).symm
  have sameDebug : debug = debug' := Option.ext fun x => (said.debug x).trans (said'.debug x).symm
  rw [sameHost, samePort, sameDatabase, sameDebug]

end Files

/-! ## Unknown keys -/

def knownIn (keys : List String) (members : Members) : Members :=
  members.filter fun member => keys.any fun key => member.1 == some key

/-- A value without the members that are unknown in its section. -/
def withoutUnknownIn : Option String → Draft → Draft
  | some "server", .object members => .object (knownIn serverKeys members)
  | some "database", .object members => .object (knownIn databaseKeys members)
  | _, value => value

/-- A file without the members that are unknown in it and in its sections. -/
def withoutUnknown (members : Members) : Members :=
  (knownIn ["server", "database", "debug"] members).map fun member =>
    (member.1, withoutUnknownIn member.1 member.2)

section Unknown

variable {members : Members} {keys : List String} {key : String}

theorem value?_knownIn (known : key ∈ keys) : value? (knownIn keys members) key = value? members key := by
  have sameMembers : (knownIn keys members).filter (·.1 == some key) = members.filter (·.1 == some key) := by
    rw [knownIn, List.filter_filter]
    apply List.filter_congr
    rintro ⟨name, value⟩ _
    by_cases named : name = some key
    · simp [named, known]
    · simp [named]
  rw [value?, sameMembers, value?]

theorem value?_map {f : Option String → Draft → Draft} (keepsNull : f (some key) .null = .null) :
    value? (members.map fun member => (member.1, f member.1 member.2)) key =
      (value? members key).map (f (some key)) := by
  have filtered : (members.map fun member => (member.1, f member.1 member.2)).filter (·.1 == some key) =
      (members.filter (·.1 == some key)).map fun member => (member.1, f member.1 member.2) := by
    rw [List.filter_map]
    rfl
  have named : ∀ member ∈ members.filter (·.1 == some key), member.1 = some key := by simp
  rw [value?, filtered, value?]
  generalize members.filter (·.1 == some key) = chosen at named
  rcases chosen with _ | ⟨⟨name, value⟩, _ | ⟨next, more⟩⟩
  · simp [keepsNull]
  · have isKey : name = some key := named (name, value) (List.mem_singleton_self _)
    simp [isKey]
  · rfl

theorem mem_knownIn_iff {member : Option String × Draft} :
    member ∈ knownIn keys members ↔ member ∈ members ∧ ∃ key ∈ keys, member.1 = some key := by
  simp [knownIn]

/-- There is nothing to ask of members with known keys. -/
theorem othersAre_of_forall_known (known : ∀ member ∈ members, ∃ key ∈ keys, member.1 = some key)
    (condition : Draft → Bool) : othersAre keys condition members = true := by
  refine List.all_eq_true.mpr ?_
  rintro ⟨name, value⟩ isMember
  obtain ⟨key, isKnown, rfl⟩ := known _ isMember
  simp [isKnown]

theorem othersAre_knownIn (condition : Draft → Bool) : othersAre keys condition (knownIn keys members) = true :=
  othersAre_of_forall_known (fun _ isMember => (mem_knownIn_iff.mp isMember).2) condition

theorem othersAre_withoutUnknown (condition : Draft → Bool) :
    othersAre ["server", "database", "debug"] condition (withoutUnknown members) = true := by
  apply othersAre_of_forall_known
  intro member isMember
  obtain ⟨original, isKnown, rfl⟩ := List.mem_map.mp isMember
  exact (mem_knownIn_iff.mp isKnown).2

theorem server?_withoutUnknownIn {content : Draft} {server : Option ServerSection}
    (reads : server? content = some server) :
    server? (withoutUnknownIn (some "server") content) = some server := by
  cases content with
  | object members =>
    have others : othersAre ["host", "port"] Draft.isWhole (knownIn serverKeys members) = true :=
      othersAre_knownIn _
    have host : value? (knownIn serverKeys members) "host" = value? members "host" :=
      value?_knownIn (by decide)
    have port : value? (knownIn serverKeys members) "port" = value? members "port" :=
      value?_knownIn (by decide)
    have acceptable : othersAre ["host", "port"] Draft.isWhole members = true := by
      by_contra refused
      simp [server?, guard, refused] at reads
    simp only [server?, acceptable] at reads
    simp only [withoutUnknownIn, server?, others, host, port]
    exact reads
  | _ => exact reads

theorem database?_withoutUnknownIn {content : Draft} {database : Option DatabaseSection}
    (reads : database? content = some database) :
    database? (withoutUnknownIn (some "database") content) = some database := by
  cases content with
  | object members =>
    have others : othersAre ["path"] Draft.isWhole (knownIn databaseKeys members) = true := othersAre_knownIn _
    have path : value? (knownIn databaseKeys members) "path" = value? members "path" :=
      value?_knownIn (by decide)
    have acceptable : othersAre ["path"] Draft.isWhole members = true := by
      by_contra refused
      simp [database?, guard, refused] at reads
    simp only [database?, acceptable] at reads
    simp only [withoutUnknownIn, database?, others, path]
    exact reads
  | _ => exact reads

theorem value?_withoutUnknown (known : key ∈ ["server", "database", "debug"]) :
    value? (withoutUnknown members) key = (value? members key).map (withoutUnknownIn (some key)) := by
  have keepsNull : withoutUnknownIn (some key) .null = .null := by simp [withoutUnknownIn]
  rw [withoutUnknown, value?_map keepsNull, value?_knownIn known]

/-- A file that is read is also read without the unknown members, as the same settings. -/
theorem ofMembers?_withoutUnknown {file : FileSettings} (reads : ofMembers? members = some file) :
    ofMembers? (withoutUnknown members) = some file := by
  obtain ⟨_, server, database, debug, isServer, serverReads, isDatabase, databaseReads, isDebug, debugReads⟩ :=
    ofMembers?_eq_some_iff.mp reads
  refine ofMembers?_eq_some_iff.mpr ⟨?_, withoutUnknownIn (some "server") server,
    withoutUnknownIn (some "database") database, debug, ?_, server?_withoutUnknownIn serverReads, ?_,
    database?_withoutUnknownIn databaseReads, ?_, debugReads⟩
  · exact othersAre_withoutUnknown _
  · rw [value?_withoutUnknown (by decide), isServer, Option.map_some]
  · rw [value?_withoutUnknown (by decide), isDatabase, Option.map_some]
  · rw [value?_withoutUnknown (by decide), isDebug, Option.map_some]
    rfl

end Unknown

end BookCatalogue.FileSettings
