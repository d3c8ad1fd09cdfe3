import Mathlib
import BookCatalogue.Config.Load
import BookCatalogue.Proofs.Config.File
import BookCatalogue.Proofs.Json.Value
import BookCatalogue.Proofs.Prelude

/-! # How a configuration is resolved

Every key has a value of its own: the first that the command line, the file over the profile, the profile and
the defaults have for it. Files that cannot be used and rules that are broken are reported in a fixed order. -/

namespace BookCatalogue.Config

open Files

/-! ## What stands at the paths -/

def profileEntry (places : Places) (t : Tree) : Option Entry := t.locate? (join places.work (profilePath places))

/-- The path of the file over the profile, as it is reported. -/
def overlayPath (places : Places) : Option String → Path
  | some file => expand places file.toList
  | none => configFileName.toList

/-- What stands at the path of the file over the profile: the file that the command line names, or else the one
in the working directory. -/
def overlayEntry (places : Places) (t : Tree) : Option String → Option Entry
  | some file => t.locate? (expand places file.toList)
  | none => t.locate? (join places.work configFileName.toList)

/-- An entry gives settings: a file that is read gives what its members say, and nothing gives none. -/
inductive Gives : Option Entry → Settings → Prop
  | absent : Gives none {}
  | file {text : String} {members : FileSettings.Members} {s : Settings}
      (document : Json.Document.ofString text = ⟨.object members, true⟩)
      (accepted : (FileSettings.ofMembers? members).isSome) (said : FileSettings.AreSaidBy s members) :
      Gives (some (.file text)) s

inductive Fails (path : Path) : Option Entry → Error → Prop
  | folder : Fails path (some .folder) (.unreadable (String.ofList path))
  | unreadable : Fails path (some .unreadable) (.unreadable (String.ofList path))
  | malformed {text : String} (refused : FileSettings.ofText? text = none) :
      Fails path (some (.file text)) (.malformed (String.ofList path))

theorem ofText?_eq_some_iff {text : String} {file : FileSettings} :
    FileSettings.ofText? text = some file ↔ ∃ members,
      Json.Document.ofString text = ⟨.object members, true⟩ ∧ FileSettings.ofMembers? members = some file := by
  unfold FileSettings.ofText?
  obtain ⟨value, ends⟩ := Json.Document.ofString text
  cases value <;> cases ends <;> simp

/-- A file that is read gives the keys that are set in it. -/
theorem gives_file_iff {text : String} {s : Settings} :
    Gives (some (.file text)) s ↔ ∃ file, FileSettings.ofText? text = some file ∧ file.keys = s := by
  simp only [ofText?_eq_some_iff]
  constructor
  · rintro (_ | ⟨document, accepted, said⟩)
    obtain ⟨file, reads⟩ := Option.isSome_iff_exists.mp accepted
    exact ⟨file, ⟨_, document, reads⟩, (FileSettings.areSaidBy_keys reads).unique said⟩
  · rintro ⟨file, ⟨members, document, reads⟩, rfl⟩
    exact .file document (Option.isSome_of_eq_some reads) (FileSettings.areSaidBy_keys reads)

section Reading

variable {places : Places} {t : Tree} {path : Path} {s : Settings} {e : Error}

theorem gives_some_iff {entry : Entry} :
    Gives (some entry) s ↔ ∃ file, readEntry path entry = .ok file ∧ file.keys = s := by
  cases entry with
  | file text =>
    rw [gives_file_iff, readEntry]
    cases FileSettings.ofText? text <;> simp
  | unreadable | folder =>
    refine iff_of_false nofun ?_
    simp [readEntry]

theorem readEntry_eq_error_iff {entry : Entry} : readEntry path entry = .error e ↔ Fails path (some entry) e := by
  constructor
  · intro fails
    cases entry with
    | file text =>
      rw [readEntry] at fails
      split at fails
      · cases fails
      case h_2 refused =>
        cases fails
        exact .malformed refused
    | unreadable =>
      cases fails
      exact .unreadable
    | folder =>
      cases fails
      exact .folder
  · rintro (_ | _ | refused)
    · rfl
    · rfl
    · rw [readEntry, refused]

/-- The keys that are set where a file may be missing. -/
def keysOf (found : Option FileSettings) : Settings := (found.getD {}).keys

theorem map_some_eq_ok_iff {read : Except Error FileSettings} :
    (∃ found, read.map some = .ok found ∧ keysOf found = s) ↔ ∃ file, read = .ok file ∧ file.keys = s := by
  cases read <;> simp [Except.map, keysOf]

theorem gives_iff_readOptional :
    Gives (t.locate? (join places.work path)) s ↔
      ∃ found, readOptional places t path = .ok found ∧ keysOf found = s := by
  unfold readOptional
  cases t.locate? (join places.work path) with
  | some entry => rw [map_some_eq_ok_iff, gives_some_iff]
  | none =>
    constructor
    · rintro ⟨⟩
      exact ⟨none, rfl, rfl⟩
    · rintro ⟨_, ⟨⟩, rfl⟩
      exact .absent

theorem readOptional_eq_error_iff :
    readOptional places t path = .error e ↔ Fails path (t.locate? (join places.work path)) e := by
  unfold readOptional
  cases t.locate? (join places.work path) with
  | some entry => rw [map_eq_error_iff, readEntry_eq_error_iff]
  | none => exact iff_of_false nofun nofun

theorem gives_iff_readOverlay {file : Option String} :
    (file.isSome → (overlayEntry places t file).isSome) ∧ Gives (overlayEntry places t file) s ↔
      ∃ found, readOverlay places t file = .ok found ∧ keysOf found = s := by
  cases file with
  | none => simpa [readOverlay, overlayEntry] using gives_iff_readOptional
  | some file =>
    simp only [readOverlay, overlayEntry]
    cases t.locate? (expand places file.toList) with
    | some entry =>
      rw [map_some_eq_ok_iff]
      simpa using gives_some_iff
    | none => simp

theorem readOverlay_eq_error_iff {file : Option String} :
    readOverlay places t file = .error e ↔
      (∃ named, file = some named ∧ overlayEntry places t file = none ∧
        e = .missing (String.ofList (overlayPath places file))) ∨
      Fails (overlayPath places file) (overlayEntry places t file) e := by
  cases file with
  | none => simpa [readOverlay, overlayEntry, overlayPath] using readOptional_eq_error_iff
  | some file =>
    simp only [readOverlay, overlayEntry, overlayPath]
    cases t.locate? (expand places file.toList) with
    | some entry =>
      rw [map_eq_error_iff]
      simpa using readEntry_eq_error_iff
    | none =>
      have usable : ¬ Fails (expand places file.toList) none e := by
        rintro ⟨⟩
      simp [usable, eq_comm]

end Reading

/-! ## Keys -/

/-- Each key has the first value in order, and debugging is on if the command line switches it on or else the
first file that mentions it. -/
structure IsResolved (o : Overrides) (overlay profile : Settings) (c : Config) : Prop where
  host : some c.host = [o.settings.host, overlay.host, profile.host, some "127.0.0.1"].findSome? id
  port : some c.port = [o.settings.port, overlay.port, profile.port, some 8080].findSome? id
  database : c.database = [o.settings.database, overlay.database, profile.database].findSome? id
  debug : c.debug = true ↔
    o.settings.debug = some true ∨ [overlay.debug, profile.debug].findSome? id = some true

section Keys

variable {o : Overrides} {c : Config}

/-- Key by key the value of the upper settings, or else that of the lower ones. -/
def orKeys (upper lower : Settings) : Settings :=
  ⟨upper.host <|> lower.host, upper.port <|> lower.port, upper.database <|> lower.database,
    upper.debug <|> lower.debug⟩

theorem orKeys_empty (s : Settings) : orKeys s {} = s := by
  rcases s with ⟨_ | _, _ | _, _ | _, _ | _⟩ <;> rfl

/-- A section that sets one key leaves the other as it was, and so does one that is empty or null. -/
theorem keys_merge (current other : FileSettings) : (current.merge other).keys = orKeys other.keys current.keys := by
  rcases current with ⟨server, database, debug⟩
  rcases other with ⟨server', database', debug'⟩
  simp only [FileSettings.merge, FileSettings.keys, orKeys, ServerSection.merge, DatabaseSection.merge,
    if_isSome_eq_or, Settings.mk.injEq, and_true]
  refine ⟨?_, ?_, ?_⟩
  · cases server <;> cases server' <;> simp
  · cases server <;> cases server' <;> simp
  · cases database <;> cases database' <;> simp

theorem keys_foldl_merge (found : Option FileSettings) (file : FileSettings) :
    (found.toList.foldl FileSettings.merge file).keys = orKeys (keysOf found) file.keys := by
  cases found with
  | none => rfl
  | some other => exact keys_merge file other

theorem layer_eq (o : Overrides) (file : FileSettings) :
    layer o file =
      ⟨(o.settings.host <|> file.keys.host).getD "127.0.0.1", (o.settings.port <|> file.keys.port).getD 8080,
        o.settings.database <|> file.keys.database,
        o.settings.debug.getD false || file.keys.debug.getD false⟩ := by
  rcases file with ⟨_ | server, _ | database, debug⟩ <;> rfl

/-- A switch can only turn on what comes after it. -/
theorem switch_eq_true_iff (switch first second : Option Bool) :
    (switch.getD false || (first <|> second).getD false) = true ↔
      switch = some true ∨ [first, second].findSome? id = some true := by
  cases switch <;> cases first <;> cases second <;> simp

/-- The files that are found are merged and layered key by key. -/
theorem isResolved_layer (o : Overrides) (profile overlay : Option FileSettings) :
    IsResolved o (keysOf overlay) (keysOf profile)
      (layer o ((profile.toList ++ overlay.toList).foldl FileSettings.merge {})) := by
  have keys : ((profile.toList ++ overlay.toList).foldl FileSettings.merge {}).keys =
      orKeys (keysOf overlay) (keysOf profile) := by
    rw [List.foldl_append, keys_foldl_merge, keys_foldl_merge]
    exact congrArg (orKeys (keysOf overlay)) (orKeys_empty (keysOf profile))
  rw [layer_eq, keys]
  constructor
  · exact (findSome?_eq_getD ..).symm
  · exact (findSome?_eq_getD ..).symm
  · exact (findSome?_eq_or ..).symm
  · exact switch_eq_true_iff ..

theorem IsResolved.unique {overlay profile : Settings} {c' : Config} (resolved : IsResolved o overlay profile c)
    (resolved' : IsResolved o overlay profile c') : c = c' := by
  rcases c with ⟨host, port, database, debug⟩
  rcases c' with ⟨host', port', database', debug'⟩
  have sameHost : host = host' := Option.some.inj (resolved.host.trans resolved'.host.symm)
  have samePort : port = port' := Option.some.inj (resolved.port.trans resolved'.port.symm)
  have sameDatabase : database = database' := resolved.database.trans resolved'.database.symm
  have sameDebug : debug = debug' := Bool.eq_iff_iff.mpr (resolved.debug.trans resolved'.debug.symm)
  rw [sameHost, samePort, sameDatabase, sameDebug]

end Keys

/-! ## Loading -/

/-- The files at their paths and the command line resolve to a configuration. -/
def Resolves (places : Places) (t : Tree) (o : Overrides) (c : Config) : Prop :=
  ∃ profile overlay, Gives (profileEntry places t) profile ∧
    (o.file.isSome → (overlayEntry places t o.file).isSome) ∧ Gives (overlayEntry places t o.file) overlay ∧
    IsResolved o overlay profile c

/-- What loading comes to. -/
inductive Loads (places : Places) (t : Tree) (o : Overrides) : Except Error Config → Prop
  | profileFails {e : Error} (fails : Fails (profilePath places) (profileEntry places t) e) :
      Loads places t o (.error e)
  | fileMissing {profile : Settings} {file : String} (gives : Gives (profileEntry places t) profile)
      (named : o.file = some file) (missing : overlayEntry places t (some file) = none) :
      Loads places t o (.error (.missing (String.ofList (overlayPath places (some file)))))
  | overlayFails {profile : Settings} {e : Error} (gives : Gives (profileEntry places t) profile)
      (fails : Fails (overlayPath places o.file) (overlayEntry places t o.file) e) :
      Loads places t o (.error e)
  | hostEmpty {c : Config} (resolves : Resolves places t o c) (empty : c.host = "") :
      Loads places t o (.error .emptyHost)
  | portZero {c : Config} (resolves : Resolves places t o c) (host : c.host ≠ "") (zero : c.port = 0) :
      Loads places t o (.error .portZero)
  | databaseBlank {c : Config} {path : String} (resolves : Resolves places t o c) (host : c.host ≠ "")
      (port : c.port ≠ 0) (database : c.database = some path) (blank : Text.isBlank path.toList = true) :
      Loads places t o (.error .blankDatabase)
  | loaded {c : Config} (resolves : Resolves places t o c) (host : c.host ≠ "") (port : c.port ≠ 0)
      (database : ∀ path, c.database = some path → Text.isBlank path.toList = false) : Loads places t o (.ok c)

/-- Entries that are the same up to the unknown members of files that are read. A file need not be known to be
read if it only lacks the unknown members of another. -/
inductive SameButUnknown : Option Entry → Option Entry → Prop
  | same (entry : Option Entry) : SameButUnknown entry entry
  | without {text text' : String} {members : FileSettings.Members}
      (document : Json.Document.ofString text = ⟨.object members, true⟩)
      (document' : Json.Document.ofString text' = ⟨.object (FileSettings.withoutUnknown members), true⟩)
      (accepted : (FileSettings.ofMembers? members).isSome) :
      SameButUnknown (some (.file text)) (some (.file text'))
  | files {text text' : String} {members members' : FileSettings.Members}
      (document : Json.Document.ofString text = ⟨.object members, true⟩)
      (document' : Json.Document.ofString text' = ⟨.object members', true⟩)
      (accepted : (FileSettings.ofMembers? members).isSome) (accepted' : (FileSettings.ofMembers? members').isSome)
      (sameKnown : FileSettings.withoutUnknown members = FileSettings.withoutUnknown members') :
      SameButUnknown (some (.file text)) (some (.file text'))

section Loading

variable {places : Places} {t t' : Tree} {o : Overrides} {c : Config}

theorem load_eq_checked (resolves : Resolves places t o c) : load places t o = c.checked := by
  obtain ⟨_, _, profileGives, present, overlayGives, resolved⟩ := resolves
  obtain ⟨profile, readProfile, rfl⟩ := gives_iff_readOptional.mp profileGives
  obtain ⟨overlay, readOver, rfl⟩ := gives_iff_readOverlay.mp ⟨present, overlayGives⟩
  rw [load, readProfile, resolved.unique (isResolved_layer o profile overlay)]
  simp only [bind, Except.bind, readOver]

theorem loads_checked (resolves : Resolves places t o c) : Loads places t o c.checked := by
  by_cases host : c.host = ""
  · simpa [checked, fault?, host] using Loads.hostEmpty resolves host
  by_cases port : c.port = 0
  · simpa [checked, fault?, host, port] using Loads.portZero resolves host port
  by_cases database : ∃ path, c.database = some path ∧ Text.isBlank path.toList = true
  · obtain ⟨path, given, blank⟩ := database
    simpa [checked, fault?, host, port, given, blank] using Loads.databaseBlank resolves host port given blank
  · have notBlank : ∀ path, c.database = some path → Text.isBlank path.toList = false := by simpa using database
    simpa [checked, fault?, host, port, Option.any_eq_true, database] using Loads.loaded resolves host port notBlank

/-- Loading comes to something in every case. -/
theorem loads_load : Loads places t o (load places t o) := by
  cases readProfile : readOptional places t (profilePath places) with
  | error e =>
    have failed : load places t o = .error e := by
      rw [load, readProfile]
      rfl
    rw [failed]
    exact .profileFails (readOptional_eq_error_iff.mp readProfile)
  | ok profile =>
    have gives := gives_iff_readOptional.mpr ⟨profile, readProfile, rfl⟩
    cases readOver : readOverlay places t o.file with
    | error e =>
      have failed : load places t o = .error e := by
        rw [load, readProfile]
        simp only [bind, Except.bind, readOver]
      rw [failed]
      rcases readOverlay_eq_error_iff.mp readOver with ⟨file, named, missing, rfl⟩ | fails
      · rw [named] at missing ⊢
        exact .fileMissing gives named missing
      · exact .overlayFails gives fails
    | ok overlay =>
      obtain ⟨present, overlayGives⟩ := gives_iff_readOverlay.mpr ⟨overlay, readOver, rfl⟩
      have resolves : Resolves places t o _ :=
        ⟨_, _, gives, present, overlayGives, isResolved_layer o profile overlay⟩
      rw [load_eq_checked resolves]
      exact loads_checked resolves

theorem load_eq_error_of_readOverlay {profile : Settings} {e : Error} (gives : Gives (profileEntry places t) profile)
    (fails : readOverlay places t o.file = .error e) : load places t o = .error e := by
  obtain ⟨found, readProfile, rfl⟩ := gives_iff_readOptional.mp gives
  rw [load, readProfile]
  simp only [bind, Except.bind, fails]

theorem load_eq_of_loads {outcome : Except Error Config} (loads : Loads places t o outcome) :
    load places t o = outcome := by
  cases loads with
  | profileFails fails =>
    rw [load, readOptional_eq_error_iff.mpr fails]
    rfl
  | fileMissing gives named missing =>
    apply load_eq_error_of_readOverlay gives
    rw [named]
    exact readOverlay_eq_error_iff.mpr (.inl ⟨_, rfl, missing, rfl⟩)
  | overlayFails gives fails =>
    exact load_eq_error_of_readOverlay gives (readOverlay_eq_error_iff.mpr (.inr fails))
  | hostEmpty resolves empty =>
    rw [load_eq_checked resolves]
    simp [checked, fault?, empty]
  | portZero resolves host zero =>
    rw [load_eq_checked resolves]
    simp [checked, fault?, host, zero]
  | databaseBlank resolves host port database blank =>
    rw [load_eq_checked resolves]
    simp [checked, fault?, host, port, database, blank]
  | @loaded c resolves host port database =>
    rw [load_eq_checked resolves]
    have notBlank : (c.database.any fun path => Text.isBlank path.toList) = false := by
      cases given : c.database with
      | none => rfl
      | some path => exact database path given
    exact (checked_eq_ok_iff c c).mpr ⟨rfl, by simp [fault?, host, port, notBlank]⟩

/-- Files that are the same up to unknown members are read alike. -/
theorem SameButUnknown.map_readEntry {entry entry' : Option Entry} (same : SameButUnknown entry entry')
    (path : Path) : entry.map (readEntry path) = entry'.map (readEntry path) := by
  have alike {text text' : String} {file : FileSettings} (reads : FileSettings.ofText? text = some file)
      (reads' : FileSettings.ofText? text' = some file) :
      readEntry path (.file text) = readEntry path (.file text') := by
    rw [readEntry, readEntry, reads, reads']
  cases same with
  | same => rfl
  | without document document' accepted =>
    obtain ⟨file, reads⟩ := Option.isSome_iff_exists.mp accepted
    have reads' := FileSettings.ofMembers?_withoutUnknown reads
    exact congrArg some (alike (ofText?_eq_some_iff.mpr ⟨_, document, reads⟩)
      (ofText?_eq_some_iff.mpr ⟨_, document', reads'⟩))
  | files document document' accepted accepted' sameKnown =>
    obtain ⟨file, reads⟩ := Option.isSome_iff_exists.mp accepted
    obtain ⟨file', reads'⟩ := Option.isSome_iff_exists.mp accepted'
    have sameFile : some file = some file' := by
      rw [← FileSettings.ofMembers?_withoutUnknown reads, sameKnown, FileSettings.ofMembers?_withoutUnknown reads']
    rw [← sameFile] at reads'
    exact congrArg some (alike (ofText?_eq_some_iff.mpr ⟨_, document, reads⟩)
      (ofText?_eq_some_iff.mpr ⟨_, document', reads'⟩))

theorem readOptional_eq_getD (path : Path) :
    readOptional places t path =
      (((t.locate? (join places.work path)).map (readEntry path)).map (·.map some)).getD (.ok none) := by
  unfold readOptional
  cases t.locate? (join places.work path) <;> rfl

theorem readOverlay_eq_getD (file : Option String) :
    readOverlay places t file =
      (((overlayEntry places t file).map (readEntry (overlayPath places file))).map (·.map some)).getD
        (if file.isSome then .error (.missing (String.ofList (overlayPath places file))) else .ok none) := by
  cases file with
  | none => exact readOptional_eq_getD _
  | some file =>
    simp only [readOverlay, overlayEntry, overlayPath]
    cases t.locate? (expand places file.toList) <;> rfl

/-- Nothing but what is read at the two paths counts. -/
theorem load_congr
    (profile : (profileEntry places t).map (readEntry (profilePath places)) =
      (profileEntry places t').map (readEntry (profilePath places)))
    (overlay : (overlayEntry places t o.file).map (readEntry (overlayPath places o.file)) =
      (overlayEntry places t' o.file).map (readEntry (overlayPath places o.file))) :
    load places t o = load places t' o := by
  unfold profileEntry at profile
  unfold load
  simp only [readOptional_eq_getD, readOverlay_eq_getD, profile, overlay]

end Loading

/-- A configuration is resolved key by key. Loading comes to just one thing: the profile is read before the file that
lies over it, a file that the command line names has to be there and takes the place of the one in the working
directory, every key has the first value in the order of the sources, and the rules are checked in order. Unknown
keys of files that are read, and all other files, are of no account. -/
theorem load_resolves (places : Places) (t : Tree) (o : Overrides) :
    (∀ outcome, load places t o = outcome ↔ Loads places t o outcome) ∧
    (∀ t', SameButUnknown (profileEntry places t) (profileEntry places t') →
      SameButUnknown (overlayEntry places t o.file) (overlayEntry places t' o.file) →
      load places t' o = load places t o) := by
  constructor
  · intro outcome
    constructor
    · rintro rfl
      exact loads_load
    · exact load_eq_of_loads
  · intro t' sameProfile sameOverlay
    exact (load_congr (sameProfile.map_readEntry _) (sameOverlay.map_readEntry _)).symm

theorem load_resolves_layers :
    let text (members : List (String × Json.Value)) := Json.Value.print (.object members)
    let profile := text [("server", .object [("host", .string "books.example"), ("port", .number 1111)]),
      ("debug", .bool true)]
    let tree (file : String) : Tree :=
      { files := [(["home".toList, ".book-management".toList, "book-management.json".toList], profile),
          (["work".toList, "book-management.json".toList], file)]
        folders := [] }
    let places : Places := ⟨"/home".toList, "/work".toList⟩
    let file := text [("server", .object [("port", .number 2222), ("hots", .null)]), ("debug", .bool false)]
    load places (tree file) {} = .ok ⟨"books.example", 2222, none, false⟩ ∧
    load places (tree (text [("server", .object [("port", .number 2222)]), ("debug", .bool false)])) {} =
      .ok ⟨"books.example", 2222, none, false⟩ := by
  intro text profile tree places file
  have profileIs (file : String) : profileEntry places (tree file) = some (.file profile) := by rfl
  have overlayIs (file : String) : overlayEntry places (tree file) none = some (.file file) := by rfl
  have profileGives : Gives (some (.file profile)) ⟨some "books.example", some 1111, none, some true⟩ :=
    gives_file_iff.mpr ⟨_, ofText?_eq_some_iff.mpr ⟨_, Json.ofString_print (.object _), by rfl⟩, rfl⟩
  have fileGives : Gives (some (.file file)) ⟨none, some 2222, none, some false⟩ :=
    gives_file_iff.mpr ⟨_, ofText?_eq_some_iff.mpr ⟨_, Json.ofString_print (.object _), by rfl⟩, rfl⟩
  have resolves : Resolves places (tree file) {} ⟨"books.example", 2222, none, false⟩ := by
    refine ⟨_, _, (profileIs file).symm ▸ profileGives, nofun, (overlayIs file).symm ▸ fileGives, ?_⟩
    exact ⟨rfl, rfl, rfl, by decide⟩
  obtain ⟨iff, same⟩ := load_resolves places (tree file) {}
  have loaded := (iff _).mpr (.loaded resolves (by decide) (by decide) nofun)
  refine ⟨loaded, (same (tree _) ?_ ?_).trans loaded⟩
  · rw [profileIs, profileIs]
    exact .same _
  · rw [overlayIs, overlayIs]
    exact .without (Json.ofString_print (.object _)) (Json.ofString_print (.object _)) (by rfl)

end BookCatalogue.Config
