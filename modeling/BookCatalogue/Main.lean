import BookCatalogue.Launch

/-! # The program

Takes a picture of the environment and of the files that a launch looks at, launches, and shows what
comes of it. -/

namespace BookCatalogue.Program

open Files

/-- The variables that the program itself looks at. -/
def consulted : List String :=
  ["HOME", "XDG_DATA_HOME", "BOOKS_DATA_DIR"] ++ CommandLine.Key.all.map (·.environmentName)

/-- Names of variables that an environment file may mention. -/
def mentioned (text : String) : List String :=
  let runs (keeps : Char → Bool) :=
    Text.words (text.toList.map fun c => if keeps c then c else ' ')
  (runs Text.isAlphanumeric ++ runs EnvFile.isNameChar).map String.ofList

/-- The variables of these names that have values. -/
def environment (names : List String) : IO Environment := do
  let values ← names.eraseDups.mapM fun name => return (name, ← IO.getEnv name)
  return values.filterMap fun (name, value) => value.map (name, ·)

/-- Adds to a tree what stands on the way to a place and at it. -/
def look (t : Tree) (place : List Name) : IO Tree := do
  let here ← IO.currentDir
  let mut t := t
  for n in List.range (place.length + 1) do
    let path := here / String.ofList (pathOf (place.take n))
    if ← path.isDir then
      t := { t with folders := t.folders ++ [place.take n] }
    else if ← path.pathExists then
      let text? ← try some <$> IO.FS.readFile path catch _ => pure none
      t := match text? with
        | some text => { t with files := t.files ++ [(place.take n, text)] }
        | none => { t with unreadable := t.unreadable ++ [place.take n] }
  return t

/-- Adds to a tree what stands at a path. -/
def lookAt (t : Tree) (path : Path) : IO Tree := look t (resolve (steps path))

/-- Adds to a tree what a server looks at. -/
def lookForServer (places : Places) (t : Tree) (env : Environment) (overrides : Config.Overrides) :
    IO Tree := do
  let mut t := t
  if let some file := overrides.file then
    t ← lookAt t (expand places file.toList)
  if let .ok config := Config.load places t overrides then
    t ← lookAt t (join places.work (Storage.folderPath places env))
    if let .ok (storage, _) := Storage.prepare places env t config.database then
      let place := resolve (steps storage.database)
      t ← look t place.dropLast
      -- a database that is there already is not text, so only a folder in its place is noted
      if ← ((← IO.currentDir) / String.ofList (pathOf place)).isDir then
        t := { t with folders := t.folders ++ [place] }
  return t

def launch (args : List String) : IO Launch.Outcome := do
  let places : Places :=
    ⟨((← IO.getEnv "HOME").getD "").toList, (← IO.currentDir).toString.toList⟩
  let work := resolve (steps places.work)
  let mut t : Tree := { files := [], folders := [] }
  for n in List.range (work.length + 1) do
    t ← look t (work.take n ++ [".env".toList])
  let env ← environment (consulted ++ mentioned ((EnvFile.find? t work.reverse).getD ""))
  t ← lookAt t (join places.work (Config.profilePath places))
  t ← lookAt t (join places.work configFileName.toList)
  let known := EnvFile.load places t env
  if let .ok invocation := CommandLine.read known args then
    t ← lookForServer places t known invocation.overrides
  return Launch.run places t env args

end BookCatalogue.Program

/-- Shows what comes of a launch. The library answers requests but opens no socket, so a launch that
ends in a server only shows its banner. -/
def main (args : List String) : IO UInt32 := do
  let outcome ← BookCatalogue.Program.launch args
  IO.print outcome.output
  IO.eprint outcome.errors
  return UInt32.ofNat (outcome.exitCode?.getD 0)
