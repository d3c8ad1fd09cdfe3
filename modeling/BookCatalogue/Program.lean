/-! # The program and its environment

Names and numbers of the program itself, and the variables that it is started with. Variables stand in
order of their definition, and the first definition of a name counts. -/

namespace BookCatalogue

/-- The name for display. -/
def displayName : String := "BookManagement"

/-- The name in lower case, also the name of the command. -/
def programName : String := "book-management"

def version : String := "0.1.0"

/-- The first part of all paths of the interface for programs. -/
def apiPath : String := "/api/v1"

def configFileName : String := "book-management.json"

/-- The folder of the configuration file in the home directory. -/
def configFolder : String := ".book-management"

/-- The name of the data directory. -/
def dataFolderName : String := "bookmanagement"

def databaseFileName : String := "books.db"

/-- The variables with their values. -/
abbrev Environment := List (String × String)

namespace Environment

def get? (env : Environment) (name : String) : Option String := env.lookup name

/-- Defines a variable that has no value yet. -/
def define (env : Environment) (name value : String) : Environment :=
  if (env.get? name).isSome then env else env ++ [(name, value)]

end Environment

end BookCatalogue
