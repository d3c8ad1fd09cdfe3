/-! # Statements that lay out a database -/

namespace BookCatalogue.Database

/-- The lines of the statements that create every table and index of an empty database. -/
def fullLayoutLines : List String :=
  ["",
   "-- =============================================================================",
   "-- Infrastructure: Schema version tracking",
   "-- =============================================================================",
   "CREATE TABLE IF NOT EXISTS schema_version (",
   "    id INTEGER PRIMARY KEY CHECK (id = 1),",
   "    version INTEGER NOT NULL,",
   "    applied_at INTEGER NOT NULL,",
   "    description TEXT",
   ");",
   "",
   "CREATE TABLE IF NOT EXISTS schema_migrations (",
   "    version INTEGER PRIMARY KEY,",
   "    name TEXT NOT NULL,",
   "    applied_at INTEGER NOT NULL,",
   "    checksum TEXT NOT NULL,",
   "    execution_time_ms INTEGER,",
   "    success INTEGER NOT NULL DEFAULT 1",
   ");",
   "",
   "-- =============================================================================",
   "-- Books",
   "-- =============================================================================",
   "CREATE TABLE IF NOT EXISTS books (",
   "    isbn TEXT PRIMARY KEY COLLATE NOCASE CHECK(length(isbn) >= 1 AND length(isbn) <= 32),",
   "    title TEXT NOT NULL COLLATE NOCASE CHECK(length(title) >= 1),",
   "    author TEXT NOT NULL DEFAULT '' COLLATE NOCASE,",
   "    published_date TEXT NOT NULL,",
   "    edition INTEGER NOT NULL DEFAULT 0 CHECK(edition >= 0 AND edition <= 255),",
   "    description TEXT NOT NULL DEFAULT '' COLLATE NOCASE,",
   "    genre TEXT NOT NULL DEFAULT '' COLLATE NOCASE,",
   "    created_at INTEGER NOT NULL,",
   "    updated_at INTEGER NOT NULL",
   ");",
   "",
   "CREATE INDEX IF NOT EXISTS idx_books_author ON books(author);",
   "CREATE INDEX IF NOT EXISTS idx_books_published_date ON books(published_date);",
   "CREATE INDEX IF NOT EXISTS idx_books_genre ON books(genre);",
   ""]

def fullLayoutSql : String := "\n".intercalate fullLayoutLines

/-- The statement of the step to version 2. -/
def genreIndexSql : String := "CREATE INDEX IF NOT EXISTS idx_books_genre ON books(genre)"

end BookCatalogue.Database
