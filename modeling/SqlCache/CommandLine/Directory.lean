import SqlCache.Database
import SqlCache.Database.Location

/-!
The working directory of the command line: databases, and files that hold anything else.
-/

set_option autoImplicit false

namespace SqlCache.CommandLine

/-- A file that holds a database. -/
structure DatabaseFile where
  rows : Store
  /-- Are changes to it logged beside it? -/
  isLogged : Bool

/-- A directory. -/
structure Directory where
  files : List (FileName × ByteArray) := []
  databases : List (FileName × DatabaseFile) := []

namespace Directory

/-- A directory of files that hold no databases. -/
def ofFiles (files : List (String × ByteArray)) : Directory where
  files := files.map fun (name, content) => (Octets.ofString name, content)

/-- What the file of every database starts with. -/
def databaseHeader : ByteArray := "SQLite format 3\x00".toUTF8

/-- Is there a file of this name? -/
def hasFile (d : Directory) (name : FileName) : Bool :=
  (d.databases.lookup name).isSome || (d.files.lookup name).isSome

/-- The content of a file; of a database, its beginning. -/
def read? (d : Directory) (name : String) : Option ByteArray :=
  match d.databases.lookup (Octets.ofString name) with
  | some _ => some databaseHeader
  | none => d.files.lookup (Octets.ofString name)

/-- Does a part of a path lead to a directory that is there? -/
def isPresent (part : String) : Bool := part == "" || part == "." || part == ".."

/-- The file that a path names, without detours, if it can be there. -/
def fileName? (path : String) : Option String :=
  let parts := (path.splitOn "/").reverse
  let name := parts.headD ""
  if isPresent name || !parts.tail.all isPresent then none
  else
    let above := parts.tail.reverse.filter fun part => part == ".."
    some ("/".intercalate (if path.startsWith "/" then ["", name] else above ++ [name]))

/-- Can a file of this content become a database? One of a single octet counts as empty. -/
def isBlank (content : ByteArray) : Bool := decide (content.size ≤ 1)

/-- The database under a name, opened in a way. One that is not there is made if that is allowed,
also from a blank file; a file that holds anything else is no database. A database whose changes
are logged cannot be opened without a log, nor one without a log be given one by a reader. -/
def database? (d : Directory) (name : FileName) (access : Access) : Option Database :=
  let isReadOnly := access.mode = .read || access.frozen
  match d.databases.lookup name, d.files.lookup name with
  | some file, _ =>
    if access.frozen || file.isLogged = access.logs || (access.logs && !isReadOnly) then
      some { committed := file.rows, sharing := .file, isReadOnly }
    else none
  | none, none => if access.mode = .create ∧ ¬ isReadOnly then some (.empty .file) else none
  | none, some content =>
    if isBlank content ∧ ¬ isReadOnly then some (.empty .file) else none

/-- What is added to a database's name for the files that accompany it while it is open. -/
def companionEndings : List FileName := ["-wal", "-journal", "-shm"].map Octets.ofString

/-- The directory without the files of some names. -/
def without (d : Directory) (names : List FileName) : Directory where
  files := d.files.filter fun f => !names.contains f.1
  databases := d.databases.filter fun f => !names.contains f.1

/-- Keep a database under a name. The files that accompanied it are gone when it is closed. -/
def put (d : Directory) (name : FileName) (file : DatabaseFile) : Directory :=
  let d := d.without (name :: companionEndings.map (name ++ ·))
  { d with databases := (name, file) :: d.databases }

/-- The directory after a database could not be opened: a file that would have been made is there,
and empty. -/
def touch (d : Directory) (name : FileName) (access : Access) : Directory :=
  if access.mode = .create ∧ ¬ d.hasFile name then
    { d with files := (name, .empty) :: d.files }
  else d

/-- Keep a database that was opened in a way, if it could be changed. -/
def close (d : Directory) (name : FileName) (access : Access) (rows : Store) : Directory :=
  if access.mode = .read ∨ access.frozen then d else d.put name ⟨rows, access.logs⟩

end Directory

end SqlCache.CommandLine
