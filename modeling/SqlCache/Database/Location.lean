import SqlCache.Text.Octets

/-!
Where a database lies: in memory, in a file, or in a file without a name. Paths are resolved by
their text alone (`Route.ofPath?`): two dots take back the name before them, whether or not there is
a directory of that name. Only the working directory and those above it are known to be there.
-/

set_option autoImplicit false

namespace SqlCache

/-- The name of a file, or a path to one. -/
abbrev FileName := Octets

/-- What may be done to a database file. -/
inductive Mode where
  /-- Read it, change it, and make it if it is not there. -/
  | create
  /-- Read and change it. -/
  | change
  | read
  deriving DecidableEq, Repr

/-- How a database file is opened. -/
structure Access where
  mode : Mode := .create
  /-- Can changes be logged beside the file? -/
  logs : Bool := true
  /-- Is the file taken to be one that nobody changes? -/
  frozen : Bool := false
  deriving DecidableEq, Repr

/-- Where a database lies. -/
inductive Location where
  /-- In memory, where the connections of one process share it. -/
  | memory
  | file (name : FileName) (access : Access)
  /-- In a file without a name, which no two connections share. -/
  | temporary
  deriving DecidableEq, Repr

namespace FileName

/-- The slash between the names of a path. -/
def slash : UInt8 := 0x2f

/-- The dot. -/
def dot : UInt8 := 0x2e

/-- The name of a directory that is meant where it stands. -/
def here : FileName := [dot]

/-- The name of the directory above. -/
def above : FileName := [dot, dot]

/-- The most octets a name in a path can have. -/
def longest : Nat := 255

/-- The most octets the name of a database file can have, so that the files beside it, which have
longer names, can be named. -/
def longestOfDatabase : Nat := 247

end FileName

/-- The names that lead to a file or a directory, the last one first. A route that starts at the
root ends in an empty name; one that leaves the working directory ends in the names of those
above. -/
abbrev Route := List FileName

namespace Route

/-- The path with the names of a route. -/
def path (route : Route) : FileName := [FileName.slash].intercalate route.reverse

/-- The octets that a working directory's own path takes. -/
def directoryLength : Nat := 15

/-- The most octets that a path can have while it is resolved. -/
def longest : Nat := 511

/-- The octets of a route with the path of the directory it starts in. -/
def length (route : Route) : Nat :=
  (if route.getLast? = some [] then 0 else directoryLength + 1) + route.path.length

/-- Is this the name of a directory that is there in any case? -/
def isBase (name : FileName) : Bool := name.isEmpty || name == FileName.above

/-- A route followed by one name of a path, if it can be. Nothing lies below a file. -/
def follow (isFile : FileName → Bool) (route : Route) (name : FileName) : Option Route :=
  if name = [] ∨ name = FileName.here then some route
  else if name = FileName.above then
    match route with
    | [] => some [FileName.above]
    | last :: before =>
      if last = [] then some route
      else if last = FileName.above then some (name :: route)
      else some before
  else if FileName.longest < name.length ∨ longest < Route.length (name :: route)
      ∨ (¬ route.isEmpty ∧ isFile route.path) then none
  else some (name :: route)

/-- The route that a path describes. -/
def ofPath? (isFile : FileName → Bool) (path : FileName) : Option Route :=
  let start := if path.head? = some FileName.slash then [[]] else []
  (path.split FileName.slash).foldlM (follow isFile) start

/-- The path of the database file at the end of a route, if there can be one. -/
def databaseFile? (route : Route) : Option FileName :=
  match route with
  | [] => none
  | name :: directories =>
    if ¬ isBase name ∧ name.length ≤ FileName.longestOfDatabase ∧ directories.all isBase then
      some route.path
    else none

end Route

namespace Location

/-- The database file that a path names, if it can be opened. -/
def ofFilePath? (isFile : FileName → Bool) (access : Access) (path : FileName) :
    Option Location :=
  if 0 ∈ path then none
  else (Route.ofPath? isFile path >>= Route.databaseFile?).map (file · access)

/-- The path that names a database in memory. -/
def memoryPath : String := ":memory:"

/-- The database that a path in a directory names. That directory is known by its name, so that no
path is taken for anything but a path, the one of the database in memory apart. -/
def inDirectory? (path : String) : Option Location :=
  if path = memoryPath then some memory else ofFilePath? (fun _ => false) {} (Octets.ofString path)

end Location

end SqlCache
