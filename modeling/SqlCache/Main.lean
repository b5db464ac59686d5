import Std.Time.DateTime.Timestamp
import SqlCache.CommandLine.Run
import SqlCache.Store.Snapshot

/-!
The program. It reads the clock, the environment and the files a command line needs, leaves the work
to `CommandLine.run`, and writes back the database. A lock file keeps processes apart meanwhile.
-/

set_option autoImplicit false

namespace SqlCache.Program

open CommandLine

/-- The variables in a block of entries, each ended by a zero byte. -/
def environmentOf (block : ByteArray) : Environment :=
  let entries := ((String.fromUTF8? block).getD "").splitOn "\x00"
  ⟨entries.filterMap fun entry =>
    match entry.splitOn "=" with
    | name :: value :: rest => some (name, "=".intercalate (value :: rest))
    | _ => none⟩

/-- The content of a file, if it can be read. -/
def content? (name : String) : IO (Option ByteArray) := do
  try return some (← IO.FS.readBinFile name)
  catch _ => return none

/-- The directory with one more file, as far as that can be read. -/
def load (d : Directory) (name : String) : IO Directory := do
  match ← content? name with
  | none => return d
  | some content =>
    match String.fromUTF8? content >>= Store.Snapshot.decode? with
    | some rows => return d.put (Octets.ofString name) ⟨rows, true⟩
    | none => return { d with files := (Octets.ofString name, content) :: d.files }

/-- The directory with all files that a request reads, and the name of its database. -/
def loadFor (r : Request) (env : Environment) : IO (Directory × Option String) := do
  let named := (r.configFile >>= Directory.fileName?).toList
  let d ← (named ++ Config.fileNames).foldlM load {}
  match r.config env d with
  | .error _ => return (d, none)
  | .ok config =>
    match databaseFile? (r.adjust config) d >>= fun file => Octets.toString? file.1 with
    | none => return (d, none)
    | some name => return (← load d name, some name)

/-- Write a database back. -/
def save (d : Directory) (name : String) : IO Unit := do
  match d.databases.lookup (Octets.ofString name) with
  | none => return
  | some file =>
    let draft := name ++ ".new"
    IO.FS.writeFile draft (Store.Snapshot.encode file.rows)
    IO.FS.rename draft name

/-- Run an action while no other process runs one on the same database. -/
def locked {α : Type} (name : Option String) (act : IO α) : IO α :=
  match name with
  | none => act
  | some name => IO.FS.withFile (name ++ ".lock") .append fun h => do
    h.lock
    act

/-- Run a process, and answer the code it ends with. -/
def process (invocation : Invocation) : IO UInt32 := do
  let env := invocation.environment
  let finish (e : Ending) : IO UInt32 := do
    IO.print e.out
    IO.eprint e.err
    return UInt32.ofNat e.code
  match Parsed.ofArguments env invocation.arguments with
  | .request r =>
    let (_, name) ← loadFor r env
    locked name do
      let (d, _) ← loadFor r env
      let (e, d) := run invocation d
      name.forM (save d)
      finish e
  | _ => finish (run invocation {}).1

end SqlCache.Program

/-- The program. -/
def main (arguments : List String) : IO UInt32 := do
  let block ← SqlCache.Program.content? "/proc/self/environ"
  let now ← Std.Time.Timestamp.now
  let id ← IO.getRandomBytes 16
  SqlCache.Program.process {
    arguments
    environment := SqlCache.Program.environmentOf (block.getD ByteArray.empty)
    clock := ⟨now.toNanosecondsSinceUnixEpoch.val⟩
    subscriber := "sub_" ++ (SqlCache.Store.Snapshot.hex id).drop 1
    stop := .quiet }
