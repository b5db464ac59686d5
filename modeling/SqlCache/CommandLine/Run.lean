import SqlCache.CommandLine.Arguments
import SqlCache.CommandLine.Directory
import SqlCache.Config.Decode
import SqlCache.Database.Uri
import SqlCache.Session.Run
import SqlCache.Text.Quoted
import SqlCache.Text.Style
import SqlCache.Text.Table

/-!
One process of the command line: its arguments, its environment and the directory it works in make
what it prints, the code it ends with and the directory it leaves behind.
-/

set_option autoImplicit false

namespace SqlCache.CommandLine

/-- When a command that lasts is told to stop. -/
inductive Stop where
  /-- When nothing more happens at once. -/
  | quiet
  /-- After the reaper's first pass. -/
  | afterPass
  deriving DecidableEq, Repr

/-- What a process starts with. -/
structure Invocation where
  arguments : List String
  environment : Environment
  clock : Instant
  /-- The id that a subscriber gets who gives none. -/
  subscriber : String
  stop : Stop

/-- Are colours forced? Nothing else makes them appear, since no output goes to a terminal. -/
def Invocation.isColoured (invocation : Invocation) : Bool :=
  match invocation.environment.value? "CLICOLOR_FORCE" with
  | some value => value != "0"
  | none => false

/-- What a process leaves. -/
structure Ending where
  code : Nat
  out : String
  err : String

/-- Lines as they are printed. -/
def printed (lines : List String) : String := String.join (lines.map fun line => line ++ "\n")

namespace Ending

/-- The ending of a process that fails with a text. -/
def failure (code : Nat) (text : String) : Ending := ⟨code, "", "Error: " ++ text ++ "\n"⟩

/-- The ending of a process whose task fails. -/
def refusal (isColoured : Bool) (error : CacheError) : Ending :=
  ⟨1, "", Text.Style.bad.paint isColoured "Error" ++ ": " ++ error.message ++ "\n"⟩

/-- The code of refused command lines. -/
def usageCode : Nat := 2

/-- The code of processes that end in the middle of a pass. -/
def brokenCode : Nat := 101

end Ending

/-- What a task prints. -/
structure Output where
  out : List String := []
  err : List String := []

namespace Output

/-- One line. -/
def line (text : String) : Output := ⟨[text], []⟩

/-- Fields in a format. -/
def fields (format : Format) (pairs : List (String × String)) : List String :=
  match format with
  | .table =>
    Text.Table.render ⟨["field", "value"], pairs.map fun p => [p.1, p.2]⟩
  | .json => [Text.Quoted.object pairs]

end Output

namespace Task

/-- The client of the process. -/
def scope : Session.Scope := .outside 0

/-- Carry out a plan and print its answer. -/
def perform {α : Type} (plan : Plan α) (print : α → Output) (s : Session) :
    Except Reaper.Failure Output × Session :=
  let (r, s) := scope.perform plan s
  ((r.map print).mapError .store, s)

/-- The text of a truth value. -/
def truth (b : Bool) : String := if b then "true" else "false"

/-- The line for a time to live. -/
def ttlLine (isColoured : Bool) : Option Duration → String
  | some d => s!"{d.millis}ms"
  | none => Text.Style.faint.paint isColoured "never expires"

/-- The line for something done. -/
def doneLine (isColoured : Bool) : String := Text.Style.good.paint isColoured "OK"

/-- Print all messages of a channel and forget the subscriber. -/
def follow (isColoured : Bool) (channel subscriber : String) (s : Session) :
    Except Reaper.Failure Output × Session :=
  let name := ""
  match scope.subscribe name channel (some subscriber) s with
  | (.error e, s) => (.error (.store e), s)
  | (.ok (channel, subscriber), s) =>
    let (payloads, s) := s.drain name
    let start := Text.Style.good.paint isColoured "Subscribed to"
    (.ok ⟨payloads, [start ++ s!" {channel} as {subscriber}"]⟩, s.detach name)

/-- Let the reaper make the pass it comes to before the process is stopped. -/
def serveUntil (stop : Stop) (s : Session) : Session :=
  match (s.client 0).reaper with
  | none => s
  | some settings =>
    if settings.initialDelaySecs = 0 ∨ stop = .afterPass then scope.awaitReaper s else s

/-- Carry out a task. -/
def run (format : Format) (invocation : Invocation) (task : Task) (s : Session) :
    Except Reaper.Failure Output × Session :=
  let isColoured := invocation.isColoured
  match task with
  | get key => perform (Command.get key).plan Output.line s
  | set key value ttlSecs =>
    perform (Command.set key value.toUTF8 (.ofSeconds ttlSecs)).plan
      (fun answer => .line (Text.Style.good.paint isColoured answer)) s
  | del keys => perform (Command.del keys).plan (fun n : Int => .line (toString n)) s
  | present keys => perform (Command.present keys).plan (fun n : Int => .line (toString n)) s
  | expire key seconds =>
    perform (Command.expire key (.ofSeconds seconds)).plan (fun b : Bool => .line (truth b)) s
  | ttl key => perform (.operation (.ttl key)) (fun t => .line (ttlLine isColoured t)) s
  | incr key delta =>
    perform (Command.incrBy key delta).plan (fun n : Int => .line (Text.Integer.encode n)) s
  | hset key values => perform (Command.hset key values).plan (fun n : Int => .line (toString n)) s
  | hgetAll key => perform (Command.hgetAll key).plan (fun l => ⟨Output.fields format l, []⟩) s
  | hscan key cursor pattern count =>
    perform (.operation (.scan key cursor pattern count))
      (fun page => ⟨Output.fields format (Page.pairs page.items),
        [Text.Style.faint.paint isColoured "next cursor:" ++ s!" {page.next}"]⟩) s
  | publish channel message =>
    perform (.operation (.publish channel message)) (fun _ => .line (doneLine isColoured)) s
  | subscribe channel subscriber =>
    follow isColoured channel (subscriber.getD invocation.subscriber) s
  | reap =>
    let (r, s) := scope.reap (.ofSeconds s.config.reaper.messageRetentionSecs) s
    (r.map fun stats => .line
      s!"removed {stats.expired} expired keys, {stats.messages} old messages", s)
  | serve => (.ok {}, serveUntil invocation.stop s)

end Task

namespace Request

/-- The configuration of a request: that of the file it names, or else of the first one found, with
the request's own values put in. -/
def config (r : Request) (env : Environment) (d : Directory) : Except ConfigFault Config :=
  match r.configFile with
  | some path => Config.ofFile env (Directory.fileName? path >>= d.read?)
  | none => (Config.find env d.read?).map fun found => found.getD {}

/-- The configuration with the values of a request put in. A database file counts more than a
server. -/
def adjust (r : Request) (config : Config) : Config :=
  let config := match r.postgresUrl with
    | some url => { config with
        backend := .postgres
        postgres := { config.postgres with url } }
    | none => config
  let config := match r.sqlitePath with
    | some path => { config with
        backend := .sqlite
        sqlite := { config.sqlite with path } }
    | none => config
  match r.logLevel with
  | some level => { config with logging := { config.logging with level } }
  | none => config

/-- Does the task keep a reaper? -/
def isServing (r : Request) : Bool := r.task = .serve

end Request

/-- Where the configured database lies, if it can be opened. -/
def location? (config : Config) (d : Directory) : Option Location :=
  Location.ofText? d.hasFile config.sqlite.path

/-- The file of the configured database and how it is opened, if there is such a file. -/
def databaseFile? (config : Config) (d : Directory) : Option (FileName × Access) :=
  match config.backend, location? config d with
  | .sqlite, some (.file name access) => some (name, access)
  | _, _ => none

/-- The session of a process, if its database can be opened. -/
def openSession (config : Config) (clock : Instant) (reaping : Bool) (d : Directory) :
    Except OpenFault Session := do
  let database ← match databaseFile? config d with
    | none => pure (Database.empty .file)
    | some (name, access) =>
      match d.database? name access with
      | none => throw .unreachable
      | some database => pure database
  let s : Session := { clock, config, location := location? config d, databases := [database] }
  s.openClients (.backend reaping) 1

/-- The text of a fault in opening. -/
def openFaultText : OpenFault → String
  | .unreachable => "store error: unable to open the store"
  | .failed e => e.message

/-- The text of a fault in a configuration. -/
def configFaultText : ConfigFault → String
  | .malformed => "the configuration is malformed"
  | .unreadable => "the configuration cannot be read"

/-- Carry out a request. -/
def Request.run (r : Request) (invocation : Invocation) (d : Directory) : Ending × Directory :=
  match r.config invocation.environment d with
  | .error f => (.failure 1 (configFaultText f), d)
  | .ok config =>
    let config := r.adjust config
    match openSession config invocation.clock (r.isServing && config.reaper.enabled) d with
    | .error f =>
      let d := match databaseFile? config d with
        | none => d
        | some (name, access) => d.touch name access
      (.failure 1 (openFaultText f), d)
    | .ok s =>
      let (result, s) := r.task.run r.format invocation s
      let d := match databaseFile? config d with
        | none => d
        | some (name, access) => d.close name access s.committed
      match result with
      | .ok output => (⟨0, printed output.out, printed output.err⟩, d)
      | .error (.store e) => (.refusal invocation.isColoured e, d)
      | .error f => (.failure Ending.brokenCode f.message, d)

/-- What is printed about the program's version. -/
def versionLine : String := "rowcache 0.1.0"

/-- What is printed about the program's use. -/
def usageLines : List String :=
  ["Usage: rowcache [OPTIONS] <COMMAND>", "",
    "Commands: " ++ ", ".intercalate (commandShapes.map CommandShape.name),
    "Options:  " ++ ", ".intercalate (commonOptions.map fun o => "--" ++ o.name)]

/-- Run one process in a directory. -/
def run (invocation : Invocation) (d : Directory) : Ending × Directory :=
  match Parsed.ofArguments invocation.environment invocation.arguments with
  | .help => (⟨0, printed usageLines, ""⟩, d)
  | .version => (⟨0, printed [versionLine], ""⟩, d)
  | .refused f => (⟨Ending.usageCode, "", "error: " ++ f.message ++ "\n"⟩, d)
  | .request r => r.run invocation d

end SqlCache.CommandLine
