import SqlCache.Config.Basic
import SqlCache.Config.Expand
import SqlCache.Value
import SqlCache.Yaml.Number

/-!
Reading configurations. They are written as YAML or as plain data; either way every section and
every field may be left out, unknown fields count for nothing, and a field must not be given twice.
-/

set_option autoImplicit false

namespace SqlCache

/-- How the parts of a configuration are read from a form in which one is written. -/
structure ConfigForm (ν : Type) where
  /-- The fields of a section that have one of the given names, which stand in their order. -/
  fields? : List String → ν → Option (List (String × ν))
  text? : ν → Option String
  nat? : ν → Option Nat
  int? : ν → Option Int
  bool? : ν → Option Bool
  /-- One of several words. -/
  word? : ν → Option String

namespace ConfigForm

variable {ν : Type} (form : ConfigForm ν)

/-- A field, or a default if it is left out. -/
def get {α : Type} (fields : List (String × ν)) (name : String) (read : ν → Option α)
    (default : α) : Option α :=
  match fields.lookup name with
  | none => some default
  | some v => read v

/-- A kind of store. -/
def backend? (v : ν) : Option BackendKind := do
  match ← form.word? v with
  | "sqlite" => some .sqlite
  | "postgres" => some .postgres
  | _ => none

/-- The section on database files. -/
def sqlite? (v : ν) : Option SqliteSettings := do
  let d : SqliteSettings := {}
  let fields ← form.fields? ["path", "busy_timeout_ms"] v
  return {
    path := ← get fields "path" form.text? d.path
    busyTimeoutMs := ← get fields "busy_timeout_ms" form.nat? d.busyTimeoutMs }

/-- The section on database servers. -/
def postgres? (v : ν) : Option PostgresSettings := do
  let d : PostgresSettings := {}
  let fields ← form.fields? ["url", "max_connections"] v
  return {
    url := ← get fields "url" form.text? d.url
    maxConnections := ← get fields "max_connections" form.nat? d.maxConnections }

/-- The section on subscriptions. -/
def pubsub? (v : ν) : Option PubSubSettings := do
  let d : PubSubSettings := {}
  let fields ← form.fields? ["poll_interval_ms", "batch_size", "buffer"] v
  return {
    pollIntervalMs := ← get fields "poll_interval_ms" form.nat? d.pollIntervalMs
    batchSize := ← get fields "batch_size" form.int? d.batchSize
    buffer := ← get fields "buffer" form.nat? d.buffer }

/-- The section on the reaper. -/
def reaper? (v : ν) : Option ReaperSettings := do
  let d : ReaperSettings := {}
  let names := ["enabled", "initial_delay_secs", "interval_secs", "message_retention_secs"]
  let fields ← form.fields? names v
  return {
    enabled := ← get fields "enabled" form.bool? d.enabled
    initialDelaySecs := ← get fields "initial_delay_secs" form.nat? d.initialDelaySecs
    intervalSecs := ← get fields "interval_secs" form.nat? d.intervalSecs
    messageRetentionSecs :=
      ← get fields "message_retention_secs" form.nat? d.messageRetentionSecs }

/-- The section on logging. -/
def logging? (v : ν) : Option LoggingSettings := do
  let d : LoggingSettings := {}
  let fields ← form.fields? ["level"] v
  return { level := ← get fields "level" form.text? d.level }

/-- A configuration. -/
def config? (v : ν) : Option Config := do
  let d : Config := {}
  let names := ["backend", "sqlite", "postgres", "pubsub", "reaper", "logging"]
  let fields ← form.fields? names v
  return {
    backend := ← get fields "backend" form.backend? d.backend
    sqlite := ← get fields "sqlite" form.sqlite? d.sqlite
    postgres := ← get fields "postgres" form.postgres? d.postgres
    pubsub := ← get fields "pubsub" form.pubsub? d.pubsub
    reaper := ← get fields "reaper" form.reaper? d.reaper
    logging := ← get fields "logging" form.logging? d.logging }

/-- Among pairs of names and values, those with a known name, none of them twice. -/
def known? (names : List String) (pairs : List (String × ν)) : Option (List (String × ν)) :=
  let found := pairs.filter fun p => names.contains p.1
  if found.length = (found.map (·.1)).eraseDups.length then some found else none

/-- The fields of a section in plain data: an object, or a list of the first values in the order of
their names. -/
def dataFields? (names : List String) : Value → Option (List (String × Value))
  | .object fields => known? names fields
  | .list items => if items.length ≤ names.length then some (names.zip items) else none
  | _ => none

/-- One of several words in plain data: a text, or the name of an object's only field if that holds
nothing. -/
def dataWord? : Value → Option String
  | .text word => some word
  | .object [(word, .null)] => some word
  | _ => none

/-- Configurations in plain data. -/
def data : ConfigForm Value where
  fields? := dataFields?
  text? := Value.text?
  nat? := Value.nat64?
  int? := Value.int64?
  bool? := Value.bool?
  word? := dataWord?

/-- The fields of a YAML mapping. An empty plain scalar is an empty mapping; all keys have to be
scalars. -/
def yamlFields? (d : Yaml.Document) (names : List String) (node : Yaml.Node Nat) :
    Option (List (String × Yaml.Node Nat)) :=
  match d.resolve node with
  | .mapping _ _ pairs => do
    let pairs ← pairs.mapM fun (key, value) => (d.resolve key).text?.map fun key => (key, value)
    known? names pairs
  | node => if node.isMissing then some [] else none

/-- One of several words in YAML: the text of a scalar, or a private tag on nothing. -/
def yamlWord? (d : Yaml.Document) (node : Yaml.Node Nat) : Option String :=
  let node := d.resolve node
  match node.privateTag? with
  | some tag => if node.isNull then some tag else none
  | none => node.text?

/-- Configurations in a YAML document. -/
def yaml (d : Yaml.Document) : ConfigForm (Yaml.Node Nat) where
  fields? := yamlFields? d
  text? node := (d.resolve node).text?
  nat? node := (d.resolve node).typedText? "tag:yaml.org,2002:int" >>= Yaml.Number.unsigned?
  int? node := (d.resolve node).typedText? "tag:yaml.org,2002:int" >>= Yaml.Number.signed?
  bool? node := (d.resolve node).typedText? "tag:yaml.org,2002:bool" >>= Yaml.Number.truth?
  word? := yamlWord? d

end ConfigForm

/-- Why a configuration cannot be read. -/
inductive ConfigFault where
  /-- The text is no configuration. -/
  | malformed
  /-- There is no text. -/
  | unreadable
  deriving DecidableEq, Repr

namespace Config

/-- Read a configuration in which variables have been replaced. An empty text leaves out
everything. -/
def ofYaml? (text : String) : Option Config := do
  let d ← Yaml.Document.ofText? text
  match d.root with
  | none => return {}
  | some root => (ConfigForm.yaml d).config? root

/-- Read the text of a configuration. -/
def ofText (env : Environment) (text : String) : Except ConfigFault Config :=
  match ofYaml? (expand env text) with
  | some config => .ok config
  | none => .error .malformed

/-- Read the file of a configuration, if it is there. -/
def ofFile (env : Environment) (content : Option ByteArray) : Except ConfigFault Config :=
  match content >>= String.fromUTF8? with
  | some text => ofText env text
  | none => .error .unreadable

/-- The names a configuration file is looked for under. -/
def fileNames : List String := ["rowcache.yaml", "rowcache.yml"]

/-- Read the first configuration file that is there, if any is. -/
def find (env : Environment) (file? : String → Option ByteArray) :
    Except ConfigFault (Option Config) :=
  match fileNames.findSome? file? with
  | some content => (ofFile env (some content)).map some
  | none => .ok none

end Config

end SqlCache
