import SqlCache.Config.Expand
import SqlCache.Text.Integer

/-!
The arguments of the command line. Options that hold for all commands stand before or behind the
command; of two such values the one behind counts, and both count more than the environment. A value
that starts with a hyphen has to be joined to its option by an equals sign, unless the option says
otherwise; behind two hyphens nothing is an option. Main definition: `Parsed.ofArguments`.
-/

set_option autoImplicit false

namespace SqlCache.CommandLine

/-- How fields are printed. -/
inductive Format where
  | table
  | json
  deriving DecidableEq, Repr

/-- What a command line asks for. -/
inductive Task where
  | get (key : String)
  | set (key value : String) (ttlSecs : Nat)
  | del (keys : List String)
  | present (keys : List String)
  | expire (key : String) (seconds : Nat)
  | ttl (key : String)
  | incr (key : String) (delta : Int)
  | hset (key : String) (values : List String)
  | hgetAll (key : String)
  | hscan (key : String) (cursor : Nat) (pattern : String) (count : Int)
  | publish (channel message : String)
  | subscribe (channel : String) (subscriber : Option String)
  | reap
  | serve
  deriving DecidableEq, Repr

/-- A task and the options that hold for all of them. -/
structure Request where
  configFile : Option String
  sqlitePath : Option String
  postgresUrl : Option String
  logLevel : Option String
  format : Format
  task : Task
  deriving DecidableEq, Repr

/-- Why a command line is refused. -/
inductive UsageFault where
  | missingCommand
  | unknownCommand (word : String)
  | unknownOption (text : String)
  | missingValue (option : String)
  | invalidValue (option value : String)
  | repeatedOption (option : String)
  | unwantedValue (option : String)
  | wrongNumberOfArguments (command : String)
  deriving DecidableEq, Repr

/-- The text of a usage fault. -/
def UsageFault.message : UsageFault → String
  | missingCommand => "a command is required"
  | unknownCommand word => s!"unrecognized command {word}"
  | unknownOption text => s!"unexpected argument {text}"
  | missingValue option => s!"a value is required for {option}"
  | invalidValue option value => s!"invalid value {value} for {option}"
  | repeatedOption option => s!"{option} cannot be used multiple times"
  | unwantedValue option => s!"{option} takes no value"
  | wrongNumberOfArguments command => s!"wrong number of arguments for {command}"

/-- A number from 0 to the greatest of 64 bits: digits, with a plus sign in front or without. -/
def natural? (text : String) : Option Nat :=
  let digits := match text.toList with
    | '+' :: cs => cs
    | cs => cs
  (Text.Integer.magnitude? digits).filter fun n => decide (n ≤ 18446744073709551615)

/-- A number of 64 bits with a sign or without. -/
def integer? (text : String) : Option Int := Text.Integer.decode? text.toList

/-- An option with a value. -/
structure OptionShape where
  name : String
  short : Option Char := none
  /-- May a value that starts with a hyphen stand on its own? -/
  takesHyphens : Bool := false
  /-- Is this a value of the option? -/
  accepts : String → Bool := fun _ => true

/-- What a command takes. -/
structure CommandShape where
  name : String
  /-- How many arguments it takes at most, if there is such a number. -/
  capacity : Option Nat
  options : List OptionShape := []
  /-- Can the argument in this place be this word? -/
  accepts : (place : Nat) → String → Bool := fun _ _ => true

/-- The options that hold for all commands. -/
def commonOptions : List OptionShape :=
  [{ name := "config", short := some 'c' }, { name := "sqlite" }, { name := "pg-url" },
    { name := "log-level" }, { name := "format", accepts := (["table", "json"].contains ·) }]

/-- An option whose value is a number without a sign. -/
def naturalOption (name : String) : OptionShape where
  name
  accepts text := (natural? text).isSome

/-- An option whose value is a number. -/
def integerOption (name : String) (takesHyphens : Bool) : OptionShape where
  name
  takesHyphens
  accepts text := (integer? text).isSome

/-- All commands. -/
def commandShapes : List CommandShape :=
  [{ name := "get", capacity := some 1 },
    { name := "set", capacity := some 2, options := [naturalOption "ttl"] },
    { name := "del", capacity := none },
    { name := "exists", capacity := none },
    { name := "expire"
      capacity := some 2
      accepts := fun place word => place == 0 || (natural? word).isSome },
    { name := "ttl", capacity := some 1 },
    { name := "incr", capacity := some 1, options := [integerOption "by" true] },
    { name := "hset", capacity := none },
    { name := "hgetall", capacity := some 1 },
    { name := "hscan"
      capacity := some 1
      options := [naturalOption "cursor", { name := "pattern" }, integerOption "count" false] },
    { name := "publish", capacity := some 2 },
    { name := "subscribe", capacity := some 1, options := [{ name := "id" }] },
    { name := "reap", capacity := some 0 },
    { name := "serve", capacity := some 0 }]

/-- How an argument looks. -/
inductive Look where
  /-- Two hyphens. -/
  | escape
  /-- An option by its name, with the value joined to it. -/
  | long (name : String) (value : Option String)
  /-- An option by its letter, with what follows the letter. -/
  | short (letter : Char) (rest : List Char)
  /-- Anything else, also a single hyphen. -/
  | word
  deriving DecidableEq, Repr

/-- How a text looks as an argument. -/
def Look.ofText (text : String) : Look :=
  match text.toList with
  | ['-', '-'] => .escape
  | '-' :: '-' :: cs =>
    let name := String.ofList (cs.takeWhile fun c => c ≠ '=')
    match cs.dropWhile fun c => c ≠ '=' with
    | [] => .long name none
    | _ :: value => .long name (some (String.ofList value))
  | '-' :: c :: cs => .short c cs
  | _ => .word

/-- Why arguments are read no further. -/
inductive Halt where
  | help
  | version
  | fault (f : UsageFault)
  deriving DecidableEq, Repr

/-- What has been read: the values of options by their names, and the words in order. -/
structure Reading where
  values : List (String × String) := []
  words : List String := []

namespace Reading

/-- Give an option its value. -/
def give (r : Reading) (o : OptionShape) (value : String) : Except Halt Reading :=
  if (r.values.lookup o.name).isSome then .error (.fault (.repeatedOption o.name))
  else if o.accepts value then .ok { r with values := (o.name, value) :: r.values }
  else .error (.fault (.invalidValue o.name value))

/-- Add a word, if the command takes one more. -/
def push (r : Reading) (shape : CommandShape) (word : String) : Except Halt Reading :=
  if shape.capacity.any fun n => decide (n ≤ r.words.length) then
    .error (.fault (.wrongNumberOfArguments shape.name))
  else if shape.accepts r.words.length word then .ok { r with words := r.words ++ [word] }
  else .error (.fault (.invalidValue shape.name word))

end Reading

/-- What an option stands for where it is found. -/
inductive Found where
  | option (o : OptionShape)
  | help
  | version
  | nothing

/-- Where arguments are read: before the command, or behind it. -/
structure Place where
  options : List OptionShape
  command : Option CommandShape

namespace Place

/-- Before the command. -/
def front : Place := ⟨commonOptions, none⟩

/-- Behind a command. -/
def behind (shape : CommandShape) : Place := ⟨commonOptions ++ shape.options, some shape⟩

/-- The option that a test selects, or one that prints something. -/
def find (p : Place) (isOption : OptionShape → Bool) (isHelp isVersion : Bool) : Found :=
  match p.options.find? isOption with
  | some o => .option o
  | none =>
    if isHelp then .help
    else if isVersion && p.command.isNone then .version
    else .nothing

/-- An option by its name. -/
def findLong (p : Place) (name : String) : Found :=
  p.find (fun o => o.name == name) (name == "help") (name == "version")

/-- An option by its letter. -/
def findShort (p : Place) (letter : Char) : Found :=
  p.find (fun o => o.short == some letter) (letter == 'h') (letter == 'V')

/-- Read arguments up to the command, or to the end behind it; `awaiting` is the option whose value
comes next. -/
def read (p : Place) : (awaiting : Option OptionShape) → List String → Reading →
    Except Halt (Reading × List String)
  | none, [], r => .ok (r, [])
  | some o, [], _ => .error (.fault (.missingValue o.name))
  | some o, arg :: rest, r =>
    if o.takesHyphens || decide (Look.ofText arg = .word) then do
      p.read none rest (← r.give o arg)
    else .error (.fault (.missingValue o.name))
  | none, arg :: rest, r =>
    match Look.ofText arg, p.command with
    | .word, none => .ok (r, arg :: rest)
    | .word, some shape => do p.read none rest (← r.push shape arg)
    | .escape, none =>
      match rest with
      | [] => .ok (r, [])
      | word :: _ => .error (.fault (.unknownCommand word))
    | .escape, some shape => do return (← rest.foldlM (fun r word => r.push shape word) r, [])
    | .long name value, _ =>
      match p.findLong name, value with
      | .option o, some value => do p.read none rest (← r.give o value)
      | .option o, none => p.read (some o) rest r
      | .help, none => .error .help
      | .version, none => .error .version
      | .nothing, _ => .error (.fault (.unknownOption arg))
      | _, some _ => .error (.fault (.unwantedValue name))
    | .short letter joined, _ =>
      match p.findShort letter, joined with
      | .option o, [] => p.read (some o) rest r
      | .option o, '=' :: value => do p.read none rest (← r.give o (String.ofList value))
      | .option o, value => do p.read none rest (← r.give o (String.ofList value))
      | .help, _ => .error .help
      | .version, _ => .error .version
      | .nothing, _ => .error (.fault (.unknownOption arg))

end Place

/-- A value read in a way, or a fault. -/
def valueOf {α : Type} (read : String → Option α) (name text : String) : Except UsageFault α :=
  match read text with
  | some a => .ok a
  | none => .error (.invalidValue name text)

/-- The value of an option read in a way, or a default. -/
def Reading.value {α : Type} (r : Reading) (name : String) (read : String → Option α)
    (default : α) : Except UsageFault α :=
  match r.values.lookup name with
  | none => .ok default
  | some text => valueOf read name text

/-- The task of a command with what has been read behind it. -/
def Task.ofReading (command : String) (r : Reading) : Except UsageFault Task := do
  match command, r.words with
  | "get", [key] => return .get key
  | "set", [key, value] => return .set key value (← r.value "ttl" natural? 0)
  | "del", key :: keys => return .del (key :: keys)
  | "exists", keys => return .present keys
  | "expire", [key, seconds] => return .expire key (← valueOf natural? "seconds" seconds)
  | "ttl", [key] => return .ttl key
  | "incr", [key] =>
    return .incr key (← r.value "by" integer? 1)
  | "hset", key :: value :: values => return .hset key (value :: values)
  | "hgetall", [key] => return .hgetAll key
  | "hscan", [key] =>
    return .hscan key (← r.value "cursor" natural? 0) (← r.value "pattern" some "*")
      (← r.value "count" integer? 10)
  | "publish", [channel, message] => return .publish channel message
  | "subscribe", [channel] => return .subscribe channel (r.values.lookup "id")
  | "reap", [] => return .reap
  | "serve", [] => return .serve
  | _, _ => throw (.wrongNumberOfArguments command)

/-- What a command line comes down to. -/
inductive Parsed where
  | help
  | version
  | refused (f : UsageFault)
  | request (r : Request)
  deriving DecidableEq, Repr

namespace Parsed

/-- The request of a command line that has been read to its end. -/
def ofReadings (env : Environment) (front behind : Reading) (task : Task) : Request :=
  let common (name : String) : Option String :=
    behind.values.lookup name <|> front.values.lookup name
  { configFile := common "config"
    sqlitePath := common "sqlite" <|> env.value? "ROWCACHE_SQLITE_PATH"
    postgresUrl := common "pg-url" <|> env.value? "ROWCACHE_PG_URL"
    logLevel := common "log-level"
    format := if common "format" = some "json" then .json else .table
    task }

/-- What the arguments behind the word `help` come down to. -/
def ofHelp : List String → Halt
  | [] => .help
  | word :: rest =>
    let known := word == "help" || commandShapes.any fun shape => shape.name == word
    if known && rest.isEmpty then .help
    else .fault (.unknownCommand (if known then rest.headD "" else word))

/-- Read a command line. -/
def read (env : Environment) (arguments : List String) : Except Halt Request := do
  match ← Place.front.read none arguments {} with
  | (_, []) => throw (.fault .missingCommand)
  | (front, word :: rest) =>
    match commandShapes.find? fun shape => shape.name == word with
    | none => throw (if word = "help" then ofHelp rest else .fault (.unknownCommand word))
    | some shape =>
      let (behind, _) ← (Place.behind shape).read none rest {}
      match Task.ofReading word behind with
      | .error f => throw (.fault f)
      | .ok task => return ofReadings env front behind task

/-- What a command line comes down to. -/
def ofArguments (env : Environment) (arguments : List String) : Parsed :=
  match read env arguments with
  | .ok r => request r
  | .error .help => help
  | .error .version => version
  | .error (.fault f) => refused f

end Parsed

end SqlCache.CommandLine
