import SqlCache.Database.Location

/-!
Databases named by a URI of the scheme `file`: a path, and options that say how it is opened.
-/

set_option autoImplicit false

namespace SqlCache

/-- A name of a database by scheme, path and options. -/
structure Uri where
  path : FileName
  options : List (Octets × Octets)

namespace Uri

/-- The value of a hexadecimal digit. -/
def digitValue? (octet : UInt8) : Option UInt8 :=
  if 0x30 ≤ octet ∧ octet ≤ 0x39 then some (octet - 0x30)
  else if 0x41 ≤ octet ∧ octet ≤ 0x46 then some (octet - 0x37)
  else if 0x61 ≤ octet ∧ octet ≤ 0x66 then some (octet - 0x57)
  else none

/-- A part with its escapes resolved. It ends before an escaped zero. -/
def unescape : Octets → Octets
  | 0x25 :: high :: low :: rest =>
    match digitValue? high, digitValue? low with
    | some h, some l => if h = 0 ∧ l = 0 then [] else (h * 16 + l) :: unescape rest
    | _, _ => 0x25 :: unescape (high :: low :: rest)
  | octet :: rest => octet :: unescape rest
  | [] => []

/-- What stands before and after the first place of an octet. -/
def cut (octet : UInt8) (text : Octets) : Octets × Octets :=
  (text.takeWhile (· != octet), (text.dropWhile (· != octet)).drop 1)

/-- An option of the form `name=value`. -/
def optionOf (text : Octets) : Octets × Octets :=
  ((unescape (cut 0x3d text).1), (unescape (cut 0x3d text).2))

/-- The scheme of these names. -/
def scheme : Octets := Octets.ofString "file:"

/-- Is the text a name by a URI? -/
def isUri (text : Octets) : Bool := scheme.isPrefixOf text

/-- What follows the authority of a URI. Files are on this host only. -/
def withoutAuthority? (text : Octets) : Option Octets :=
  match text with
  | 0x2f :: 0x2f :: rest =>
    if (cut FileName.slash rest).1 ∈ [[], Octets.ofString "localhost"] then
      some (rest.dropWhile (· != FileName.slash))
    else none
  | _ => some text

/-- Read a URI. What follows a hash sign counts for nothing, nor do options without a name. -/
def ofText? (text : Octets) : Option Uri := do
  let named ← withoutAuthority? (text.drop scheme.length)
  let (path, query) := cut 0x3f (cut 0x23 named).1
  some ⟨unescape path, ((query.split 0x26).map optionOf).filter fun o => !o.1.isEmpty⟩

/-- What the options of a URI ask for. -/
structure Request where
  /-- The name of the layer that reads and writes files. -/
  layer : Octets := Octets.ofString "unix"
  mode : Mode := .create
  /-- Was the database asked for in memory? -/
  inMemory : Bool := false
  /-- Do connections share what they have read? -/
  shared : Bool := false

namespace Request

/-- How much a mode allows. -/
def rank : Mode → Nat
  | .read => 1
  | .change => 2
  | .create => 3

/-- A request with another mode. No option allows more than those before it, but one that asks for
memory sets all modes free. -/
def withMode (request : Request) (mode : Mode) : Option Request :=
  if request.inMemory ∨ rank mode ≤ rank request.mode then
    some { request with mode, inMemory := false }
  else none

/-- The request after one more option. Those that are not known count for nothing. -/
def add (request : Request) (option : Octets × Octets) : Option Request :=
  let (name, value) := option
  if name = Octets.ofString "vfs" then some { request with layer := value }
  else if name = Octets.ofString "cache" then
    if value = Octets.ofString "shared" then some { request with shared := true }
    else if value = Octets.ofString "private" then some { request with shared := false }
    else none
  else if name = Octets.ofString "mode" then
    if value = Octets.ofString "ro" then request.withMode .read
    else if value = Octets.ofString "rw" then request.withMode .change
    else if value = Octets.ofString "rwc" then request.withMode .create
    else if value = Octets.ofString "memory" then
      some { request with mode := .create, inMemory := true }
    else none
  else some request

end Request

/-- The octets of a word with small letters. -/
def lower (text : Octets) : Octets :=
  text.map fun octet => if 0x41 ≤ octet ∧ octet ≤ 0x5a then octet + 0x20 else octet

/-- Does the value of an option say yes? A number does if its last octet is not zero. -/
def isYes (value : Octets) : Bool :=
  let digits := value.takeWhile fun octet => decide (0x30 ≤ octet ∧ octet ≤ 0x39)
  if ¬ digits.isEmpty then
    let number : Nat := digits.foldl (fun n octet => n * 10 + (octet.toNat - 0x30)) 0
    number % 256 != 0 && decide (number < 2147483648)
  else lower value ∈ [Octets.ofString "on", Octets.ofString "yes", Octets.ofString "true"]

/-- Is an option with a truth value set? The first one of its name counts. -/
def isSet (uri : Uri) (name : String) : Bool :=
  ((uri.options.lookup (Octets.ofString name)).map isYes).getD false

/-- The layers that keep files. -/
def fileLayers : List Octets :=
  ["unix", "unix-excl", "unix-none", "unix-dotfile"].map Octets.ofString

/-- Those of them that can log changes. -/
def loggingLayers : List Octets := ["unix", "unix-excl"].map Octets.ofString

/-- The layer that keeps files in memory. -/
def memoryLayer : Octets := Octets.ofString "memdb"

/-- The location that a URI names, if it can be opened. What has no name on disk has to be made, so
nothing of the kind can only be read. -/
def location? (uri : Uri) (isFile : FileName → Bool) : Option Location := do
  let request ← uri.options.foldlM Request.add {}
  let volatile (isShared : Bool) : Option Location :=
    if request.mode = .read then none else some (if isShared then .memory else .temporary)
  if request.layer ∉ memoryLayer :: fileLayers then none
  else if uri.path.isEmpty then volatile false
  else if request.inMemory ∨ uri.path = Octets.ofString Location.memoryPath then
    volatile request.shared
  else if request.layer = memoryLayer then
    volatile (decide (1 < uri.path.length ∧ uri.path.headD 0 ∈ [0x2f, 0x5c]))
  else
    let logs := decide (request.layer ∈ loggingLayers) && !uri.isSet "nolock"
    Location.ofFilePath? isFile ⟨request.mode, logs, uri.isSet "immutable"⟩ uri.path

end Uri

/-- The database that a path or a URI names, if it can be opened. An empty path names a file without
a name. -/
def Location.ofText? (isFile : FileName → Bool) (text : String) : Option Location :=
  if text = memoryPath then some memory
  else if text = "" then some temporary
  else if text.contains '\x00' then none
  else if Uri.isUri (Octets.ofString text) then
    Uri.ofText? (Octets.ofString text) >>= fun uri => uri.location? isFile
  else Location.ofFilePath? isFile {} (Octets.ofString text)

end SqlCache
