import WalletTrust.Store.Place
import WalletTrust.Text.Percent

/-!
# Addresses of files

An address of a file has a path and options, with escapes of bytes in both. Its options say what it
is opened for, and by which system of files; a system of them keeps files in memory.
-/

namespace WalletTrust.Store

inductive FileMode where
  | readOnly
  /-- It must be there. -/
  | existing
  | create
  /-- No file at all: the database lies in memory. -/
  | memory
  deriving DecidableEq, Repr

namespace FileMode

def ofName? : String → Option FileMode
  | "ro" => some .readOnly
  | "rw" => some .existing
  | "rwc" => some .create
  | "memory" => some .memory
  | _ => none

/-- Whether one mode may take the place of another: more may not be asked for than was granted. -/
def allows : FileMode → FileMode → Bool
  | _, .memory => true
  | .readOnly, m => m == .readOnly
  | .existing, m => m != .create
  | _, _ => true

end FileMode

/-- Numbers that fit into 31 bits; others count as zero. -/
def halfWord (n : Nat) : Nat := if n < 0x80000000 then n else 0

/-- The number at the start of a text, in decimal or in hexadecimal digits. A hexadecimal number
must not be too long. -/
def leadingNumber (s : List Nat) : Nat :=
  match s with
  | 0x30 :: mark :: rest =>
    let digits := (rest.map Text.hexValue?).takeWhile Option.isSome |>.reduceOption
    if (mark = 0x78 ∨ mark = 0x58) ∧ digits ≠ [] then
      halfWord (digits.foldl (fun n d => 16 * n + d) 0)
    else decimal s
  | _ => decimal s
where
  decimal (s : List Nat) : Nat :=
    halfWord ((s.takeWhile fun b => 0x30 ≤ b && b ≤ 0x39).foldl
      (fun n b => 10 * n + (b - 0x30)) 0)

/-- Whether an option says yes: by a word, or by a number whose last byte is not zero. -/
def saysYes (value : List Nat) : Bool :=
  if value.head?.any fun b => 0x30 ≤ b && b ≤ 0x39 then leadingNumber value % 0x100 ≠ 0
  else (Text.ofPoints value).toLower ∈ ["on", "yes", "true"]

structure FileOptions where
  mode : FileMode := .create
  shared : Bool := false
  system? : Option FileSystem := some .disk
  /-- Whether the file is said never to change. -/
  frozen? : Option Bool := none
  /-- A path whose file the new one is modelled on. -/
  model? : Option (List Nat) := none

namespace FileOptions

/-- Takes an option over; nothing is an option that cannot be met. Of options that only describe
the file, the first one counts. -/
def add? (o : FileOptions) (option : List Nat × List Nat) : Option FileOptions :=
  let value := option.2
  match Text.ofPoints option.1 with
  | "mode" => (FileMode.ofName? (Text.ofPoints value)).bind fun mode =>
      if o.mode.allows mode then some { o with mode } else none
  | "cache" => match Text.ofPoints value with
    | "shared" => some { o with shared := true }
    | "private" => some { o with shared := false }
    | _ => none
  | "vfs" => some { o with system? := FileSystem.ofName? (Text.ofPoints value) }
  | "immutable" => some { o with frozen? := some (o.frozen?.getD (saysYes value)) }
  | "modeof" => some { o with model? := some (o.model?.getD value) }
  | _ => some o

def writable (o : FileOptions) : Bool := o.mode != .readOnly

/-- Memory under a name, if it is shared, or of one store alone. -/
def inMemory (o : FileOptions) (pooled : Bool) (system : FileSystem) (name : List Nat) : Location :=
  if o.shared && name != [] then .shared (.cache system name) { writable := o.writable }
  else .own pooled o.writable

/-- A file on disk. The file that it is modelled on has to be there. -/
def onDisk (o : FileOptions) (name : List Nat) : Location :=
  let access : Access :=
    { creates := o.mode == .create, writable := o.writable && !o.frozen?.getD false }
  match o.model? with
  | none => Location.ofPath name access
  | some model =>
    let path := Path.ofBytes model
    if model = [] then .absent
    else if path.isDirectory then Location.ofPath name access
    else if path.isFile then Location.ofPath name { access with model? := some path }
    else .absent

/-- A file in memory. Names from the root are shared. -/
def inMemorySystem (o : FileOptions) (pooled : Bool) (name : List Nat) : Location :=
  let writable := o.writable && !o.frozen?.getD false
  if 1 < name.length && (name.head? == some 0x2f || name.head? == some 0x5c) then
    .shared (.memory name) { writable }
  else if o.shared then .shared (.cache .memory name) { writable }
  else .own pooled writable

def locate (o : FileOptions) (pooled : Bool) (name : List Nat) : Location :=
  match o.system? with
  | none => .absent
  | some system =>
    if o.mode = .memory ∨ name = [] ∨ name = Location.memoryName then o.inMemory pooled system name
    else if system = .memory then o.inMemorySystem pooled name
    else o.onDisk name

end FileOptions

namespace FileAddress

/-- Bytes of an address without escapes. An escape for a zero byte ends them. -/
def cut (bytes : List Nat) : List Nat := (Text.unescaped bytes).takeWhile (· != 0)

def option? (part : List Nat) : Option (List Nat × List Nat) :=
  let name := part.takeWhile (· != 0x3d)
  if cut name = [] then none else some (cut name, cut (part.drop (name.length + 1)))

/-- What follows the host in an address; it may name this host and no other. -/
def hostless? (address : List Nat) : Option (List Nat) :=
  match address with
  | 0x2f :: 0x2f :: rest =>
    let host := rest.takeWhile (· != 0x2f)
    if host = [] ∨ host = Text.toPoints "localhost" then some (rest.drop host.length) else none
  | _ => some address

/-- The place that an address names, without its scheme. `pooled` says whether all connections to
it are one. -/
def locate (pooled : Bool) (address : List Nat) : Location :=
  match hostless? address with
  | none => .absent
  | some address =>
    let address := address.takeWhile (· != 0x23)
    let path := address.takeWhile (· != 0x3f)
    let options := ((address.drop (path.length + 1)).splitOn 0x26).filterMap option?
    match options.foldlM FileOptions.add? {} with
    | some options => options.locate pooled (cut path)
    | none => .absent

end FileAddress
end WalletTrust.Store
