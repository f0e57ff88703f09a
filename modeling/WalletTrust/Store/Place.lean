import WalletTrust.Failure

/-!
# Places of databases

A database lies in a file, in memory under a name, or in memory of one store alone. A path is
followed part by part, so that the many ways to write it name one file.
-/

namespace WalletTrust.Store

/-- A path from the root or from the working directory. Its parts are bytes and stand last first;
steps up stand only at the start of a path from the working directory. -/
structure Path where
  absolute : Bool
  parts : List (List Nat)
  deriving DecidableEq, Repr, Inhabited

namespace Path

def separator : Nat := 0x2f

/-- The part that stays in a directory. -/
def here : List Nat := [0x2e]

/-- The part that steps up from a directory. -/
def above : List Nat := [0x2e, 0x2e]

/-- Follows the parts of a path from a place. Nothing is above the root. -/
def follow (absolute : Bool) (place : List (List Nat)) : List (List Nat) → List (List Nat)
  | [] => place
  | part :: rest =>
    if part = [] ∨ part = here then follow absolute place rest
    else if part = above then match place with
      | [] => follow absolute (if absolute then [] else [above]) rest
      | last :: before => follow absolute (if last = above then above :: place else before) rest
    else follow absolute (part :: place) rest

def ofBytes (bytes : List Nat) : Path :=
  let absolute := bytes.head? == some separator
  ⟨absolute, follow absolute [] (bytes.splitOn separator)⟩

def ofName (name : String) : Path := ⟨false, [Text.toPoints name]⟩

def rootDirectories : List (List Nat) :=
  ["bin", "boot", "dev", "etc", "home", "lib", "lib64", "media", "mnt", "opt", "proc", "root",
    "run", "sbin", "srv", "sys", "tmp", "usr", "var"].map Text.toPoints

def isDirectory (p : Path) : Bool :=
  if p.absolute then match p.parts with
    | [] => true
    | [name] => rootDirectories.contains name
    | _ => false
  else p.parts.all (· == above)

/-- Directories from the root in which files can be made. -/
def openDirectories : List (List (List Nat)) := [[], [Text.toPoints "tmp"]]

/-- The longest name of a file in bytes. The file that is written along with a database has eight
bytes more in its name. -/
def nameLimit : Nat := 255 - 8

def isFile (p : Path) : Bool :=
  !p.isDirectory && match p.parts with
    | [] => false
    | name :: directory => name.length ≤ nameLimit &&
        if p.absolute then openDirectories.contains directory else directory.all (· == above)

example : ofBytes (Text.toPoints "a//./b/../x.db") = ofBytes (Text.toPoints "a/x.db") := by
  decide +kernel

end Path

/-- What keeps files: a disk, with one of the ways to lock them, or memory. -/
inductive FileSystem where
  | disk
  | unlocked
  | lockFiles
  | exclusive
  | memory
  deriving DecidableEq, Repr

def FileSystem.ofName? : String → Option FileSystem
  | "unix" => some .disk
  | "unix-none" => some .unlocked
  | "unix-dotfile" => some .lockFiles
  | "unix-excl" => some .exclusive
  | "memdb" => some .memory
  | _ => none

inductive Place where
  | file (path : Path)
  /-- A file that is kept in memory. -/
  | memory (name : List Nat)
  /-- Memory that connections share by its name, if they go through the same system of files. -/
  | cache (system : FileSystem) (name : List Nat)
  deriving DecidableEq, Repr, Inhabited

structure Access where
  /-- Whether the place is made if it is missing. -/
  creates : Bool := true
  writable : Bool := true
  /-- A file that has to be there. -/
  model? : Option Path := none
  deriving DecidableEq, Repr, Inhabited

inductive Location where
  /-- Memory of one store alone. It belongs to a single connection unless all connections of the
  store are one. -/
  | own (pooled writable : Bool)
  | shared (place : Place) (access : Access)
  /-- A place to which no connection can be made. -/
  | unreachable (f : Failure)

instance : Inhabited Location := ⟨.own false true⟩

namespace Location

def absent : Location := .unreachable (.database .missing)

def ofPath (bytes : List Nat) (access : Access) : Location :=
  let path := Path.ofBytes bytes
  if path.isFile then .shared (.file path) access else absent

def memoryName : List Nat := Text.toPoints ":memory:"

end Location
end WalletTrust.Store
