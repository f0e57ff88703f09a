import WalletTrust.Failure
import WalletTrust.Text.Percent
import WalletTrust.Text.Word
import WalletTrust.Value.Integer

/-!
# Addresses of databases

A database is named by an address with a scheme, possibly credentials, a host and a port, a path,
and a query with options. What a log shows of an address is neither its scheme nor its
credentials.
-/

namespace WalletTrust.Store

open Text (Points)

/-- The parts of an address. The path and the options are free of escapes; an option that is given
several times has several values. -/
structure Url where
  scheme : Points
  user : Points := []
  password : Points := []
  host : Points := []
  port? : Option Points := none
  path? : Option Points := none
  options : List (Points × List Points) := []

namespace Url

def colon : Nat := 0x3a

def slash : Nat := 0x2f

def question : Nat := 0x3f

def atSign : Nat := 0x40

def isSchemePoint (point : Nat) : Bool := Text.isWord point || point == 0x2b

/-- Splits at the first code point that satisfies `p`, which goes with neither part. -/
def splitAt? (p : Nat → Bool) (s : Points) : Option (Points × Points) :=
  match s.dropWhile fun c => !p c with
  | [] => none
  | _ :: rest => some (s.takeWhile fun c => !p c, rest)

def splitAtLast? (p : Nat → Bool) (s : Points) : Option (Points × Points) :=
  (splitAt? p s.reverse).map fun (after, before) => (before.reverse, after.reverse)

/-- User and password in front of an `@`, and what follows it. A password reaches up to the first
`@` behind its colon; a user alone up to the last one before a colon or a slash. -/
def credentials (s : Points) : Points × Points × Points :=
  let head := s.takeWhile fun c => c != colon && c != slash
  let tail := s.drop head.length
  let withPassword := match tail with
    | 0x3a :: rest => splitAt? (· == atSign) rest
    | _ => none
  match withPassword with
  | some (password, rest) => (head, password, rest)
  | none => match splitAtLast? (· == atSign) head with
    | some (user, rest) => (user, [], rest ++ tail)
    | none => ([], [], s)

def endsPlace (point : Nat) : Bool := point == slash || point == question

/-- A host in brackets, which may hold colons and brackets, and what follows it. -/
def bracketed? (s : Points) : Option (Points × Points) :=
  let place := s.takeWhile fun c => !endsPlace c
  match splitAtLast? (· == 0x5d) place with
  | some (host, after) => if host.isEmpty then none else some (host, after ++ s.drop place.length)
  | none => none

def hostPart (s : Points) : Points × Points :=
  let plain := s.takeWhile fun c => !endsPlace c && c != colon
  match s with
  | 0x5b :: rest => (bracketed? rest).getD (plain, s.drop plain.length)
  | _ => (plain, s.drop plain.length)

/-- A text of a query, where a plus sign stands for a space. -/
def queryText (s : Points) : Points :=
  Text.percentDecoded (s.map fun c => if c = 0x2b then 0x20 else c)

def addOption (name value : Points) : List (Points × List Points) → List (Points × List Points)
  | [] => [(name, [value])]
  | (n, values) :: rest =>
    if n = name then (n, values ++ [value]) :: rest else (n, values) :: addOption name value rest

/-- An option of a query, unless its value is missing or empty. -/
def option? (part : Points) : Option (Points × Points) :=
  match splitAt? (· == 0x3d) part with
  | some (_, []) => none
  | some (name, value) => some (queryText name, queryText value)
  | none => none

/-- The options of a query, which ends with its line. -/
def optionsOf (query : Points) : List (Points × List Points) :=
  (((query.takeWhile (· != 0xa)).splitOn 0x26).filterMap option?).foldl
    (fun options (name, value) => addOption name value options) []

def ofRest (scheme rest : Points) : Url :=
  let (user, password, rest) := credentials rest
  let (host, rest) := hostPart rest
  let (port?, rest) := match rest with
    | 0x3a :: rest =>
      let port := rest.takeWhile fun c => !endsPlace c
      (some port, rest.drop port.length)
    | _ => (none, rest)
  let (path?, rest) := match rest with
    | 0x2f :: rest =>
      let path := rest.takeWhile (· != question)
      (some (Text.percentDecoded path), rest.drop path.length)
    | _ => (none, rest)
  let options := match rest with
    | 0x3f :: query => optionsOf query
    | _ => []
  { scheme, user, password, host, port?, path?, options }

def checkPort (port? : Option Points) : Except Failure Int :=
  match port? with
  | none => .ok 0
  | some [] => .error .noPort
  | some port => (Value.ofPoints port).toInteger

/-- Reads an address, which starts with a scheme and has an integer for its port. -/
def ofPoints (points : Points) : Except Failure Url :=
  let scheme := points.takeWhile isSchemePoint
  match scheme, points.drop scheme.length with
  | _ :: _, 0x3a :: 0x2f :: 0x2f :: rest =>
    let url := ofRest scheme rest
    (checkPort url.port?).map fun _ => url
  | _, _ => .error (.database .badAddress)

def namesHost (u : Url) : Bool :=
  !(u.user.isEmpty && u.password.isEmpty && u.host.isEmpty) ||
    match checkPort u.port? with
    | .ok port => port != 0
    | .error _ => true

def option (u : Url) (name : String) : List Points :=
  ((u.options.find? (·.1 == Text.toPoints name)).map (·.2)).getD []

def without (u : Url) (names : List String) : Url :=
  { u with options := u.options.filter fun o => !(names.map Text.toPoints).contains o.1 }

end Url

/-- What follows the last double slash, where double slashes are found from left to right. -/
def afterSlashes (read : Points) : Points → Points
  | [] => read.reverse
  | 0x2f :: 0x2f :: rest => afterSlashes [] rest
  | point :: rest => afterSlashes (point :: read) rest

/-- What follows the last `@`, or everything. -/
def afterCredentials (s : Points) : Points := (s.reverse.takeWhile (· != Url.atSign)).reverse

def masked (url : Points) : Points :=
  afterSlashes [] (afterCredentials (url.takeWhile (· != Url.question)))

def maskUrl (url : Points) : Value := .ofPoints (masked url)

end WalletTrust.Store
