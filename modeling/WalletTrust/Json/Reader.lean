import WalletTrust.Value.Real

/-!
# Documents read as values

A reader of JSON over code points. What cannot be read is reported with the place at which something
else was expected. Of equal keys in an object the last value counts, in the place of the first.
-/

namespace WalletTrust.Json

/-- What is left to read, and how many code points were read before it. -/
structure Source where
  position : Nat
  rest : List Nat

inductive Fault where
  /-- Something else was expected here. -/
  | unexpected (position : Nat)
  /-- A part of the document exceeds what a reader accepts. -/
  | excessive
  deriving DecidableEq, Repr

abbrev Reading (α : Type) := Except Fault (α × Source)

def isBlank (point : Nat) : Bool := point == 0x20 || point == 9 || point == 10 || point == 13

def isDigit (point : Nat) : Bool := 0x30 ≤ point && point ≤ 0x39

namespace Source

def drop (s : Source) (n : Nat) : Source := ⟨s.position + n, s.rest.drop n⟩

def run (p : Nat → Bool) (s : Source) : List Nat × Source :=
  let taken := s.rest.takeWhile p
  (taken, ⟨s.position + taken.length, s.rest.drop taken.length⟩)

def skipBlanks (s : Source) : Source := (s.run isBlank).2

def unexpected {α : Type} (s : Source) : Reading α := .error (.unexpected s.position)

end Source

def word (s : String) : List Nat := Text.toPoints s

def constants : List (List Nat × Value) :=
  [(word "null", .null), (word "true", .bool true), (word "false", .bool false),
    (word "NaN", .float .nan), (word "Infinity", .float (.infinite false)),
    (word "-Infinity", .float (.infinite true))]

def constant? (s : Source) : Option (Value × Source) :=
  (constants.find? fun (w, _) => w.isPrefixOf s.rest).map fun (w, v) => (v, s.drop w.length)

def integerDigits (s : Source) : Option (List Nat × Source) :=
  match s.rest with
  | 0x30 :: _ => some ([0x30], s.drop 1)
  | _ => match s.run isDigit with
    | ([], _) => none
    | (digits, s) => some (digits, s)

/-- A point counts only with a digit behind it. -/
def fractionDigits (s : Source) : List Nat × Source :=
  match s.rest with
  | 0x2e :: _ => match (s.drop 1).run isDigit with
    | ([], _) => ([], s)
    | (digits, s) => (digits, s)
  | _ => ([], s)

/-- An exponent counts only if it has a digit. -/
def exponentPart (s : Source) : Option Int × Source :=
  match s.rest with
  | mark :: rest =>
    if mark = 0x65 ∨ mark = 0x45 then
      let (negative, unsigned) := Text.splitSign rest
      let afterSign := s.drop (1 + (rest.length - unsigned.length))
      match afterSign.run isDigit with
      | ([], _) => (none, s)
      | (digits, s) =>
        let n := Text.ofDigits (digits.map (· - 0x30))
        (some (if negative then -(n : Int) else n), s)
    else (none, s)
  | [] => (none, s)

/-- A number is an integer unless it has a fraction or an exponent. -/
def number (start : Source) : Reading Value :=
  let negative := start.rest.head? == some 0x2d
  match integerDigits (if negative then start.drop 1 else start) with
  | none => start.unexpected
  | some (whole, s) =>
    let (fraction, s) := fractionDigits s
    let (exponent, s) := exponentPart s
    let digits := Text.ofDigits ((whole ++ fraction).map (· - 0x30))
    if fraction.isEmpty && exponent.isNone then
      if Text.digitLimit < whole.length then .error .excessive
      else .ok (.int (if negative then -(digits : Int) else digits), s)
    else .ok (.float (.ofDecimal negative digits (exponent.getD 0 - fraction.length)), s)

/-- What an escape of one letter stands for. -/
def shortEscape? (point : Nat) : Option Nat :=
  match Char.ofNat point with
  | '"' => some 0x22
  | '\\' => some 0x5c
  | '/' => some 0x2f
  | 'b' => some 8
  | 'f' => some 12
  | 'n' => some 10
  | 'r' => some 13
  | 't' => some 9
  | _ => none

/-- The unit of four hexadecimal digits, which must not end the text. -/
def unit? : List Nat → Option Nat
  | a :: b :: c :: d :: _ :: _ => do
    let a ← Text.hexValue? a
    let b ← Text.hexValue? b
    let c ← Text.hexValue? c
    let d ← Text.hexValue? d
    some (((a * 16 + b) * 16 + c) * 16 + d)
  | _ => none

/-- A code point of a string, as written: an escaped half of a surrogate pair joins an escaped half
before it. -/
inductive Written where
  | plain (point : Nat)
  | escaped (unit : Nat)

/-- The code points of a string, from its end to its start. -/
def joinUnits : List Written → List Nat
  | .escaped low :: .escaped high :: rest =>
    if Text.isHighSurrogate high && Text.isLowSurrogate low then
      Text.joinSurrogates high low :: joinUnits rest
    else low :: joinUnits (.escaped high :: rest)
  | .escaped unit :: rest => unit :: joinUnits rest
  | .plain point :: rest => point :: joinUnits rest
  | [] => []

/-- The rest of a string up to its closing quote; `start` is the place of the opening one. The first
number counts code points that belong to an escape before them. -/
def stringRest (start : Nat) (read : List Written) : Nat → Nat → List Nat → Reading (List Nat)
  | _, _, [] => .error (.unexpected start)
  | skip + 1, position, _ :: rest => stringRest start read skip (position + 1) rest
  | 0, position, p :: rest =>
    if p = 0x22 then .ok ((joinUnits read).reverse, ⟨position + 1, rest⟩)
    else if p < 0x20 then .error (.unexpected position)
    else if p = 0x5c then
      match rest with
      | [] => .error (.unexpected start)
      | 0x75 :: digits => match unit? digits with
        | some unit => stringRest start (.escaped unit :: read) 5 (position + 1) rest
        | none => .error (.unexpected (position + 1))
      | letter :: _ => match shortEscape? letter with
        | some point => stringRest start (.plain point :: read) 1 (position + 1) rest
        | none => .error (.unexpected position)
    else stringRest start (.plain p :: read) 0 (position + 1) rest

def string (s : Source) : Reading (List Nat) :=
  stringRest s.position [] 0 (s.position + 1) s.rest.tail

/-- Deeper nesting is not read. -/
def nestingLimit : Nat := 966

mutual
/-- A value, without blanks in front, whose lists and objects are nested up to a limit. -/
def value (limit : Nat) : Nat → Nat → Source → Reading Value
  | 0, _, s => s.unexpected
  | fuel + 1, depth, s =>
    match s.rest with
    | [] => s.unexpected
    | 0x22 :: _ => (string s).map fun (points, s) => (Value.ofPoints points, s)
    | 0x7b :: _ =>
      if depth = limit then .error .excessive
      else
        let inner := (s.drop 1).skipBlanks
        if inner.rest.head? = some 0x7d then .ok (.map [], inner.drop 1)
        else (members limit fuel (depth + 1) [] inner).map fun (entries, s) => (.map entries, s)
    | 0x5b :: _ =>
      if depth = limit then .error .excessive
      else
        let inner := (s.drop 1).skipBlanks
        if inner.rest.head? = some 0x5d then .ok (.list [], inner.drop 1)
        else (elements limit fuel (depth + 1) [] inner).map fun (items, s) => (.list items, s)
    | _ => match constant? s with
      | some found => .ok found
      | none => number s

/-- The elements of a list up to its closing bracket, after those already read. -/
def elements (limit : Nat) : Nat → Nat → List Value → Source → Except Fault (List Value × Source)
  | 0, _, _, s => s.unexpected
  | fuel + 1, depth, read, s => do
    let (v, s) ← value limit fuel depth s
    let s := s.skipBlanks
    match s.rest with
    | 0x5d :: _ => .ok ((v :: read).reverse, s.drop 1)
    | 0x2c :: _ => elements limit fuel depth (v :: read) (s.drop 1).skipBlanks
    | _ => s.unexpected

/-- The entries of an object up to its closing brace, after those already read. -/
def members (limit : Nat) : Nat → Nat → List (Value × Value) → Source →
    Except Fault (List (Value × Value) × Source)
  | 0, _, _, s => s.unexpected
  | fuel + 1, depth, read, s =>
    if s.rest.head? ≠ some 0x22 then s.unexpected
    else do
      let (key, s) ← string s
      let s := s.skipBlanks
      if s.rest.head? ≠ some 0x3a then s.unexpected
      else
        let (v, s) ← value limit fuel depth (s.drop 1).skipBlanks
        let s := s.skipBlanks
        let read := Value.setField (Value.ofPoints key) v read
        match s.rest with
        | 0x7d :: _ => .ok (read, s.drop 1)
        | 0x2c :: _ => members limit fuel depth read (s.drop 1).skipBlanks
        | _ => s.unexpected
end

def readWithin (limit : Nat) (points : List Nat) : Except Fault Value := do
  let (v, s) ← value limit (points.length + 1) 0 (Source.mk 0 points).skipBlanks
  let s := s.skipBlanks
  if s.rest.isEmpty then .ok v else .error (.unexpected s.position)

def read (points : List Nat) : Except Fault Value := readWithin nestingLimit points

end WalletTrust.Json
