import WalletTrust.Text.Blank

/-!
# Environment files

A file assigns values to names, one assignment to a line, though a quoted value may go over several.
Lines that cannot be read are skipped.
-/

namespace WalletTrust.Environment.File

/-- An assignment; a name without an equals sign is given nothing. -/
abbrev Binding := String × Option String

/-- Line ends of all kinds become line feeds. -/
def unifyLines : List Char → List Char
  | [] => []
  | '\r' :: '\n' :: rest => '\n' :: unifyLines rest
  | '\r' :: rest => '\n' :: unifyLines rest
  | c :: rest => c :: unifyLines rest

def isInlineBlank (c : Char) : Bool := Text.isBlank c && c != '\n' && c != '\r'

def skipInline (s : List Char) : List Char := s.dropWhile isInlineBlank

/-- A word that may stand in front of an assignment, with blanks behind it. -/
def skipExport (s : List Char) : List Char :=
  if "export".toList.isPrefixOf s then
    let rest := s.drop 6
    if rest.head?.any isInlineBlank then skipInline rest else s
  else s

def isKeyChar (c : Char) : Bool := c != '=' && c != '#' && !Text.isBlank c

/-- A name, which may be quoted; a comment has none. -/
inductive Key where
  | comment
  | named (name : List Char) (rest : List Char)
  | malformed

def key (s : List Char) : Key :=
  match s with
  | '#' :: _ => .comment
  | '\'' :: rest =>
    let name := rest.takeWhile (· != '\'')
    match name, rest.drop name.length with
    | _ :: _, _ :: rest => .named name rest
    | _, _ => .malformed
  | _ =>
    let name := s.takeWhile isKeyChar
    if name.isEmpty then .malformed else .named name (s.drop name.length)

/-- The text up to a closing quote, and what follows it. A character behind a backslash belongs to
it, so that a quote there closes nothing. -/
def quotedText (quote : Char) : List Char → Option (List Char × List Char)
  | [] => none
  | '\\' :: c :: rest => (quotedText quote rest).map fun (text, rest) => ('\\' :: c :: text, rest)
  | c :: rest =>
    if c = quote then some ([], rest)
    else (quotedText quote rest).map fun (text, rest) => (c :: text, rest)

/-- What a letter behind a backslash stands for. -/
def escapeIn (quote c : Char) : Option Char :=
  if quote = '\'' then if c = '\\' ∨ c = '\'' then some c else none
  else match c with
    | '\\' => some '\\'
    | '\'' => some '\''
    | '"' => some '"'
    | 'a' => some '\x07'
    | 'b' => some '\x08'
    | 'f' => some '\x0c'
    | 'n' => some '\n'
    | 'r' => some '\r'
    | 't' => some '\t'
    | 'v' => some '\x0b'
    | _ => none

def unescape (quote : Char) : List Char → List Char
  | '\\' :: c :: rest => match escapeIn quote c with
    | some d => d :: unescape quote rest
    | none => '\\' :: unescape quote (c :: rest)
  | c :: rest => c :: unescape quote rest
  | [] => []

/-- A text up to a comment, which starts behind a blank. -/
def uncommented (afterBlank : Bool) : List Char → List Char
  | [] => []
  | c :: rest => if c = '#' ∧ afterBlank then [] else c :: uncommented (Text.isBlank c) rest

def line (s : List Char) : List Char := s.takeWhile (· != '\n')

/-- A value behind an equals sign, and what follows it; nothing if a quote is not closed. A comment
may come in place of a value, if there are blanks before it. -/
def value (s : List Char) : Option (List Char × List Char) :=
  match skipInline s with
  | [] => some ([], [])
  | '\n' :: rest => some ([], '\n' :: rest)
  | c :: rest =>
    if c = '\'' ∨ c = '"' then
      (quotedText c rest).map fun (text, rest) => (unescape c text, rest)
    else
      let afterBlank := s.head?.any isInlineBlank
      let present := line (c :: rest)
      some (Text.stripEnd (uncommented afterBlank present), (c :: rest).drop present.length)

def skipComment (s : List Char) : List Char :=
  match skipInline s with
  | '#' :: rest => rest.drop (line rest).length
  | _ => s

def lineEnd? (s : List Char) : Option (List Char) :=
  match skipInline s with
  | [] => some []
  | '\n' :: rest => some rest
  | _ => none

def nextLine (s : List Char) : List Char := (s.drop (line s).length).drop 1

/-- Reads one line: its assignment, if it has one that can be read, and what follows. -/
def binding (s : List Char) : Option Binding × List Char :=
  match key (skipExport s) with
  | .malformed => (none, nextLine (skipExport s))
  | .comment => (none, nextLine (skipExport s))
  | .named name rest =>
    let name := String.ofList name
    let rest := skipInline rest
    let assigned := match rest with
      | '=' :: rest => (value rest).map fun (v, rest) => (some (String.ofList v), rest)
      | _ => some (none, rest)
    match assigned with
    | none => (none, nextLine rest)
    | some (v, rest) => match lineEnd? (skipComment rest) with
      | some rest => (some (name, v), rest)
      | none => (none, nextLine (skipComment rest))

/-- Reads line after line. Each takes at least one character. -/
def bindingsFrom : Nat → List Char → List Binding
  | 0, _ => []
  | fuel + 1, s => match s.dropWhile Text.isBlank with
    | [] => []
    | s =>
      let (found, rest) := binding s
      found.toList ++ bindingsFrom fuel rest

/-- A text without the mark of its encoding. -/
def unmarked : List Char → List Char
  | '\ufeff' :: rest => rest
  | s => s

def bindings (text : String) : List Binding :=
  bindingsFrom (text.toList.length + 1) (unifyLines (unmarked text.toList))

example : bindings "A = 1 # one\nexport B='x\\'y'\nC\nD= #" =
    [("A", some "1"), ("B", some "x'y"), ("C", none), ("D", some "")] := by decide +kernel

end WalletTrust.Environment.File
