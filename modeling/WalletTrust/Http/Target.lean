import WalletTrust.Text.Percent

/-!
# Targets of requests

The path of a target is its part before the query, with escapes of bytes resolved.
-/

namespace WalletTrust.Http

/-- The path of a target, with a replacement for what is no text. -/
def pathOf (target : String) : String :=
  Text.ofPoints (Text.percentDecoded (Text.toPoints target |>.takeWhile (· != 0x3f)))

/-- The query of a target with its question mark; an empty one counts as none. -/
def queryOf (target : String) : String :=
  match target.toList.dropWhile (· != '?') with
  | [] => ""
  | [_] => ""
  | query => String.ofList query

def isLocationChar (c : Char) : Bool :=
  c.isAlphanum || "_.-~:/%#?=@[]!$&'()*+,;".toList.contains c

/-- Question marks and number signs within a path are escaped, because they would end it. -/
def locationPath (path : String) : List Char :=
  path.toList.flatMap fun c => if c = '?' ∨ c = '#' then Text.byteEscape c.toNat else [c]

/-- The location of a path and a query on a host: other characters are escaped byte by byte. -/
def locationText (host path query : String) : String :=
  String.ofList ((host.toList ++ locationPath path ++ query.toList).flatMap fun c =>
    if isLocationChar c then [c] else (Text.utf8Bytes c.toNat).flatMap Text.byteEscape)

end WalletTrust.Http
