import WalletTrust.Failure
import WalletTrust.Text.Blank
import WalletTrust.Text.Unicode

/-!
# Requests and replies

A request names a method, which may be any string, and a path, possibly with a query, in ASCII. A
reply to a request whose handling failed says nothing about the failure, which goes along with the
reply for the host to see.
-/

namespace WalletTrust.Http

structure Request where
  method : Text.Points := Text.toPoints "GET"
  target : String
  headers : List (String × String) := []
  contentType? : Option String := none
  body : List UInt8 := []

/-- The pages about the service that come with the framework it is built on. -/
inductive Page where
  | schema
  | browser
  | browserLogin
  | reference
  deriving DecidableEq, Repr

inductive Content where
  /-- What the framework has to say in a page. -/
  | page (p : Page)
  | document (v : Value)
  | text (s : String)
  | empty

structure Reply where
  status : Nat
  contentType? : Option String := none
  content : Content := .empty
  allow? : Option String := none
  location? : Option String := none
  /-- The failure that ended the handling of the request. -/
  raised? : Option Failure := none

namespace Reply

def document (status : Nat) (v : Value) : Reply :=
  { status, contentType? := some "application/json", content := .document v }

def fields (status : Nat) (fields : List (Value × Value)) : Reply := document status (.map fields)

def detail (status : Nat) (text : String) : Reply :=
  fields status [(.text "detail", .text text)]

def page (p : Page) : Reply :=
  let type := if p = .schema then "application/json" else "text/html; charset=utf-8"
  { status := 200, contentType? := some type, content := .page p }

def wrongMethod (allowed : String) : Reply :=
  { detail 405 "Method Not Allowed" with allow? := some allowed }

def failed (f : Failure) : Reply :=
  { status := 500, contentType? := some "text/plain; charset=utf-8"
    content := .text "Internal Server Error", raised? := some f }

end Reply

def Request.header? (r : Request) (name : String) : Option String :=
  (r.headers.find? fun h => h.1.toLower == name.toLower).map (·.2)

/-- What a request says of the content of its body. A header comes before what is said otherwise. -/
def Request.contentType (r : Request) : String :=
  (r.header? "content-type").getD (r.contentType?.getD "")

def callerHeader : String := "X-Caller-Address"

/-- The caller that a request names, if it names one that is not blank. -/
def Request.caller? (r : Request) : Option String :=
  let caller := Text.strip ((r.header? callerHeader).getD "")
  if caller = "" then none else some caller

end WalletTrust.Http
