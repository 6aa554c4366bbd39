/-
AlertRules/Http.lean

Requests to a ruler as HTTP messages.  A request whose address or headers are not
legal is never sent (`message?`); a body is declared as YAML.
-/
import AlertRules.Http.Target
import AlertRules.Ruler.Exchange

namespace AlertRules.Http

/-- What is sent for a request. -/
structure Message where
  method : String
  target : String
  headers : List (String × String)
  body : String
  deriving DecidableEq, Repr

/-! ### Headers -/

/-- The characters of tokens, of which header names are made. -/
def isTokenChar (c : Char) : Bool := c.isAlphanum || "!#$%&'*+-.^_\x60|~".toList.contains c

def isHeaderName (s : String) : Bool := !s.toList.isEmpty && s.toList.all isTokenChar

def isHeaderValue (s : String) : Bool :=
  s.toList.all fun c => c == '\t' || (0x20 ≤ c.toNat && c.toNat ≠ 0x7F)

def isHeaderBlank (c : Char) : Bool := c == ' ' || c == '\t'

/-- A header as it arrives: its name in lower case, its value without the white space
around it. -/
def headerLine (h : String × String) : String × String :=
  (String.ofList (h.1.toList.map Char.toLower),
    String.ofList
      ((h.2.toList.dropWhile isHeaderBlank).reverse.dropWhile isHeaderBlank).reverse)

/-- The header that declares a body. -/
def contentType : String × String := ("content-type", "application/yaml")

/-! ### Messages -/

/-- The message for a request to the ruler at an address. -/
def message? (baseUrl : String) (r : Request) : Option Message :=
  match target? (baseUrl ++ r.path) with
  | none => none
  | some target =>
    if r.headers.all fun h => isHeaderName h.1 && isHeaderValue h.2 then
      some ⟨r.method, target, r.headers.map headerLine ++ (if r.body.isSome then [contentType] else []),
        r.body.getD ""⟩
    else none

/-- Whether a response to a method has a body at all. -/
def hasBody (method : String) (status : Nat) : Bool :=
  method ≠ "HEAD" && status ≠ 204 && status ≠ 304

/-- A response as it is read: a byte order mark is no part of its text. -/
def received (method : String) (r : Response) : Response :=
  if hasBody method r.status then
    match r.body.toList with
    | '\ufeff' :: text => ⟨r.status, String.ofList text⟩
    | _ => r
  else ⟨r.status, ""⟩

/-- Why a request is not sent. -/
def notSent : TransportError := .http "builder error"

/-- Sends a request over a network, given by what it answers to a message. -/
def send (baseUrl : String) (network : Message → Answer) (r : Request) : Answer :=
  match message? baseUrl r with
  | none => .error notSent
  | some m => (network m).map (received m.method)

end AlertRules.Http
