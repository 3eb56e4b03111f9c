import BlockExplorer.Http.Message

/-!
Requests across origins. A star among the allowed origins allows all of them. A request that asks
beforehand whether another one would be allowed is answered here; access to a private network is
never allowed.
-/

namespace BlockExplorer.Cors

def star : Text := [0x2A]

def allowsAll (origins : List Text) : Bool := origins.contains star

def isAllowed (origins : List Text) (origin : Text) : Bool :=
  allowsAll origins || origins.contains origin

abbrev allowOrigin : String := "access-control-allow-origin"

/-- A response to a request from an origin, with a header that names the origin if it is
allowed. -/
def allow (origins : List Text) (origin : Text) (response : Response) : Response :=
  if allowsAll origins then response.withHeader allowOrigin star
  else if origins.contains origin then response.withHeader allowOrigin origin
  else response

def decorate (origins : List Text) (request : Request) (response : Response) : Response :=
  match request.header? "origin" with
  | none => response
  | some origin => allow origins origin response

/-- What is asked beforehand: whether a request from an origin, with a method, perhaps to a private
network, would be allowed. -/
structure Inquiry where
  origin : Text
  method : Text
  privateNetwork : Bool
  deriving DecidableEq, Repr

namespace Inquiry

def refusals (origins : List Text) (inquiry : Inquiry) : List String :=
  (if isAllowed origins inquiry.origin then [] else ["origin"]) ++
    (if inquiry.method = Text.ofString "GET" then [] else ["method"]) ++
    (if inquiry.privateNetwork then ["private-network"] else [])

def answer (origins : List Text) (inquiry : Inquiry) : Response :=
  let refused := inquiry.refusals origins
  allow origins inquiry.origin
    (if refused.isEmpty then ⟨200, .text "OK", []⟩
    else ⟨400, .text ("Disallowed CORS " ++ ", ".intercalate refused), []⟩)

def ofRequest? (request : Request) : Option Inquiry :=
  match request.header? "origin", request.header? "access-control-request-method" with
  | some origin, some method =>
      if request.method = "OPTIONS" then
        some ⟨origin, method, (request.header? "access-control-request-private-network").isSome⟩
      else none
  | _, _ => none

end Inquiry

def preflight? (origins : List Text) (request : Request) : Option Response :=
  (Inquiry.ofRequest? request).map (Inquiry.answer origins)

end BlockExplorer.Cors
