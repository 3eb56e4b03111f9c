import BlockExplorer.Text.Quoted
import BlockExplorer.Value

/-!
Requests and responses. The path of a request is already decoded, its query is not. A header is
found under the lower-case form of its name only; of several headers with one name the first counts.
Each byte of a header is a code point of its own.
-/

namespace BlockExplorer

structure Request where
  method : String
  host : Text
  path : Text
  query : Text
  headers : List (String × Text)
  deriving DecidableEq, Repr

def Request.header? (request : Request) (name : String) : Option Text := request.headers.lookup name

inductive Content where
  | document (value : Value)
  | text (content : String)
  deriving Repr

structure Response where
  status : Nat
  content : Content
  headers : List (String × Text)
  deriving Repr

namespace Response

def document (status : Nat) (value : Value) : Response := ⟨status, .document value, []⟩

def detail (status : Nat) (word : String) : Response :=
  document status (.named [("detail", .word word)])

def notFound : Response := detail 404 "Not Found"

def methodNotAllowed : Response :=
  { detail 405 "Method Not Allowed" with headers := [("allow", Text.ofString "GET")] }

def internalError : Response := ⟨500, .text "Internal Server Error", []⟩

def isWritable (response : Response) : Bool :=
  match response.content with
  | .document value => value.isWritable
  | .text _ => true

def withHeader (name : String) (content : Text) (response : Response) : Response :=
  { response with headers := response.headers ++ [(name, content)] }

end Response

end BlockExplorer
