import BlockExplorer.Failure
import BlockExplorer.Node.Epoch
import BlockExplorer.Node.Target
import BlockExplorer.Value

/-!
The exchange with a node: the request that asks for the epoch at a height, the reply, and what the
reply says. A reply is a document whose `result` holds a `response`; its `value` is an epoch in
base64 unless its `code` says that the query failed.
-/

namespace BlockExplorer

structure NodeReply where
  status : Int
  body : Bytes
  deriving DecidableEq, Repr

abbrev Exchange := Except TransportFault NodeReply

structure Node where
  epochAt : Int → Exchange
  health : Exchange

structure EpochRequest where
  id : Nat
  height : Numeral.Writable
  deriving DecidableEq, Repr

namespace EpochRequest

def path (request : EpochRequest) : String :=
  "/shell/epoch_at_height/" ++ toString request.height.val

def toValue (request : EpochRequest) : Value :=
  .named
    [("jsonrpc", .word "2.0"), ("id", .int request.id), ("method", .word "abci_query"),
      ("params", .named
        [("path", .word request.path), ("data", .word ""), ("height", .word "0"),
          ("prove", .bool false)])]

end EpochRequest

namespace NodeReply

/-- The document in a body. A document that nests too deep is not reported as a fault of the
node. -/
def document (body : Bytes) : Except Failure Json :=
  match Utf.decodeDocument body with
  | .error fault => .error (.node (.malformedReply (.notUnicode fault)))
  | .ok text =>
      match Json.parse text with
      | .ok document => .ok document
      | .error fault =>
          if fault.isDepth then .error (.unreadableDocument fault)
          else .error (.node (.malformedReply (.notJson fault)))

def member (name : String) (members : List (Text × Json)) : Json :=
  (Json.member? name members).getD .null

def result (document : Json) : Except Failure (List (Text × Json)) :=
  match document with
  | .object members =>
      let error := member "error" members
      if error.isFalsy then
        match member "result" members with
        | .object found => .ok found
        | _ => .error (.node .noResult)
      else .error (.node (.rpcError error))
  | _ => .error (.node .notAnObject)

def response (result : List (Text × Json)) : Except Failure (List (Text × Json)) :=
  let found := member "response" result
  if found.isFalsy then .ok []
  else
    match found with
    | .object members => .ok members
    | other => .error (.notAnObject other.kind)

/-- The text of the value. A value that counts as absent is empty text. -/
def valueText (value : Json) : Except Failure Text :=
  if value.isFalsy then .ok []
  else
    match value with
    | .text text => .ok text
    | other => .error (.notBase64Text other.kind)

def epochOfText (text : Text) : Except EpochFault (Option Nat) :=
  if text.all (· < 0x80) then
    match Base64.decode text with
    | .error fault => .error (.notBase64 fault)
    | .ok bytes =>
        match Epoch.decode? bytes with
        | some epoch => .ok epoch
        | none => .error (.notAnEpoch bytes)
  else .error .notAscii

def epochOfResponse (height : Numeral.Writable) (response : List (Text × Json)) :
    Except Failure Nat :=
  let code := (Json.member? "code" response).getD (.int 0)
  if code.isZero then do
    let text ← valueText (member "value" response)
    match epochOfText text with
    | .error fault => .error (.node (.malformedEpoch height fault))
    | .ok none => .error (.node (.noEpoch height))
    | .ok (some epoch) => .ok epoch
  else .error (.node (.refused height ((member "log" response).orElse (member "info" response))))

def epochOfDocument (height : Numeral.Writable) (document : Json) : Except Failure Nat := do
  let result ← result document
  let response ← response result
  epochOfResponse height response

end NodeReply

/-- A character without bytes is another matter than an address that makes no sense. -/
def Target.Fault.kind : Target.Fault → TransportFaultKind
  | .surrogate _ => .unwritableAddress
  | _ => .badAddress

namespace Exchange

def isSent : Exchange → Bool
  | .error fault => fault.kind ≠ .badAddress && fault.kind ≠ .unwritableAddress
  | .ok _ => true

/-- What comes of a request to an address, given what comes of requests that arrive. A reply from no
known place is not accepted. -/
def reached (address : Text) (exchange : Exchange) : Exchange :=
  match Target.ofText address with
  | .ok .absolute => exchange
  | .ok (.relative path) =>
      exchange.bind fun _ =>
        .error ⟨.badValue, Text.ofString ("unknown url type: " ++ Text.quoted path)⟩
  | .error fault => .error ⟨fault.kind, Text.ofString fault.message⟩

def epoch (height : Numeral.Writable) : Exchange → Except Failure Nat
  | .error fault =>
      if fault.kind.isHttpFault then .error (.node (.unreachable fault.text))
      else .error (.transport fault)
  | .ok reply =>
      if reply.status = 200 then do
        let document ← NodeReply.document reply.body
        NodeReply.epochOfDocument height document
      else .error (.naming reply.status fun status => .node (.badStatus status))

def isReachable : Exchange → Except Failure Bool
  | .error fault => if fault.kind.isHttpFault then .ok false else .error (.transport fault)
  | .ok reply => .ok (reply.status = 200)

end Exchange

def healthPath : Text := Text.ofString "/health"

def Node.reachedAt (address : Text) (node : Node) : Node where
  epochAt height := (node.epochAt height).reached address
  health := node.health.reached (address ++ healthPath)

def NodeReply.ofEpoch (epoch : Option Nat) : NodeReply where
  status := 200
  body := Utf.encodeUtf8 (Text.ofString "\x7b\"result\":\x7b\"response\":\x7b\"value\":\"" ++
    Base64.encode (Epoch.encode epoch) ++ Text.ofString "\"\x7d\x7d\x7d")

end BlockExplorer
