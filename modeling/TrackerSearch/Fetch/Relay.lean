import TrackerSearch.Document.Check
import TrackerSearch.Fetch.Direct
import TrackerSearch.Json.Read
import TrackerSearch.Json.Write

/-!
# Fetching through a relay

A relay fetches a page and returns it inside an envelope in JSON. Only an envelope whose status is
`ok` holds a page; what the status of the response is does not matter. Relays only ask by `GET`, so
that inputs are put behind the address.
-/
namespace TrackerSearch.Fetch

open Text Http

structure Relay where
  endpoint : List Char
  maxTimeout : Int
  client : Client
  deriving Repr

/-- The time that a relay may take for a page where nothing else is set, in milliseconds. -/
def defaultMaxTimeout : Int := 60000

/-- Whether the time for a page is still a number in seconds; a relay without such a time cannot be
set up. -/
def Relay.isTimed (relay : Relay) : Bool :=
  match Number.Binary64.ofDecimal (relay.maxTimeout < 0) relay.maxTimeout.natAbs (-3) with
  | .infinite _ => false
  | _ => true

/-- The address at which the relay of a base address takes commands. -/
def relayEndpoint (base : List Char) : List Char :=
  (base.reverse.dropWhile (· = '/')).reverse ++ "/v1".toList

/-- An address with inputs behind it. -/
def withInputs (url : List Char) (inputs : Table String) : List Char :=
  if inputs.isEmpty then url
  else url ++ (if url.contains '?' then '&' else '?') :: inputText inputs

/-- The command to fetch a page. -/
def relayCommand (url : List Char) (maxTimeout : Int) : Json :=
  .obj [("cmd", .str "request.get"), ("url", .str (String.ofList url)), ("maxTimeout", .int maxTimeout)]

/-- What a relay returns. -/
structure Envelope where
  status : String
  message : String
  page : Option String
  deriving Repr, DecidableEq

namespace Envelope

/-- How deep the values in an envelope may be nested. -/
def maxDepth : Nat := 200

/-- The page in a solution; the other parts are only checked. -/
def readSolution (d : Document) : Checked String :=
  d.asRecord "RelaySolution" fun entries =>
    (fun _ _ page => page) <$>
      Document.orElse entries "url" "url" none (Document.nullable Document.asString) <*>
      Document.orElse entries "status" "status" none (Document.nullable Document.asInt) <*>
      Document.orElse entries "response" "response" "" Document.asString

/-- The envelope in a document. -/
def read (d : Document) : Checked Envelope :=
  d.asRecord "RelayResponse" fun entries =>
    (fun status message page => ⟨status, message, page⟩) <$>
      Document.required entries "status" "status" Document.asString <*>
      Document.orElse entries "message" "message" "" Document.asString <*>
      Document.orElse entries "solution" "solution" none (Document.nullable readSolution)

/-- The envelope in the body of a response, if it is one. -/
def ofBytes? (bytes : List UInt8) : Option Envelope := do
  let text ← utf8Decode? bytes
  let json ← Json.read? maxDepth text
  match read (.ofJson json) with
  | .ok e => some e
  | .bad _ => none

end Envelope

/-- What a fault of transport means for a page behind a relay. -/
def relayFault {α : Type} : TransportFault → Online Failure α
  | .badUrl m | .broken m => do
    Dialogue.report .relayConnectionFailed
    Dialogue.fail (.relay ("FlareSolverr connection failed: " ++ m) none)
  | .fault f => Dialogue.fail (.fault f)

/-- Send a command to the relay. -/
def relayResponse (relay : Relay) (url : List Char) : Online TransportFault Response := do
  let u ← Dialogue.ofExcept ((Client.address relay.endpoint).mapError .ofUrl)
  relay.client.send {
    method := "POST", url := u, body := (relayCommand url relay.maxTimeout).compact false
    contentType := some "application/json" }

/-- The page in the body of a response. -/
def openEnvelope (body : List UInt8) : Online Failure String := do
  match Envelope.ofBytes? body with
  | none =>
    Dialogue.report .relayEnvelopeInvalid
    Dialogue.fail (.relay "Failed to decode FS response" none)
  | some e =>
    if e.status = "ok" then
      Dialogue.report .relayFetched
      return e.page.getD ""
    else
      Dialogue.report .relayStatusNotOk
      Dialogue.fail (.relay s!"FlareSolverr Status: {e.status}, Msg: {e.message}" (some e.status))

/-- Fetch a page through a relay. -/
def relayed (relay : Relay) (url : List Char) (method : String) (inputs : Table String) :
    Online Failure String := do
  let method := String.ofList (upper method.toList)
  if method ≠ "GET" then
    Dialogue.fail (.relay s!"FlareSolverr only relays GET requests, got {method}" none)
  match ← (relayResponse relay (withInputs url inputs)).attempt with
  | .waiting => Dialogue.waitForever
  | .failed e => relayFault e
  | .done response => openEnvelope response.body

end TrackerSearch.Fetch
