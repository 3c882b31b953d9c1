import TrackerSearch.Http.Client
import TrackerSearch.Text.Letter

/-!
# Fetching from a site

A page is fetched from its site. Inputs go into the query, in place of the one that is there, or
into the form of a `POST`.
-/
namespace TrackerSearch.Fetch

open Text Http

/-- The user agent that is named where nothing else is set; some sites refuse others. -/
def defaultUserAgent : String := "Prowlarr/1.0 (Text-Mode-Operator)"

/-- Inputs in form encoding. -/
def inputText (inputs : Table String) : List Char :=
  Web.formText (inputs.map fun (k, v) => (k.toList, v.toList))

/-- The request for a page. -/
def directRequest (url : List Char) (method : String) (inputs : Table String) :
    Except Web.UrlFault Request := do
  let method := String.ofList (upper method.toList)
  let u ← Client.address url
  if inputs.isEmpty then return { method, url := u }
  else if method = "POST" then
    return {
      method, url := u, body := String.ofList (inputText inputs)
      contentType := some "application/x-www-form-urlencoded" }
  else return { method, url := ← u.withQuery (inputText inputs) }

/-- Send the request for a page. -/
def directResponse (client : Client) (url : List Char) (method : String) (inputs : Table String) :
    Online TransportFault Response := do
  let request ← Dialogue.ofExcept ((directRequest url method inputs).mapError .ofUrl)
  client.send request

/-- What a fault of transport means for a page. -/
def directFault {α : Type} (url : List Char) : TransportFault → Online Failure α
  | .badUrl m =>
    Dialogue.fail (.network (String.ofList url) ("Failed to create request: " ++ m) none)
  | .broken m => do
    Dialogue.report .directFetchFailed
    Dialogue.fail (.network (String.ofList url) ("Connection failed: " ++ m) none)
  | .fault f => Dialogue.fail (.fault f)

/-- Fetch a page from its site. -/
def direct (client : Client) (url : List Char) (method : String) (inputs : Table String) :
    Online Failure (List UInt8) := do
  match ← (directResponse client url method inputs).attempt with
  | .waiting => Dialogue.waitForever
  | .failed e => directFault url e
  | .done response =>
    if response.isSuccess then
      Dialogue.report .directFetched
      return response.body
    else
      Dialogue.report .directBadStatus
      Dialogue.fail (.network (String.ofList url) s!"HTTP Status: {response.status}"
        (some response.status))

end TrackerSearch.Fetch
