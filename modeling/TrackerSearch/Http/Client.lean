import TrackerSearch.Http.Basic

/-!
# Sending requests

A request is sent, and sent again where a redirect leads, at most twenty times. A redirect after
`303`, and after `302` or a `POST` with `301`, asks by `GET` and drops the body. A redirect is worked
out even if it is not followed, so that a bad one is an error in any case.
-/
namespace TrackerSearch.Http

open TrackerSearch.Text

/-- What a client does with every request. -/
structure Client where
  userAgent : Option String
  followRedirects : Bool
  deriving Repr, DecidableEq

/-- A fault of an address as one of transport. -/
def TransportFault.ofUrl (e : Web.UrlFault) : TransportFault := .badUrl e.message

/-- The statuses of redirects. -/
def redirectStatuses : List Int := [301, 302, 303, 307, 308]

/-- The method of the request after a redirect. -/
def redirectMethod (status : Int) (method : String) : String :=
  if (status = 303 ∨ status = 302) ∧ method ≠ "HEAD" then "GET"
  else if status = 301 ∧ method = "POST" then "GET"
  else method

/-- A location with a scheme but without a host is on the host that was asked. -/
def onHostOf (asked location : Web.Url) : Except Web.UrlFault Web.Url :=
  if location.scheme.isEmpty || !location.host.isEmpty then .ok location
  else do
    Web.Url.checkPath true true location.path
    return { location with host := asked.host }

/-- The address that a location leads to. -/
def redirectUrl (asked : Web.Url) (location : String) : Except TransportFault Web.Url := do
  let target ← match Web.Url.parse location.toList with
    | .ok u => pure u
    | .error e => throw (.broken s!"Invalid URL in location header: {e.message}.")
  let target ← (onHostOf asked target).mapError .ofUrl
  let target ←
    if target.isAbsolute then pure target
    else match asked.join? target with
      | none => throw (.fault .badValue)
      | some (.error e) => throw (.ofUrl e)
      | some (.ok u) => pure u
  if target.fragment.getD [] = [] ∧ asked.fragment.getD [] ≠ [] then
    return { target with fragment := asked.fragment }
  else return target

/-- The request that a response sends on to, if it is a redirect. -/
def redirect? (r : Request) (response : Response) : Option (Except TransportFault Request) :=
  if redirectStatuses.contains response.status then
    (response.header? "Location").map fun location => do
      let url ← redirectUrl r.url location
      let method := redirectMethod response.status r.method
      let keep := method = r.method ∨ method ≠ "GET"
      return { r with url, method, body := if keep then r.body else "" }
  else none

/-- Ask once. The answer is looked through for cookies, which takes an address with a scheme. -/
def exchange (r : Request) : Online TransportFault Response := do
  match ← Dialogue.ask r with
  | .error e => Dialogue.fail e
  | .ok response =>
    if r.url.scheme.isEmpty then Dialogue.fail (.fault .badValue)
    Dialogue.report (.answered r.method (String.ofList r.url.text) response.status)
    return response

/-- How often a request is sent at most. -/
def maxSends : Nat := 21

/-- Send a request and follow redirects a limited number of times. -/
def sendUpTo (follow : Bool) : Nat → Request → Online TransportFault Response
  | 0, _ => Dialogue.fail (.broken "Exceeded maximum allowed redirects.")
  | n + 1, r => do
    let response ← exchange r
    match redirect? r response with
    | none => return response
    | some (.error e) => Dialogue.fail e
    | some (.ok next) => if follow then sendUpTo follow n next else return response

namespace Client

/-- Can a client send anything? The name of its user agent has to be ASCII. -/
def isUsable (c : Client) : Bool := (c.userAgent.getD "").toList.all (·.toNat < 128)

/-- Send a request. -/
def send (c : Client) (r : Request) : Online TransportFault Response :=
  if !c.isUsable then Dialogue.fail (.fault .unencodable)
  else sendUpTo c.followRedirects maxSends { r with userAgent := c.userAgent }

/-- The address that a text stands for; one without a host is asked for as a path. -/
def address (url : List Char) : Except Web.UrlFault Web.Url := do
  let u ← Web.Url.parse url
  return if u.isAbsolute then u else u.onNoHost

end Client
end TrackerSearch.Http
