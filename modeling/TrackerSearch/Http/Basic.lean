import TrackerSearch.Definition.Basic
import TrackerSearch.Dialogue
import TrackerSearch.Failure
import TrackerSearch.Web.Url

/-!
# Requests and responses

What goes over the network. A request may stay without an answer; it may also fail in transport.
-/
namespace TrackerSearch.Http

open TrackerSearch.Text

structure Request where
  method : String
  url : Web.Url
  body : String := ""
  /-- The user agent, if the client names one. -/
  userAgent : Option String := none
  contentType : Option String := none
  deriving Repr, DecidableEq

structure Response where
  status : Int
  headers : Table String := []
  body : List UInt8 := []
  deriving Repr, DecidableEq

/-- Why a request has no response. -/
inductive TransportFault where
  /-- The exchange broke down. -/
  | broken (message : String)
  /-- There is no such address. -/
  | badUrl (message : String)
  /-- The client itself fails on what it has got. -/
  | fault (cause : Fault)
  deriving Repr, DecidableEq

/-- The network: the sites and the relay together. -/
abbrev Network := World Request (Except TransportFault Response)

/-- A computation that uses the network. -/
abbrev Online (ε α : Type) := Dialogue Request (Except TransportFault Response) ε α

namespace Response

/-- The value of a header, whose name may be written in any case; several values are one list. -/
def header? (r : Response) (name : String) : Option String :=
  match r.headers.filter fun (k, _) => asciiLowered k == asciiLowered name with
  | [] => none
  | values => some (", ".intercalate (values.map (·.2)))

def isSuccess (r : Response) : Bool := 200 ≤ r.status && r.status ≤ 299

end Response
end TrackerSearch.Http
