import TrackerSearch.Fetch.Route
import TrackerSearch.Proofs.Dialogue

/-!
# What is asked on the way to a page

Fetching a page asks what the client asks for it and nothing else, and the first question of a
client that can send at all is the request itself; what redirects lead to later on is not described.
Where every request is answered, a page is never waited for, however the sites answer.
-/
namespace TrackerSearch

namespace Http

variable {world : Network} {past : List Request}

theorem head?_asked_exchange (r : Request) :
    (exchange r world past).asked.head? = some r :=
  Dialogue.head?_asked_bind (Dialogue.head?_asked_ask r)

theorem head?_asked_sendUpTo (follow : Bool) (n : Nat) (r : Request) :
    (sendUpTo follow (n + 1) r world past).asked.head? = some r :=
  Dialogue.head?_asked_bind (head?_asked_exchange r)

/-- A client asks for what it is given, in its own name, if it can send anything. -/
theorem Client.head?_asked_send (c : Client) (r : Request) :
    (c.send r world past).asked.head? =
      if c.isUsable then some { r with userAgent := c.userAgent } else none := by
  unfold Client.send
  cases c.isUsable with
  | true => exact head?_asked_sendUpTo c.followRedirects 20 _
  | false => rfl

/-! ## How it is put together -/

theorem exchange_built (r : Request) : (exchange r).Built := by
  refine (Dialogue.Built.ask r).bind fun answer => ?_
  cases answer with
  | error e => exact Dialogue.Built.fail e
  | ok response =>
    dsimp only
    split
    · exact (Dialogue.Built.fail _).bind fun _ =>
        (Dialogue.Built.report _).bind fun _ => Dialogue.Built.pure response
    · exact (Dialogue.Built.report _).bind fun _ => Dialogue.Built.pure response

/-- However often a request is sent on, it is sent a limited number of times. -/
theorem sendUpTo_built (follow : Bool) (n : Nat) (r : Request) :
    (sendUpTo follow n r).Built := by
  induction n generalizing r with
  | zero => exact Dialogue.Built.fail _
  | succ n ih =>
    refine (exchange_built r).bind fun response => ?_
    cases redirect? r response with
    | none => exact Dialogue.Built.pure response
    | some next =>
      cases next with
      | error e => exact Dialogue.Built.fail e
      | ok next =>
        dsimp only
        split
        · exact ih next
        · exact Dialogue.Built.pure response

theorem Client.send_built (c : Client) (r : Request) : (c.send r).Built := by
  unfold Client.send
  split
  · exact Dialogue.Built.fail _
  · exact sendUpTo_built _ _ _

end Http

namespace Fetch

open Http

variable {world : Network} {past : List Request}

theorem asked_directFault {α : Type} (url : List Char) (e : TransportFault) :
    ((directFault url e : Online Failure α) world past).asked = [] := by
  cases e <;> rfl

/-- Fetching from a site asks what is asked for the response. -/
theorem asked_direct (client : Client) (url : List Char) (method : String) (inputs : Table String) :
    (direct client url method inputs world past).asked =
      (directResponse client url method inputs world past).asked := by
  refine Dialogue.asked_bind_of_silent fun ending past => ?_
  cases ending with
  | waiting => rfl
  | failed e => exact asked_directFault url e
  | done response =>
    dsimp only
    split
    · rfl
    · rfl

theorem asked_openEnvelope (body : List UInt8) : (openEnvelope body world past).asked = [] := by
  unfold openEnvelope
  cases Envelope.ofBytes? body with
  | none => rfl
  | some e =>
    dsimp only
    split
    · rfl
    · rfl

/-- Fetching through a relay asks what is asked for its response. -/
theorem asked_relayed (relay : Relay) (url : List Char) (inputs : Table String) :
    (relayed relay url "GET" inputs world past).asked =
      (relayResponse relay (withInputs url inputs) world past).asked := by
  refine Dialogue.asked_bind_of_silent fun ending past => ?_
  cases ending with
  | waiting => rfl
  | failed e => cases e <;> rfl
  | done response => exact asked_openEnvelope response.body

/-- What a site is asked first: the request for the page, if there is one. -/
theorem head?_asked_direct (client : Client) (url : List Char) (method : String)
    (inputs : Table String) :
    (direct client url method inputs world past).asked.head? =
      match directRequest url method inputs with
      | .ok r => if client.isUsable then some { r with userAgent := client.userAgent } else none
      | .error _ => none := by
  rw [asked_direct, directResponse]
  cases directRequest url method inputs with
  | error e => rfl
  | ok r =>
    rw [mapError_ok, Dialogue.ofExcept_ok_bind]
    exact client.head?_asked_send r

/-- What a relay is asked first: the command for the page, if the relay has an address. -/
theorem head?_asked_relayed (relay : Relay) (url : List Char) (inputs : Table String) :
    (relayed relay url "GET" inputs world past).asked.head? =
      match Client.address relay.endpoint with
      | .ok u => if relay.client.isUsable then some {
            method := "POST", url := u
            body := (relayCommand (withInputs url inputs) relay.maxTimeout).compact false
            userAgent := relay.client.userAgent, contentType := some "application/json" }
          else none
      | .error _ => none := by
  rw [asked_relayed, relayResponse]
  cases Client.address relay.endpoint with
  | error e => rfl
  | ok u =>
    rw [mapError_ok, Dialogue.ofExcept_ok_bind]
    exact relay.client.head?_asked_send _

/-! ## How it is put together -/

theorem directFault_built {α : Type} (url : List Char) (e : TransportFault) :
    (directFault url e : Online Failure α).Built := by
  cases e with
  | badUrl m => exact Dialogue.Built.fail _
  | broken m => exact (Dialogue.Built.report _).bind fun _ => Dialogue.Built.fail _
  | fault f => exact Dialogue.Built.fail _

theorem direct_built (client : Client) (url : List Char) (method : String) (inputs : Table String) :
    (direct client url method inputs).Built := by
  have hresponse : (directResponse client url method inputs).Built :=
    (Dialogue.Built.ofTraced _).bind fun request => client.send_built request
  refine hresponse.attempt fun ending hne => ?_
  cases ending with
  | waiting => exact absurd rfl hne
  | failed e => exact directFault_built url e
  | done response =>
    dsimp only
    split
    · exact (Dialogue.Built.report _).bind fun _ => Dialogue.Built.pure _
    · exact (Dialogue.Built.report _).bind fun _ => Dialogue.Built.fail _

theorem relayFault_built {α : Type} (e : TransportFault) :
    (relayFault e : Online Failure α).Built := by
  cases e with
  | badUrl m => exact (Dialogue.Built.report _).bind fun _ => Dialogue.Built.fail _
  | broken m => exact (Dialogue.Built.report _).bind fun _ => Dialogue.Built.fail _
  | fault f => exact Dialogue.Built.fail _

theorem openEnvelope_built (body : List UInt8) : (openEnvelope body).Built := by
  unfold openEnvelope
  cases Envelope.ofBytes? body with
  | none => exact (Dialogue.Built.report _).bind fun _ => Dialogue.Built.fail _
  | some e =>
    dsimp only
    split
    · exact (Dialogue.Built.report _).bind fun _ => Dialogue.Built.pure _
    · exact (Dialogue.Built.report _).bind fun _ => Dialogue.Built.fail _

theorem relayed_built (relay : Relay) (url : List Char) (method : String) (inputs : Table String) :
    (relayed relay url method inputs).Built := by
  have hresponse : ∀ target, (relayResponse relay target).Built := fun target =>
    (Dialogue.Built.ofTraced _).bind fun _ => relay.client.send_built _
  have hrest : ∀ g : Ending TransportFault Response → Online Failure String,
      (∀ e, g (.failed e) = relayFault e) →
      (∀ response, g (.done response) = openEnvelope response.body) →
      ((relayResponse relay (withInputs url inputs)).attempt >>= g).Built := by
    intro g hfailed hdone
    refine (hresponse _).attempt fun ending hne => ?_
    cases ending with
    | waiting => exact absurd rfl hne
    | failed e =>
      rw [hfailed]
      exact relayFault_built e
    | done response =>
      rw [hdone]
      exact openEnvelope_built response.body
  unfold relayed
  dsimp only
  split
  · exact (Dialogue.Built.fail _).bind fun _ => hrest _ (fun _ => rfl) fun _ => rfl
  · exact hrest _ (fun _ => rfl) fun _ => rfl

/-- A page is there, or it is known why not. -/
theorem Route.fetch_built (route : Route) (url : List Char) (method : String)
    (inputs : Table String) : (route.fetch url method inputs).Built := by
  cases route with
  | direct client => exact (direct_built client url method inputs).bind fun _ => Dialogue.Built.pure _
  | relay r => exact (relayed_built r url method inputs).bind fun _ => Dialogue.Built.pure _

/-- There always is a way to the pages of a definition. -/
theorem Means.outcome_routeFor (m : Means) (d : Definition) (useRelay : Option Bool) :
    ∃ route, (m.routeFor d useRelay).outcome = .ok route := by
  unfold Means.routeFor
  split
  · exact ⟨_, rfl⟩
  · cases m.relay with
    | some r => exact ⟨_, rfl⟩
    | none =>
      dsimp only
      split
      · exact ⟨_, rfl⟩
      · exact ⟨_, rfl⟩

/-! ## How it fails -/

/-- The failures of the network and the relay, and faults. -/
def IsOfFetch : Failure → Prop
  | .network .. | .relay .. | .fault _ => True
  | _ => False

theorem isOfFetch_directFault {α : Type} {url : List Char} {e : TransportFault} {failure : Failure}
    (h : ((directFault url e : Online Failure α) world past).ending = .failed failure) :
    IsOfFetch failure := by
  cases e with
  | badUrl m =>
    obtain rfl := Ending.failed.inj h
    trivial
  | broken m =>
    obtain rfl := Ending.failed.inj h
    trivial
  | fault f =>
    obtain rfl := Ending.failed.inj h
    trivial

theorem isOfFetch_direct {client : Client} {url : List Char} {method : String}
    {inputs : Table String} {failure : Failure}
    (h : (direct client url method inputs world past).ending = .failed failure) :
    IsOfFetch failure := by
  rw [direct, Dialogue.ending_attempt_bind] at h
  cases hr : (directResponse client url method inputs world past).ending with
  | waiting =>
    rw [hr] at h
    cases h
  | failed e =>
    rw [hr] at h
    exact isOfFetch_directFault h
  | done response =>
    rw [hr] at h
    dsimp only at h
    split at h
    · cases h
    · obtain rfl := Ending.failed.inj h
      trivial

theorem isOfFetch_relayFault {α : Type} {e : TransportFault} {failure : Failure}
    (h : ((relayFault e : Online Failure α) world past).ending = .failed failure) :
    IsOfFetch failure := by
  cases e with
  | badUrl m =>
    obtain rfl := Ending.failed.inj h
    trivial
  | broken m =>
    obtain rfl := Ending.failed.inj h
    trivial
  | fault f =>
    obtain rfl := Ending.failed.inj h
    trivial

theorem isOfFetch_openEnvelope {body : List UInt8} {failure : Failure}
    (h : (openEnvelope body world past).ending = .failed failure) : IsOfFetch failure := by
  unfold openEnvelope at h
  cases he : Envelope.ofBytes? body with
  | none =>
    rw [he] at h
    obtain rfl := Ending.failed.inj h
    trivial
  | some e =>
    rw [he] at h
    dsimp only at h
    split at h
    · cases h
    · obtain rfl := Ending.failed.inj h
      trivial

theorem isOfFetch_relayed {relay : Relay} {url : List Char} {method : String}
    {inputs : Table String} {failure : Failure}
    (h : (relayed relay url method inputs world past).ending = .failed failure) :
    IsOfFetch failure := by
  unfold relayed at h
  dsimp only at h
  split at h
  · rcases Dialogue.ending_bind_eq_failed.mp h with h | ⟨_, h, -⟩
    · obtain rfl := Ending.failed.inj h
      trivial
    · cases h
  · rw [Dialogue.ending_attempt_bind] at h
    cases hr : (relayResponse relay (withInputs url inputs) world past).ending with
    | waiting =>
      rw [hr] at h
      cases h
    | failed e =>
      rw [hr] at h
      exact isOfFetch_relayFault h
    | done response =>
      rw [hr] at h
      exact isOfFetch_openEnvelope h

theorem isOfFetch_fetch {route : Route} {url : List Char} {method : String}
    {inputs : Table String} {failure : Failure}
    (h : (route.fetch url method inputs world past).ending = .failed failure) :
    IsOfFetch failure := by
  cases route with
  | direct client =>
    rcases Dialogue.ending_bind_eq_failed.mp h with h | ⟨page, -, h⟩
    · exact isOfFetch_direct h
    · cases h
  | relay r =>
    rcases Dialogue.ending_bind_eq_failed.mp h with h | ⟨page, -, h⟩
    · exact isOfFetch_relayed h
    · cases h

end Fetch
end TrackerSearch
