import TrackerSearch.Proofs.Fetch.Exchange
import TrackerSearch.Proofs.Web.Address
import TrackerSearch.Proofs.Web.Form

/-!
# Inputs in the query

The two ways to a page put inputs into its query differently. A site is asked for the inputs alone,
whatever the address had in its query; a relay is told to ask for the pairs of the address and the
inputs behind them. So the two ask for the same page as long as the address has no pairs. An address
with a fragment is left out: a relay's inputs would go into the fragment.
-/
namespace TrackerSearch.Fetch

open Text Http

variable {url : List Char} {inputs : Table String} {world : Network} {past : List Request}

/-- The pairs in the query of an address, in their order and as often as they stand there. -/
def pairsOf (url : List Char) : List (List Char × List Char) := Web.formPairs (Web.queryOf url)

/-- Inputs as pairs of a query. -/
def given (inputs : Table String) : List (List Char × List Char) :=
  inputs.map fun (k, v) => (k.toList, v.toList)

theorem formPairs_inputText (inputs : Table String) :
    Web.formPairs (inputText inputs) = given inputs :=
  Web.formPairs_formText (given inputs)

theorem numberSign_not_mem_inputText (inputs : Table String) : '#' ∉ inputText inputs := by
  intro h
  rcases Web.mem_formText h with h | h | h | h | h
  · exact absurd h (by decide)
  all_goals cases h

/-- The query of inputs goes over the network as it is. -/
theorem escapeUnless_inputText (inputs : Table String) :
    Web.escapeUnless Web.isQuerySafe (inputText inputs) = inputText inputs := by
  refine Web.escapeUnless_of_safe fun c hc => ?_
  rcases Web.mem_formText hc with h | rfl | rfl | rfl | rfl
  · exact .inl h
  all_goals exact .inr (by decide)

/-! ## The request to a site -/

theorem wellCut_address {u : Web.Url} (h : Client.address url = .ok u) : u.WellCut := by
  obtain ⟨parsed, hparse, h⟩ := except_bind_eq_ok.mp h
  obtain rfl := Except.ok.inj h
  have hcut := Web.Url.wellCut_parse hparse
  split
  · exact hcut
  · exact hcut.onNoHost

/-- The inputs in the place of the query. -/
theorem withQuery_inputText (u : Web.Url) (inputs : Table String) :
    u.withQuery (inputText inputs) =
      if Web.maxUrlLength < (inputText inputs).length then .error .longQuery
      else .ok {
        u with
        port := u.port.filter (some · ≠ Web.defaultPort u.scheme)
        query := some (inputText inputs) } := by
  rw [Web.Url.withQuery, escapeUnless_inputText]

/-- The request for a page with inputs. -/
theorem directRequest_get (hinputs : inputs ≠ []) :
    directRequest url "GET" inputs =
      (Client.address url).bind fun u =>
        (u.withQuery (inputText inputs)).map fun u => { method := "GET", url := u } := by
  have hmethod : String.ofList (upper "GET".toList) = "GET" := by decide
  have hempty : inputs.isEmpty = false := List.isEmpty_eq_false_iff.mpr hinputs
  have hpost : ("GET" = "POST") = False := eq_false (by decide)
  unfold directRequest
  rw [hmethod]
  cases Client.address url with
  | error e => rfl
  | ok u =>
    simp only [hempty, hpost, if_false]
    cases u.withQuery (inputText inputs) <;> rfl

/-- A site is asked for the inputs and nothing else. -/
theorem pairsOf_directRequest {r : Request} (hinputs : inputs ≠ [])
    (h : directRequest url "GET" inputs = .ok r) :
    r.method = "GET" ∧ pairsOf r.url.text = given inputs := by
  rw [directRequest_get hinputs] at h
  obtain ⟨u, hu, h⟩ := except_bind_eq_ok.mp h
  rw [withQuery_inputText] at h
  split at h
  · cases h
  · obtain rfl := Except.ok.inj h
    have hcut := wellCut_address hu
    have hquery : Web.Url.WellCut {
        u with
        port := u.port.filter (some · ≠ Web.defaultPort u.scheme)
        query := some (inputText inputs) } :=
      ⟨hcut.scheme, hcut.userInfo, hcut.host, hcut.path, numberSign_not_mem_inputText inputs⟩
    refine ⟨rfl, ?_⟩
    rw [pairsOf, hquery.queryOf_text]
    exact formPairs_inputText inputs

theorem isOk_directRequest (hinputs : inputs ≠ []) :
    (∃ r, directRequest url "GET" inputs = .ok r) ↔
      (∃ u, Client.address url = .ok u) ∧ (inputText inputs).length ≤ Web.maxUrlLength := by
  rw [directRequest_get hinputs]
  cases Client.address url with
  | error e => simp [Except.bind]
  | ok u =>
    simp only [Except.bind, withQuery_inputText]
    by_cases hlong : Web.maxUrlLength < (inputText inputs).length
    · simp [hlong, Except.map]
    · simp [hlong, Except.map]
      omega

/-! ## The address for a relay -/

/-- Inputs go behind the query that an address has. -/
theorem withInputs_query (hinputs : inputs ≠ []) (front query : List Char) :
    withInputs (front ++ '?' :: query) inputs =
      front ++ '?' :: (query ++ '&' :: inputText inputs) := by
  have hempty : inputs.isEmpty = false := List.isEmpty_eq_false_iff.mpr hinputs
  simp [withInputs, hempty]

/-- In an address without a query, inputs are the query. -/
theorem withInputs_of_not_mem (hinputs : inputs ≠ []) (hmark : '?' ∉ url) :
    withInputs url inputs = url ++ '?' :: inputText inputs := by
  have hempty : inputs.isEmpty = false := List.isEmpty_eq_false_iff.mpr hinputs
  simp [withInputs, hempty, hmark]

theorem numberSign_not_mem_query {query : List Char} (hquery : '#' ∉ query)
    (inputs : Table String) : '#' ∉ query ++ '&' :: inputText inputs := by
  rw [List.mem_append, List.mem_cons]
  rintro (h | h | h)
  · exact hquery h
  · cases h
  · exact numberSign_not_mem_inputText inputs h

/-- A relay is told the pairs of the address and the inputs behind them. -/
theorem pairsOf_withInputs (hurl : '#' ∉ url) (hinputs : inputs ≠ []) :
    pairsOf (withInputs url inputs) = pairsOf url ++ given inputs := by
  by_cases hmark : '?' ∈ url
  · obtain ⟨front, query, rfl, hfront⟩ := List.eq_append_cons_of_mem hmark
    rw [List.mem_append, List.mem_cons, not_or, not_or] at hurl
    obtain ⟨hfront', -, hquery⟩ := hurl
    rw [withInputs_query hinputs, pairsOf,
      Web.queryOf_append hfront hfront' (numberSign_not_mem_query hquery inputs),
      Web.formPairs_append, formPairs_inputText, pairsOf, Web.queryOf_append hfront hfront' hquery]
  · have hplain : Web.Unmarked url := by
      intro c hc
      constructor
      · rintro rfl
        exact hmark hc
      · rintro rfl
        exact hurl hc
    rw [withInputs_of_not_mem hinputs hmark, pairsOf,
      Web.queryOf_append hmark hurl (numberSign_not_mem_inputText inputs), formPairs_inputText,
      pairsOf, Web.queryOf_of_unmarked hplain]
    rfl

/-! ## Both ways -/

theorem queries_of_direct {client : Client} {r : Request} (hinputs : inputs ≠ [])
    (h : (direct client url "GET" inputs world past).asked.head? = some r) :
    r.method = "GET" ∧ pairsOf r.url.text = given inputs := by
  rw [head?_asked_direct] at h
  cases hd : directRequest url "GET" inputs with
  | error e =>
    rw [hd] at h
    cases h
  | ok page =>
    rw [hd] at h
    obtain ⟨-, h⟩ := Option.ite_none_right_eq_some.mp h
    obtain rfl := Option.some.inj h
    have hpage := pairsOf_directRequest hinputs hd
    exact hpage

theorem exists_first_direct (hinputs : inputs ≠ []) (client : Client) :
    (∃ r, (direct client url "GET" inputs world past).asked.head? = some r) ↔
      client.isUsable = true ∧ (∃ u, Client.address url = .ok u) ∧
        (inputText inputs).length ≤ Web.maxUrlLength := by
  rw [← isOk_directRequest hinputs]
  simp only [head?_asked_direct]
  cases directRequest url "GET" inputs with
  | error e => simp
  | ok page => cases client.isUsable <;> simp

theorem command_of_relayed {relay : Relay} {r : Request}
    (h : (relayed relay url "GET" inputs world past).asked.head? = some r) :
    r.method = "POST" ∧
      r.body = (relayCommand (withInputs url inputs) relay.maxTimeout).compact false := by
  rw [head?_asked_relayed] at h
  cases hu : Client.address relay.endpoint with
  | error e =>
    rw [hu] at h
    cases h
  | ok u =>
    rw [hu] at h
    obtain ⟨-, h⟩ := Option.ite_none_right_eq_some.mp h
    obtain rfl := Option.some.inj h
    exact ⟨rfl, rfl⟩

theorem exists_first_relayed (relay : Relay) :
    (∃ r, (relayed relay url "GET" inputs world past).asked.head? = some r) ↔
      relay.client.isUsable = true ∧ ∃ u, Client.address relay.endpoint = .ok u := by
  simp only [head?_asked_relayed]
  cases Client.address relay.endpoint with
  | error e => simp
  | ok u => cases relay.client.isUsable <;> simp

/-- Asked by `GET` with inputs, a site is asked for the inputs alone, while a relay is told to ask
for the pairs of the address and the inputs behind them. Either way a first request is sent whenever
there is an address to send it to, and the two ask for the same pairs only if the address has
none. -/
theorem queries_of_get (hurl : '#' ∉ url) (hinputs : inputs ≠ []) (client : Client) (relay : Relay)
    (world : Network) (past : List Request) :
    (∀ r, (direct client url "GET" inputs world past).asked.head? = some r →
      r.method = "GET" ∧ pairsOf r.url.text = given inputs) ∧
    ((∃ r, (direct client url "GET" inputs world past).asked.head? = some r) ↔
      client.isUsable = true ∧ (∃ u, Client.address url = .ok u) ∧
        (inputText inputs).length ≤ Web.maxUrlLength) ∧
    (∀ r, (relayed relay url "GET" inputs world past).asked.head? = some r →
      r.method = "POST" ∧
        r.body = (relayCommand (withInputs url inputs) relay.maxTimeout).compact false) ∧
    ((∃ r, (relayed relay url "GET" inputs world past).asked.head? = some r) ↔
      relay.client.isUsable = true ∧ ∃ u, Client.address relay.endpoint = .ok u) ∧
    pairsOf (withInputs url inputs) = pairsOf url ++ given inputs ∧
    (given inputs = pairsOf (withInputs url inputs) ↔ pairsOf url = []) := by
  have htarget := pairsOf_withInputs hurl hinputs
  refine ⟨fun r hr => queries_of_direct hinputs hr, exists_first_direct hinputs client,
    fun r hr => command_of_relayed hr, exists_first_relayed relay, htarget, ?_⟩
  rw [htarget]
  constructor
  · intro h
    exact List.self_eq_append_left.mp h
  · intro h
    rw [h, List.nil_append]

/-- A network in which everything is answered with an empty page. -/
def emptyPages : Network := fun _ _ => some (.ok { status := 200 })

/-- An address that has a pair of its own, and one more to ask for. -/
def searchAddress : List Char := "https://x.example/s?a=1".toList

def pageInput : Table String := [("b", "2")]

def plainClient : Client := { userAgent := some defaultUserAgent, followRedirects := true }

def localRelay : Relay := ⟨"http://localhost:8191/v1".toList, defaultMaxTimeout, plainClient⟩

theorem queries_of_search_address :
    '#' ∉ searchAddress ∧ pageInput ≠ [] ∧
      (∃ r, (direct plainClient searchAddress "GET" pageInput emptyPages []).asked.head? = some r ∧
        pairsOf r.url.text = [(['b'], ['2'])]) ∧
      (∃ r, (relayed localRelay searchAddress "GET" pageInput emptyPages []).asked.head? = some r ∧
        r.method = "POST") ∧
      pairsOf (withInputs searchAddress pageInput) = [(['a'], ['1']), (['b'], ['2'])] := by
  have hurl : '#' ∉ searchAddress := by decide +kernel
  have hinputs : pageInput ≠ [] := by decide
  have hown : pairsOf searchAddress = [(['a'], ['1'])] := by decide +kernel
  have haddress : Client.address searchAddress = .ok {
      scheme := "https".toList, host := "x.example".toList, path := "/s".toList
      query := some "a=1".toList } := by decide +kernel
  have hendpoint : Client.address localRelay.endpoint = .ok {
      scheme := "http".toList, host := "localhost".toList, port := some 8191
      path := "/v1".toList } := by decide +kernel
  obtain ⟨hpage, hsent, hcommand, htold, htarget, -⟩ :=
    queries_of_get hurl hinputs plainClient localRelay emptyPages []
  obtain ⟨page, hfirst⟩ := hsent.mpr ⟨by decide +kernel, ⟨_, haddress⟩, by decide +kernel⟩
  obtain ⟨command, hposted⟩ := htold.mpr ⟨by decide +kernel, ⟨_, hendpoint⟩⟩
  refine ⟨hurl, hinputs, ⟨page, hfirst, (hpage page hfirst).2⟩,
    ⟨command, hposted, (hcommand command hposted).1⟩, ?_⟩
  rw [htarget, hown]
  rfl

/-- The site is not asked for the pair that the relay is told to ask for. -/
theorem queries_of_search_address_differ :
    (direct plainClient searchAddress "GET" pageInput emptyPages []).asked.map
        (fun r => pairsOf r.url.text) = [[(['b'], ['2'])]] ∧
      pairsOf (withInputs searchAddress pageInput) = [(['a'], ['1']), (['b'], ['2'])] := by
  decide +kernel

end TrackerSearch.Fetch
