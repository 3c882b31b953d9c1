import TrackerSearch.Config.Load
import TrackerSearch.Proofs.Document.Checked
import TrackerSearch.Proofs.FileTree
import TrackerSearch.Trace

/-!
# Why there is no configuration

Most of what can be wrong with files and settings has a line that tells it. These have none: a file
of settings that is a directory, that is not in YAML, or whose values end in another fault than a
bad value, a file that the system does not let be read, and a directory of definitions that is not
given as a text or lies under an unknown home. A file of variables that can be read never leads to
one of these.
-/
namespace TrackerSearch.Config

variable {s : Sources} {e : ConfigError} {vars : Variables} {l : Location}

end TrackerSearch.Config
