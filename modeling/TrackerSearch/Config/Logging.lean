import TrackerSearch.Config.Basic
import TrackerSearch.Json.Basic
import TrackerSearch.Trace

/-!
# The set-up of the log

Everything is logged to the standard error stream; what the libraries for HTTP log is held back
unless the program itself is debugged.
-/
namespace TrackerSearch

structure LogSetup where
  root : LogLevel
  libraries : LogLevel
  format : LogFormat
  deriving Repr, DecidableEq

/-- A threshold as the level of the events at it. -/
def LogLevel.toLevel : LogLevel → Level
  | debug => .debug
  | info => .info
  | warning => .warning
  | error => .error

namespace LogSetup

def ofConfig (c : Config) : LogSetup where
  root := c.logLevel
  libraries := if c.logLevel = .debug then .debug else .warning
  format := c.logFormat

/-- The libraries whose own log is held back. -/
def noisy : List String := ["httpx", "httpcore"]

/-- Is an event logged? -/
def admits (s : LogSetup) (e : Event) : Bool :=
  let least := if noisy.contains e.logger then s.libraries else s.root
  least.toLevel.rank ≤ e.level.rank

def renderer : LogFormat → String
  | .json => "JSONRenderer"
  | .console => "ConsoleRenderer"

/-- The set-up written down. -/
def toJson (s : LogSetup) : Json :=
  let level (l : LogLevel) : String × Json := ("level", .str l.text)
  .obj [("version", .int 1), ("disable_existing_loggers", .bool false),
    ("handlers", .obj [("default", .obj [("class", .str "logging.StreamHandler"),
      ("stream", .str "ext://sys.stderr"), ("formatter", .str "structlog")])]),
    ("loggers", .obj (noisy.map fun name => (name, .obj [level s.libraries]))),
    ("root", .obj [("handlers", .arr [.str "default"]), level s.root]),
    ("renderers", .obj [("structlog", .str (renderer s.format))])]

end LogSetup
end TrackerSearch
