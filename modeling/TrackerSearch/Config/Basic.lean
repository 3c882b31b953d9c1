import TrackerSearch.Document.Basic
import TrackerSearch.FileTree

/-!
# Settings of the program

The configuration of a run: where the definitions are, how pages are fetched, how many searches go
on at a time and what is logged. `Config.toDocument` writes it down by sections.
-/
namespace TrackerSearch

open Number

/-- What the program runs for. -/
inductive Deployment where
  | dev
  | test
  | prod
  deriving Repr, DecidableEq

inductive LogLevel where
  | debug
  | info
  | warning
  | error
  deriving Repr, DecidableEq

inductive LogFormat where
  | json
  | console
  deriving Repr, DecidableEq

/-- The names of the deployments, in the order in which they are listed. -/
def Deployment.names : List (String × Deployment) := [("dev", dev), ("test", test), ("prod", prod)]

def LogLevel.names : List (String × LogLevel) :=
  [("DEBUG", debug), ("INFO", info), ("WARNING", warning), ("ERROR", error)]

def LogFormat.names : List (String × LogFormat) := [("json", json), ("console", console)]

def Deployment.text : Deployment → String
  | dev => "dev"
  | test => "test"
  | prod => "prod"

def LogLevel.text : LogLevel → String
  | debug => "DEBUG"
  | info => "INFO"
  | warning => "WARNING"
  | error => "ERROR"

def LogFormat.text : LogFormat → String
  | json => "json"
  | console => "console"

/-- The format of the log where none is set: for machines in production, for people elsewhere. -/
def Deployment.logFormat : Deployment → LogFormat
  | prod => .json
  | _ => .console

structure Config where
  appName : String
  deployment : Deployment
  definitionsDir : Location
  httpTimeout : Binary64
  followRedirects : Bool
  userAgent : String
  relayUrl : Option String
  relayTimeout : Int
  maxConcurrent : Int
  deadline : Option Binary64
  configFallback : String
  probeConcurrency : Int
  logLevel : LogLevel
  logFormat : LogFormat
  deriving Repr

/-- The settings that can be given. -/
inductive Setting where
  | appName
  | deployment
  | definitionsDir
  | httpTimeout
  | followRedirects
  | userAgent
  | relayUrl
  | relayTimeout
  | maxConcurrent
  | deadline
  | configFallback
  | probeConcurrency
  | logLevel
  | logFormat
  deriving Repr, DecidableEq

namespace Setting

/-- All settings, in the order in which they are checked. -/
def all : List Setting :=
  [appName, deployment, definitionsDir, httpTimeout, followRedirects, userAgent, relayUrl,
    relayTimeout, maxConcurrent, deadline, configFallback, probeConcurrency, logLevel, logFormat]

/-- The section of a setting and its key there; a general setting has no section. -/
def place : Setting → Option String × String
  | appName => (none, "app_name")
  | deployment => (none, "environment")
  | definitionsDir => (some "definitions", "dir")
  | httpTimeout => (some "http", "timeout_seconds")
  | followRedirects => (some "http", "follow_redirects")
  | userAgent => (some "http", "user_agent")
  | relayUrl => (some "relay", "url")
  | relayTimeout => (some "relay", "max_timeout_ms")
  | maxConcurrent => (some "search", "max_concurrent")
  | deadline => (some "search", "deadline_seconds")
  | configFallback => (some "search", "config_fallback")
  | probeConcurrency => (some "probe", "concurrency")
  | logLevel => (some "logging", "level")
  | logFormat => (some "logging", "format")

/-- The key of a setting outside of sections. -/
def flatKey : Setting → String
  | appName => "app_name"
  | deployment => "environment"
  | definitionsDir => "definitions_dir"
  | httpTimeout => "http_timeout_seconds"
  | followRedirects => "http_follow_redirects"
  | userAgent => "http_user_agent"
  | relayUrl => "relay_url"
  | relayTimeout => "relay_max_timeout_ms"
  | maxConcurrent => "search_max_concurrent"
  | deadline => "search_deadline_seconds"
  | configFallback => "search_config_fallback"
  | probeConcurrency => "probe_concurrency"
  | logLevel => "log_level"
  | logFormat => "log_format"

/-- What holds for a setting that nobody gives; the format of the log then depends on the
deployment. -/
def default : Setting → Document
  | appName => .str "indexarr"
  | deployment => .str "dev"
  | definitionsDir => .str "./definitions"
  | httpTimeout => .float (Binary64.ofInt 30)
  | followRedirects => .bool true
  | userAgent => .str "Prowlarr/1.0 (Text-Mode-Operator)"
  | relayUrl => .null
  | relayTimeout => .int 60000
  | maxConcurrent => .int 5
  | deadline => .float (Binary64.ofInt 60)
  | configFallback => .str "guest"
  | probeConcurrency => .int 5
  | logLevel => .str "INFO"
  | logFormat => .null

end Setting

namespace Config

/-- The value of a setting. -/
def value (c : Config) : Setting → Document
  | .appName => .str c.appName
  | .deployment => .str c.deployment.text
  | .definitionsDir => .str c.definitionsDir.text
  | .httpTimeout => .float c.httpTimeout
  | .followRedirects => .bool c.followRedirects
  | .userAgent => .str c.userAgent
  | .relayUrl => (c.relayUrl.map Document.str).getD .null
  | .relayTimeout => .int c.relayTimeout
  | .maxConcurrent => .int c.maxConcurrent
  | .deadline => (c.deadline.map Document.float).getD .null
  | .configFallback => .str c.configFallback
  | .probeConcurrency => .int c.probeConcurrency
  | .logLevel => .str c.logLevel.text
  | .logFormat => .str c.logFormat.text

/-- The names of the sections. -/
def sections : List String := ["definitions", "http", "relay", "search", "probe", "logging"]

/-- The settings of a section with their keys. -/
def entriesOf (c : Config) (name : Option String) : List (Document × Document) :=
  (Setting.all.filter fun s => s.place.1 == name).map fun s => (.str s.place.2, c.value s)

/-- The configuration by sections. -/
def toDocument (c : Config) : Document :=
  .map (c.entriesOf none ++ sections.map fun name => (.str name, .map (c.entriesOf (some name))))

end Config
end TrackerSearch
