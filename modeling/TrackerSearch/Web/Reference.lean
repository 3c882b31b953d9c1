import TrackerSearch.Text.Letter
import TrackerSearch.Text.Pieces
import TrackerSearch.Web.Ip

/-!
# URL references

Splitting a reference into its five components, putting it together again, and resolving it
against a base. Splitting keeps every component as written, apart from control characters: those in
front are dropped, and tabs and line breaks are dropped everywhere.
-/
namespace TrackerSearch.Web

open TrackerSearch.Text

structure Reference where
  scheme : List Char := []
  authority : List Char := []
  path : List Char := []
  query : List Char := []
  fragment : List Char := []
  deriving Repr, DecidableEq

/-- Schemes whose references may be relative; all of them have an authority. -/
def relativeSchemes : List String :=
  ["", "ftp", "http", "gopher", "nntp", "imap", "wais", "file", "https", "shttp", "mms",
    "prospero", "rtsp", "rtsps", "rtspu", "sftp", "svn", "svn+ssh", "ws", "wss"]

/-- Schemes that have an authority. -/
def authoritySchemes : List String :=
  relativeSchemes ++ ["telnet", "snews", "rsync", "nfs", "git", "git+ssh"]

/-- Schemes whose last path segment may carry parameters after a semicolon. -/
def parameterSchemes : List String :=
  ["", "ftp", "hdl", "prospero", "http", "imap", "https", "shttp", "rtsp", "rtsps", "rtspu", "sip",
    "sips", "mms", "sftp", "tel"]

def isSchemeChar (c : Char) : Bool := c.isAlphanum || c == '+' || c == '-' || c == '.'

/-- Characters whose compatibility form holds one of `/?#@:`. -/
def delimiterLookalikes : List Char :=
  ['\u2047', '\u2048', '\u2049', '\u2100', '\u2101', '\u2105', '\u2106', '\u2A74', '\uFE13',
    '\uFE16', '\uFE55', '\uFE56', '\uFE5F', '\uFE6B', '\uFF03', '\uFF0F', '\uFF1A', '\uFF1F',
    '\uFF20']

/-- An authority is refused when its brackets do not match, when a bracketed host is no address of
version 6 or later, or when a character in it stands for a delimiter. -/
def authorityAccepted (s : List Char) : Bool :=
  let opened := s.contains '['
  let closed := s.contains ']'
  opened == closed &&
    (!opened ||
      let host := ((s.dropWhile (· != '[')).drop 1).takeWhile (· != ']')
      if host.head? = some 'v' then isFutureIp host else isIpv6 host) &&
    !s.any delimiterLookalikes.contains

/-- Split at the first `c`; the second part lacks it. -/
def cutChar (c : Char) (s : List Char) : List Char × List Char :=
  (s.takeWhile (· != c), (s.dropWhile (· != c)).drop 1)

namespace Reference

/-- The text of a reference without the characters that splitting drops. -/
def cleaned (s : List Char) : List Char :=
  (s.dropWhile fun c => c.toNat ≤ 32).filter fun c => c != '\t' && c != '\r' && c != '\n'

/-- The scheme in front of a text and what follows it; a text without one gets `scheme`. -/
def cutScheme (scheme s : List Char) : List Char × List Char :=
  let lead := s.takeWhile (· != ':')
  let hasScheme := lead.length < s.length && (lead.head?.map (·.isAlpha)).getD false &&
    lead.all isSchemeChar
  if hasScheme then (lower lead, s.drop (lead.length + 1)) else (scheme, s)

/-- The authority that two slashes announce and what follows it. -/
def cutAuthority (s : List Char) : List Char × List Char :=
  let isEnd (c : Char) : Bool := c == '/' || c == '?' || c == '#'
  match s with
  | '/' :: '/' :: s => (s.takeWhile (!isEnd ·), s.dropWhile (!isEnd ·))
  | s => ([], s)

/-- The components of a reference; a scheme that it lacks is taken from `scheme`. -/
def split? (scheme : List Char) (s : List Char) : Option Reference :=
  let (scheme, s) := cutScheme scheme (cleaned s)
  let (authority, s) := cutAuthority s
  if authorityAccepted authority then
    let (s, fragment) := cutChar '#' s
    let (path, query) := cutChar '?' s
    some ⟨scheme, authority, path, query, fragment⟩
  else none

/-- The text of a reference. -/
def toText (r : Reference) : List Char :=
  let hasAuthority := !r.authority.isEmpty ||
    (!r.scheme.isEmpty && authoritySchemes.contains (String.ofList r.scheme)) ||
    startsWith ['/', '/'] r.path
  let s := if hasAuthority then
      '/' :: '/' :: r.authority ++
        (if r.path.isEmpty || r.path.head? = some '/' then r.path else '/' :: r.path)
    else r.path
  let s := if r.scheme.isEmpty then s else r.scheme ++ ':' :: s
  let s := if r.query.isEmpty then s else s ++ '?' :: r.query
  if r.fragment.isEmpty then s else s ++ '#' :: r.fragment

/-- Drop a semicolon that no parameters follow, in the last segment of the path. -/
def dropEmptyParameters (r : Reference) : Reference :=
  if parameterSchemes.contains (String.ofList r.scheme) then
    let segment := (r.path.reverse.takeWhile (· != '/')).reverse
    if segment.dropWhile (· != ';') = [';'] then { r with path := r.path.dropLast } else r
  else r

/-- Resolve the `.` and `..` segments of a path. -/
def removeDots (segments : List (List Char)) : List (List Char) :=
  let kept := segments.foldl (fun kept seg =>
    if seg = ['.', '.'] then kept.drop 1 else if seg = ['.'] then kept else seg :: kept) []
  let dirLast := match segments.getLast? with
    | some seg => seg = ['.'] || seg = ['.', '.']
    | none => false
  (if dirLast then [] :: kept else kept).reverse

/-- The path without the parameters of its last segment, and these parameters. -/
def cutParameters (r : Reference) : List Char × List Char :=
  if parameterSchemes.contains (String.ofList r.scheme) then
    let segment := (r.path.reverse.takeWhile (· != '/')).reverse
    let lead := r.path.take (r.path.length - segment.length)
    (lead ++ segment.takeWhile (· != ';'), (segment.dropWhile (· != ';')).drop 1)
  else (r.path, [])

/-- Put parameters behind a path. -/
def withParameters (path parameters : List Char) : List Char :=
  if parameters.isEmpty then path else path ++ ';' :: parameters

/-- The segments that a path stands for beside the path of a base. -/
def segmentsOn (basePath path : List Char) : List (List Char) :=
  let own := splitBy (· == '/') path
  if path.head? = some '/' then own
  else
    let below := splitBy (· == '/') basePath
    let below := if below.getLast? = some [] then below else below.dropLast
    match below ++ own with
    | [] => []
    | first :: rest => first :: (rest.dropLast.filter (!·.isEmpty) ++ rest.getLast?.toList)

/-- Resolve a reference against a base. -/
def join? (base value : List Char) : Option (List Char) :=
  if base.isEmpty then some value
  else if value.isEmpty then some base
  else do
    let b ← split? [] base
    let r ← split? b.scheme value
    if r.scheme ≠ b.scheme || !relativeSchemes.contains (String.ofList r.scheme) then some value
    else if !r.authority.isEmpty then some (r.dropEmptyParameters).toText
    else
      let (basePath, baseParameters) := b.cutParameters
      let (path, parameters) := r.cutParameters
      if path.isEmpty && parameters.isEmpty then
        let query := if r.query.isEmpty then b.query else r.query
        some { b with
          path := withParameters basePath baseParameters, query, fragment := r.fragment }.toText
      else
        let joined := joinWith ['/'] (removeDots (segmentsOn basePath path))
        let joined := if joined.isEmpty then ['/'] else joined
        some { r with
          authority := b.authority, path := withParameters joined parameters }.toText

end Reference

end TrackerSearch.Web
