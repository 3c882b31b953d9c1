import TrackerSearch.Number.Integer
import TrackerSearch.Text.Quoted
import TrackerSearch.Web.Hostname
import TrackerSearch.Web.Percent
import TrackerSearch.Web.Reference

/-!
# Addresses on the wire

The address of a request in its normal form: scheme and host in lower case, the default port left
out, dot segments resolved, and everything escaped that a component may not hold. Escapes that are
there already stay as they are.
-/
namespace TrackerSearch.Web

open TrackerSearch.Text

structure Url where
  scheme : List Char := []
  userInfo : List Char := []
  host : List Char := []
  port : Option Int := none
  path : List Char := []
  query : Option (List Char) := none
  fragment : Option (List Char) := none
  deriving Repr, DecidableEq

/-- Why a text is no address. -/
inductive UrlFault where
  | tooLong
  | longQuery
  | unprintable (c : Char) (position : Nat)
  | badIpv4 (host : List Char)
  | badIpv6 (host : List Char)
  | badHostname (host : List Char)
  | badPort (port : List Char)
  | pathWithoutSlash
  | pathOfTwoSlashes
  | pathOfColon
  deriving Repr, DecidableEq

def UrlFault.message : UrlFault → String
  | tooLong => "URL too long"
  | longQuery => "URL component 'query' too long"
  | unprintable c position =>
    s!"Invalid non-printable ASCII character in URL, {quoted c.toString} at position {position}."
  | badIpv4 host => s!"Invalid IPv4 address: {quoted (String.ofList host)}"
  | badIpv6 host => s!"Invalid IPv6 address: {quoted (String.ofList host)}"
  | badHostname host => s!"Invalid IDNA hostname: {quoted (String.ofList host)}"
  | badPort port => s!"Invalid port: {quoted (String.ofList port)}"
  | pathWithoutSlash => "For absolute URLs, path must be empty or begin with '/'"
  | pathOfTwoSlashes => "Relative URLs cannot have a path starting with '//'"
  | pathOfColon => "Relative URLs cannot have a path starting with ':'"

/-- The longest address, and the longest component of one. -/
def maxUrlLength : Nat := 65536

/-! ## Escapes by component -/

/-- Escape what is neither unreserved nor safe; an escape stays an escape. -/
def escapeUnless (safe : Char → Bool) : List Char → List Char
  | [] => []
  | c :: s =>
    let here := if isUnreserved c || safe c then [c] else (utf8OfChar c).flatMap escapeByte
    match c, s with
    | '%', a :: b :: rest =>
      if (hexDigit? a).isSome && (hexDigit? b).isSome then '%' :: a :: b :: escapeUnless safe rest
      else here ++ escapeUnless safe (a :: b :: rest)
    | _, s => here ++ escapeUnless safe s

/-- A printable ASCII character outside of the given ones. -/
def isPlainBut (others : List Char) (c : Char) : Bool :=
  32 < c.toNat && c.toNat < 127 && !others.contains c

def isFragmentSafe : Char → Bool := isPlainBut ['"', '<', '>', '\x60']
def isQuerySafe : Char → Bool := isPlainBut ['"', '#', '<', '>']
def isPathSafe : Char → Bool := isPlainBut ['"', '#', '<', '>', '?', '\x60', '{', '}']

def isUserInfoSafe : Char → Bool :=
  isPlainBut ['"', '#', '<', '>', '?', '\x60', '{', '}', '/', ';', '=', '@', '[', '\\', ']', '^', '|']

def isHostSafe (c : Char) : Bool := "!$&'()*+,;=\"\x60\x7b\x7d%|\\".toList.contains c

/-! ## Hosts and ports -/

/-- Does a host look like an address of version 4: four groups of digits with any one character
between two of them? -/
def looksLikeIpv4 (s : List Char) : Bool :=
  let runs := splitBy (!isAsciiDigit ·) s
  let inner := runs.foldl (fun n run => n + (run.length - 1) / 2) 0
  runs.all (!·.isEmpty) && runs.length ≤ 4 && 4 ≤ runs.length + inner

/-- A host in its normal form, without the brackets around an address of version 6. -/
def normalHost (host : List Char) : Except UrlFault (List Char) :=
  if host.isEmpty then .ok []
  else if looksLikeIpv4 host then if isIpv4 host then .ok host else .error (.badIpv4 host)
  else if host.head? = some '[' && host.getLast? = some ']' && host.length ≠ 1 then
    let inner := (host.drop 1).dropLast
    if isIpv6 inner then .ok inner else .error (.badIpv6 host)
  else if host.all (·.toNat < 128) then .ok (escapeUnless isHostSafe (lower host))
  else
    match Hostname.toAscii? host with
    | some name => .ok name
    | none => .error (.badHostname host)

/-- The ports that need not be written. -/
def defaultPort (scheme : List Char) : Option Int :=
  match String.ofList scheme with
  | "ftp" => some 21
  | "http" | "ws" => some 80
  | "https" | "wss" => some 443
  | _ => none

/-- A port as a number, if it is not the default one of the scheme as written. -/
def normalPort (scheme port : List Char) : Except UrlFault (Option Int) :=
  if port.isEmpty then .ok none
  else
    match Number.readInt? port with
    | none => .error (.badPort port)
    | some n => .ok (if some n = defaultPort scheme then none else some n)

/-- Drop the dot segments of a path. -/
def dropDots (path : List Char) : List Char :=
  let kept := (splitBy (· == '/') path).foldl (fun kept seg =>
    if seg = ['.'] then kept
    else if seg = ['.', '.'] then if kept = [[]] then kept else kept.drop 1
    else seg :: kept) []
  joinWith ['/'] kept.reverse

namespace Url

/-- The user, the host and the port of an authority. -/
def splitAuthority (s : List Char) : List Char × List Char × List Char :=
  let tail := (s.reverse.takeWhile (· != '@')).reverse
  let user := if s.contains '@' then s.take (s.length - tail.length - 1) else []
  let bracketed := if tail.head? = some '[' && tail.contains ']'
    then (tail.reverse.dropWhile (· != ']')).reverse else []
  let host := if bracketed.isEmpty then tail.takeWhile (· != ':') else bracketed
  let rest := tail.drop host.length
  (user, host, if rest.head? = some ':' then rest.drop 1 else rest)

/-- The components of a text as they are written: scheme, authority, path, query, fragment. -/
def cut (s : List Char) :
    List Char × List Char × List Char × Option (List Char) × Option (List Char) :=
  let lead := s.takeWhile isSchemeChar
  let hasScheme := (lead.isEmpty || (lead.head?.map (·.isAlpha)).getD false) &&
    (s.drop lead.length).head? = some ':'
  let (scheme, s) := if hasScheme then (lead, s.drop (lead.length + 1)) else ([], s)
  let isEnd (c : Char) : Bool := c == '/' || c == '?' || c == '#'
  let (authority, s) := match s with
    | '/' :: '/' :: s => (s.takeWhile (!isEnd ·), s.dropWhile (!isEnd ·))
    | s => ([], s)
  let fragment := if s.contains '#' then some ((s.dropWhile (· != '#')).drop 1) else none
  let s := s.takeWhile (· != '#')
  let query := if s.contains '?' then some ((s.dropWhile (· != '?')).drop 1) else none
  (scheme, authority, s.takeWhile (· != '?'), query, fragment)

/-- Check a path against what stands before it. -/
def checkPath (hasScheme hasAuthority : Bool) (path : List Char) : Except UrlFault Unit :=
  if hasAuthority then
    if path.isEmpty || path.head? = some '/' then .ok () else .error .pathWithoutSlash
  else if hasScheme then .ok ()
  else if startsWith ['/', '/'] path then .error .pathOfTwoSlashes
  else if path.head? = some ':' then .error .pathOfColon
  else .ok ()

/-- Build an address from components as they are written. -/
def ofParts (scheme user host port path : List Char) (query fragment : Option (List Char)) :
    Except UrlFault Url := do
  let userInfo := escapeUnless isUserInfoSafe user
  let name ← normalHost host
  let port ← normalPort scheme port
  let hasAuthority := !userInfo.isEmpty || !name.isEmpty || port.isSome
  checkPath (!scheme.isEmpty) hasAuthority path
  let path := if !scheme.isEmpty || hasAuthority then dropDots path else path
  return {
    scheme := lower scheme
    userInfo
    host := name
    port
    path := escapeUnless isPathSafe path
    query := query.map (escapeUnless isQuerySafe)
    fragment := fragment.map (escapeUnless isFragmentSafe) }

/-- The address that a text stands for. -/
def parse (s : List Char) : Except UrlFault Url :=
  if maxUrlLength < s.length then .error .tooLong
  else
    let isControl (c : Char) : Bool := c.toNat < 32 || c.toNat = 127
    match s.find? isControl with
    | some c => .error (.unprintable c (s.takeWhile (!isControl ·)).length)
    | none =>
      let (scheme, authority, path, query, fragment) := cut s
      let (user, host, port) := splitAuthority authority
      ofParts scheme user host port path query fragment

/-- The user, the host and the port as text. -/
def authority (u : Url) : List Char :=
  (if u.userInfo.isEmpty then [] else u.userInfo ++ ['@']) ++
    (if u.host.contains ':' then '[' :: u.host ++ [']'] else u.host) ++
    match u.port with
    | some n => ':' :: (toString n).toList
    | none => []

/-- The text of an address. -/
def text (u : Url) : List Char :=
  (if u.scheme.isEmpty then [] else u.scheme ++ [':']) ++
    (if u.authority.isEmpty then [] else '/' :: '/' :: u.authority) ++ u.path ++
    (match u.query with
      | some q => '?' :: q
      | none => []) ++
    match u.fragment with
    | some f => '#' :: f
    | none => []

/-- Does an address name a scheme and a host? -/
def isAbsolute (u : Url) : Bool := !u.scheme.isEmpty && !u.host.isEmpty

/-- What is asked for without a host: the path from the root on and the query. -/
def onNoHost (u : Url) : Url where
  path := '/' :: u.path.dropWhile (· = '/')
  query := u.query

/-- An address with another query. Its parts are normal already but for a port that is the default
one only of the scheme in lower case. -/
def withQuery (u : Url) (query : List Char) : Except UrlFault Url :=
  if maxUrlLength < query.length then .error .longQuery
  else .ok {
    u with
    port := u.port.filter (some · ≠ defaultPort u.scheme)
    query := some (escapeUnless isQuerySafe query) }

/-- Where a reference leads from an address; `none` if it leads nowhere. -/
def join? (u : Url) (reference : Url) : Option (Except UrlFault Url) :=
  (Reference.join? u.text reference.text).map parse

end Url
end TrackerSearch.Web
