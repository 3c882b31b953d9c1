import TrackerSearch.Text.CodeSet
import TrackerSearch.Text.Digit
import TrackerSearch.Text.Pieces

/-!
# Internet addresses

The textual forms of addresses of version 4 and version 6.
-/
namespace TrackerSearch.Web

open TrackerSearch.Text

/-- One part of a version 4 address: up to three digits without a needless zero in front. -/
def isIpv4Part (s : List Char) : Bool :=
  !s.isEmpty && s.length ≤ 3 && s.all isAsciiDigit && (s.length == 1 || s.head? != some '0') &&
    s.foldl (fun n c => n * 10 + (c.toNat - 48)) 0 ≤ 255

/-- Four parts between points. -/
def isIpv4 (s : List Char) : Bool :=
  let parts := splitBy (· == '.') s
  parts.length == 4 && parts.all isIpv4Part

/-- One to four hexadecimal digits. -/
def isHextet (s : List Char) : Bool :=
  !s.isEmpty && s.length ≤ 4 && s.all fun c => (hexDigit? c).isSome

/-- Eight groups between colons, of which one run may be left out, and the last two may be written
as a version 4 address; a zone may follow after a percent sign. -/
def isIpv6 (s : List Char) : Bool :=
  let address := s.takeWhile (· != '%')
  let zone := s.dropWhile (· != '%')
  let zoneOk := match zone with
    | [] => true
    | _ :: z => !z.isEmpty && !z.contains '%'
  let parts := splitBy (· == ':') address
  let lastPart := parts.getLast?.getD []
  let dotted := lastPart.contains '.'
  let parts := if dotted then parts.dropLast ++ [['0'], ['0']] else parts
  let gaps := (parts.drop 1).dropLast.countP (·.isEmpty)
  let groups := parts.filter (!·.isEmpty)
  let headEmpty := (parts.head?.map (·.isEmpty)).getD true
  let lastEmpty := (parts.getLast?.map (·.isEmpty)).getD true
  zoneOk && (!dotted || isIpv4 lastPart) && 3 ≤ parts.length && parts.length ≤ 9 && groups.all isHextet &&
    (if gaps = 0 then parts.length == 8 && !headEmpty && !lastEmpty
     else gaps == 1 && groups.length ≤ 7 &&
      -- An empty first or last part is allowed only beside the gap.
      (!headEmpty || ((parts.drop 1).head?.map (·.isEmpty)).getD false) &&
      (!lastEmpty || (parts.dropLast.getLast?.map (·.isEmpty)).getD false))

/-- The `v1.name` form for addresses of later versions. -/
def isFutureIp (s : List Char) : Bool :=
  match s with
  | 'v' :: rest =>
    let digits := rest.takeWhile fun c => (hexDigit? c).isSome
    !digits.isEmpty && match rest.dropWhile fun c => (hexDigit? c).isSome with
      | '.' :: tail => !tail.isEmpty && tail.all (· != '\n')
      | _ => false
  | _ => false

end TrackerSearch.Web
