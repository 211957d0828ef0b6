import ApiGateway.Lib.Decimal
import ApiGateway.Lib.Table

/-!
# Fetching what a URL points to

A URL is checked before it is fetched, and so is every redirect. The check resolves the host; the
connection that is made afterwards resolves it again, and reads the port for itself. `NetLib` is the
standard library: which texts are addresses, and how a host name is spelled for the resolver. What
the resolver answers is an input, each time it is asked.
-/

namespace ApiGateway

open Table Decimal

/-! ## Addresses -/

/-- An address in sixteen bytes; an IPv4 address is a mapped one. -/
structure IP where
  bits : BitVec 128
  deriving DecidableEq

def IP.to4 (ip : IP) : Option (BitVec 32) :=
  if ip.bits >>> 32 = 0xffff then some (ip.bits.setWidth 32) else none

def IP.ofV4 (a : BitVec 32) : IP := ⟨0xffff00000000 ||| a.setWidth 128⟩

/-- The first `len` bits are those of `base`. -/
def inNet {w : Nat} (a base : BitVec w) (len : Nat) : Bool := a >>> (w - len) == base >>> (w - len)

def privateIPv4Nets : List (BitVec 32 × Nat) :=
  [(0x00000000, 8), (0x0a000000, 8), (0x64400000, 10), (0x7f000000, 8), (0xa9fe0000, 16),
   (0xac100000, 12), (0xc0000000, 24), (0xc0000200, 24), (0xc0a80000, 16), (0xc6120000, 15),
   (0xc6336400, 24), (0xcb007100, 24), (0xe0000000, 4), (0xf0000000, 4), (0xffffffff, 32)]

def privateIPv6Nets : List (BitVec 128 × Nat) :=
  [(0, 128), (1, 128), (0xffff <<< 32, 96), (0x64ff9b <<< 96, 96), (0x100 <<< 112, 64),
   (0x2001 <<< 112, 23), (0x20010db8 <<< 96, 32), (0xfc00 <<< 112, 7), (0xfe80 <<< 112, 10),
   (0xff00 <<< 112, 8)]

/-- The tests of the standard library come first: unspecified, loopback, link-local and
interface-local addresses. -/
def isPrivateIP (ip : IP) : Bool :=
  match ip.to4 with
  | some v4 => v4 == 0 || inNet v4 0x7f000000 8 || inNet v4 0xa9fe0000 16 ||
      inNet v4 0xe0000000 24 || privateIPv4Nets.any fun n => inNet v4 n.1 n.2
  | none => ip.bits == 0 || ip.bits == 1 || inNet ip.bits (0xfe80 <<< 112) 10 ||
      (inNet ip.bits (0xff00 <<< 112) 8 &&
        ((ip.bits >>> 112) &&& 0xf == 1 || (ip.bits >>> 112) &&& 0xf == 2)) ||
      (privateIPv6Nets.any fun n => inNet ip.bits n.1 n.2) || inNet ip.bits (0xfc00 <<< 112) 7

/-! ## URLs -/

inductive UrlPort where
  | absent
  /-- A colon with nothing behind it. -/
  | empty
  | number (n : Nat)
  deriving DecidableEq

/-- A parsed URL. Its host is what `Hostname` gives, and stood in brackets or not; outside brackets
it may have colons of its own. -/
structure URL where
  scheme : String
  hostname : String
  bracketed : Bool := false
  port : UrlPort := .absent

/-- `net.SplitHostPort`, which refuses colons outside brackets. -/
def URL.splitHostPort (u : URL) : Option (String × UrlPort) :=
  if u.port = .absent ∨ (u.bracketed = false ∧ u.hostname.toList.contains ':') then none
  else some (u.hostname, u.port)

def URL.defaultPort (u : URL) : UrlPort := if u.scheme = "https" then .number 443 else .number 80

/-- The part of the standard library that reads texts. -/
structure NetLib where
  /-- `net.ParseIP` -/
  parseIP : String → Option IP
  /-- An address with a zone behind it, which `net.ParseIP` does not read. -/
  parseZoned : String → Option IP
  /-- `net.ParseCIDR`: the network and the length of its mask. -/
  parseCIDR : String → Option (IP × Nat)
  /-- `strconv.Atoi` -/
  atoi : String → Option Int
  /-- The spelling of a host name that is dialled. -/
  toASCII : String → String

variable (net : NetLib)

/-- `net.LookupIP`, also the lookup of a dial: an address with a zone stands for itself. -/
def NetLib.lookupIP (host : String) (answer : Option (List IP)) : Option (List IP) :=
  if host = "" then none
  else match net.parseZoned host with
    | some ip => some [ip]
    | none => answer

/-! ## The check -/

structure FetchSetting where
  enableSSRFProtection : Bool := true
  allowPrivateIp : Bool := false
  domainFilterMode : Bool := false
  ipFilterMode : Bool := false
  domainList : List String := []
  ipList : List String := []
  allowedPorts : List String := ["80", "443", "8080", "8443"]
  applyIPFilterForDomain : Bool := true

inductive FetchError where
  | invalidPortConfiguration (config : String)
  | unsupportedProtocol (scheme : String)
  | invalidPort
  | portNotAllowed (port : Int)
  | privateIP (host : Option String) (ip : IP)
  | ipNotInWhitelist (host : Option String) (ip : IP)
  | ipInBlacklist (host : Option String) (ip : IP)
  | domainNotInWhitelist (host : String)
  | domainInBlacklist (host : String)
  | resolutionFailed (host : String)

/-- One entry of the configured ports: blank, a port, or a range of ports. -/
def parsePortRange (config : String) : Except FetchError (List Int) := do
  let bad := FetchError.invalidPortConfiguration config
  let valid (p : Int) : Bool := 1 ≤ p && p ≤ 65535
  let config := trimSpace config
  if config = "" then
    return []
  if config.toList.contains '-' then
    match (config.splitOn "-").map fun part => net.atoi (trimSpace part) with
    | [some start, some stop] => do
      failIf (stop < start) bad
      failIf (!(valid start && valid stop)) bad
      return (List.range (stop - start + 1).toNat).map fun i => start + i
    | _ => .error bad
  else do
    let port ← orFail (net.atoi config) bad
    failIf (!valid port) bad
    return [port]

def parsePortRanges (configs : List String) : Except FetchError (List Int) := do
  return (← configs.mapM (parsePortRange net)).flatten

def isAllowedPort (ports : List Int) (port : Int) : Bool := ports.isEmpty || ports.contains port

def isDomainListed (domain : String) (list : List String) : Bool :=
  let domain := domain.toLower
  list.any fun item =>
    let item := (trimSpace item).toLower
    item != "" && (domain == item || (item.startsWith "*." &&
      (domain.endsWith ("." ++ (item.drop 2).toString) || domain == (item.drop 2).toString)))

variable (p : FetchSetting)

def FetchSetting.isDomainAllowed (domain : String) : Bool :=
  if p.domainFilterMode then isDomainListed domain p.domainList
  else !isDomainListed domain p.domainList

def isIpInCIDRList (ip : IP) (list : List String) : Bool :=
  list.any fun cidr =>
    match net.parseCIDR cidr with
    | some (base, len) => ip.to4.isSome == base.to4.isSome && inNet ip.bits base.bits len
    | none => net.parseIP cidr == some ip

def FetchSetting.isIPAccessAllowed (ip : IP) : Bool :=
  if isPrivateIP ip && !p.allowPrivateIp then false
  else if p.ipFilterMode then isIpInCIDRList net ip p.ipList
  else !isIpInCIDRList net ip p.ipList

/-- Why an address is refused: the one in the URL, or one that `host` resolves to. A private address
in the URL is called so even where the list refused it. -/
def FetchSetting.checkIP (host : Option String) (ip : IP) :
    Except FetchError Unit :=
  if p.isIPAccessAllowed net ip then .ok ()
  else if isPrivateIP ip && (host.isNone || !p.allowPrivateIp) then .error (.privateIP host ip)
  else if p.ipFilterMode then .error (.ipNotInWhitelist host ip)
  else .error (.ipInBlacklist host ip)

/-- `ValidateURLWithFetchSetting`, with the answer of the resolver in case it is asked. -/
def validateURL (u : URL) (answer : Option (List IP)) :
    Except FetchError Unit := do
  if !p.enableSSRFProtection then
    return
  let ports ← parsePortRanges net p.allowedPorts
  failIf (u.scheme ≠ "http" ∧ u.scheme ≠ "https") (.unsupportedProtocol u.scheme)
  let (host, port) := u.splitHostPort.getD (u.hostname, u.defaultPort)
  match port with
  | .number port => do
    failIf (2 ^ 63 ≤ port) .invalidPort
    failIf (!isAllowedPort ports port) (.portNotAllowed port)
    match net.parseIP host with
    | some ip => p.checkIP net none ip
    | none => do
      failIf (!p.isDomainAllowed host)
        (if p.domainFilterMode then .domainNotInWhitelist host else .domainInBlacklist host)
      if p.applyIPFilterForDomain then
        let ips ← orFail (net.lookupIP host answer) (.resolutionFailed host)
        ips.forM (p.checkIP net (some host))
  | _ => .error .invalidPort

/-! ## The fetch -/

/-- The URL of a request or a redirect, what the resolver answers to the check and to the dial, and
which addresses are tried. -/
structure Hop where
  url : URL
  checked : Option (List IP) := none
  dialled : Option (List IP) := none
  tried : List Nat := [0]

structure Connection where
  ip : IP
  port : Nat
  deriving DecidableEq

/-- The port that is dialled: `Port` of the URL, or that of the scheme. -/
def URL.dialledPort (u : URL) : Nat :=
  match u.port with
  | .number n => n
  | _ => if u.scheme = "https" then 443 else 80

/-- The addresses of a dial. An empty host is the server itself. -/
def Hop.dialledIPs (h : Hop) : List IP :=
  let host := net.toASCII h.url.hostname
  match net.parseIP host with
  | some ip => [ip]
  | none => if host = "" then [IP.ofV4 0x7f000001] else (net.lookupIP host h.dialled).getD []

def Hop.dial (h : Hop) : List Connection :=
  if 65535 < h.url.dialledPort then []
  else (h.tried.filterMap ((h.dialledIPs net)[·]?)).map fun ip => ⟨ip, h.url.dialledPort⟩

/-- `DoDownloadRequest` without a worker, and `checkRedirect` for the hops after the first, of which
`via` were made: the connections that are opened. -/
def doDownloadRequest (p : FetchSetting) (via : Nat) : List Hop → List Connection
  | [] => []
  | h :: hops =>
    match validateURL net p h.url h.checked with
    | .error _ => []
    | .ok _ => if 10 ≤ via then [] else h.dial net ++ doDownloadRequest p (via + 1) hops

end ApiGateway
