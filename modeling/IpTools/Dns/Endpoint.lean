import IpTools.Model.Observation
import IpTools.Model.Text

/-!
# Endpoints of encrypted resolvers

The URL of a DNS-over-HTTPS endpoint and the `host[:port]` of a DNS-over-TLS endpoint, and the
lookup of their hosts.
-/

namespace IpTools

variable [DebugTables]

/-- The forms `[addr]` and `[addr]:port`, from after the opening bracket; `subject` names the
endpoint in an error. -/
def parseBracketAuthority (subject : String) (rest : List Char) (defaultPort : UInt16) :
    Except String (List Char × UInt16) :=
  match splitOnce ']' rest with
  | some (addr, []) => .ok (addr, defaultPort)
  | some (addr, port) =>
    match stripStart [':'] port with
    | none => .error s!"{subject} has a malformed bracket authority"
    | some port =>
      match parseU16 port with
      | none => .error s!"{subject} has a non-numeric port"
      | some port => .ok (addr, port)
  | none => .error s!"{subject} has an unterminated '['"

def parseDohAuthority (subject : String) (authority : List Char) :
    Except String (List Char × UInt16) :=
  match stripStart ['['] authority with
  | some rest => parseBracketAuthority subject rest 443
  | none =>
    if authority.count ':' > 1 then
      .error s!"{subject} has an unbracketed IPv6 authority (use [addr]:port)"
    else
      match rsplitOnce ':' authority with
      | some (host, port) =>
        match parseU16 port with
        | none => .error s!"{subject} has a non-numeric port"
        | some port => .ok (host, port)
      | none => .ok (authority, 443)

/-- Split an endpoint URL into its host, its port and its path without query and fragment. -/
def parseDohUrl (url : List Char) : Except String (List Char × UInt16 × List Char) :=
  let text := strDebug (String.ofList url)
  let subject := s!"DoH endpoint {text}"
  match stripStart "https://".toList url with
  | none => .error s!"{subject} must be an https:// URL"
  | some rest =>
    let (authority, path) := match splitOnce '/' rest with
      | some (authority, path) => (authority, '/' :: path)
      | none => (rest, "/dns-query".toList)
    let path := path.takeWhile (fun c => c ≠ '?' && c ≠ '#')
    if authority.isEmpty then .error s!"{subject} has an empty authority"
    else do
      let (host, port) ← parseDohAuthority subject authority
      if host.isEmpty then .error s!"{subject} has an empty host"
      else return (host, port, path)

def parseDotEndpoint (endpoint : List Char) : Except String (List Char × UInt16) :=
  let text := strDebug (String.ofList endpoint)
  let subject := s!"DoT endpoint {text}"
  if endpoint.isEmpty then .error "DoT endpoint must not be empty"
  else do
    let (host, port) ← match stripStart ['['] endpoint with
      | some rest => parseBracketAuthority subject rest 853
      | none =>
        match rsplitOnce ':' endpoint with
        | some (host, port) =>
          if ':' ∈ host then
            .error s!"{subject} has an unbracketed IPv6 authority (use [addr]:port)"
          else
            match parseU16 port with
            | none => .error s!"{subject} has a non-numeric port"
            | some port => .ok (host, port)
        | none => .ok (endpoint, 853)
    if host.isEmpty then .error s!"{subject} has an empty host"
    else return (host, port)

/-- What the system resolver knows of the host of an endpoint: the addresses in the answers of each
family, `none` for an answer of another type, and no list where the lookup failed in its time. -/
structure EndpointLookup where
  buildError : Option String
  ipv4 : Option (List (Option IpAddr))
  ipv6 : Option (List (Option IpAddr))

/-- Resolve the host of an endpoint to one address, IPv4 first. -/
def resolveEndpointHost (lookup : EndpointLookup) (host : List Char) : Except String IpAddr :=
  match parseIpAddr host with
  | some ip => .ok ip
  | none =>
    match lookup.buildError with
    | some e => .error s!"could not build resolver for DNS endpoint host: {e}"
    | none =>
      match (lookup.ipv4.getD []).findSome? id with
      | some ip => .ok ip
      | none =>
        match (lookup.ipv6.getD []).findSome? id with
        | some ip => .ok ip
        | none =>
          let text := strDebug (String.ofList host)
          .error s!"could not resolve DNS endpoint host {text} via the system resolver"

end IpTools
