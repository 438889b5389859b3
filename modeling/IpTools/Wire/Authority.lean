import IpTools.Model.Text

/-!
# Hosts and authorities on the wire

The `Host` header and the URI authority of the HTTP probes are formatted by different helpers.
-/

namespace IpTools

/-- The host as it is presented on the wire: without the brackets of an IPv6 literal. -/
def wireHost (host : List Char) : List Char := trimEndMatches ']' (trimStartMatches '[' host)

/-- Whether the input unambiguously carries an authority port. -/
def authorityHasExplicitPort (input : List Char) : Bool :=
  let t := trim input
  if t.head? = some '[' then
    (splitOnce ']' t).any (fun r => (stripStart [':'] r.2).any (fun p => (parseU16 p).isSome))
  else
    (rsplitOnce ':' t).any (fun r => ':' ∉ r.1 && (parseU16 r.2).isSome)

def uriAuthority (host : List Char) : List Char :=
  if authorityHasExplicitPort host then trim host
  else
    let bare := wireHost host
    match parseIpAddr bare with
    | some (.v6 _) => ['['] ++ bare ++ [']']
    | _ => bare

def httpsDefaultPort : UInt16 := 443
def httpDefaultPort : UInt16 := 80

/-- The port that is named after the host, with its colon. -/
def portSuffix (port : UInt16) : List Char := ':' :: Nat.toDigits 10 port.toNat

/-- The `Host` header value for a target probed at the port. -/
def wireAuthority (host : List Char) (port : UInt16) (tls : Bool) : List Char :=
  if authorityHasExplicitPort host then trim host
  else
    let bare := wireHost host
    let default := if tls then httpsDefaultPort else httpDefaultPort
    if port ≠ 0 ∧ port ≠ default then
      if ':' ∈ bare then ['['] ++ bare ++ [']'] ++ portSuffix port
      else bare ++ portSuffix port
    else if ':' ∈ bare then ['['] ++ bare ++ [']']
    else bare

def uriAuthorityAt (host : List Char) (port : UInt16) : List Char :=
  if authorityHasExplicitPort host then trim host
  else
    let base := uriAuthority host
    if port ≠ 0 ∧ port ≠ httpsDefaultPort then base ++ portSuffix port else base

end IpTools
