import IpTools.Model.Text

/-!
# Target parsing

Inputs such as `github.com`, `github.com:443` or `[2001:db8::1]:443` are split into a host and a
port.
-/

namespace IpTools

/-- A hostname or a literal address, bracketed for IPv6, and the port to probe. -/
structure Target where
  host : List Char
  port : UInt16
deriving DecidableEq, Repr

structure InvalidTarget where
  input : String
  reason : String
deriving DecidableEq, Repr

def invalid (input : List Char) (reason : String) : InvalidTarget := ⟨String.ofList input, reason⟩

def parsePort (s input : List Char) : Except InvalidTarget UInt16 :=
  match parseU16 s with
  | some port => .ok port
  | none => .error (invalid input "port out of range")

/-- The form `[addr]` or `[addr]:port`, from after its opening bracket. -/
def parseBracketed (input rest : List Char) (defaultPort : UInt16) :
    Except InvalidTarget Target :=
  match splitOnce ']' rest with
  | some ([], _) => .error (invalid input "empty address in brackets")
  | some (addr, []) => .ok ⟨['['] ++ addr ++ [']'], defaultPort⟩
  | some (addr, portPart) => do
    let port ← parsePort ((stripStart [':'] portPart).getD []) input
    return ⟨['['] ++ addr ++ [']'], port⟩
  | none => .error (invalid input "unterminated '[' ")

/-- The form `host:port`, of an input with exactly one colon. -/
def parseHostPort (input : List Char) : Except InvalidTarget Target :=
  match rsplitOnce ':' input with
  | some (host, port) =>
    if host ≠ [] ∧ port.all Char.isDigit then do
      let port ← parsePort port input
      return ⟨host, port⟩
    else .error (invalid input "expected '<host>:<port>'")
  | none => .error (invalid input "expected '<host>:<port>'")

/-- The input as a host and a port, with the default where no port is given. -/
def Target.parse (input : List Char) (defaultPort : UInt16) : Except InvalidTarget Target :=
  let input := trim input
  match ["http://", "https://"].findSome? (fun scheme => stripStart scheme.toList input) with
  | some rest =>
    let rest := String.ofList rest
    .error (invalid input
      s!"looks like a URL (did you mean '{rest}'? this tool takes 'host[:port]', not a scheme)")
  | none =>
    match stripStart ['['] input with
    | some rest => parseBracketed input rest defaultPort
    | none =>
      match rsplitOnce '@' input with
      | some (c :: userinfo, _) =>
        let userinfo := String.ofList (c :: userinfo)
        .error (invalid input
          (s!"looks like a user@host string (this tool takes 'host[:port]', " ++
            s!"drop the '{userinfo}@' prefix)"))
      | _ =>
        if input.count ':' = 1 then parseHostPort input
        else if (trim input).isEmpty then .error (invalid input "empty target")
        else .ok ⟨input, defaultPort⟩

example : Target.parse " [2001:db8::1]:8443 ".toList 443 =
    .ok ⟨"[2001:db8::1]".toList, 8443⟩ := by decide +kernel

end IpTools
