import IpTools.Library.Lines
import IpTools.Library.Utf8
import IpTools.Model.Display
import IpTools.Wire.Target

/-!
# Inputs of the commands

The target list, the custom headers, the request body and the name servers of a command. Targets,
headers and the body may come from a file or from standard input, which is read once.
-/

namespace IpTools

variable [DebugTables]

/-- A computation that may read standard input: what is left of it is a state, and the message of
the command that fails is an exception. -/
abbrev Input := StateT (List UInt8) (Except String)

/-- What reading a file gives: its bytes, or the text of the error. -/
abbrev Files := String → Except String (List UInt8)

/-- What an argument names. -/
inductive ArgSource where
  | stdin
  | file (path : String)
  | inline (text : String)
deriving DecidableEq

def argSource (raw : String) : ArgSource :=
  if raw = "-" then .stdin
  else match raw.toList with
    | '@' :: path => .file (String.ofList path)
    | _ => .inline raw

/-- Read what is left of standard input. -/
def readStdin : Input (List UInt8) := do
  let bytes ← get
  set ([] : List UInt8)
  return bytes

/-- `String::from_utf8`, with the error of `read_to_string`. -/
def readText (bytes : List UInt8) : Except String (List Char) :=
  if Utf8.encode (Utf8.decodeLossy bytes) = bytes then .ok (Utf8.decodeLossy bytes)
  else .error "stream did not contain valid UTF-8"

def readTextStdin (what : String) : Input (List Char) := do
  let bytes ← readStdin
  (readText bytes).mapError (fun e => s!"could not read {what} from stdin: {e}")

def readTextFile (files : Files) (what path : String) : Except String (List Char) :=
  (do readText (← files path)).mapError (fun e =>
    let shown := strDebug path
    s!"could not read {what} file {shown}: {e}")

/-- The characters of a token but letters and digits. -/
def tokenMarks : List Char :=
  ['!', '#', '$', '%', '&', '\'', '*', '+', '-', '.', '^', '_', '\x60', '|', '~']

def isTokenChar (c : Char) : Bool := c.isAlphanum || c ∈ tokenMarks

def validHeaderName (name : List Char) : Bool := !name.isEmpty && name.all isTokenChar

/-- A control character that a header value may not have; a tab is none of them. -/
def isValueControl (c : Char) : Bool := c.toNat < 0x20 && c ≠ '\t' || c.toNat = 0x7f

def parseHeaderLine (line : List Char) : Except String (String × String) :=
  let shown := strDebug (String.ofList line)
  match splitOnce ':' line with
  | none => .error (s!"invalid header {shown}; expected NAME:VALUE, " ++
      "e.g. --header 'authorization: Bearer abc'")
  | some (name, value) =>
    let name := trim name
    let value := trim value
    if !validHeaderName name then
      .error (s!"invalid header {shown}: the name must be a valid HTTP token " ++
        "(e.g. 'authorization', not 'foo bar')")
    else if value.any isValueControl then
      .error s!"invalid header {shown}: the value contains a control character"
    else .ok (String.ofList name, String.ofList value)

/-- Append every line that is not empty. -/
def pushHeaderLines (headers : List (String × String)) (text : List Char) (source : String) :
    Except String (List (String × String)) :=
  (Lines.lines text).foldlM (fun headers line =>
    let line := trim line
    if line.isEmpty then .ok headers
    else do
      let header ← (parseHeaderLine line).mapError (fun e => s!"{e} (from {source})")
      return headers ++ [header]) headers

/-- Append what one `--header` value gives. -/
def pushHeaderArg (files : Files) (headers : List (String × String)) (raw : String) :
    Input (List (String × String)) :=
  match argSource raw with
  | .stdin => do
    let text ← readTextStdin "headers"
    pushHeaderLines headers text "stdin"
  | .file path => do
    if path.isEmpty then throw "--header @<file> requires a file path after '@'"
    let text ← readTextFile files "header" path
    let shown := strDebug path
    pushHeaderLines headers text s!"file {shown}"
  | .inline text => do
    let header ← parseHeaderLine text.toList
    return headers ++ [header]

def parseCustomHeaders (files : Files) (values : List String) : Input (List (String × String)) :=
  values.foldlM (pushHeaderArg files) []

/-- The default port of the probe commands. -/
def defaultTargetPort : UInt16 := 443

def InvalidTarget.text (e : InvalidTarget) : String :=
  let shown := strDebug e.input
  s!"invalid target {shown}: {e.reason}"

/-- What standard error shows for a target that looks like an IPv6 literal with a port but no
brackets. It changes nothing of how the target is read. -/
def ipv6PortHint (input : List Char) : Option String :=
  match rsplitOnce ':' input with
  | none => none
  | some (addr, port) =>
    if addr.isEmpty || port.isEmpty || !port.all Char.isDigit then none
    else if (parseIpv6Addr addr).isNone then none
    else
      let addr := String.ofList addr
      let port := String.ofList port
      let input := String.ofList input
      some ("hint: IPv6 literals with a port need brackets — did you mean " ++
        s!"[{addr}]:{port}? ({input} parsed as the address {input} on the default port)")

/-- The target of a line, `none` for a blank line and for a comment. -/
def targetLine (raw : List Char) : Except String (Option Target) :=
  let line := trim raw
  if line.isEmpty || line.head? = some '#' then .ok none
  else ((Target.parse line defaultTargetPort).map some).mapError InvalidTarget.text

def pushTargetLine (targets : List Target) (raw : List Char) : Except String (List Target) := do
  let target ← targetLine raw
  return targets ++ target.toList

def pushTargetLines (targets : List Target) (text : List Char) : Except String (List Target) :=
  (Lines.lines text).foldlM pushTargetLine targets

def pushTargetArg (files : Files) (targets : List Target) (raw : String) : Input (List Target) :=
  match argSource raw with
  | .stdin => do
    let text ← readTextStdin "targets"
    pushTargetLines targets text
  | .file path => do
    if path.isEmpty then throw "target @<file> requires a file path after '@'"
    let text ← readTextFile files "target" path
    pushTargetLines targets text
  | .inline text => pushTargetLine targets text.toList

def parseTargets (files : Files) (values : List String) : Input (List Target) :=
  values.foldlM (pushTargetArg files) []

def parseBody (files : Files) (value : Option String) : Input (Option (List UInt8)) :=
  match value with
  | none => return none
  | some raw =>
    match argSource raw with
    | .stdin => do return some (← readStdin)
    | .file path => do
      if path.isEmpty then throw "--body @<file> requires a file path after '@'"
      let shown := strDebug path
      let bytes ← (files path).mapError (fun e =>
        s!"could not read request body file {shown}: {e}")
      return some bytes
    | .inline text => return some (Utf8.encode text.toList)

def readPort : Reader UInt16 := fun s => do
  let ((), s) ← readGivenChar ':' s
  let (port, s) ← readNumber 10 s.length 65536 true s
  return (port.toUInt16, s)

def readScopeId : Reader UInt32 := fun s => do
  let ((), s) ← readGivenChar '%' s
  let (scope, s) ← readNumber 10 s.length (2 ^ 32) true s
  return (scope.toUInt32, s)

def readSocketAddrV4 : Reader SocketAddr := fun s => do
  let (ip, s) ← readIpv4Addr s
  let (port, s) ← readPort s
  return (.v4 ⟨ip, port⟩, s)

def readSocketAddrV6 : Reader SocketAddr := fun s => do
  let ((), s) ← readGivenChar '[' s
  let (ip, s) ← readIpv6Addr s
  let (scope, s) := (readScopeId s).getD (0, s)
  let ((), s) ← readGivenChar ']' s
  let (port, s) ← readPort s
  return (.v6 ⟨ip, port, 0, scope⟩, s)

/-- `str::parse::<SocketAddr>`. -/
def parseSocketAddr (s : List Char) : Option SocketAddr :=
  match (readSocketAddrV4 s).or (readSocketAddrV6 s) with
  | some (addr, []) => some addr
  | _ => none

def parseServer (raw : String) : Except String SocketAddr :=
  match parseSocketAddr raw.toList, parseIpAddr raw.toList with
  | some addr, _ => .ok addr
  | none, some ip => .ok (SocketAddr.new ip 53)
  | none, none =>
    let shown := strDebug raw
    .error s!"invalid DNS server {shown}; expected IP or IP:port"

def parseCustomServers (values : List String) : Except String (List SocketAddr) :=
  values.mapM parseServer

/-- The arguments of a command that sends requests. -/
structure RequestArgs where
  targets : List String
  headers : List String
  body : Option String
  servers : List String

structure RequestInputs where
  targets : List Target
  headers : List (String × String)
  body : Option (List UInt8)
  servers : List SocketAddr
deriving DecidableEq

def usesStdin (values : List String) : Bool := values.any (fun s => s = "-")

/-- At most one of the inputs may come from standard input. -/
def checkStdinConflict (args : RequestArgs) : Except String Unit :=
  if 1 < [args.targets, args.headers, args.body.toList].countP usesStdin then
    .error ("only one input may come from stdin ('-'): the target list, --header, and --body " ++
      "all read the same stdin")
  else .ok ()

/-- The inputs of `http`, `http2` and `http3`, in the order they are read. -/
def httpInputs (files : Files) (args : RequestArgs) : Input RequestInputs := do
  checkStdinConflict args
  let headers ← parseCustomHeaders files args.headers
  let body ← parseBody files args.body
  let servers ← parseCustomServers args.servers
  let targets ← parseTargets files args.targets
  return { targets, headers, body, servers }

/-- The inputs of `diagnose`, in the order they are read. -/
def diagnoseInputs (files : Files) (args : RequestArgs) : Input RequestInputs := do
  checkStdinConflict args
  let targets ← parseTargets files args.targets
  let headers ← parseCustomHeaders files args.headers
  let body ← parseBody files args.body
  let servers ← parseCustomServers args.servers
  return { targets, headers, body, servers }

def httpMethodToken (s : String) : Except String String :=
  if s.isEmpty then .error "must be a non-empty HTTP method"
  else if !s.toList.all isTokenChar then
    .error (s!"'{s}' is not a valid HTTP method (methods are tokens: letters, digits, or " ++
      "! # $ % & ' * + - . ^ _ \x60 | ~)")
  else .ok s

def httpPathToken (s : String) : Except String String :=
  if s.isEmpty then .error "must be a non-empty request path (e.g. '/' or '/healthz')"
  else if s.toList.head? ≠ some '/' then
    .error (s!"'{s}' does not start with '/' — a request-target is origin-form " ++
      "(RFC 9110 §3.2)")
  else if s.toList.any (fun c => isWhitespace c || isControl c) then
    let shown := String.ofList (s.toList.map (fun c => if isControl c then '?' else c))
    .error (s!"'{shown}' contains whitespace or control characters that cannot appear in a " ++
      "request-target")
  else .ok s

end IpTools
