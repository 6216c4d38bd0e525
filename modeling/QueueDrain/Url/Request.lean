import QueueDrain.Url.Address

/-!
Request addresses: which texts a strict reader takes for the address of a request.

Such an address is a path, or a host, or a scheme and a host and a path.  Unlike a web address it
may not hold blanks or controls, its host has to be ASCII, and nothing about it is repaired.
-/

namespace QueueDrain.Url

/-- The greatest length of a request address, in bytes. -/
def requestLimit : Nat := 65534

/-- The greatest length of a scheme other than `http` and `https`. -/
def schemeLimit : Nat := 64

/-- Whether a character may stand in a path. -/
def isPathChar (c : Char) : Bool :=
  c == '!' || ('$' ≤ c && c ≤ ';') || c == '=' || ('@' ≤ c && c ≤ '_') || ('a' ≤ c && c ≤ 'z') ||
    c == '|' || c == '~' || '\x7f' ≤ c || c == '"' || c == '\x7b' || c == '\x7d'

/-- Whether a character may stand in a query. -/
def isQueryChar (c : Char) : Bool := c == '!' || ('$' ≤ c && c ≤ ';') || c == '=' || '?' ≤ c

/-- Whether a text is a path with perhaps a query.  What follows a number sign is not looked at. -/
def isPathAndQuery (s : List Char) : Bool :=
  match s.span (fun c => c != '?' && c != '#') with
  | (path, '?' :: query) => path.all isPathChar && (query.takeWhile (· != '#')).all isQueryChar
  | (path, _) => path.all isPathChar

/-- Whether a character ends the authority of a request address. -/
def endsRequestAuthority (c : Char) : Bool := c == '/' || c == '?' || c == '#'

/-- Whether a character may stand in an authority; the percent sign is judged by its place. -/
def isAuthorityChar (c : Char) : Bool :=
  isLetter c || c.isDigit || "!$&'()*+,-.:;=@[]_~%".toList.contains c

/-- What has been seen of an authority. -/
structure AuthorityScan where
  /-- The colons since the last at sign or closing bracket. -/
  colons : Nat := 0
  opened : Bool := false
  closed : Bool := false
  /-- Whether there was a percent sign since the last at sign or closing bracket. -/
  percent : Bool := false

/-- The greatest number of colons before the next at sign or closing bracket. -/
def colonLimit : Nat := 8

def AuthorityScan.step (scan : AuthorityScan) (c : Char) : Option AuthorityScan :=
  if c = ':' then
    if colonLimit ≤ scan.colons then none else some { scan with colons := scan.colons + 1 }
  else if c = '[' then
    if scan.percent || scan.opened then none else some { scan with opened := true }
  else if c = ']' then
    if !scan.opened || scan.closed then none
    else some { scan with closed := true, colons := 0, percent := false }
  else if c = '@' then some { scan with colons := 0, percent := false }
  else if c = '%' then some { scan with percent := true }
  else if isAuthorityChar c then some scan
  else none

/--
Whether a text is an authority: brackets in one pair, at most one colon after the user and the
brackets, no percent sign there, and no at sign at the end.
-/
def isAuthority (s : List Char) : Bool :=
  match s.foldlM AuthorityScan.step {} with
  | none => false
  | some scan =>
    scan.opened == scan.closed && scan.colons ≤ 1 && s.getLast? != some '@' && !scan.percent

/-- What the start of a request address says about its scheme. -/
inductive SchemeScan where
  | missing
  | tooLong
  /-- There is a scheme, and this follows the two slashes after it. -/
  | found (rest : List Char)

/--
The scheme of a request address: letters, digits, `+`, `-` and `.` before a colon and two slashes.
-/
def scanScheme (s : List Char) : SchemeScan :=
  match s.span isSchemeChar with
  | (name, ':' :: '/' :: '/' :: rest) => if schemeLimit < name.length then .tooLong else .found rest
  | _ => .missing

def byteLength (s : List Char) : Nat := (String.ofList s).utf8ByteSize

def isRequestAddress (s : List Char) : Bool :=
  byteLength s ≤ requestLimit &&
    match s with
    | [] => false
    | ['*'] => true
    | '/' :: _ => isPathAndQuery s
    | _ =>
      match scanScheme s with
      | .tooLong => false
      | .missing => s.all (!endsRequestAuthority ·) && isAuthority s
      | .found rest =>
        let (authority, path) := rest.span (!endsRequestAuthority ·)
        authority ≠ [] && isAuthority authority && isPathAndQuery path

/-! ### What an address leads to -/

/-- Where a request goes, and what it asks for there. -/
structure RequestPlace where
  /-- Whether the connection has to be secure. -/
  secure : Bool
  /-- The host, without brackets. -/
  host : String
  port : Nat
  /-- The host and the port as they are written. -/
  authority : String
  /-- The path and the query. -/
  target : String

/-- A path and a query, as they are asked for. -/
def targetOf (path : List Char) : List Char :=
  match path.takeWhile (· != '#') with
  | '/' :: path => '/' :: path
  | path => '/' :: path

/-- The host and the port of an authority, if the port is one. -/
def hostAndPort? (usual : Nat) (authority : List Char) : Option (List Char × Nat) :=
  let (host, port) := splitPort false authority
  let host := host.filter fun c => c != '[' && c != ']'
  match port with
  | none | some [] => some (host, usual)
  | some digits =>
    match Text.readNat64 digits with
    | .ok n => if n < UInt16.size then some (host, n) else none
    | .error _ => none

/-- Where the request of an address goes; `none` if it goes nowhere on the web. -/
def requestPlace? (s : List Char) : Option RequestPlace :=
  match scanScheme s, s.span isSchemeChar with
  | .found rest, (scheme, _) =>
    let scheme := String.ofList (scheme.map Char.toLower)
    if scheme = "http" ∨ scheme = "https" then
      let (authority, path) := rest.span (!endsRequestAuthority ·)
      let authority := dropUser authority
      (hostAndPort? (if scheme = "https" then 443 else 80) authority).map fun (host, port) =>
        { secure := scheme = "https", host := String.ofList host, port
          authority := String.ofList authority, target := String.ofList (targetOf path) }
    else none
  | _, _ => none

end QueueDrain.Url
