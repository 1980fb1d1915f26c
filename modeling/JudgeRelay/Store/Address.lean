import JudgeRelay.Net.Url

/-!
# Store addresses

The store client accepts a URL with scheme `redis` or `rediss` (a TCP server) or
`redis+unix` or `unix` (a Unix socket). It reads the address before connecting, and
refuses it, in its own words, when

* the text is not such a URL: "Redis URL did not parse";
* a TCP address has no host: "Missing hostname";
* the address asks for TLS, which this client is built without;
* the database, the path of a TCP address or the `db` query item of a socket
  address, is not a signed 64-bit integer: "Invalid database number";
* the user name or password of a TCP address does not decode to UTF-8;
* a socket address has no absolute path on the local host: "Missing path";
* the query item `protocol` is none of `2`, `resp2`, `3`, `resp3`.

A TCP address is checked in the order host, TLS, database, user name, password,
protocol; a socket address in the order path, database, protocol.
-/

namespace JudgeRelay

/-- A refusal of the store client: its description, and a detail for some. -/
structure AddressError where
  description : String
  detail : Option String := none
  deriving Repr

namespace AddressError

/-- The refusal as the client words it, its error kind being a bad client setting. -/
def text (e : AddressError) : String :=
  match e.detail with
  | none => e.description ++ "- InvalidClientConfig"
  | some d => e.description ++ " - InvalidClientConfig: " ++ d

end AddressError

/-- Where the store lives. -/
inductive StoreEndpoint where
  /-- A TCP server; port 6379 unless the URL gives one. -/
  | tcp (host : String) (port : Nat) (db : Int)
  /-- A Unix socket. -/
  | socket (path : String) (db : Int)
  deriving Repr

namespace StoreEndpoint

/-- Reads a signed 64-bit integer as text: an optional sign, then digits. -/
def int64? (s : String) : Option Int :=
  let (neg, digits) := match s.toList with
    | '-' :: ds => (true, ds)
    | '+' :: ds => (false, ds)
    | ds => (false, ds)
  if digits.isEmpty || !digits.all Char.isDigit then none
  else
    let n : Nat := digits.foldl (fun acc d => acc * 10 + (d.toNat - '0'.toNat)) 0
    let v : Int := if neg then -(n : Int) else n
    if -Int.pow 2 63 ≤ v && v < Int.pow 2 63 then some v else none

/-- The text without slashes at either end. -/
def trimSlashes (s : String) : String :=
  String.ofList (((s.toList.dropWhile (· == '/')).reverse.dropWhile (· == '/')).reverse)

/-- The last value the query gives a name. -/
def queryValue (u : Url) (name : String) : Option String :=
  ((u.queryPairs.filter (·.1 == name)).getLast?).map (·.2)

/-- Checks the query item naming the protocol version. -/
def checkProtocol (u : Url) : Except AddressError Unit :=
  match queryValue u "protocol" with
  | none => .ok ()
  | some p =>
    if ["2", "resp2", "3", "resp3"].contains p then .ok ()
    else .error { description := "Invalid protocol version", detail := some p }

/-- Refuses with a description. -/
def refuse (description : String) : Except AddressError α := .error { description }

/-- Reads a database number. -/
def database (text : Option String) : Except AddressError Int :=
  match text with
  | none => .ok 0
  | some t =>
    match int64? t with
    | some v => .ok v
    | none => refuse "Invalid database number"

/-- Reads a TCP address. -/
def ofTcp (u : Url) : Except AddressError StoreEndpoint := do
  let host ← match u.host with
    | some (.name h) => pure h
    | some (.ipv6 a) => pure a.toText
    | none => refuse "Missing hostname"
  if u.scheme == "rediss" then refuse "can't connect with TLS, the feature is not enabled"
  let db ← database (match trimSlashes u.pathText with | "" => none | t => some t)
  if !u.username.isEmpty && (String.fromUTF8? (Url.percentDecode u.username)).isNone then
    refuse "Username is not valid UTF-8 string"
  match u.password with
  | some pw =>
    if (String.fromUTF8? (Url.percentDecode pw)).isNone then
      refuse "Password is not valid UTF-8 string"
  | none => pure ()
  checkProtocol u
  pure (.tcp host (u.port.getD 6379) db)

/-- Reads a socket address: the path must be absolute, on no host or `localhost`. -/
def ofSocket (u : Url) : Except AddressError StoreEndpoint := do
  let onHost := match u.host with
    | none => true
    | some (.name h) => h == "localhost"
    | some (.ipv6 _) => false
  let path ← match u.path with
    | .segments (_ :: _) =>
      if onHost then pure (u.pathText) else refuse "Missing path"
    | _ => refuse "Missing path"
  let db ← database (queryValue u "db")
  checkProtocol u
  pure (.socket (Url.lossyText (Url.percentDecode path)) db)

/-- Reads a store address. -/
def parse (text : String) : Except AddressError StoreEndpoint :=
  match Url.parse? text with
  | some u =>
    if u.scheme == "redis" || u.scheme == "rediss" then ofTcp u
    else if u.scheme == "redis+unix" || u.scheme == "unix" then ofSocket u
    else refuse "Redis URL did not parse"
  | none => refuse "Redis URL did not parse"

end StoreEndpoint

end JudgeRelay
