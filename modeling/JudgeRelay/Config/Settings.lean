import JudgeRelay.Net.Address

/-!
# Settings from the environment

The relay reads five variables, each with a default:

* `BRIDGE_JUDGE_ADDR`, where judges connect (`0.0.0.0:9999`);
* `BRIDGE_CONTROL_ADDR`, where control clients connect (`127.0.0.1:9998`);
* `BRIDGE_JUDGES_CONFIG`, the credentials file (`./files/judges.toml`);
* `BRIDGE_TRUSTED_PROXIES`, a comma-separated list of the IP addresses allowed to
  send a PROXY header (none); blank items are skipped;
* `REDIS_URL`, the store (`redis://localhost:6379`).

The addresses are checked in that order: judge address, control address, proxies.
-/

namespace JudgeRelay

/-- The relay's settings. -/
structure Settings where
  judgeAddress : SocketAddress
  controlAddress : SocketAddress
  credentialsPath : String
  trustedProxies : List IpAddress
  storeUrl : String
  deriving Repr

/-- Why the settings were refused. -/
inductive SettingsError where
  /-- A listener address is not a socket address. -/
  | badAddress (name value : String)
  /-- An item of the proxy list is not an IP address. -/
  | badProxy (value : String)
  deriving Repr

/-- What was being read when the settings were refused. -/
def SettingsError.context : SettingsError → String
  | .badAddress var v => "Invalid " ++ var ++ ": " ++ v
  | .badProxy v => "Invalid trusted proxy address: " ++ v

/-- Why the text read was refused. -/
def SettingsError.cause : SettingsError → String
  | .badAddress _ _ => "invalid socket address syntax"
  | .badProxy _ => "invalid IP address syntax"

/-- The description of a refusal, with its cause. -/
def SettingsError.message (e : SettingsError) : String := e.context ++ ": " ++ e.cause

/-- White space in the sense of Unicode's `White_Space` property. -/
def isUnicodeSpace (c : Char) : Bool :=
  let n := c.toNat
  (0x09 ≤ n && n ≤ 0x0d) || n == 0x20 || n == 0x85 || n == 0xa0 || n == 0x1680 ||
    (0x2000 ≤ n && n ≤ 0x200a) || n == 0x2028 || n == 0x2029 || n == 0x202f ||
    n == 0x205f || n == 0x3000

/-- A text without white space at either end. -/
def trimSpace (s : String) : String :=
  String.ofList ((s.toList.dropWhile isUnicodeSpace).reverse.dropWhile isUnicodeSpace).reverse

namespace Settings

/-- Reads the proxy list: comma-separated, items trimmed, blank items skipped. -/
def parseProxies (raw : String) : Except SettingsError (List IpAddress) :=
  ((raw.splitOn ",").map trimSpace |>.filter (!·.isEmpty)).mapM fun s =>
    match IpAddress.parse? s with
    | some a => .ok a
    | none => .error (.badProxy s)

/-- Reads a listener address. -/
def parseAddress (var value : String) : Except SettingsError SocketAddress :=
  match SocketAddress.parse? value with
  | some a => .ok a
  | none => .error (.badAddress var value)

/-- Reads the settings from the environment, `env` giving each variable's value. -/
def ofEnv (env : String → Option String) : Except SettingsError Settings := do
  let judge ← parseAddress "BRIDGE_JUDGE_ADDR" ((env "BRIDGE_JUDGE_ADDR").getD "0.0.0.0:9999")
  let control ← parseAddress "BRIDGE_CONTROL_ADDR"
    ((env "BRIDGE_CONTROL_ADDR").getD "127.0.0.1:9998")
  let proxies ← parseProxies ((env "BRIDGE_TRUSTED_PROXIES").getD "")
  pure ⟨judge, control, (env "BRIDGE_JUDGES_CONFIG").getD "./files/judges.toml", proxies,
    (env "REDIS_URL").getD "redis://localhost:6379"⟩

end Settings

end JudgeRelay
