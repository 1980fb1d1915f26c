import JudgeRelay.Config.Settings
import JudgeRelay.Config.Credentials
import JudgeRelay.Store.Address

/-!
# Starting the relay

Before it listens, the relay reads its settings from the environment, loads the
credentials file the settings name, and reads the store's address. The first of these
to fail stops it: it reports what it was doing and why that failed, and exits with
status 1. A relay that passes all three goes on to connect to its store, and keeps
trying, every three seconds, until something answers at the store's address; it then
binds its judge listener and its control listener, in that order, and a bind that fails
stops it too. What the machine answers is a parameter (`Host`).
-/

namespace JudgeRelay

/-- Why the relay stopped while starting: what it was doing and the cause. -/
structure StartFailure where
  context : String
  cause : String
  deriving Repr

namespace StartFailure

/-- Text with every line indented by four spaces. -/
def indented (text : String) : String :=
  "\n".intercalate ((text.splitOn "\n").map ("    " ++ ·))

/-- The report on standard error: the context, then the cause under "Caused by". -/
def report (f : StartFailure) : String :=
  "Error: " ++ f.context ++ "\n\nCaused by:\n" ++ indented f.cause ++ "\n"

/-- The status the relay exits with. -/
def exitCode (_ : StartFailure) : Nat := 1

end StartFailure

/-- What a relay that passed its checks starts with. -/
structure Startup where
  settings : Settings
  auth : JudgeAuth
  store : StoreEndpoint

/-- Runs the checks of a starting relay: `env` gives the environment's variables and
`read` a file's text or why it cannot be read. -/
def Startup.check (env : String → Option String) (read : String → Except String String) :
    Except StartFailure Startup := do
  let settings ← (Settings.ofEnv env).mapError fun e => ⟨e.context, e.cause⟩
  let auth ← (JudgeAuth.load read settings.credentialsPath).mapError fun e => ⟨e.context, e.cause⟩
  let store ← (StoreEndpoint.parse settings.storeUrl).mapError fun e =>
    ⟨"Failed to create Redis client", e.text⟩
  pure { settings, auth, store }

/-- What the machine the relay runs on answers when the relay reaches out: whether
anything answers at a store's address, and what binding a listener to an address gives
(`none` when it binds, or the system's error). -/
structure Host where
  storeAnswers : StoreEndpoint → Bool
  bind : SocketAddress → Option String

/-- Where a start ends. -/
inductive Start where
  /-- Stopped with this report. -/
  | stopped (f : StartFailure)
  /-- Still connecting to the store, which nothing answers; the relay never listens. -/
  | connecting (store : StoreEndpoint)
  /-- Listening for judges and control clients. -/
  | listening (s : Startup)

/-- Starts the relay on a host: the checks, the store, then the two listeners. -/
def Startup.start (host : Host) (env : String → Option String)
    (read : String → Except String String) : Start :=
  match Startup.check env read with
  | .error f => .stopped f
  | .ok s =>
    if !host.storeAnswers s.store then .connecting s.store
    else
      match host.bind s.settings.judgeAddress with
      | some e => .stopped ⟨"Failed to bind judge listener on " ++ s.settings.judgeAddress.toText, e⟩
      | none =>
        match host.bind s.settings.controlAddress with
        | some e =>
          .stopped ⟨"Failed to bind control listener on " ++ s.settings.controlAddress.toText, e⟩
        | none => .listening s

end JudgeRelay
