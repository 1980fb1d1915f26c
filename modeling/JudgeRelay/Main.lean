import JudgeRelay.Config.Startup

/-!
# The relay's command line

The relay takes no arguments: its settings come from the environment. It makes the
checks of `Startup.check`, reading the credentials file from disk, and when one
fails it prints the report to standard error and exits with status 1.

Serving needs the store. This library holds no client for it, so the store stays out
of reach, and the relay does what it does while its store is down: it says so every
three seconds and tries again.
-/

namespace JudgeRelay.Main

/-- The wording of an operating-system error number, as the C library gives it,
followed by the number. Some calls report the number negated. -/
def osMessage (raw : UInt32) : String :=
  let code := if raw.toNat ≥ 2147483648 then 4294967296 - raw.toNat else raw.toNat
  let text := match code with
    | 1 => "Operation not permitted"
    | 2 => "No such file or directory"
    | 5 => "Input/output error"
    | 13 => "Permission denied"
    | 20 => "Not a directory"
    | 21 => "Is a directory"
    | 36 => "File name too long"
    | 40 => "Too many levels of symbolic links"
    | _ => "Unknown error " ++ toString code
  text ++ " (os error " ++ toString code ++ ")"

/-- Why a file could not be read, worded by its error number when it has one. -/
def ioMessage : IO.Error → String
  | .noFileOrDirectory _ code _ => osMessage code
  | .permissionDenied _ code _ => osMessage code
  | .inappropriateType _ code _ => osMessage code
  | .noSuchThing _ code _ => osMessage code
  | .otherError code _ => osMessage code
  | e => toString e

/-- A file's text, or why it cannot be read; text that is not UTF-8 is refused. -/
def readText (path : String) : IO (Except String String) := do
  try
    let bytes ← IO.FS.readBinFile path
    match String.fromUTF8? bytes with
    | some text => pure (.ok text)
    | none => pure (.error "stream did not contain valid UTF-8")
  catch e => pure (.error (ioMessage e))

/-- Waits for the store, which never answers. -/
partial def awaitStore : IO UInt32 := do
  IO.println "Failed to connect to Redis: no store client is available. Retrying in 3 seconds..."
  IO.sleep 3000
  awaitStore

end JudgeRelay.Main

open JudgeRelay in
/-- Runs the startup checks, then waits for the store. -/
def main : IO UInt32 := do
  let names := ["BRIDGE_JUDGE_ADDR", "BRIDGE_CONTROL_ADDR", "BRIDGE_JUDGES_CONFIG",
    "BRIDGE_TRUSTED_PROXIES", "REDIS_URL"]
  let values ← names.mapM fun n => do pure (n, ← IO.getEnv n)
  let env (n : String) : Option String := ((values.find? (·.1 == n)).map (·.2)).join
  let path := (env "BRIDGE_JUDGES_CONFIG").getD "./files/judges.toml"
  let file ← Main.readText path
  match Startup.check env (fun p => if p == path then file else .error "unexpected path") with
  | .error f =>
    IO.eprint f.report
    pure (UInt32.ofNat f.exitCode)
  | .ok s =>
    if s.auth.size == 0 then
      IO.println ("No judges configured in " ++ path ++ ", every handshake will be rejected")
    else
      IO.println ("Loaded " ++ toString s.auth.size ++ " judge credentials from " ++ path)
    IO.println "Starting Judge Bridge..."
    Main.awaitStore
