import JudgeRelay.Toml.Read
import JudgeRelay.Hash.Sha256

/-!
# Judge credentials

The judges allowed to connect are listed in a TOML file, one table per judge under
`judges`, named by the judge:

    [judges.<name>]
    key = "<shared secret>"
    tier = 1          # lower tiers are used first
    disabled = false  # connected but not given work

`key` is required and may not be empty; `tier` is a 32-bit unsigned integer, 1 when
absent; `disabled` is false when absent. Other keys are ignored, and so is a file
without `judges`. A judge is let in when its name is listed and the key it gives has
the SHA-256 digest of the listed key. The two digests are compared byte by byte to
the end, so that the time taken does not tell how many leading bytes agree.
-/

namespace JudgeRelay

/-- What an authenticated judge is configured with. -/
structure JudgeProfile where
  tier : Nat
  disabled : Bool
  deriving DecidableEq, Repr

/-- One listed judge. -/
structure Credential where
  name : String
  key : String
  profile : JudgeProfile
  deriving Repr

/-- The judges allowed to connect, in the order the file lists them. -/
structure JudgeAuth where
  judges : List Credential := []
  deriving Repr

/-- Why a credentials file was refused. -/
inductive AuthError where
  /-- The text is not TOML, or not of the expected shape. -/
  | toml (message : String)
  /-- A judge has an empty key. -/
  | emptyKey (name : String)
  deriving Repr

/-- The description of a refusal. -/
def AuthError.message : AuthError → String
  | .toml m => m
  | .emptyKey name => "Judge " ++ name ++ " has an empty key"

namespace JudgeAuth

/-- Reads one judge's table. -/
def credential (name : String) : Toml.Value → Except String Credential
  | .table entries => do
    let find (k : String) : Option Toml.Value := (entries.find? (·.1 == k)).map (·.2)
    let key ← match find "key" with
      | some (.string s) => pure s
      | some _ => throw "invalid type for key"
      | none => throw "missing field key"
    let tier ← match find "tier" with
      | some (.integer n) =>
        if 0 ≤ n && n < Int.pow 2 32 then pure n.toNat else throw "invalid value for tier"
      | some _ => throw "invalid type for tier"
      | none => pure 1
    let disabled ← match find "disabled" with
      | some (.boolean b) => pure b
      | some _ => throw "invalid type for disabled"
      | none => pure false
    pure ⟨name, key, ⟨tier, disabled⟩⟩
  | _ => throw ("judge " ++ name ++ " is not a table")

/-- Reads a credentials file. -/
def parse (text : String) : Except AuthError JudgeAuth := do
  let doc ← (Toml.parse text).mapError fun e => AuthError.toml (e.render text)
  let judges ← match doc with
    | .table entries =>
      match ((entries.find? (·.1 == "judges")).map (·.2) : Option Toml.Value) with
      | none => pure []
      | some (.table js) => (js.mapM fun (n, v) => credential n v).mapError AuthError.toml
      | some _ => throw (AuthError.toml "judges is not a table")
    | _ => pure []
  match judges.find? (·.key.isEmpty) with
  | some c => throw (AuthError.emptyKey c.name)
  | none => pure ⟨judges⟩

/-- The number of judges listed. -/
def size (a : JudgeAuth) : Nat := a.judges.length

/-- The OR of the bytewise XORs of two digests, taken over all their bytes: zero
exactly when the digests are equal. -/
def digestMismatch (listed given : Vector UInt8 32) : UInt8 :=
  (listed.toList.zip given.toList).foldl (fun acc (x, y) => acc ||| (x ^^^ y)) 0

/-- The profile of a judge, if it is listed and `hash` gives the key the digest of the
listed key. -/
def authenticateWith (hash : ByteArray → Vector UInt8 32) (a : JudgeAuth) (name key : String) :
    Option JudgeProfile :=
  match a.judges.find? (·.name == name) with
  | some c =>
    if digestMismatch (hash c.key.toUTF8) (hash key.toUTF8) == 0 then some c.profile else none
  | none => none

/-- The profile of a judge, if it is listed and the key has the SHA-256 digest of the
listed key. -/
def authenticate (a : JudgeAuth) (name key : String) : Option JudgeProfile :=
  a.authenticateWith Sha256.hash name key

end JudgeAuth

/-- Why loading a credentials file failed. -/
inductive LoadError where
  /-- The file could not be read. -/
  | unreadable (path message : String)
  /-- The file was read and refused. -/
  | invalid (path : String) (error : AuthError)
  deriving Repr

/-- What was being done when the load failed. -/
def LoadError.context : LoadError → String
  | .unreadable path _ => "Failed to read judge config " ++ path
  | .invalid path _ => "Invalid judge config " ++ path

/-- Why the load failed. -/
def LoadError.cause : LoadError → String
  | .unreadable _ m => m
  | .invalid _ e => e.message

/-- The description of a failed load, with its cause. -/
def LoadError.message (e : LoadError) : String := e.context ++ ": " ++ e.cause

/-- Loads a credentials file through `read`, which gives a file's text or the reason
it cannot be read. -/
def JudgeAuth.load (read : String → Except String String) (path : String) :
    Except LoadError JudgeAuth :=
  match read path with
  | .error m => .error (.unreadable path m)
  | .ok text => (JudgeAuth.parse text).mapError (LoadError.invalid path)

end JudgeRelay
