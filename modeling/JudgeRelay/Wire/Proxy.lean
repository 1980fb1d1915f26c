import JudgeRelay.Net.Address
import JudgeRelay.Text.Escaped
import JudgeRelay.Wire.Error

/-!
# PROXY headers

A connection from a trusted proxy starts with one line of text (version 1 of the PROXY
protocol) that names the client's and the proxy's addresses:

    PROXY TCP4|TCP6|UNKNOWN <source> <destination> <source port> <destination port>\r\n

The line, with its line break, is at most 107 bytes. Fields are separated by single
spaces. `UNKNOWN` says the proxy could not tell, whatever follows it. Ports are
decimal without sign or leading zero.
-/

namespace JudgeRelay

/-- What a PROXY header says about a connection. -/
inductive ProxyHeader where
  /-- The proxy could not tell; the socket's own addresses stand. -/
  | unknown
  /-- The client's address and the address it connected to. -/
  | tcp (source destination : SocketAddress)
  deriving DecidableEq, Repr

namespace ProxyHeader

/-- Longest header, its line break included. -/
def maxLength : Nat := 107

/-- The bytes every header starts with. -/
def prefixBytes : ByteArray := "PROXY ".toUTF8

/-- The position of the first line break (CR LF), if any. -/
def lineEnd? (buf : ByteArray) : Option Nat :=
  (List.range (buf.size - 1)).find? fun i => buf.get! i == 13 && buf.get! (i + 1) == 10

/-- Reads one address with its port, of the family the header names. -/
def address (ip port : String) (wantV4 : Bool) : Except String SocketAddress := do
  let some a := IpAddress.parse? ip | throw ("invalid address " ++ ip)
  if a.isV4 != wantV4 then throw ("address " ++ a.toText ++ " does not match protocol family")
  if port.isEmpty || port.startsWith "+" || (port.length > 1 && port.startsWith "0") then
    throw ("invalid port " ++ port)
  let digitsOnly := port.toList.all fun c => '0' ≤ c ∧ c ≤ '9'
  let value := port.toList.foldl (fun acc c => acc * 10 + (c.toNat - '0'.toNat)) 0
  if !digitsOnly || value > 65535 then throw ("invalid port " ++ port)
  pure ⟨a, value.toUInt16, 0⟩

/-- Reads the header line without its line break. -/
def ofLine (line : String) : Except String ProxyHeader :=
  let parts := line.splitOn " "
  match parts[1]? with
  | some "UNKNOWN" => pure .unknown
  | some family =>
    if family == "TCP4" || family == "TCP6" then
      if parts.length != 6 then throw ("expected 6 fields, got " ++ toString parts.length)
      else do
        let wantV4 := family == "TCP4"
        let source ← address parts[2]! parts[4]! wantV4
        let destination ← address parts[3]! parts[5]! wantV4
        pure (.tcp source destination)
    else throw ("unsupported protocol family Some(" ++ Escaped.quote family ++ ")")
  | none => throw "unsupported protocol family None"

/-- Reads a header from the start of the bytes received: `none` while more bytes are
needed, else the header and how many bytes it took. -/
def parse (buf : ByteArray) : Except WireError (Option (ProxyHeader × Nat)) :=
  let n := min buf.size prefixBytes.size
  if buf.extract 0 n != prefixBytes.extract 0 n then .error (.proxyHeader "missing PROXY prefix")
  else
    match lineEnd? buf with
    | none =>
      if buf.size ≥ maxLength then .error (.proxyHeader "header too long") else .ok none
    | some stop =>
      if stop + 2 > maxLength then .error (.proxyHeader "header too long")
      else
        match String.fromUTF8? (buf.extract 0 stop) with
        | none => .error (.proxyHeader "header is not ASCII")
        | some line =>
          match ofLine line with
          | .ok h => .ok (some (h, stop + 2))
          | .error m => .error (.proxyHeader m)

end ProxyHeader

end JudgeRelay
