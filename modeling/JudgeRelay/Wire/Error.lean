import JudgeRelay.Json.Read

/-!
# Connection errors

Every way a framed connection can fail. Each of them ends the connection; the caller
decides whether the peer gets a reply first.
-/

namespace JudgeRelay

/-- Text of a span of time given in nanoseconds: the largest unit among seconds,
milliseconds, microseconds and nanoseconds that the span reaches, and as many
decimals as it needs. -/
def durationText (nanos : Nat) : String :=
  let (whole, rest, unit, place) :=
    if nanos ≥ 1000000000 then (nanos / 1000000000, nanos % 1000000000, "s", 100000000)
    else if nanos ≥ 1000000 then (nanos / 1000000, nanos % 1000000, "ms", 100000)
    else if nanos ≥ 1000 then (nanos / 1000, nanos % 1000, "µs", 100)
    else (nanos, 0, "ns", 1)
  let digits := (List.range 9).filterMap fun i =>
    let p := place / Nat.pow 10 i
    if p = 0 then none else some (rest / p % 10)
  let digits := (digits.reverse.dropWhile (· = 0)).reverse
  let fraction := if digits.isEmpty then "" else "." ++ String.join (digits.map toString)
  toString whole ++ fraction ++ unit

/-- A failure on a framed connection. -/
inductive WireError where
  /-- The socket failed. -/
  | io (message : String)
  /-- The peer closed the stream, possibly inside a frame. -/
  | closed
  /-- No complete packet arrived in the allowed span (nanoseconds). -/
  | timeout (nanos : Nat)
  /-- An announced or inflated frame is larger than the limit. -/
  | frameTooLarge (size limit : Nat)
  /-- A frame body is not a complete compressed stream. -/
  | decompress
  /-- A payload is not the expected document. -/
  | json (error : Json.ReadError)
  /-- A PROXY header is missing, malformed or carries bad addresses. -/
  | proxyHeader (message : String)
  /-- A well-formed packet arrived where the exchange does not allow it. -/
  | unexpectedPacket (name : String)

namespace WireError

/-- The name of the kind of failure. -/
def kind : WireError → String
  | .io _ => "Io"
  | .closed => "Closed"
  | .timeout _ => "Timeout"
  | .frameTooLarge .. => "FrameTooLarge"
  | .decompress => "Decompress"
  | .json _ => "Json"
  | .proxyHeader _ => "ProxyHeader"
  | .unexpectedPacket _ => "UnexpectedPacket"

/-- The one-line description of a failure. -/
def message : WireError → String
  | .io m => "I/O error: " ++ m
  | .closed => "connection closed by peer"
  | .timeout n => "no packet received within " ++ durationText n
  | .frameTooLarge a b => s!"frame of {a} bytes exceeds the {b} byte limit"
  | .decompress => "invalid packet: corrupt deflate stream"
  | .json e => "malformed packet: " ++ e.message
  | .proxyHeader m => "bad PROXY header: " ++ m
  | .unexpectedPacket n => s!"unexpected {n} packet"

end WireError

end JudgeRelay
