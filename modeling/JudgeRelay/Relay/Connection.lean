import JudgeRelay.Wire.Frame

/-!
# Connections

A connection is a stream in each direction between a client and the relay. The client
writes bytes that the relay reads; the relay writes frames that the client reads and
decodes as they arrive.

Either side may stop writing: the other then reads the end of the stream once it has
read everything before it. A side that goes away entirely also stops reading, and the
other side's writes then fail. A client may also stop reading while it keeps writing.
-/

namespace JudgeRelay

/-- Index of a connection. -/
abbrev ConnId := Nat

/-- Something a client read. -/
inductive Received where
  /-- The payload of a frame. -/
  | packet (payload : ByteArray)
  /-- A frame that could not be read. -/
  | failure (e : WireError)

/-- A connection between a client and the relay. -/
structure Conn where
  label : String
  /-- Bytes the client wrote that the relay has not read. -/
  inbound : ByteArray := ByteArray.empty
  /-- The client writes no more. -/
  clientDone : Bool := false
  /-- The client reads what the relay writes. -/
  clientReading : Bool := true
  /-- The relay has let go of the connection; the client's writes fail. -/
  serverGone : Bool := false
  /-- The relay writes no more. -/
  serverDone : Bool := false
  /-- The client's decoder of what the relay wrote. -/
  decoder : FrameBuffer := {}
  /-- What the client read and has not yet been looked at. -/
  received : List Received := []
  /-- The client read the end of the stream since it was last looked at. -/
  sawEnd : Bool := false

namespace Conn

/-- The client writes bytes; false when the write fails. -/
def clientWrite (c : Conn) (bytes : ByteArray) : Bool × Conn :=
  if c.clientDone || c.serverGone then (false, c)
  else (true, { c with inbound := c.inbound ++ bytes })

/-- The client stops writing. -/
def clientShutdown (c : Conn) : Conn := { c with clientDone := true }

/-- The client goes away: it neither writes nor reads. -/
def clientDrop (c : Conn) : Conn := { c with clientDone := true, clientReading := false }

/-- The client stops reading but may still write. -/
def clientStopReading (c : Conn) : Conn := { c with clientReading := false }

/-- The relay takes every byte written so far; true when the client writes no more,
so that the stream ends after these bytes. -/
def serverRead (c : Conn) : (ByteArray × Bool) × Conn :=
  ((c.inbound, c.clientDone), { c with inbound := ByteArray.empty })

/-- The relay writes bytes; false when the client no longer reads them. The client
decodes every complete frame. -/
def serverWrite (c : Conn) (bytes : ByteArray) : Bool × Conn :=
  if !c.clientReading || c.serverDone then (false, c)
  else
    let (frames, err, decoder) := (c.decoder.push bytes).drain
    let got := frames.map Received.packet ++ (err.map Received.failure).toList
    (true, { c with decoder, received := c.received ++ got })

/-- The relay stops writing; a reading client sees the end of the stream. -/
def serverShutdown (c : Conn) : Conn :=
  { c with serverDone := true, sawEnd := c.sawEnd || (c.clientReading && !c.serverDone) }

/-- The relay lets go of the connection: it stops writing and reading. -/
def serverDrop (c : Conn) : Conn := { c.serverShutdown with serverGone := true }

/-- What the client read since the last look, and whether it saw the end; both are
then cleared. -/
def look (c : Conn) : (List Received × Bool) × Conn :=
  ((c.received, c.sawEnd), { c with received := [], sawEnd := false })

/-- What the client read since the last look, and whether it saw the end; only what
it read is cleared. -/
def takeReceived (c : Conn) : (List Received × Bool) × Conn :=
  ((c.received, c.sawEnd), { c with received := [] })

end Conn

end JudgeRelay
