import JudgeRelay.Wire.Frame
import JudgeRelay.Wire.Proxy

/-!
# Reading packets from a stream

A reader holds a frame buffer. Asked for a packet, it takes the next frame once one is
buffered whole; until then it reads from the stream and buffers what each read brings. A
read that brings nothing is the end of the stream, and the packet is refused as `closed`.

A connection from a trusted proxy starts with a PROXY header, read the same way: the reader
reads until the bytes buffered hold the header or show that there is none, then takes the
header's bytes off the buffer and leaves what follows them for the frames.

The stream is given as what its successive reads bring; once they are spent, the stream
has ended.
-/

namespace JudgeRelay

namespace FrameBuffer

/-- The next packet, reading from the stream while no whole frame is buffered: the packet
or the error, the buffer, and the reads not yet made. -/
def readPacket : FrameBuffer → List ByteArray → Except WireError ByteArray × FrameBuffer × List ByteArray
  | b, reads =>
    match b.next, reads with
    | (.error e, b), reads => (.error e, b, reads)
    | (.ok (some p), b), reads => (.ok p, b, reads)
    | (.ok none, b), [] => (.error .closed, b, [])
    | (.ok none, b), chunk :: rest =>
      if chunk.size = 0 then (.error .closed, b, rest) else readPacket (b.push chunk) rest

/-- The PROXY header at the start of the stream, reading while the bytes buffered are too few
to tell: the header or the error, the buffer without the header's bytes, and the reads not
yet made. -/
def readProxyHeader : FrameBuffer → List ByteArray →
    Except WireError ProxyHeader × FrameBuffer × List ByteArray
  | b, reads =>
    match ProxyHeader.parse b.bytes with
    | .error e => (.error e, b, reads)
    | .ok (some (h, used)) => (.ok h, b.consume used, reads)
    | .ok none =>
      match reads with
      | [] => (.error .closed, b, [])
      | chunk :: rest =>
        if chunk.size = 0 then (.error .closed, b, rest) else readProxyHeader (b.push chunk) rest

end FrameBuffer

end JudgeRelay
