import Vocoder.Reader

/-!
# Ports

What a session needs of the thing through which it talks to the chip: to send a request whole, to
receive one packet, and to let go. Every line is a port, by way of a packet reader. A session works
over any port, so it never sees how packets are cut out of bytes.
-/

namespace Vocoder

/-- A way to exchange packets with the chip. Every operation gives its result and the port it
leaves. -/
class Port (L : Type) where
  /-- Send all of some bytes or fail. -/
  send : L → List UInt8 → Except Fault Unit × L
  /-- Take the next packet into a reader and say what it is. -/
  receive : Reader → L → Except Fault Response × Reader × L
  /-- Release the port. -/
  close : L → L

/-- A line is a port: a reader takes the packets off its bytes. -/
instance Line.port {L : Type} [Line L] : Port L where
  send := Line.send
  receive := Reader.receive
  close := Line.close

end Vocoder
