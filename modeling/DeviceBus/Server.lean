import DeviceBus.Coap.Codec
import DeviceBus.Gateway.Request

/-! # Serving datagrams

A server reads datagrams at an address and gives the packets in them to a
gateway. What does not read as a packet is dropped. This host has no sockets, so
that no address can be bound.
-/

namespace DeviceBus.Server

inductive ServerError where
  | cannotBind (address : String)
  deriving DecidableEq

def bind (address : String) : Except ServerError Unit :=
  .error (.cannotBind address)

/-- The datagram with the reply that is due to a datagram, if one is. -/
def respond (g : Gateway) (wall : Int64) (peer : Peer) (datagram : Bytes) :
    Option Bytes × Gateway :=
  match Coap.Packet.decode datagram with
  | .error _ => (none, g)
  | .ok packet =>
      let (reply, g) := g.handle wall peer packet
      (reply.bind fun packet => packet.encode.toOption, g)

end DeviceBus.Server
