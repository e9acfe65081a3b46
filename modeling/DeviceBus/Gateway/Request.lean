import DeviceBus.Gateway.Delivery
import DeviceBus.Gateway.Path

/-! # Requests

Posting to a channel path publishes the payload. Getting one with Observe zero
registers an observation, with Observe one cancels it; an observation is known
by the publisher and the token of the request. Wildcards may be observed and not
published to. Confirmable requests are answered by their acknowledgement, others
by a message of their own.
-/

namespace DeviceBus.Gateway

open Coap Observe

def protocolName : String := "coap"

def credentialKey : String := "auth"

def observerId (publisher : String) (token : Bytes) : String :=
  publisher ++ "-" ++ token.hex

def reply (g : Gateway) (request : Packet) (code : UInt8) : Packet × Gateway :=
  match request.kind with
  | .confirmable => (Packet.ackFor request code, g)
  | _ =>
      let (messageId, g) := g.drawId
      ({ kind := .nonConfirmable, code, messageId, token := request.token }, g)

def answer (g : Gateway) (request : Packet) (code : UInt8) : Option Packet × Gateway :=
  let (packet, g) := g.reply request code
  (some packet, g)

/-- The answer to a registration, with an Observe value. -/
def observeAnswer (g : Gateway) (request : Packet) (value : UInt32) : Option Packet × Gateway :=
  let (packet, g) := g.reply request Code.content
  (some (packet.setObserve value), g)

/-- The publisher whom the request's credential names, if it may use the
channel. -/
def access (g : Gateway) (wall : Int64) (request : Packet) (channel : String) :
    Except AccessError String :=
  g.authorizer wall ((request.queryParam credentialKey).getD "") channel

def handlePost (g : Gateway) (wall : Int64) (request : Packet) (path : ChannelPath) :
    Option Packet × Gateway :=
  if Subject.isWildcard path.subtopic then g.answer request Code.badRequest
  else if request.kind = .confirmable ∧ request.payload = [] then
    g.answer request Code.badRequest
  else
    match g.access wall request path.channel with
    | .error _ => g.answer request Code.unauthorized
    | .ok publisher =>
        let message : Envelope :=
          { channel := path.channel
            subtopic := path.subtopic
            publisher
            protocol := protocolName
            payload := request.payload
            created := wall }
        match g.publish path.channel message with
        | (g, .error _) => g.answer request Code.internalServerError
        | (g, .ok ()) =>
            if request.kind = .confirmable then g.answer request Code.content else (none, g)

/-- Subscribes the observation with a feed of its own and begins its delivery. -/
def register (g : Gateway) (request : Packet) (observation : Observation) :
    Option Packet × Gateway :=
  let sequence : Sequence := { started := g.now }
  let index := g.feeds.length
  let (value, sequence) := sequence.next g.now
  match g.subscribe observation.client observation.topic (.feed index) with
  | (g, .ok ()) =>
      let g : Gateway := { g with feeds := g.feeds ++ [{}] }
      (g.spawn observation index sequence).observeAnswer request value
  | (g, .error .alreadySubscribed) => g.observeAnswer request value
  | (g, .error _) => g.answer request Code.internalServerError

/-- Cancels an observation; it is no error if there is none. -/
def deregister (g : Gateway) (request : Packet) (observation : Observation) :
    Option Packet × Gateway :=
  match g.unsubscribe observation.client observation.topic with
  | (g, .ok ()) => g.answer request Code.content
  | (g, .error .notSubscribed) => g.answer request Code.content
  | (g, .error _) => g.answer request Code.internalServerError

def handleGet (g : Gateway) (wall : Int64) (peer : Peer) (request : Packet) (path : ChannelPath) :
    Option Packet × Gateway :=
  if request.observe = some 0 ∨ request.observe = some 1 then
    match g.access wall request path.channel with
    | .error _ => g.answer request Code.unauthorized
    | .ok publisher =>
        let observation : Observation :=
          { client := observerId publisher request.token
            topic := path.topic
            peer
            token := request.token }
        if request.observe = some 0 then g.register request observation
        else g.deregister request observation
  else g.answer request Code.badRequest

def handleRequest (g : Gateway) (wall : Int64) (peer : Peer) (request : Packet) :
    Option Packet × Gateway :=
  match ChannelPath.parse? request.uriPath with
  | none => g.answer request Code.notFound
  | some path =>
      if request.code = Code.post then g.handlePost wall request path
      else if request.code = Code.get then g.handleGet wall peer request path
      else g.answer request Code.methodNotAllowed

def resolveAck (g : Gateway) (peer : Peer) (messageId : UInt16) (kind : AckKind) : Gateway :=
  { g with acks := (g.acks.resolve peer messageId kind).2 }

/-- What a packet from a peer leads to, with the reply that is due. -/
def handle (g : Gateway) (wall : Int64) (peer : Peer) (p : Packet) : Option Packet × Gateway :=
  match p.kind with
  | .acknowledgement => (none, g.resolveAck peer p.messageId .ack)
  | .reset => (none, g.resolveAck peer p.messageId .reset)
  | .confirmable =>
      if p.isEmpty then (some (Packet.resetOf p.messageId), g)
      else if p.isRequest then g.handleRequest wall peer p
      else (none, g)
  | .nonConfirmable => if p.isRequest then g.handleRequest wall peer p else (none, g)

def receive (g : Gateway) (wall : Int64) (peer : Peer) (p : Packet) : Gateway :=
  match g.handle wall peer p with
  | (some packet, g) => (g.send peer packet).2
  | (none, g) => g

end DeviceBus.Gateway
