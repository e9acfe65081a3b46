import DeviceBus.Subject

/-! # Channel paths

Requests address a channel by the path `channels/<channel>/messages`, which
further segments extend by a subtopic. The channel is one literal token: a dot
would reach into another channel, a wildcard into many.
-/

namespace DeviceBus.Gateway

structure ChannelPath where
  channel : String
  subtopic : String
  deriving DecidableEq

namespace ChannelPath

def isLiteral (channel : String) : Bool :=
  channel ≠ "" && !channel.toList.any fun c => c = '.' || c = '*' || c = '>'

def parse? : List String → Option ChannelPath
  | root :: channel :: messages :: rest =>
      if root = Subject.root ∧ messages = "messages" ∧ isLiteral channel = true ∧ "" ∉ rest then
        some { channel, subtopic := String.intercalate "." rest }
      else none
  | _ => none

def topic (p : ChannelPath) : String :=
  Subject.topicName p.channel p.subtopic

end ChannelPath

end DeviceBus.Gateway
