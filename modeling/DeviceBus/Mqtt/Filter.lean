import DeviceBus.Subject.Dialect

/-! # Topic filters as sent to an MQTT broker

A queue group becomes a shared subscription: the group name stands between a
fixed head and the filter, each followed by a slash.
-/

namespace DeviceBus.Mqtt

/-- What every shared filter starts with. -/
def sharedHead : String := "$share/"

def wireFilter (pattern : String) : Option String → String
  | some group => sharedHead ++ group ++ "/" ++ Subject.toTopicFilter pattern
  | none => Subject.toTopicFilter pattern

def isShared (filter : String) : Bool :=
  sharedHead.toList.isPrefixOf filter.toList

end DeviceBus.Mqtt
