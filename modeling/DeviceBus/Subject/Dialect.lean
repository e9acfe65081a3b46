import DeviceBus.Subject

/-! # Patterns in the grammars of other brokers

Topic exchanges keep the dots and write `#` for `>`. Topic filters use slashes
and write `+` for `*` and `#` for `>`. Only whole tokens change.
-/

namespace DeviceBus.Subject

def toBindingKey (pattern : String) : String :=
  ofTokens ((tokens pattern).map fun t => if t = anyRest then ['#'] else t)

def filterLevel (t : Token) : Token :=
  if t = anyRest then ['#'] else if t = anyOne then ['+'] else t

def toTopicFilter (pattern : String) : String :=
  String.ofList (['/'].intercalate ((tokens pattern).map filterLevel))

/-- The subject that a slash-separated topic names. -/
def ofSlashTopic (topic : String) : String :=
  String.ofList (topic.toList.map fun c => if c = '/' then '.' else c)

end DeviceBus.Subject
