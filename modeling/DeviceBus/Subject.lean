/-! # Subjects and subject patterns

A subject is a dotted list of tokens. In a pattern the token `*` stands for any
one token, and `>` in last place stands for one or more tokens; anywhere else
`>` is an ordinary token.
-/

namespace DeviceBus.Subject

abbrev Token := List Char

/-- The wildcard for exactly one token. -/
def anyOne : Token := ['*']

/-- The wildcard for one or more tokens, in last place only. -/
def anyRest : Token := ['>']

def tokens (subject : String) : List Token :=
  subject.toList.splitOn '.'

def ofTokens (ts : List Token) : String :=
  String.ofList (['.'].intercalate ts)

/-- The first token of every channel topic. -/
def root : String := "channels"

/-- The topic of a channel, with its dotted subtopic when there is one. -/
def topicName (channel subtopic : String) : String :=
  if subtopic = "" then root ++ "." ++ channel
  else root ++ "." ++ channel ++ "." ++ subtopic

def tokensMatch : List Token → List Token → Bool
  | [], subject => subject.isEmpty
  | p :: ps, subject =>
      if p = anyRest ∧ ps = [] then !subject.isEmpty
      else
        match subject with
        | [] => false
        | s :: ss => (p == anyOne || p == s) && tokensMatch ps ss

/-- Whether `pattern` selects the concrete `subject`. -/
def selects (pattern subject : String) : Bool :=
  tokensMatch (tokens pattern) (tokens subject)

def isWildcard (pattern : String) : Bool :=
  (tokens pattern).any fun t => t == anyOne || t == anyRest

end DeviceBus.Subject
