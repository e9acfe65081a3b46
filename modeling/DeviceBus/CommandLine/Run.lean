import DeviceBus.Access.Token
import DeviceBus.Backend
import DeviceBus.CommandLine.Help
import DeviceBus.Coap.Codec
import DeviceBus.Server
import DeviceBus.Settings.Sources
import DeviceBus.Settings.Variables

/-! # Running a command

A run sees the environment, some files, the clock and random octets, and comes
to an exit code and a text.
-/

namespace DeviceBus.CommandLine

structure Surroundings where
  environment : List (String × String) := []
  /-- The texts of the files that are there, by their names. -/
  files : List (String × String) := []
  /-- Seconds since the epoch. -/
  now : Int
  /-- Sixteen octets that nobody can guess. -/
  random : Bytes
  /-- Sends a datagram to an address; the answer is what comes back in time. -/
  exchange : (address : String) → Bytes → Option Bytes := fun _ _ => none

structure Outcome where
  code : Nat
  output : String := ""
  deriving DecidableEq

/-- The exit codes of runs that go wrong: a command failed, the words name none,
and a command could not be carried out. -/
def failureCode : Nat := 1
def usageCode : Nat := 2
def abortCode : Nat := 101

/-! ## Settings -/

/-- The file that adds variables to the environment. -/
def variablesFile : String := ".env"

/-- The document that is read if no other is named; it need not be there. -/
def defaultDocument : String := "config/default"

def documentEnding : String := ".toml"

/-- The text of a document. Its ending need not be given, and nothing with
another ending is a document. -/
def documentText? (files : List (String × String)) (name : String) : Option String :=
  match files.lookup name with
  | some text => if name.endsWith documentEnding then some text else none
  | none => files.lookup (name ++ documentEnding)

/-- The files that a command may read. -/
def Command.files (command : Command) : List String :=
  let document (config : Option String) : List String :=
    let name := config.getD defaultDocument
    [variablesFile, name, name ++ documentEnding]
  match command with
  | .server config | .token _ _ _ config => document config
  | .publish _ _ _ _ | .help _ | .version => []

def settings? (s : Surroundings) (config : Option String) : Option Settings := do
  let text ← match config with
    | some name => documentText? s.files name
    | none => some ((documentText? s.files defaultDocument).getD "")
  let environment := match s.files.lookup variablesFile with
    | some text => Settings.Variables.add s.environment text
    | none => s.environment
  Settings.load? text environment

/-! ## Commands -/

/-- The request that publishes a payload on a channel. Its ID is the start of its
token. -/
def publishRequest (token : Bytes) (channel key payload : String) : Coap.Packet :=
  let request : Coap.Packet :=
    { kind := .confirmable
      code := Coap.Code.post
      messageId := Bytes.toUInt16 (token.getD 0 0) (token.getD 1 0)
      token
      payload := Utf8.encode payload }
  let path := ["channels", channel, "messages"].map Utf8.encode
  (request.addOptions Coap.Opt.uriPathNumber path).addOption Coap.Opt.uriQueryNumber
    (Utf8.encode ("auth=" ++ key))

/-- Prints the code of the reply. -/
def runPublish (s : Surroundings) (address channel key payload : String) : Outcome :=
  let request := publishRequest (s.random.take 4) channel key payload
  let reply := request.encode.toOption.bind (s.exchange address)
  match reply.bind fun bs => (Coap.Packet.decode bs).toOption with
  | some packet => { code := 0, output := lines [Coap.Code.text packet.code] }
  | none => { code := failureCode }

def runToken (s : Surroundings) (thing : String) (channels : List String) (seconds : Int)
    (config : Option String) : Outcome :=
  match settings? s config with
  | none => { code := failureCode }
  | some settings =>
      match Token.issue? settings.tokenSecret s.now thing channels seconds with
      | some token => { code := 0, output := lines [token] }
      | none => { code := abortCode }

/-- Serves until the server ends, for whatever reason, which is no failure of the
command. -/
def runServer (s : Surroundings) (config : Option String) : Outcome :=
  match settings? s config with
  | none => { code := failureCode }
  | some settings =>
      match (Backend.ofUrl settings.brokerUrl s.random).bind Backend.connect with
      | .error _ => { code := failureCode }
      | .ok () =>
          match Server.bind settings.address with
          | .ok () | .error _ => { code := 0 }

def Command.run (s : Surroundings) : Command → Outcome
  | .server config => runServer s config
  | .token thing channels seconds config => runToken s thing channels seconds config
  | .publish address channel key payload => runPublish s address channel key payload
  | .help topic => { code := 0, output := helpText topic }
  | .version => { code := 0, output := versionText }

/-- Runs the command that words name. -/
def run (s : Surroundings) (words : List String) : Outcome :=
  match Command.ofWords words with
  | .ok command => command.run s
  | .error _ => { code := usageCode }

end DeviceBus.CommandLine
