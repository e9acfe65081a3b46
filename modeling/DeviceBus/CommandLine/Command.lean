import DeviceBus.Text.Cut
import DeviceBus.Text.Numeral

/-! # Commands

The words of a command line name a command, its options and its argument. Words
are taken one after the other: the first wrong one decides, and so does the
first that asks for help.
-/

namespace DeviceBus.CommandLine

/-- The commands, and the one that explains them. -/
inductive Topic where
  | program
  | server
  | token
  | publish
  | help
  deriving DecidableEq

inductive Command where
  | server (config : Option String)
  | token (thing : String) (channels : List String) (seconds : Int) (config : Option String)
  | publish (address channel key payload : String)
  | help (topic : Topic)
  | version
  deriving DecidableEq

/-- The words name no command. -/
inductive UsageError where
  | misused
  deriving DecidableEq

/-! ## Options -/

/-- An option that takes a value. -/
structure Flag where
  name : String
  required : Bool := false
  repeatable : Bool := false
  accepts : String → Bool := fun _ => true

/-- What the words after a command can be. -/
structure Shape where
  flags : List Flag
  /-- Whether there is one argument besides. -/
  argument : Bool := false

/-- What the words after a command have given. -/
structure Given where
  values : List (String × String) := []
  argument : Option String := none

namespace Given

/-- The values of an option, in their order. -/
def all (g : Given) (name : String) : List String :=
  (g.values.filter fun v => v.1 == name).map Prod.snd

def one? (g : Given) (name : String) : Option String :=
  g.values.lookup name

def add? (g : Given) (flag : Flag) (value : String) : Option Given :=
  if !flag.accepts value || !flag.repeatable && (g.one? flag.name).isSome then none
  else some { g with values := g.values ++ [(flag.name, value)] }

/-- Adds an argument, if one is due. -/
def argue? (g : Given) (shape : Shape) (word : String) : Option Given :=
  if shape.argument && g.argument.isNone then some { g with argument := some word } else none

def isComplete (g : Given) (shape : Shape) : Bool :=
  shape.flags.all (fun flag => !flag.required || (g.one? flag.name).isSome) &&
    (!shape.argument || g.argument.isSome)

end Given

/-- The kinds of words. -/
inductive Word where
  /-- Two dashes: all words after it are arguments. -/
  | arguments
  | long (name : String) (value : Option String)
  | short (letters : List Char)
  | plain (text : String)

def Word.of (word : String) : Word :=
  match word.toList with
  | ['-', '-'] => .arguments
  | '-' :: '-' :: rest =>
      match Text.cut '=' (String.ofList rest) with
      | some (name, value) => .long name (some value)
      | none => .long (String.ofList rest) none
  | '-' :: c :: rest => .short (c :: rest)
  | _ => .plain word

/-- What the words after a command come to. -/
inductive Reading where
  | complete (given : Given)
  | helpAsked
  | misused

/-- Reads the words after a command; `pending` is an option that waits for its
value. -/
def read (shape : Shape) (given : Given) (pending : Option Flag) : List String → Reading
  | [] => if pending.isNone && given.isComplete shape then .complete given else .misused
  | word :: words =>
      match Word.of word, pending with
      | .plain text, some flag =>
          match given.add? flag text with
          | some given => read shape given none words
          | none => .misused
      | _, some _ => .misused
      | .plain text, none =>
          match given.argue? shape text with
          | some given => read shape given none words
          | none => .misused
      | .short letters, none => if letters.head? = some 'h' then .helpAsked else .misused
      | .arguments, none =>
          match words.foldlM (fun (g : Given) word => g.argue? shape word) given with
          | some given => if given.isComplete shape then .complete given else .misused
          | none => .misused
      | .long name value, none =>
          if name = "help" then if value.isNone then .helpAsked else .misused
          else
            match shape.flags.find? fun flag => flag.name == name, value with
            | none, _ => .misused
            | some flag, none => read shape given (some flag) words
            | some flag, some value =>
                match given.add? flag value with
                | some given => read shape given none words
                | none => .misused

/-! ## Commands -/

def configFlag : Flag :=
  { name := "config", accepts := fun value => value ≠ "" }

def secondsOf? (value : String) : Option Int :=
  Text.int64? value.toList

def serverShape : Shape :=
  { flags := [configFlag] }

def tokenShape : Shape :=
  { flags := [{ name := "thing", required := true },
      { name := "channel", required := true, repeatable := true },
      { name := "ttl-secs", accepts := fun value => (secondsOf? value).isSome }, configFlag] }

def publishShape : Shape :=
  { flags := [{ name := "addr" }, { name := "channel", required := true },
      { name := "key", required := true }]
    argument := true }

/-- A day. -/
def defaultSeconds : Int := 86400

def defaultAddress : String := "127.0.0.1:5683"

/-- The command with the given values, or the help that was asked for. -/
def finish (topic : Topic) (command : Given → Command) : Reading → Except UsageError Command
  | .complete given => .ok (command given)
  | .helpAsked => .ok (.help topic)
  | .misused => .error .misused

def topicOf? (word : String) : Option Topic :=
  if word = "server" then some .server
  else if word = "token" then some .token
  else if word = "publish" then some .publish
  else if word = "help" then some .help
  else none

/-- Reads the words after the name of a command. -/
def ofTopic (topic : Topic) (words : List String) : Except UsageError Command :=
  match topic with
  | .server =>
      finish topic (fun g => .server (g.one? "config")) (read serverShape {} none words)
  | .token =>
      finish topic (fun g => .token ((g.one? "thing").getD "") (g.all "channel")
        (((g.one? "ttl-secs").bind secondsOf?).getD defaultSeconds) (g.one? "config"))
        (read tokenShape {} none words)
  | .publish =>
      finish topic (fun g => .publish ((g.one? "addr").getD defaultAddress)
        ((g.one? "channel").getD "") ((g.one? "key").getD "") (g.argument.getD ""))
        (read publishShape {} none words)
  | .help | .program =>
      match words with
      | [] => .ok (.help .program)
      | [word] =>
          match topicOf? word with
          | some topic => .ok (.help topic)
          | none => .error .misused
      | _ => .error .misused

def Command.ofWords : List String → Except UsageError Command
  | [] => .error .misused
  | word :: words =>
      match Word.of word with
      | .long "version" none => .ok .version
      | .long "help" none => .ok (.help .program)
      | .short (letter :: _) =>
          if letter = 'V' then .ok .version
          else if letter = 'h' then .ok (.help .program)
          else .error .misused
      | .plain word =>
          match topicOf? word with
          | some topic => ofTopic topic words
          | none => .error .misused
      | _ => .error .misused

end DeviceBus.CommandLine
