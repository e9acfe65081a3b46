import DeviceBus.Text.Cut
import DeviceBus.Text.Utf8

/-! # CoAP messages

A packet keeps its options in the order in which they were added; an option
number may occur any number of times. Path and query options are text and are
read lossily.
-/

namespace DeviceBus.Coap

inductive Kind where
  | confirmable
  | nonConfirmable
  | acknowledgement
  | reset
  deriving DecidableEq

/-! ## Codes

A code packs a class of three bits and a detail of five bits. -/

namespace Code

def empty : UInt8 := 0x00
def get : UInt8 := 0x01
def post : UInt8 := 0x02
def content : UInt8 := 0x45
def badRequest : UInt8 := 0x80
def unauthorized : UInt8 := 0x81
def notFound : UInt8 := 0x84
def methodNotAllowed : UInt8 := 0x85
def internalServerError : UInt8 := 0xA0

/-- Requests have class zero and are not empty. -/
def isRequest (code : UInt8) : Bool :=
  1 ≤ code && code < 32

/-- The class, a dot and the detail in two digits. -/
def text (code : UInt8) : String :=
  let detail := (code &&& 0x1F).toNat
  toString (code >>> 5).toNat ++ "." ++ (if detail < 10 then "0" else "") ++ toString detail

end Code

/-! ## Options -/

structure Opt where
  number : UInt16
  value : Bytes
  deriving DecidableEq

namespace Opt

def observeNumber : UInt16 := 6
def uriPathNumber : UInt16 := 11
def uriQueryNumber : UInt16 := 15

end Opt

/-- The shortest big-endian form of a number; zero is the empty string. -/
def encodeUint (value : UInt32) : Bytes :=
  [(value >>> 24).toUInt8, (value >>> 16).toUInt8, (value >>> 8).toUInt8, value.toUInt8].dropWhile
    (· == 0)

/-- The big-endian number of the first four octets. -/
def decodeUint (bs : Bytes) : UInt32 :=
  (bs.take 4).foldl (fun acc b => acc <<< 8 ||| b.toUInt32) 0

/-! ## Packets -/

structure Packet where
  kind : Kind
  code : UInt8
  messageId : UInt16
  token : Bytes := []
  options : List Opt := []
  payload : Bytes := []
  deriving DecidableEq

namespace Packet

def ackFor (request : Packet) (code : UInt8) : Packet :=
  { kind := .acknowledgement, code, messageId := request.messageId, token := request.token }

def emptyAck (messageId : UInt16) : Packet :=
  { kind := .acknowledgement, code := Code.empty, messageId }

def resetOf (messageId : UInt16) : Packet :=
  { kind := .reset, code := Code.empty, messageId }

def isEmpty (p : Packet) : Bool :=
  p.code == Code.empty

def isRequest (p : Packet) : Bool :=
  Code.isRequest p.code

def addOption (p : Packet) (number : UInt16) (value : Bytes) : Packet :=
  { p with options := p.options ++ [⟨number, value⟩] }

def addOptions (p : Packet) (number : UInt16) (values : List Bytes) : Packet :=
  { p with options := p.options ++ values.map fun value => ⟨number, value⟩ }

def optionValues (p : Packet) (number : UInt16) : List Bytes :=
  (p.options.filter fun o => o.number == number).map Opt.value

def uriPath (p : Packet) : List String :=
  (p.optionValues Opt.uriPathNumber).map Utf8.decodeLossy

def uriQuery (p : Packet) : List String :=
  (p.optionValues Opt.uriQueryNumber).map Utf8.decodeLossy

/-- The value of the query parameter `name`: the text after the first equals
sign of the first query option that starts with `name` and that sign. -/
def queryParam (p : Packet) (name : String) : Option String :=
  p.uriQuery.findSome? fun query =>
    match Text.cut '=' query with
    | some (key, value) => if key = name then some value else none
    | none => none

def observe (p : Packet) : Option UInt32 :=
  (p.optionValues Opt.observeNumber).head?.map decodeUint

/-- Replaces all Observe options by one at the end. -/
def setObserve (p : Packet) (value : UInt32) : Packet :=
  { p with
    options := (p.options.filter fun o => o.number != Opt.observeNumber) ++
      [⟨Opt.observeNumber, encodeUint value⟩] }

end Packet

end DeviceBus.Coap
