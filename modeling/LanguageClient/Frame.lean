import LanguageClient.Json.Printer
import LanguageClient.Json.Reader

/-!
Message frames: a header block with the length of the body in bytes, an empty line, the body.
Bytes arrive in chunks of any size, and a body is taken out as soon as all of it has arrived.
-/

namespace LanguageClient

namespace Frame

/-- The bytes that end a header block. -/
def terminator : List UInt8 :=
  [13, 10, 13, 10]

/-- A body behind the header that counts its bytes. -/
def encode (body : List UInt8) : List UInt8 :=
  Text.Utf8.encode ("Content-Length: " ++ toString body.length) ++ terminator ++ body

/-- A message in its frame. -/
def ofMessage (message : Json.Value) : List UInt8 :=
  encode (Text.Utf8.encode message.print)

/-- Split bytes around the first terminator. -/
def splitAtTerminator : List UInt8 → Option (List UInt8 × List UInt8)
  | [] => none
  | 13 :: 10 :: 13 :: 10 :: rest => some ([], rest)
  | byte :: rest => (splitAtTerminator rest).map fun split => (byte :: split.1, split.2)

def lowerByte (byte : UInt8) : UInt8 :=
  if 65 ≤ byte && byte ≤ 90 then byte + 32 else byte

def isDigitByte (byte : UInt8) : Bool :=
  48 ≤ byte && byte ≤ 57

/-- The name of the header with the length, up to its colon. -/
def lengthName : List UInt8 :=
  Text.Utf8.encode "content-length:"

/-- What follows the first place where the name of the length header stands, in any case. -/
def afterLengthName : List UInt8 → Option (List UInt8)
  | [] => none
  | byte :: rest =>
    if lengthName.isPrefixOf ((byte :: rest).map lowerByte) then
      some ((byte :: rest).drop lengthName.length)
    else
      afterLengthName rest

/-- The largest length that a header can give. -/
def lengthLimit : Nat :=
  Nat.pow 2 64 - 1

/-- The number that digits spell. -/
def digitsValue (digits : List UInt8) : Nat :=
  digits.foldl (fun value digit => 10 * value + (digit.toNat - 48)) 0

/-- The length that a header block gives, when it gives one that can be read. -/
def bodyLength? (header : List UInt8) : Option Nat :=
  (afterLengthName header).bind fun rest =>
    let digits := (rest.dropWhile fun byte => byte == 32 || byte == 9).takeWhile isDigitByte
    let length := digitsValue digits
    if digits.isEmpty || length > lengthLimit then none else some length

end Frame

/-- The bytes that have arrived and do not make up a whole body yet. -/
structure Framer where
  buffer : List UInt8 := []
deriving DecidableEq, Repr

namespace Framer

/--
Take the next whole body out of bytes, with what is left. A header block without a usable length
is dropped, so that reading goes on with the next one. A dropped block takes a byte at least, so
the number of bytes bounds the number of blocks. No buffer holds more bytes than can be counted,
so a body whose end is past `lengthLimit` never arrives, and its header block stays.
-/
def takeBody : Nat → List UInt8 → Option (List UInt8) × List UInt8
  | 0, bytes => (none, bytes)
  | bound + 1, bytes =>
    match Frame.splitAtTerminator bytes with
    | none => (none, bytes)
    | some (header, rest) =>
      match Frame.bodyLength? header with
      | none => takeBody bound rest
      | some length =>
        if rest.length < length then
          (none, bytes)
        else
          (some (rest.take length), rest.drop length)

/-- Take the next whole body. -/
def nextBody (framer : Framer) : Option (List UInt8) × Framer :=
  let (body, rest) := takeBody framer.buffer.length framer.buffer
  (body, { buffer := rest })

/-- Take every whole body, of which there are at most `bound`. -/
def takeBodies : Nat → Framer → List (List UInt8) × Framer
  | 0, framer => ([], framer)
  | bound + 1, framer =>
    match framer.nextBody with
    | (none, rest) => ([], rest)
    | (some body, rest) =>
      let (bodies, last) := takeBodies bound rest
      (body :: bodies, last)

/-- Take the bodies that a chunk completes, in the order of their arrival. -/
def feedBodies (framer : Framer) (chunk : List UInt8) : List (List UInt8) × Framer :=
  let received := { buffer := framer.buffer ++ chunk : Framer }
  takeBodies received.buffer.length received

/-- Take the messages that a chunk completes. Bodies that are no documents are dropped. -/
def feed (framer : Framer) (chunk : List UInt8) : List Json.Value × Framer :=
  let (bodies, rest) := framer.feedBodies chunk
  (bodies.filterMap fun body => (Json.Value.readBytes body).toOption, rest)

end Framer

end LanguageClient
