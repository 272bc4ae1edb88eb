import PipelinedClient.Response
import PipelinedClient.Message
import PipelinedClient.Transport.Channel

/-! How messages become bytes. A format may keep a state, may fail on a message after
it has put out some bytes, and consumes input for every response that it reads. What it
puts out is appended to a buffer that serves for one message after the other. -/

set_option autoImplicit false

namespace PipelinedClient

structure Encoding where
  bytes : List UInt8
  failure : Option IoError

class MessageFormat (φ : Type) where
  write : φ → Message → Encoding × φ
  read : φ → Incoming → Except IoError Response × Incoming × φ
  read_shorter : ∀ format incoming response, (read format incoming).1 = .ok response →
    (read format incoming).2.1.bytes.length < incoming.bytes.length

structure Buffer where
  bytes : List UInt8

namespace Buffer

def empty : Buffer := ⟨[]⟩

def clear (_buffer : Buffer) : Buffer := empty

def append (buffer : Buffer) (bytes : List UInt8) : Buffer := ⟨buffer.bytes ++ bytes⟩

end Buffer

/-- Encode a message behind what a buffer holds. Whatever was put out stays there, also
if encoding failed. -/
def MessageFormat.encodeInto {φ : Type} [MessageFormat φ] (format : φ) (buffer : Buffer)
    (message : Message) : Option IoError × Buffer × φ :=
  let (encoding, after) := MessageFormat.write format message
  (encoding.failure, buffer.append encoding.bytes, after)

structure LineFormat where

namespace LineFormat

def bytesOfText (text : String) : List UInt8 := text.toUTF8.toList

/-- A statement that is set aside to fail half way. -/
def unencodable : String := "!encode"

def encode : Message → Encoding
  | .run statement _ =>
    if statement = unencodable then
      ⟨bytesOfText "PARTIAL", some (.custom .invalidInput "cannot encode")⟩
    else ⟨bytesOfText "RUN\n", none⟩
  | message => ⟨bytesOfText (message.name ++ "\n"), none⟩

def splitBlank (text : List Char) : List Char × List Char :=
  (text.takeWhile fun c => c != ' ', (text.dropWhile fun c => c != ' ').drop 1)

def integer? (text : List Char) : Option Int64 :=
  let (negative, digits) := match text with
    | '-' :: rest => (true, rest)
    | '+' :: rest => (false, rest)
    | rest => (false, rest)
  if digits.isEmpty || !digits.all Char.isDigit then none
  else
    let size : Int := Nat.ofDigitChars 10 digits 0
    int64? (if negative then -size else size)

def responseOfLine? (line : List Char) : Option Response :=
  let (name, rest) := splitBlank line
  let (second, third) := splitBlank rest
  match String.ofList name with
  | "SUCCESS" => some (.success .empty)
  | "RECORD" => some (.record [.integer ((integer? second).getD 0)])
  | "FAILURE" => some (.failure (String.ofList second) (String.ofList third))
  | "IGNORED" => some .ignored
  | _ => none

def badLine : IoError := .custom .invalidData "bad line"

def decode (line : List UInt8) : Except IoError Response :=
  match (String.fromUTF8? (ByteArray.mk line.toArray)).bind fun text =>
      responseOfLine? text.toList with
  | some response => .ok response
  | none => .error badLine

def readResponse (incoming : Incoming) : Except IoError Response × Incoming :=
  match incoming.readLine with
  | (.ok line, rest) => (decode line, rest)
  | (.error failure, rest) => (.error failure, rest)

theorem readResponse_shorter {incoming : Incoming} {response : Response}
    (success : (readResponse incoming).1 = .ok response) :
    (readResponse incoming).2.bytes.length < incoming.bytes.length := by
  unfold readResponse at success ⊢
  split at success
  · rename_i line rest read
    have shorter : incoming.readLine.2.bytes.length < incoming.bytes.length :=
      Incoming.readLine_shorter (congrArg Prod.fst read)
    simpa [read] using shorter
  · cases success

instance : MessageFormat LineFormat where
  write format message := (encode message, format)
  read format incoming := ((readResponse incoming).1, (readResponse incoming).2, format)
  read_shorter _ _ _ success := readResponse_shorter success

end LineFormat

end PipelinedClient
