import ExtensionPublisher.Http.Exchange

/-!
# Messages

How a request and an answer look on the wire. A request asks the other side to close the
connection behind the answer. An answer is read off the bytes that have come so far, as soon as
they hold all of it: its head ends at an empty line, and its body has the length that the head
tells, or comes in chunks, or goes on until the connection ends. Answers that only announce
another one are passed over.
-/
namespace ExtensionPublisher.Http

/-- The bytes of a text. -/
def ascii (text : String) : List UInt8 := Text.Utf8.encode text.toList

/-- The request as bytes: the line that asks, the headers, an empty line, and the
body. -/
def Sent.bytes (sent : Sent) : List UInt8 :=
  let usual := if sent.secure then 443 else 80
  let host := String.ofList sent.host ++
    if sent.port = usual then "" else ":" ++ toString sent.port
  let headers := ("host", host) :: sent.headers ++ [("connection", "close")]
  ascii (sent.method.word ++ " " ++ String.ofList sent.target ++ " HTTP/1.1\r\n") ++
    headers.flatMap (fun (name, value) => ascii (name ++ ": " ++ value ++ "\r\n")) ++
    ascii "\r\n" ++ sent.body

/-- A line from its bytes in reverse order, without the carriage return in front of
its end. -/
def lineOf : List UInt8 → List UInt8
  | 0x0D :: line => line.reverse
  | line => line.reverse

/-- The lines in front of the first empty one, and what is left behind it. The bytes of the line
that has been begun are given in reverse order. -/
def headLines? (line : List UInt8) : List UInt8 → Option (List (List UInt8) × List UInt8)
  | [] => none
  | 0x0A :: rest =>
    match lineOf line with
    | [] => some ([], rest)
    | whole => (headLines? [] rest).map fun (lines, left) => (whole :: lines, left)
  | b :: rest => headLines? (b :: line) rest

/-- The characters of bytes that are one character each. -/
def characters (bytes : List UInt8) : List Char := bytes.map fun b => Char.ofNat b.toNat

/-- The status that the first line of an answer gives. What is said behind the
number does not count. -/
def status? (line : List UInt8) : Option Nat :=
  match Text.parts ' ' (characters line) with
  | version :: status :: _ =>
    if "HTTP/1.".toList.isPrefixOf version && status.length == 3 then
      (Text.digits 10 999 status).toOption
    else none
  | _ => none

/-- The name and the value that a line of the head gives. The first colon divides
them. -/
def headerOf? (line : List UInt8) : Option (String × List UInt8) :=
  match line.dropWhile (· ≠ 0x3A) with
  | [] => none
  | _ :: value => some (String.ofList (characters (line.takeWhile (· ≠ 0x3A))), value)

/-- Where one is in a body that comes in chunks. Its last chunk is empty, and an empty line
follows. -/
inductive ChunkState where
  /-- In a line with a size, whose bytes are given in reverse order. -/
  | size (line : List UInt8)
  /-- In a chunk of which so much is left. -/
  | content (left : Nat)
  /-- Behind the last chunk, in a line that is empty so far or not. -/
  | trailer (empty : Bool)

/-- The size of a chunk, which something may follow behind a semicolon. It is
written in base sixteen. -/
def chunkSize? (line : List UInt8) : Option Nat :=
  let size := (characters (lineOf line)).takeWhile fun c => c ≠ ';' && c ≠ ' '
  (Text.digits 16 (UInt64.size - 1) size).toOption

/-- The content of chunks, if the last one has come. What has been read of it is given in reverse
order. -/
def chunked? (content : List UInt8) : ChunkState → List UInt8 → Option (List UInt8)
  | _, [] => none
  | .size line, b :: rest =>
    if b = 0x0A then
      match chunkSize? line with
      | none => none
      | some 0 => chunked? content (.trailer true) rest
      | some size => chunked? content (.content size) rest
    else chunked? content (.size (b :: line)) rest
  | .content 0, b :: rest =>
    if b = 0x0D then chunked? content (.content 0) rest
    else if b = 0x0A then chunked? content (.size []) rest
    else none
  | .content (left + 1), b :: rest => chunked? (b :: content) (.content left) rest
  | .trailer empty, b :: rest =>
    if b = 0x0A then if empty then some content.reverse else chunked? content (.trailer true) rest
    else chunked? content (.trailer (empty && b = 0x0D)) rest

namespace Received

/-- Whether the body comes in chunks, each with its size in front of it. -/
def isChunked (received : Received) : Bool :=
  (received.header? "transfer-encoding").any fun value =>
    Text.sameWord (String.ofList (characters value)) "chunked"

/-- The length of the body as the head tells it. What is no number tells nothing. -/
def length? (received : Received) : Option Nat := do
  let value ← received.header? "content-length"
  (Text.digits 10 (UInt64.size - 1) (characters value)).toOption

/-- The answer with what follows its head, if that is all of it. `ended` tells that nothing else
will come; then a body that is not all there is shorter than announced. -/
def withBody? (received : Received) (ended : Bool) (bytes : List UInt8) : Option Received :=
  if received.isChunked then
    match chunked? [] (.size []) bytes with
    | some body => some { received with body }
    | none => if ended then some { received with announced := some 1 } else none
  else
    match received.length? with
    | some length =>
      if ended || length ≤ bytes.length then
        some { received with body := bytes, announced := some length }
      else none
    | none =>
      if ended || received.status == 204 || received.status == 304 then
        some { received with body := bytes }
      else none

/-- Read an answer, passing over at most so many others. Those are answers that only
announce another one. -/
def readAfter? (ended : Bool) : Nat → List UInt8 → Option Received
  | others, bytes => do
    let (lines, left) ← headLines? [] bytes
    let status ← status? (lines.headD [])
    let received : Received := { status, headers := lines.tail.filterMap headerOf? }
    if 200 ≤ status || status == 101 then received.withBody? ended left
    else
      match others with
      | 0 => none
      | others + 1 => readAfter? ended others left

/-- Read an answer off the bytes that have come so far. There is none while some of
it is missing, unless the connection has ended. -/
def read? (ended : Bool) (bytes : List UInt8) : Option Received := readAfter? ended bytes.length bytes

end Received

end ExtensionPublisher.Http
