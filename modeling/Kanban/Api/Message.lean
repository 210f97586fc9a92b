import Kanban.Api
import Kanban.Api.Address
import Kanban.Text.Uppercase

/-!
# Messages

A `Message` is a request as it travels: a method, the path that names a part of the board, the
parameters of a query and a body.  `Target.ofText?` takes path and parameters from the address in
which they travel, where a byte may be written as two hexadecimal digits after a percent sign.
-/

namespace Kanban.Api

/-- The method of a name, in letters of either case. -/
def Method.ofName (s : String) : Method :=
  match Text.upperAscii s with
  | "GET" => .get
  | "HEAD" => .head
  | "POST" => .post
  | "PUT" => .put
  | "DELETE" => .delete
  | "OPTIONS" => .options
  | _ => .other

/-! ### Targets -/

/-- A path and the parameters of a query. -/
structure Target where
  path : String
  query : List (String × String)

namespace Target

/-- The bytes that characters stand for, where a percent sign and two hexadecimal digits are
one byte. -/
def bytes : List Char → List UInt8
  | [] => []
  | '%' :: a :: b :: rest =>
    match Json.hexValue? a, Json.hexValue? b with
    | some x, some y => (16 * x + y).toUInt8 :: bytes rest
    | _, _ => '%'.toString.toUTF8.toList ++ bytes (a :: b :: rest)
  | c :: rest => c.toString.toUTF8.toList ++ bytes rest

/-- The character that stands for bytes of a path that encode nothing. -/
def replacement : Char := '\ufffd'

/-- The text of a path. -/
def decodePath (cs : List Char) : List Char :=
  Text.decodeUtf8With (fun _ => [replacement]) (bytes cs)

/-- A byte as two hexadecimal digits after a percent sign. -/
def percentByte (b : UInt8) : List Char :=
  '%' :: ((Text.hexDigits 2 b.toNat).filterMap Point.char?).map Char.toUpper

/-- The text that some characters of a parameter stand for.  Bytes that encode nothing stay as
they were written. -/
def decodeRun (cs : List Char) : List Char :=
  Text.decodeUtf8With (fun bs => bs.flatMap percentByte) (bytes cs)

/-- The text that the characters of a parameter stand for, where a plus is a blank.  What is
not ASCII stands for itself and keeps the bytes around it apart. -/
def decodeParameter (cs : List Char) : String :=
  let runs := (cs.map fun c => if c = '+' then ' ' else c).splitBy fun a b =>
    Address.isAscii a == Address.isAscii b
  String.ofList (runs.flatMap fun run => if run.all Address.isAscii then decodeRun run else run)

/-- A parameter: a name, and its value after an equals sign. -/
def parameter (cs : List Char) : String × String :=
  (decodeParameter (cs.takeWhile (· ≠ '=')), decodeParameter ((cs.dropWhile (· ≠ '=')).drop 1))

/-- The parameters of a query. -/
def parameters (cs : List Char) : List (String × String) :=
  ((Text.pieces (· == '&') cs).filter (!·.isEmpty)).map parameter

/-- The text with exactly one slash at its start. -/
def rooted (cs : List Char) : List Char := '/' :: cs.dropWhile (· == '/')

/-- The target that a text is; none when it names a host that cannot be called.  What stands
in the text as its path and query may once more be an address. -/
def ofText? (s : String) : Option Target :=
  let outer := Address.ofChars s.toList
  let a := Address.ofChars outer.target
  let path := a.path.dropWhile Address.isControlOrBlank
  if outer.hasFitHost && Address.isReadable a.host && (Address.ofChars path).hasFitHost then
    some {
      path := String.ofList (rooted (decodePath (Address.usualPath path)))
      query := parameters a.query }
  else none

end Target

/-- A request as it travels. -/
structure Message extends Target where
  method : Method
  body : ByteArray

namespace Message

/-- What a handler is told of a message.  A body in which no text is found, or none that is JSON,
has the value `null`. -/
def request (m : Message) : Request where
  parameter? name := name.string?.bind fun name => (m.query.lookup name).map Text.ofString
  value := ((Text.decodeAny? m.body).bind Json.read?).getD .null
  body := m.body

end Message

end Kanban.Api
