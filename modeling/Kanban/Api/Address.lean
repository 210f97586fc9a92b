import Kanban.Text.Digit
import Kanban.Text.Pieces

/-!
# Addresses

The text by which a part of the board is asked for may be a whole address: a scheme with a
colon, a host after two slashes, a path, a query after a question mark and, after a hash sign,
something that is not sent.  `Address.ofChars` takes host, path and query from it; all of them
may be missing.  `Address.hasFitHost` says whether a host can be called at all, and
`Address.usualPath` writes the host at the start of a path in its usual way.
-/

namespace Kanban.Api

/-- A host, a path and a query. -/
structure Address where
  host : List Char
  path : List Char
  query : List Char

namespace Address

/-- A control character or a blank of ASCII. -/
def isControlOrBlank (c : Char) : Bool := c.toNat ≤ 0x20

/-- A character that does not count wherever it stands. -/
def isIgnored (c : Char) : Bool := c == '\t' || c == '\n' || c == '\r'

/-- A character of a scheme. -/
def isSchemeChar (c : Char) : Bool := c.isAlphanum || c == '+' || c == '-' || c == '.'

/-- What follows the scheme, if there is one. -/
def afterScheme (cs : List Char) : List Char :=
  match cs.takeWhile (· ≠ ':'), cs.dropWhile (· ≠ ':') with
  | c :: scheme, _ :: rest => if c.isAlpha && scheme.all isSchemeChar then rest else cs
  | _, _ => cs

/-- A character that ends the name of a host. -/
def endsHost (c : Char) : Bool := c == '/' || c == '?' || c == '#'

/-- The host, after two slashes, and the rest. -/
def splitHost : List Char → List Char × List Char
  | '/' :: '/' :: cs => cs.span (!endsHost ·)
  | cs => ([], cs)

/-- The address that a text is. -/
def ofChars (cs : List Char) : Address :=
  let (host, cs) := splitHost (afterScheme ((cs.dropWhile isControlOrBlank).filter (!isIgnored ·)))
  let cs := cs.takeWhile (· ≠ '#')
  ⟨host, cs.takeWhile (· ≠ '?'), (cs.dropWhile (· ≠ '?')).drop 1⟩

/-- The path and the query as a text. -/
def target (a : Address) : List Char :=
  a.path ++ if a.query = [] then [] else '?' :: a.query

/-! ### Hosts -/

/-- A part of a number between the colons of a host's number. -/
def isHextet (cs : List Char) : Bool :=
  !cs.isEmpty && cs.length ≤ 4 && cs.all fun c => Text.isHexDigit c

/-- The number that decimal digits write. -/
def decimalValue (cs : List Char) : Nat := cs.foldl (fun n c => 10 * n + (c.toNat - '0'.toNat)) 0

/-- A number up to 255 in decimal digits, without zeros in front. -/
def isOctet (cs : List Char) : Bool :=
  !cs.isEmpty && cs.length ≤ 3 && cs.all Char.isDigit && (cs.length = 1 || cs.head? ≠ some '0')
    && decimalValue cs ≤ 255

/-- Four numbers with points between them. -/
def isFourOctets (cs : List Char) : Bool :=
  let parts := Text.pieces (· == '.') cs
  parts.length == 4 && parts.all isOctet

/-- The parts between the colons, the last of which may be written as four numbers and then
counts as two. -/
def hextets? (cs : List Char) : Option (List (List Char)) :=
  let parts := Text.pieces (· == ':') cs
  match parts.getLast? with
  | some last =>
    if last.contains '.' then
      if isFourOctets last then some (parts.dropLast ++ [['0'], ['0']]) else none
    else some parts
  | none => none

/-- The inner places, of a list of parts, at which nothing stands. -/
def gaps (parts : List (List Char)) : List Nat :=
  (parts.zipIdx.filter fun (p, i) => p.isEmpty && 0 < i && i + 1 < parts.length).map (·.2)

/-- The parts without an empty one at the outer end. -/
def inner (parts : List (List Char)) : List (List Char) :=
  if parts = [[]] then [] else parts

/-- A number of eight parts with colons between them, in which two colons may stand for parts
that are zero. -/
def isEightHextets (cs : List Char) : Bool :=
  match hextets? cs with
  | none => false
  | some parts =>
    3 ≤ parts.length && parts.length ≤ 9
      && match gaps parts with
        | [] => parts.length == 8 && parts.all isHextet
        | [i] =>
          let high := inner (parts.take i)
          let low := inner (parts.drop (i + 1))
          high.length + low.length ≤ 7 && high.all isHextet && low.all isHextet
        | _ => false

/-- A host's number as it stands in brackets: eight parts and, after a percent sign, the name
of a zone; or one of a kind that is still to come. -/
def isBracketed (cs : List Char) : Bool :=
  match cs with
  | 'v' :: rest =>
    let version := rest.takeWhile fun c : Char => Text.isHexDigit c
    match rest.drop version.length with
    | '.' :: _ :: _ => !version.isEmpty
    | _ => false
  | _ =>
    let zone := (cs.dropWhile (· ≠ '%')).drop 1
    (!cs.contains '%' || (!zone.isEmpty && !zone.contains '%'))
      && isEightHextets (cs.takeWhile (· ≠ '%'))

/-- Brackets in a host stand around a number. -/
def hasFitBrackets (host : List Char) : Bool :=
  if host.contains '[' && host.contains ']' then
    isBracketed (((host.dropWhile (· ≠ '[')).drop 1).takeWhile (· ≠ ']'))
  else !host.contains '[' && !host.contains ']'

/-- A character that is another form of a mark by which an address is cut, or holds one. -/
def isFalseMark (c : Char) : Bool := "⁇⁈⁉℀℁℅℆⩴︓︖﹕﹖﹟﹫＃／：？＠".toList.contains c

/-- The host can be told apart from what is around it. -/
def isReadable (host : List Char) : Bool := hasFitBrackets host && !host.any isFalseMark

/-- The user in front of the name of a host. -/
def user (host : List Char) : List Char :=
  (((host.reverse.dropWhile (· ≠ '@')).drop 1).reverse).takeWhile (· ≠ ':')

/-- The name of a host, without the user in front of it, and the number of its socket. -/
def nameAndSocket (host : List Char) : List Char × List Char :=
  let host := ((Text.pieces (· == '@') host).getLast?).getD []
  if host.contains '[' then
    let inner := (host.dropWhile (· ≠ '[')).drop 1
    (inner.takeWhile (· ≠ ']'), ((inner.dropWhile (· ≠ ']')).dropWhile (· ≠ ':')).drop 1)
  else (host.takeWhile (· ≠ ':'), (host.dropWhile (· ≠ ':')).drop 1)

/-- The greatest number of a socket. -/
def lastSocket : Nat := 65535

/-- The number of a socket, which may be missing. -/
def isSocket (cs : List Char) : Bool := cs.all Char.isDigit && decimalValue cs ≤ lastSocket

/-- The greatest length of a part of a host's name. -/
def longestLabel : Nat := 63

/-- A character of ASCII. -/
def isAscii (c : Char) : Bool := c.toNat < 0x80

/-- A full stop, of any kind, between the parts of a host's name. -/
def isStop (c : Char) : Bool := c == '.' || c == '。' || c == '．' || c == '｡'

/-- The parts of a host's name are of a fit length; only the last one may be empty. -/
def hasFitLabels (name : List Char) : Bool :=
  let labels := Text.pieces (if name.all isAscii then (· == '.') else isStop) name
  labels.all (·.length ≤ longestLabel) && labels.dropLast.all (!·.isEmpty)

/-- The host can be called. -/
def hasFitHost (a : Address) : Bool :=
  let (name, socket) := nameAndSocket a.host
  isReadable a.host && hasFitLabels name && isSocket socket

/-- The name of a host in small letters, save for a zone behind a percent sign. -/
def smallName (name : List Char) : List Char :=
  (name.takeWhile (· ≠ '%')).map Char.toLower ++ name.dropWhile (· ≠ '%')

/-- A host as it is usually written: in small letters, with its user and its socket only if
they say something. -/
def usualHost (host : List Char) : List Char :=
  let (name, socket) := nameAndSocket host
  (if user host = [] then [] else user host ++ ['@']) ++ smallName name
    ++ if decimalValue socket = 0 then [] else ':' :: (toString (decimalValue socket)).toList

/-- A path, at whose start a host is written in its usual way. -/
def usualPath (path : List Char) : List Char :=
  match path with
  | '/' :: '/' :: _ => ['/', '/'] ++ usualHost (ofChars path).host ++ (ofChars path).path
  | _ => path

end Address

end Kanban.Api
