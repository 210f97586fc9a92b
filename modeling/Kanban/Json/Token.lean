import Kanban.Json
import Kanban.Number.Layout

/-!
# JSON tokens

Text is cut into tokens one character at a time.  A `Scan` holds the tokens found so far and
what is being read: nothing, a word (a number or one of the fixed names) or the inside of a
string.  `Scan.step` reads a character and `Token.ofChars?` a whole text, in which every
number has to be written as the grammar asks, every escape has to be one of those known, and
no control character may stand in a string.  Two numeric escapes in a row for the halves of
a surrogate pair stand for the character of the pair; an escape for a half alone stands for
the half.
-/

namespace Kanban.Json

/-- A token of JSON text; a string, number or fixed name comes as its value. -/
inductive Token where
  | openArray
  | closeArray
  | openObject
  | closeObject
  | comma
  | colon
  | value (v : Json)

/-! ### Numbers and fixed names -/

/-- An ASCII digit. -/
def isNumeral (c : Point) : Bool := '0' ≤ c && c ≤ '9'

/-- The number that a row of ASCII digits writes. -/
def numeralsValue (ds : List Point) : Nat :=
  ds.foldl (fun n c => 10 * n + (c.toNat - '0'.toNat)) 0

/-- The digits of an integer stand without a zero in front. -/
def isIntegerPart (ds : List Point) : Bool :=
  match ds with
  | [] => false
  | [.char '0'] => true
  | .char '0' :: _ => false
  | _ => true

/-- The fraction at the head of a text, if a point stands there: its digits and the rest. -/
def fraction? : List Point → Option (List Point × List Point)
  | .char '.' :: cs =>
    match cs.span isNumeral with
    | ([], _) => none
    | (ds, rest) => some (ds, rest)
  | cs => some ([], cs)

/-- The exponent that is the whole of a text; the empty text stands for none. -/
def exponent? : List Point → Option (Option Int)
  | [] => some none
  | e :: cs =>
    if e = 'e' ∨ e = 'E' then
      let (negative, ds) := match cs with
        | .char '-' :: ds => (true, ds)
        | .char '+' :: ds => (false, ds)
        | ds => (false, ds)
      if ds ≠ [] ∧ ds.all isNumeral then
        some (some (if negative then -(numeralsValue ds : Int) else numeralsValue ds))
      else none
    else none

/-- The number that a text without sign writes. -/
def unsigned? (negative : Bool) (cs : List Point) : Option Number := do
  let (ds, rest) := cs.span isNumeral
  guard (isIntegerPart ds)
  let (fs, rest) ← fraction? rest
  match fs, ← exponent? rest with
  | [], none =>
    guard (ds.length ≤ Number.maxDigits)
    let n : Int := numeralsValue ds
    pure (.int (if negative then -n else n))
  | fs, e =>
    pure (.float (Double.ofDecimal negative (numeralsValue (ds ++ fs)) (e.getD 0 - fs.length)))

/-- The values with fixed names. -/
def fixedNames : List (Text × Json) := [
  ("null", .null), ("true", .bool true), ("false", .bool false), ("NaN", .num (.float .nan)),
  ("Infinity", .num (.float (.infinite false))), ("-Infinity", .num (.float (.infinite true)))]

/-- The value of a word: a fixed name or a number. -/
def ofWord? (cs : List Point) : Option Json :=
  match fixedNames.lookup (Text.ofList cs) with
  | some v => some v
  | none =>
    match cs with
    | .char '-' :: rest => (unsigned? true rest).map .num
    | _ => (unsigned? false cs).map .num

/-! ### Strings -/

/-- The value of a hexadecimal digit. -/
def hexValue? (c : Point) : Option Nat :=
  if isNumeral c then some (c.toNat - '0'.toNat)
  else if 'a' ≤ c ∧ c ≤ 'f' then some (c.toNat - 'a'.toNat + 10)
  else if 'A' ≤ c ∧ c ≤ 'F' then some (c.toNat - 'A'.toNat + 10)
  else none

/-- The character of a one-letter escape. -/
def escape? : Point → Option Point
  | .char '"' => some '"'
  | .char '\\' => some '\\'
  | .char '/' => some '/'
  | .char 'b' => some '\x08'
  | .char 'f' => some '\x0c'
  | .char 'n' => some '\n'
  | .char 'r' => some '\r'
  | .char 't' => some '\t'
  | _ => none

/-- The first half of a surrogate pair. -/
def isHighHalf (n : Nat) : Bool := 0xD800 ≤ n && n < 0xDC00

/-- The second half of a surrogate pair. -/
def isLowHalf (n : Nat) : Bool := 0xDC00 ≤ n && n < 0xE000

/-- The character of two halves. -/
def ofHalves (high low : Nat) : Point :=
  Point.ofNat (0x10000 + (high - 0xD800) * 0x400 + (low - 0xDC00))

/-- Where in a string the reading stands. -/
inductive InString where
  /-- Between two characters. -/
  | plain
  /-- After a backslash. -/
  | escape
  /-- Inside a numeric escape: the first half before it, if any, the value so far and the
  number of digits to come. -/
  | code (high : Option Nat) (n : Nat) (left : Nat)
  /-- After a first half. -/
  | half (high : Nat)
  /-- After a first half and a backslash. -/
  | halfEscape (high : Nat)

/-- What a character brings: where the reading stands after it and the code points that are
complete with it, last first. -/
abbrev InString.Move := InString × List Point

/-- The move when it turns out that the first half before it stands alone. -/
def InString.Move.behind (high : Nat) (move : InString.Move) : InString.Move :=
  (move.1, move.2 ++ [Point.ofNat high])

namespace InString

/-- The last digit of a numeric escape. -/
def closeCode (n : Nat) : (high : Option Nat) → Move
  | some high =>
    if isLowHalf n then (.plain, [ofHalves high n])
    else if isHighHalf n then Move.behind high (.half n, [])
    else Move.behind high (.plain, [Point.ofNat n])
  | none => if isHighHalf n then (.half n, []) else (.plain, [Point.ofNat n])

/-- Reading a character between two characters, other than the closing quote. -/
def plainStep (c : Point) : Option Move :=
  if c = '\\' then some (.escape, [])
  else if c.toNat < 0x20 then none
  else some (.plain, [c])

/-- Reading a character after a backslash. -/
def escapeStep (c : Point) : Option Move :=
  if c = 'u' then some (.code none 0 4, [])
  else (escape? c).map fun d => (.plain, [d])

/-- Reading a character inside a string, other than the closing quote. -/
def step (c : Point) : InString → Option Move
  | .plain => plainStep c
  | .escape => escapeStep c
  | .code high n left => do
    let n := 16 * n + (← hexValue? c)
    pure (if left = 1 then closeCode n high else (.code high n (left - 1), []))
  | .half high =>
    if c = '\\' then some (.halfEscape high, []) else (plainStep c).map (Move.behind high)
  | .halfEscape high =>
    if c = 'u' then some (.code (some high) 0 4, []) else (escapeStep c).map (Move.behind high)

/-- The code points that are complete when the string ends; a string cannot end inside an
escape. -/
def close? : InString → Option (List Point)
  | .plain => some []
  | .half high => some [Point.ofNat high]
  | _ => none

end InString

/-! ### Tokens -/

/-- What is being read. -/
inductive Reading where
  | gap
  /-- A word; its characters, last first. -/
  | word (cs : List Point)
  /-- A string; its code points, last first. -/
  | string (place : InString) (cs : List Point)

/-- The tokens found so far, last first, and what is being read. -/
structure Scan where
  reading : Reading
  tokens : List Token

/-- White space between tokens. -/
def isGap (c : Point) : Bool := c == ' ' || c == '\t' || c == '\n' || c == '\r'

/-- A character that numbers and fixed names are made of. -/
def isWordChar (c : Point) : Bool := c.is Char.isAlphanum || c == '-' || c == '+' || c == '.'

/-- The token of a single character. -/
def Token.ofChar? : Point → Option Token
  | .char '[' => some .openArray
  | .char ']' => some .closeArray
  | .char '{' => some .openObject
  | .char '}' => some .closeObject
  | .char ',' => some .comma
  | .char ':' => some .colon
  | _ => none

namespace Scan

/-- Reading a character outside of words and strings. -/
def gapStep (tokens : List Token) (c : Point) : Option Scan :=
  if isGap c then some ⟨.gap, tokens⟩
  else if c = '"' then some ⟨.string .plain [], tokens⟩
  else if isWordChar c then some ⟨.word [c], tokens⟩
  else (Token.ofChar? c).map fun t => ⟨.gap, t :: tokens⟩

/-- The tokens when the word `cs`, given last character first, has ended. -/
def endWord (tokens : List Token) (cs : List Point) : Option (List Token) :=
  (ofWord? cs.reverse).map fun v => .value v :: tokens

/-- Reading a character. -/
def step (s : Scan) (c : Point) : Option Scan :=
  match s.reading with
  | .gap => gapStep s.tokens c
  | .word cs =>
    if isWordChar c then some ⟨.word (c :: cs), s.tokens⟩
    else (endWord s.tokens cs).bind (gapStep · c)
  | .string place cs =>
    match if c = '"' then place.close? else none with
    | some new => some ⟨.gap, .value (.str (Text.ofList (new ++ cs).reverse)) :: s.tokens⟩
    | none => (place.step c).map fun (place, new) => ⟨.string place (new ++ cs), s.tokens⟩

/-- The tokens at the end of the text, last first. -/
def finish (s : Scan) : Option (List Token) :=
  match s.reading with
  | .gap => some s.tokens
  | .word cs => endWord s.tokens cs
  | .string .. => none

end Scan

/-- The tokens of a text. -/
def Token.ofChars? (cs : List Point) : Option (List Token) := do
  let s ← cs.foldlM Scan.step ⟨.gap, []⟩
  let tokens ← s.finish
  pure tokens.reverse

end Kanban.Json
