import Kanban.Json.Token
import Kanban.Text.Lowercase
import Kanban.Text.Numeral
import Kanban.Text.Pieces
import Kanban.Yaml.Binary
import Kanban.Yaml.Fault
import Kanban.Yaml.Tag
import Kanban.Yaml.Time

/-!
# YAML scalars

`Scalar.tag` says what a plain scalar is by its spelling: `null`, a Boolean (`yes` and `on`
among them), a number or a time, and a text otherwise.  `Scalar.value` is the value of a
scalar's text under a tag, which may also come from elsewhere, so the text need not be spelt
as the tag asks.  Underscores in a number do not count.  Integers are written in decimal, in
binary after `0b`, in octal after `0`, in hexadecimal after `0x`, or in base sixty with colons;
what has a point is a double.
-/

namespace Kanban.Yaml.Scalar

/-! ### Spellings -/

/-- The spellings of `null`. -/
def nulls : List Text := ["", "~", "null", "Null", "NULL"]

/-- The spellings of `true`. -/
def trues : List Text := ["yes", "Yes", "YES", "true", "True", "TRUE", "on", "On", "ON"]

/-- The spellings of `false`. -/
def falses : List Text := ["no", "No", "NO", "false", "False", "FALSE", "off", "Off", "OFF"]

/-- The spellings of infinity behind its point. -/
def infinities : List Text := ["inf", "Inf", "INF"]

/-- The spellings of not-a-number behind its point. -/
def nans : List Text := ["nan", "NaN", "NAN"]

/-- The value of a digit in a base up to sixteen. -/
def digitIn? (base : Nat) (c : Point) : Option Nat := (Json.hexValue? c).filter (· < base)

/-- A digit in a base up to sixteen. -/
def isDigitIn (base : Nat) (c : Point) : Bool := (digitIn? base c).isSome

/-- A digit in a base, or an underscore. -/
def isDigitOrGap (base : Nat) (c : Point) : Bool := c == '_' || isDigitIn base c

/-- Digits in a base and underscores. -/
def areDigits (base : Nat) (cs : List Point) : Bool := !cs.isEmpty && cs.all (isDigitOrGap base)

/-- One or two digits for a number below sixty. -/
def isSixtieth : List Point → Bool
  | [c] => isDigitIn 10 c
  | [b, c] => isDigitIn 6 b && isDigitIn 10 c
  | _ => false

/-- Decimal digits, the first of which is no underscore, and places in base sixty. -/
def arePlaces : List (List Point) → Bool
  | [] => false
  | whole :: places =>
    whole.head?.any (isDigitIn 10) && areDigits 10 whole && places.all isSixtieth

/-- The spelling of an integer without its sign. -/
def isUnsignedInteger : List Point → Bool
  | [.char '0'] => true
  | .char '0' :: .char 'b' :: ds => areDigits 2 ds
  | .char '0' :: .char 'x' :: ds => areDigits 16 ds
  | .char '0' :: ds => areDigits 8 ds
  | cs => arePlaces (Text.pieces (· == .char ':') cs)

/-- The spelling of an exponent, whose sign has to be written, or nothing. -/
def isExponent : List Point → Bool
  | [] => true
  | e :: s :: ds =>
    (e == 'e' || e == 'E') && (s == '+' || s == '-') && !ds.isEmpty && ds.all Json.isNumeral
  | _ => false

/-- The spelling of a double without its sign. -/
def isUnsignedFloat (signed : Bool) (cs : List Point) : Bool :=
  match cs.dropWhile (· ≠ .char '.') with
  | [] => false
  | _ :: after =>
    let rest := after.dropWhile (isDigitOrGap 10)
    match Text.pieces (· == .char ':') (cs.takeWhile (· ≠ .char '.')) with
    | [[]] =>
      infinities.contains (Text.ofList after)
        || (!signed && (nans.contains (Text.ofList after)
          || (after.head?.any (isDigitIn 10) && isExponent rest)))
    | places => arePlaces places && (rest.isEmpty || (places.length == 1 && isExponent rest))

/-- A sign and the rest. -/
def sign : List Point → Option Point × List Point
  | .char '-' :: cs => (some '-', cs)
  | .char '+' :: cs => (some '+', cs)
  | cs => (none, cs)

/-- What a plain scalar is. -/
def tag (s : Text) : Tag :=
  let (sign, cs) := sign s.toList
  if nulls.contains s then .null
  else if trues.contains s || falses.contains s then .boolean
  else if isUnsignedFloat sign.isSome cs then .float
  else if isUnsignedInteger cs then .integer
  else if s = "<<" then .merge
  else if s = "=" then .value
  else if s.string?.any fun s => Time.isSpelling s.toList then .time
  else .text

/-! ### Integers -/

/-- A text without the letters in front that say which base its digits are in. -/
def withoutBase (base : Nat) (cs : List Point) : List Point :=
  match base, cs with
  | 2, .char '0' :: c :: rest => if c = 'b' ∨ c = 'B' then rest else cs
  | 8, .char '0' :: c :: rest => if c = 'o' ∨ c = 'O' then rest else cs
  | 16, .char '0' :: c :: rest => if c = 'x' ∨ c = 'X' then rest else cs
  | _, _ => cs

/-- The number that digits write in a base. -/
def natural? (base : Nat) (cs : List Point) : Option Nat :=
  let ds := withoutBase base cs
  if ds.isEmpty then none else ds.foldlM (fun n c => (digitIn? base c).map (base * n + ·)) 0

/-- The decimal digits of any script as those of ASCII. -/
def plainDigits (cs : List Point) : List Point :=
  cs.map fun c => ((Text.digitValue? c).map fun d => Point.ofNat ('0'.toNat + d)).getD c

/-- The integer that a text writes in a base. -/
def integerIn? (base : Nat) (cs : List Point) : Option Int :=
  match sign (plainDigits (Text.trimNumber cs)) with
  | (some (.char '-'), ds) => (natural? base ds).map fun n => -(n : Int)
  | (_, ds) => (natural? base ds).map fun n => (n : Int)

/-- The integer that places in base sixty write. -/
def sixtieths (places : List Int) : Int := places.foldl (fun n p => 60 * n + p) 0

/-- The integer that a text without sign writes. -/
def unsignedInteger? (cs : List Point) : Option Int :=
  match cs with
  | [.char '0'] => some 0
  | .char '0' :: .char 'b' :: ds => integerIn? 2 ds
  | .char '0' :: .char 'x' :: ds => integerIn? 16 ds
  | .char '0' :: _ => integerIn? 8 cs
  | _ =>
    if cs.contains (.char ':') then
      ((Text.pieces (· == .char ':') cs).mapM Text.integer?).map sixtieths
    else Text.integer? cs

/-- The integer that a text writes. -/
def integer (cs : List Point) : Except Fault Int :=
  match sign (cs.filter (· ≠ .char '_')) with
  | (_, []) => throw .emptyNumber
  | (s, ds) =>
    match unsignedInteger? ds with
    | some n => pure (if s = some '-' then -n else n)
    | none => throw .noNumber

/-! ### Doubles -/

/-- The double that a text without sign writes in small letters. -/
def unsignedDecimal? (negative : Bool) (cs : List Point) : Option Double :=
  if [("inf" : Text).toList, ("infinity" : Text).toList].contains cs then some (.infinite negative)
  else if cs = ("nan" : Text).toList then some .nan
  else do
    let (ds, rest) := cs.span Json.isNumeral
    let (fs, rest) := match rest with
      | .char '.' :: rest => rest.span Json.isNumeral
      | rest => ([], rest)
    guard (!(ds ++ fs).isEmpty)
    let e := (← Json.exponent? rest).getD 0
    pure (.ofDecimal negative (Json.numeralsValue (ds ++ fs)) (e - fs.length))

/-- The double that a text writes in small letters. -/
def decimal? (cs : List Point) : Option Double :=
  let (s, ds) := sign (plainDigits (Text.trimNumber cs))
  unsignedDecimal? (s = some '-') ds

/-- The sum of places in base sixty, from the last on, each times a power of sixty. -/
def sumSixtieths (base : Nat) (sum : Double) : List Double → Option Double
  | [] => some sum
  | p :: places =>
    match Double.ofInt? base with
    | some b => sumSixtieths (60 * base) (sum.add (p.mul b)) places
    | none => none

/-- The double that a text without sign writes in small letters. -/
def unsignedFloat (cs : List Point) : Except Fault Double :=
  if cs = (".inf" : Text).toList then pure (.infinite false)
  else if cs = (".nan" : Text).toList then pure .nan
  else if cs.contains (.char ':') then
    match (Text.pieces (· == .char ':') cs).mapM decimal? with
    | some places =>
      match sumSixtieths 1 (.zero false) places.reverse with
      | some x => pure x
      | none => throw .largeNumber
    | none => throw .noNumber
  else
    match decimal? cs with
    | some x => pure x
    | none => throw .noNumber

/-- The double that a text writes. -/
def float (cs : List Point) : Except Fault Double := do
  match sign (Text.lower (cs.filter (· ≠ .char '_'))) with
  | (none, []) => throw .emptyNumber
  | (s, ds) =>
    let x ← unsignedFloat ds
    pure (if s = some '-' then x.neg else x)

/-! ### Values -/

/-- The Boolean that a text writes. -/
def boolean (s : Text) : Except Fault Bool :=
  let s := Text.ofList (Text.lower s.toList)
  if trues.contains s then pure true
  else if falses.contains s then pure false
  else throw .noBoolean

/-- The time that a text writes. -/
def time (s : Text) : Except Fault Value :=
  match s.string?.bind fun s => Time.ofChars? s.toList with
  | some t =>
    match t.value? with
    | some v => pure v
    | none => throw .pastCalendar
  | none => throw .noTime

/-- The bytes that a text writes. -/
def binary (s : Text) : Except Fault (List UInt8) :=
  match Binary.read? s.toList with
  | some bs => pure bs
  | none => throw .malformed

/-- The value that a text writes under a tag. -/
def value (s : Text) : Tag → Except Fault Value
  | .null => pure .null
  | .boolean => (boolean s).map .bool
  | .integer => (integer s.toList).map fun n => .num (.int n)
  | .float => (float s.toList).map fun x => .num (.float x)
  | .time => time s
  | .binary => (binary s).map .bytes
  | .text => pure (.str s)
  | _ => throw .malformed

end Kanban.Yaml.Scalar
