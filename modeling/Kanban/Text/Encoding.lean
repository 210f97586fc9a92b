import Kanban.Text.Quoted

/-!
# Text in bytes

Bytes are turned into text strictly: a sequence that encodes no character makes the whole
undecodable.  `decodeUtf8?` reads UTF-8; `decodeAny?` also finds out which of the encodings
UTF-8, UTF-16 and UTF-32 was used, by the mark at the start or by where the zeros of the
first four bytes stand, and lets lone halves of surrogate pairs pass.  `utf8Parts` reads UTF-8
to the end whatever it meets, and tells the bytes apart that encode nothing.  `loneMessage` says
why a text has no bytes.
-/

namespace Kanban.Text

/-- The text that bytes encode in UTF-8. -/
def decodeUtf8? (bytes : ByteArray) : Option String := String.fromUTF8? bytes

/-! ### UTF-8 with stray bytes -/

/-- A part of a row of bytes. -/
inductive Utf8Part where
  | char (c : Char)
  /-- Bytes that encode nothing: the start of a character that breaks off, or a single one. -/
  | stray (bytes : List UInt8)

/-- A character of which bytes are missing. -/
structure PartialChar where
  /-- The bytes so far, last first. -/
  bytes : List UInt8
  /-- The bits so far. -/
  value : Nat
  /-- How many bytes are to come. -/
  missing : Nat
  /-- The least and the greatest byte that may come next. -/
  next : Nat × Nat

/-- The bytes that may stand inside of a character. -/
def innerBytes : Nat × Nat := (0x80, 0xBF)

/-- The character that starts with a byte of a value, if one does that takes more bytes. -/
def startChar? (b : UInt8) : Option PartialChar :=
  let n := b.toNat
  if 0xC2 ≤ n ∧ n < 0xE0 then some ⟨[b], n - 0xC0, 1, innerBytes⟩
  else if n = 0xE0 then some ⟨[b], 0, 2, (0xA0, 0xBF)⟩
  else if n = 0xED then some ⟨[b], 0xD, 2, (0x80, 0x9F)⟩
  else if 0xE0 < n ∧ n < 0xF0 then some ⟨[b], n - 0xE0, 2, innerBytes⟩
  else if n = 0xF0 then some ⟨[b], 0, 3, (0x90, 0xBF)⟩
  else if 0xF0 < n ∧ n < 0xF4 then some ⟨[b], n - 0xF0, 3, innerBytes⟩
  else if n = 0xF4 then some ⟨[b], 4, 3, (0x80, 0x8F)⟩
  else none

/-- Reading a byte where a character starts. -/
def readFirst (b : UInt8) : List Utf8Part × Option PartialChar :=
  if b.toNat < 0x80 then ([.char (Char.ofNat b.toNat)], none)
  else
    match startChar? b with
    | some p => ([], some p)
    | none => ([.stray [b]], none)

/-- Reading a byte, maybe inside of a character. -/
def readByte (p : Option PartialChar) (b : UInt8) : List Utf8Part × Option PartialChar :=
  match p with
  | none => readFirst b
  | some p =>
    if p.next.1 ≤ b.toNat ∧ b.toNat ≤ p.next.2 then
      let value := p.value * 0x40 + (b.toNat - 0x80)
      if p.missing ≤ 1 then ([.char (Char.ofNat value)], none)
      else ([], some ⟨b :: p.bytes, value, p.missing - 1, innerBytes⟩)
    else
      let (parts, q) := readFirst b
      (.stray p.bytes.reverse :: parts, q)

/-- The parts of a row of bytes, of which the first may belong to a character. -/
def utf8PartsFrom (p : Option PartialChar) : List UInt8 → List Utf8Part
  | [] => (p.map fun p => .stray p.bytes.reverse).toList
  | b :: bs =>
    let (parts, q) := readByte p b
    parts ++ utf8PartsFrom q bs

/-- The characters and stray bytes of a row of bytes. -/
def utf8Parts (bytes : List UInt8) : List Utf8Part := utf8PartsFrom none bytes

/-- The text of a row of bytes, in which something else stands for stray bytes. -/
def decodeUtf8With (standIn : List UInt8 → List Char) (bytes : List UInt8) : List Char :=
  (utf8Parts bytes).flatMap fun
    | .char c => [c]
    | .stray bs => standIn bs

/-! ### UTF-16 and UTF-32 -/

/-- The order of the bytes of a unit. -/
inductive ByteOrder where
  | big
  | little

/-- The number in two bytes. -/
def ByteOrder.pair : ByteOrder → UInt8 → UInt8 → Nat
  | .big, a, b => a.toNat * 0x100 + b.toNat
  | .little, a, b => b.toNat * 0x100 + a.toNat

/-- The code points that 16-bit units encode: two halves of a pair in a row are one character. -/
def decodeUnits16 : List Nat → List Point
  | [] => []
  | [u] => [Point.ofNat u]
  | u :: v :: rest =>
    if 0xD800 ≤ u ∧ u < 0xDC00 ∧ 0xDC00 ≤ v ∧ v < 0xE000 then
      Point.ofNat (0x10000 + (u - 0xD800) * 0x400 + (v - 0xDC00)) :: decodeUnits16 rest
    else Point.ofNat u :: decodeUnits16 (v :: rest)

/-- The 16-bit units in a list of bytes. -/
def units16? (order : ByteOrder) : List UInt8 → Option (List Nat)
  | [] => some []
  | a :: b :: rest => (units16? order rest).map (order.pair a b :: ·)
  | _ => none

/-- The 32-bit units in a list of bytes. -/
def units32? (order : ByteOrder) : List UInt8 → Option (List Nat)
  | [] => some []
  | a :: b :: c :: d :: rest =>
    let n := match order with
      | .big => order.pair a b * 0x10000 + order.pair c d
      | .little => order.pair c d * 0x10000 + order.pair a b
    (units32? order rest).map (n :: ·)
  | _ => none

/-- The code point of a number, if it is that of one. -/
def pointOfCode? (n : Nat) : Option Point := if n < 0x110000 then some (Point.ofNat n) else none

/-- The text that bytes encode in UTF-16. -/
def decodeUtf16? (order : ByteOrder) (bytes : List UInt8) : Option Text := do
  pure (Text.ofList (decodeUnits16 (← units16? order bytes)))

/-- The text that bytes encode in UTF-32. -/
def decodeUtf32? (order : ByteOrder) (bytes : List UInt8) : Option Text := do
  pure (Text.ofList (← (← units32? order bytes).mapM pointOfCode?))

/-- The half of a surrogate pair that three bytes would encode. -/
def halfOf? (a b c : UInt8) : Option Point :=
  if a = 0xED ∧ 0xA0 ≤ b ∧ b ≤ 0xBF ∧ 0x80 ≤ c ∧ c ≤ 0xBF then
    some (Point.ofNat (0xD000 + (b.toNat - 0x80) * 0x40 + (c.toNat - 0x80)))
  else none

/-- The code points of the parts of a row of bytes, in which halves of pairs may stand alone. -/
def pointsOf? : List Utf8Part → Option (List Point)
  | [] => some []
  | .char c :: rest => (pointsOf? rest).map (.char c :: ·)
  | .stray [a] :: .stray [b] :: .stray [c] :: rest => do
    let half ← halfOf? a b c
    pure (half :: (← pointsOf? rest))
  | _ => none

/-- The text that bytes encode in UTF-8, in which halves of pairs may stand alone. -/
def decodeHalves? (bytes : List UInt8) : Option Text := do
  pure (Text.ofList (← pointsOf? (utf8Parts bytes)))

/-- The text that bytes encode in UTF-8, UTF-16 or UTF-32. -/
def decodeAny? (bytes : ByteArray) : Option Text :=
  match bytes.toList with
  | 0x00 :: 0x00 :: 0xFE :: 0xFF :: rest => decodeUtf32? .big rest
  | 0xFF :: 0xFE :: 0x00 :: 0x00 :: rest => decodeUtf32? .little rest
  | 0xFE :: 0xFF :: rest => decodeUtf16? .big rest
  | 0xFF :: 0xFE :: rest => decodeUtf16? .little rest
  | 0xEF :: 0xBB :: 0xBF :: rest => decodeHalves? rest
  | bs@(a :: b :: c :: d :: _) =>
    if a = 0 then if b = 0 then decodeUtf32? .big bs else decodeUtf16? .big bs
    else if b = 0 then
      if c = 0 ∧ d = 0 then decodeUtf32? .little bs else decodeUtf16? .little bs
    else decodeHalves? bs
  | bs@([a, b]) =>
    if a = 0 then decodeUtf16? .big bs
    else if b = 0 then decodeUtf16? .little bs
    else decodeHalves? bs
  | bs => decodeHalves? bs

/-! ### Texts without bytes -/

/-- What is said about a text that no bytes encode: where its first lone halves stand. -/
def loneMessage (t : Text) : Text :=
  let start := (t.toList.takeWhile Point.isChar).length
  let halves := (t.toList.drop start).takeWhile (!·.isChar)
  let place := match halves with
    | [half] =>
      "character '" ++ Text.ofList (quotedChar '\'' half) ++ "' in position " ++ toString start
    | _ =>
      "characters in position " ++ toString start ++ "-" ++ toString (start + halves.length - 1)
  "'utf-8' codec can't encode " ++ place ++ ": surrogates not allowed"

end Kanban.Text
