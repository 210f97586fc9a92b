import Kanban.Yaml.Label
import Kanban.Yaml.Literal
import Kanban.Yaml.Plain
import Kanban.Yaml.Quoted

/-!
# YAML tokens

A text is cut into tokens.  Outside of brackets the columns in which lines start open and close
lists and mappings, for which there are tokens too.  Whether a token is a key is known only when
a colon follows it on the same line, and not too far away; its mark is then put in front of it.
A `Scan` is what is known while a text is being cut.
-/

namespace Kanban.Yaml

/-- A token of YAML text. -/
inductive Token where
  | directive (d : Directive)
  | documentStart
  | documentEnd
  /-- A list starts whose items stand behind dashes. -/
  | openLines
  /-- A mapping starts whose keys stand on lines of their own. -/
  | openKeys
  /-- Such a list or mapping ends. -/
  | close
  | dash
  /-- A key follows. -/
  | key
  /-- The value of a key follows. -/
  | value
  | openList
  | closeList
  | openMap
  | closeMap
  | comma
  | aliasTo (name : String)
  | anchor (name : String)
  | tag (t : TagName)
  | scalar (plain : Bool) (text : Text)

/-- Where something starts that may turn out to be a key. -/
structure KeyStart where
  /-- How many tokens stand in front of it. -/
  number : Nat
  index : Nat
  line : Nat
  column : Nat
  /-- It has to be a key, because it starts where the keys of a mapping do. -/
  required : Bool

/-- What has been read of a text. -/
structure Scan where
  cursor : Cursor
  /-- The tokens so far, last first. -/
  tokens : List Token
  /-- The columns of the lists and mappings that are open outside of brackets, innermost
  first. -/
  columns : List Nat
  /-- A key may start here. -/
  keyAllowed : Bool
  /-- What may turn out to be a key, in each of the open brackets and outside of them, innermost
  first. -/
  keys : List (Option KeyStart)

namespace Scan

/-- The scan before anything has been read. -/
def start (cs : List Char) : Scan := ⟨.start cs, [], [], true, [none]⟩

/-- The place lies in brackets. -/
def inBrackets (s : Scan) : Bool := 1 < s.keys.length

/-- The column of the innermost list or mapping outside of brackets. -/
def indent (s : Scan) : Int :=
  match s.columns with
  | [] => -1
  | n :: _ => n

/-- The scan with one more token. -/
def emit (s : Scan) (t : Token) : Scan := { s with tokens := t :: s.tokens }

/-- The scan with a token put behind the first `n` tokens. -/
def insert (s : Scan) (n : Nat) (t : Token) : Scan :=
  let later := s.tokens.length - n
  { s with tokens := s.tokens.take later ++ t :: s.tokens.drop later }

/-- The scan behind a number of characters. -/
def skip (s : Scan) (n : Nat) : Scan := { s with cursor := s.cursor.skip n }

/-- The scan in front of an end of its text. -/
def skipTo (s : Scan) (rest : List Char) : Scan := { s with cursor := s.cursor.skipTo rest }

/-! ### Keys -/

/-- The greatest number of characters from the start of a key to the colon behind it. -/
def longestKey : Nat := 1024

/-- A key that starts there can no longer end at the cursor. -/
def isStale (k : Cursor) (start : KeyStart) : Bool :=
  start.line != k.line || start.index + longestKey < k.index

/-- What may still turn out to be a key at the cursor. -/
def keep (k : Cursor) : Option KeyStart → Except Fault (Option KeyStart)
  | some start =>
    if isStale k start then if start.required then throw .malformed else pure none
    else pure (some start)
  | none => pure none

/-- The scan without what can no longer turn out to be a key. -/
def dropStale (s : Scan) : Except Fault Scan := do
  pure { s with keys := ← s.keys.mapM (keep s.cursor) }

/-- The scan in which nothing in the innermost brackets may turn out to be a key. -/
def dropKey (s : Scan) : Except Fault Scan :=
  match s.keys with
  | some start :: rest =>
    if start.required then throw .malformed else pure { s with keys := none :: rest }
  | _ => pure s

/-- The scan in which the next token may turn out to be a key. -/
def saveKey (s : Scan) : Except Fault Scan :=
  if s.keyAllowed then do
    let s ← s.dropKey
    let k := s.cursor
    let required := !s.inBrackets && s.indent == k.column
    let start := ⟨s.tokens.length, k.index, k.line, k.column, required⟩
    pure { s with keys := some start :: s.keys.drop 1 }
  else pure s

/-! ### Columns -/

/-- The scan in which all lists and mappings to the right of a column are closed. -/
def closeTo (s : Scan) (column : Int) : Scan :=
  if s.inBrackets then s
  else
    let closed := s.columns.takeWhile fun n : Nat => column < n
    { s with
      tokens := List.replicate closed.length .close ++ s.tokens
      columns := s.columns.drop closed.length }

/-- The scan in which a list or mapping starts behind the first `n` tokens, if none is open in
its column. -/
def openAt (s : Scan) (column n : Nat) (t : Token) : Scan :=
  if s.indent < column then { s.insert n t with columns := column :: s.columns } else s

/-! ### Tokens -/

/-- What stands between tokens is passed over: blanks, comments and ends of lines. -/
def passGap (comment : Bool) (s : Scan) : List Char → Scan
  | [] => s
  | c :: cs =>
    let s' := s.skip 1
    if isBreak c then passGap false { s' with keyAllowed := s.keyAllowed || !s.inBrackets } cs
    else if comment || c = ' ' then passGap comment s' cs
    else if c = '#' then passGap true s' cs
    else s

/-- The scan in front of the next token. -/
def toNext (s : Scan) : Scan :=
  let s := if s.cursor.index = 0 ∧ s.cursor.rest.head? = some byteOrderMark then s.skip 1 else s
  passGap false s s.cursor.rest

/-- The scan behind something that closes all lists and mappings. -/
def leaveDocument (s : Scan) : Except Fault Scan := do
  pure { ← (s.closeTo (-1)).dropKey with keyAllowed := false }

/-- Reading a mark between documents. -/
def readMark (s : Scan) (t : Token) : Except Fault Scan := do
  pure ((← s.leaveDocument).emit t |>.skip 3)

/-- Reading a directive. -/
def readDirective (s : Scan) (cs : List Char) : Except Fault Scan := do
  let s ← s.leaveDocument
  let (d, rest) ← Label.directive cs
  let s := s.emit (.directive d)
  pure { s with cursor := ← skipLine (s.cursor.skipTo rest) }

/-- Reading an opening bracket. -/
def readOpen (s : Scan) (t : Token) : Except Fault Scan := do
  let s ← s.saveKey
  pure ({ s with keyAllowed := true, keys := none :: s.keys }.emit t |>.skip 1)

/-- Reading a closing bracket. -/
def readClose (s : Scan) (t : Token) : Except Fault Scan := do
  let s ← s.dropKey
  if s.inBrackets then
    pure ({ s with keyAllowed := false, keys := s.keys.drop 1 }.emit t |>.skip 1)
  else throw .malformed

/-- Reading a comma. -/
def readComma (s : Scan) : Except Fault Scan := do
  pure ({ ← s.dropKey with keyAllowed := true }.emit .comma |>.skip 1)

/-- The scan in which a list or mapping starts at the cursor if it has to. -/
def openHere (s : Scan) (t : Token) : Except Fault Scan :=
  if s.inBrackets then pure s
  else if s.keyAllowed then pure (s.openAt s.cursor.column s.tokens.length t)
  else throw .malformed

/-- Reading a dash in front of an item. -/
def readDash (s : Scan) : Except Fault Scan := do
  let s ← s.openHere .openLines
  pure ({ ← s.dropKey with keyAllowed := true }.emit .dash |>.skip 1)

/-- Reading a question mark in front of a key. -/
def readKey (s : Scan) : Except Fault Scan := do
  let s ← s.openHere .openKeys
  pure ({ ← s.dropKey with keyAllowed := !s.inBrackets }.emit .key |>.skip 1)

/-- The scan in which what starts there has turned out to be a key. -/
def resolve (s : Scan) (start : KeyStart) : Scan :=
  let s := s.insert start.number .key
  let s := if s.inBrackets then s else s.openAt start.column start.number .openKeys
  { s with keyAllowed := false, keys := none :: s.keys.drop 1 }

/-- Reading a colon in front of a value. -/
def readColon (s : Scan) : Except Fault Scan :=
  match s.keys with
  | some start :: _ => pure ((s.resolve start).emit .value |>.skip 1)
  | _ => do
    let s ← s.openHere .openKeys
    pure ({ ← s.dropKey with keyAllowed := !s.inBrackets }.emit .value |>.skip 1)

/-- Reading something that may turn out to be a key. -/
def readKeyLike {α : Type} (s : Scan) (token : α → Token) (r : Except Fault (α × List Char)) :
    Except Fault Scan := do
  let s ← s.saveKey
  let (a, rest) ← r
  pure ({ s with keyAllowed := false }.emit (token a) |>.skipTo rest)

/-- Reading a scalar by lines. -/
def readLiteral (s : Scan) (folded : Bool) : Except Fault Scan := do
  let s ← s.dropKey
  let (text, cursor) ← Literal.read folded s.indent s.cursor.next
  pure { s.emit (.scalar false text) with keyAllowed := true, cursor }

/-- Reading a plain scalar. -/
def readPlain (s : Scan) : Except Fault Scan := do
  let s ← s.saveKey
  let p := Plain.read s.inBrackets (s.indent + 1) s.cursor
  pure { s.emit (.scalar true p.text) with keyAllowed := p.endsWithLine, cursor := p.cursor }

/-- A character that no plain scalar starts with. -/
def isIndicator (c : Char) : Bool :=
  "-?:,[]\x7b\x7d#&*!|>'\"%@\x60".toList.contains c

/-- A plain scalar starts with a character, with the text behind it. -/
def startsPlain (s : Scan) (c : Char) (cs : List Char) : Bool :=
  if isSpace c then false
  else if isIndicator c then
    !endsToken cs && (c == '-' || (!s.inBrackets && (c == '?' || c == ':')))
  else true

/-- Reading the token that starts with a character, with the text behind it. -/
def readToken (s : Scan) (c : Char) (cs : List Char) : Except Fault Scan :=
  let atLineStart := s.cursor.column == 0
  let alone := s.inBrackets || endsToken cs
  if c = '%' ∧ atLineStart then s.readDirective cs
  else if atLineStart && startsWith startMark (c :: cs) then s.readMark .documentStart
  else if atLineStart && startsWith endMark (c :: cs) then s.readMark .documentEnd
  else if c = '[' then s.readOpen .openList
  else if c = '{' then s.readOpen .openMap
  else if c = ']' then s.readClose .closeList
  else if c = '}' then s.readClose .closeMap
  else if c = ',' then s.readComma
  else if c = '-' ∧ endsToken cs then s.readDash
  else if c = '?' ∧ alone then s.readKey
  else if c = ':' ∧ alone then s.readColon
  else if c = '*' then s.readKeyLike .aliasTo (Label.anchor cs)
  else if c = '&' then s.readKeyLike .anchor (Label.anchor cs)
  else if c = '!' then s.readKeyLike .tag (Label.tag cs)
  else if c = '|' ∧ !s.inBrackets then s.readLiteral false
  else if c = '>' ∧ !s.inBrackets then s.readLiteral true
  else if c = '\'' ∨ c = '"' then s.readKeyLike (.scalar false) (Quoted.read c cs)
  else if s.startsPlain c cs then s.readPlain
  else throw .malformed

/-- Reading the next token, or leaving the text where there is none. -/
def step (s : Scan) : Except Fault Scan := do
  let s := (← s.dropStale).closeTo s.cursor.column
  match s.cursor.rest with
  | [] => s.leaveDocument
  | c :: cs => s.readToken c cs

/-- The scan behind the whole text, or in front of a fault.  There are no more tokens than the
first number says. -/
def run : Nat → Scan → Scan × Option Fault
  | 0, s => (s, none)
  | n + 1, s =>
    let s := s.toNext
    match s.cursor.rest, s.step with
    | _, .error f => (s, some f)
    | [], .ok s => (s, none)
    | _ :: _, .ok s => run n s

/-- How many tokens stand in front of the first that may still turn out to be a key. -/
def settled (s : Scan) : Nat :=
  s.keys.foldl (fun n start => (start.map fun start => min n start.number).getD n) s.tokens.length

end Scan

/-- The tokens of a text, as far as they are certain, and what is wrong behind them. -/
structure Tokens where
  list : List Token
  fault : Option Fault

/-- The tokens of a text. -/
def Tokens.ofChars (cs : List Char) : Tokens :=
  let (s, fault) := Scan.run (cs.length + 1) (.start cs)
  ⟨if fault.isSome then s.tokens.reverse.take s.settled else s.tokens.reverse, fault⟩

end Kanban.Yaml
