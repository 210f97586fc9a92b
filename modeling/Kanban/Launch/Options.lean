import Kanban.Text.Numeral

/-!
# Options

What the caller of the program asks for.  An argument that starts with a hyphen is an option,
written in full or as the only one that starts so, and its value is the next argument or
follows an equals sign; two hyphens after an equals sign take the option back.  Arguments that
are negative numbers or hold a blank are values, as are all after two hyphens.  There are no
arguments besides options and their values.
-/

namespace Kanban

/-- Why the program ends without having done anything. -/
inductive Exit where
  /-- The caller has asked for help. -/
  | help
  /-- The arguments cannot be understood. -/
  | usage
  deriving DecidableEq

/-- The code that the program ends with. -/
def Exit.code : Exit → Nat
  | .help => 0
  | .usage => 2

/-- What the caller asks for. -/
structure Options where
  /-- The path of the settings file. -/
  config : Option String
  host : Option String
  socket : Option Int
  deriving DecidableEq

namespace Options

/-- The options that have a value. -/
inductive Flag where
  | config
  | host
  | socket
  deriving DecidableEq

/-- What the name of an option means. -/
inductive Meaning where
  | help
  | flag (f : Flag)
  deriving DecidableEq

/-- The names of options. -/
def names : List (String × Meaning) :=
  [("-h", .help), ("--help", .help), ("--config", .flag .config), ("--host", .flag .host),
    ("--port", .flag .socket)]

/-! ### Arguments -/

/-- What an argument is. -/
inductive Word where
  /-- An option, with a value that is written in the same argument. -/
  | flag (f : Flag) (value : Option String)
  /-- The program is to end. -/
  | stop (e : Exit)
  /-- An option that there is not. -/
  | unknown
  | value (s : String)
  /-- Two hyphens. -/
  | separator

/-- The call for help by its letter with more letters behind it, each of which has to call for
help again. -/
def helpAgain (cs : List Char) : Exit :=
  if !cs.isEmpty && cs.all (· == 'h') then .help else .usage

/-- A name of one letter. -/
def isLetterName (name : String) : Bool := name.length == 2

/-- What a name means with a value behind it.  The call for help has no value, save that
behind its letter more letters may stand. -/
def Meaning.word (name : String) (value : Option String) : Meaning → Word
  | .flag f => .flag f value
  | .help =>
    match value with
    | .none => .stop .help
    | some v => .stop (if isLetterName name then helpAgain v.toList else .usage)

/-- The text before an equals sign and the text after it, if there is one. -/
def splitValue (cs : List Char) : List Char × Option String :=
  match cs.dropWhile (· ≠ '=') with
  | [] => (cs, none)
  | _ :: v => (cs.takeWhile (· ≠ '='), some (String.ofList v))

/-- What an argument may be short for. -/
def candidates (cs : List Char) : List Word :=
  match cs with
  | '-' :: '-' :: _ =>
    let (start, value) := splitValue cs
    (names.filter fun (name, _) => start.isPrefixOf name.toList).map fun (name, m) =>
      m.word name value
  | _ =>
    (names.filter fun (name, _) => name.toList == cs.take 2).map fun (name, m) =>
      m.word name (some (String.ofList (cs.drop 2)))

/-- A negative number, with or without a point; the line may end behind it. -/
def isNegativeNumber : List Char → Bool
  | '-' :: cs =>
    let cs := if cs.getLast? = some '\n' then cs.dropLast else cs
    match Text.pieces (· == '.') cs with
    | [ds] => !ds.isEmpty && ds.all fun c : Char => Text.isDigit c
    | [ds, fs] => (ds.all fun c : Char => Text.isDigit c) && !fs.isEmpty
      && fs.all fun c : Char => Text.isDigit c
    | _ => false
  | _ => false

/-- The option that is meant by an argument that starts with a hyphen but is not the name of
one. -/
def optionWord (cs : List Char) : Except Exit Word :=
  let (start, value) := splitValue cs
  match value, names.lookup (String.ofList start) with
  | some v, some m => pure (m.word (String.ofList start) (some v))
  | _, _ =>
    match candidates cs with
    | [w] => pure w
    | _ :: _ => throw .usage
    | [] =>
      if isNegativeNumber cs || cs.contains ' ' then pure (.value (String.ofList cs))
      else pure .unknown

/-- What an argument is. -/
def word (s : String) : Except Exit Word :=
  match names.lookup s with
  | some m => pure (m.word s .none)
  | none =>
    match s.toList with
    | '-' :: c :: cs => optionWord ('-' :: c :: cs)
    | _ => pure (.value s)

/-- What arguments are; after two hyphens they are all values. -/
def words : List String → Except Exit (List Word)
  | [] => pure []
  | s :: rest =>
    if s = "--" then pure (.separator :: rest.map .value)
    else do
      let w ← word s
      pure (w :: (← words rest))

/-! ### Reading arguments -/

/-- The options before any argument has been read. -/
def none : Options := ⟨.none, .none, .none⟩

/-- The options with a value for one of them. -/
def set (o : Options) (f : Flag) (v : String) : Except Exit Options :=
  match f with
  | .config => pure { o with config := some v }
  | .host => pure { o with host := some v }
  | .socket =>
    match Text.integer? (v.toList.map .char) with
    | some n => pure { o with socket := some n }
    | .none => throw .usage

/-- The options without a value for one of them. -/
def unset (o : Options) : Flag → Options
  | .config => { o with config := .none }
  | .host => { o with host := .none }
  | .socket => { o with socket := .none }

/-- The options with the value that is written in the same argument as its name. -/
def setJoined (o : Options) (f : Flag) (v : String) : Except Exit Options :=
  if v = "--" then pure (o.unset f) else o.set f v

/-- The options that words ask for, beside those already known.  A word that belongs to no
option is noticed only at the end, so that a call for help is heard before. -/
def ofWords (o : Options) (stray : Bool) : List Word → Except Exit Options
  | [] => if stray then throw .usage else pure o
  | .stop e :: _ => throw e
  | .flag f (some v) :: rest => do ofWords (← o.setJoined f v) stray rest
  | .flag f .none :: .value v :: rest => do ofWords (← o.set f v) stray rest
  | .flag _ .none :: _ => throw .usage
  | _ :: rest => ofWords o true rest

/-- The options that arguments ask for. -/
def ofArguments (arguments : List String) : Except Exit Options := do
  ofWords none false (← words arguments)

end Options

end Kanban
