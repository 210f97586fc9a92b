import Kanban.Text.Lowercase
import Kanban.Text.Word

/-!
# Restoring accents

Some Spanish words are often typed without their accents.  `restoreAccents` looks through a
text for the words of `accentTable`, in any case, and writes them with their accents; a word
that starts with a capital keeps one.  Only whole words count, so a word is looked for where
no word character stands before it, and has to end where none follows.

A letter is also found in the guise of the long s or of an i with or without its dot.  Such
a word is found but not listed, and the text cannot be changed.
-/

namespace Kanban.Text

/-- Words without and with their accents. -/
def accentTable : List (Text × Text) := [
  ("analisis", "análisis"), ("auditoria", "auditoría"), ("comision", "comisión"),
  ("correlacion", "correlación"), ("cotizacion", "cotización"), ("critico", "crítico"),
  ("dia", "día"), ("ejecucion", "ejecución"), ("gestion", "gestión"),
  ("informacion", "información"), ("metrica", "métrica"), ("numero", "número"),
  ("operacion", "operación"), ("posicion", "posición"), ("proxima", "próxima"),
  ("rapido", "rápido"), ("revision", "revisión"), ("senal", "señal"), ("senales", "señales"),
  ("tambien", "también"), ("validacion", "validación")]

/-- The words that are looked for: long ones before short ones. -/
def accentWords : List (List Point) :=
  (accentTable.map (·.1.toList)).mergeSort fun a b => b.length ≤ a.length

/-- The characters other than its capital in whose guise a small letter is found. -/
def guises : Point → List Point
  | .char 'i' => ['İ', 'ı']
  | .char 's' => ['ſ']
  | _ => []

/-- The character `c` is the small letter `letter` in some guise. -/
def isLetter (letter c : Point) : Bool := c.map Char.toLower == letter || (guises letter).contains c

/-- The text starts with the word, in any case. -/
def startsWithWord : (word : List Point) → List Point → Bool
  | [], _ => true
  | _ :: _, [] => false
  | l :: ls, c :: cs => isLetter l c && startsWithWord ls cs

/-- The text starts with a word character. -/
def startsInWord : List Point → Bool
  | [] => false
  | c :: _ => isWord c

/-- The text starts with the word, and the word ends there. -/
def startsWithWhole (cs word : List Point) : Bool :=
  startsWithWord word cs && !startsInWord (cs.drop word.length)

/-- The characters of the first of the words that stands at the start of the text. -/
def wordAtStart? (words : List (List Point)) (cs : List Point) : Option (List Point) :=
  (words.find? (startsWithWhole cs)).map fun word => cs.take word.length

/-- A word that was found but is not listed. -/
structure UnlistedWord where
  word : List Point

/-- The text with its first character as a capital. -/
def capitalize : List Point → List Point
  | [] => []
  | c :: cs => c.map Char.toUpper :: cs

/-- The text starts with a capital. -/
def startsCapital : List Point → Bool
  | [] => false
  | c :: _ => c.is Char.isUpper

/-- A word that was found, with its accents. -/
def accented (word : List Point) : Except UnlistedWord (List Point) :=
  match accentTable.lookup (Text.ofList (lower word)) with
  | some s => pure (if startsCapital word then capitalize s.toList else s.toList)
  | none => throw ⟨word⟩

/-- The rest of a text with its words exchanged.  The next `skip` characters have been dealt
with, and `inWord` says whether a word character stands before the rest. -/
def restoreFrom (words : List (List Point)) :
    (skip : Nat) → (inWord : Bool) → List Point → Except UnlistedWord (List Point)
  | _, _, [] => pure []
  | skip + 1, _, c :: cs => restoreFrom words skip (isWord c) cs
  | 0, inWord, c :: cs =>
    match if inWord then none else wordAtStart? words (c :: cs) with
    | some word => do
      let new ← accented word
      let rest ← restoreFrom words (word.length - 1) (isWord c) cs
      pure (new ++ rest)
    | none => do
      let rest ← restoreFrom words 0 (isWord c) cs
      pure (c :: rest)

/-- A text with the accents of its words. -/
def restoreAccents (s : Text) : Except UnlistedWord Text := do
  pure (Text.ofList (← restoreFrom accentWords 0 false s.toList))

end Kanban.Text
