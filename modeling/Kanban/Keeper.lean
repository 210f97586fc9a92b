import Kanban.Board.Accents
import Kanban.Board.Intake
import Kanban.Board.Sample
import Kanban.Json.Reader
import Kanban.Storage
import Kanban.Text.Encoding

/-!
# Keeping a board

A `Keeper` holds a board and the backend in which it is saved.  `Keeper.start` loads the board,
or makes a sample one when there is nothing that can be loaded; after that every operation
that changes the board saves a snapshot, and an operation that changes nothing saves nothing.
A refused operation leaves everything as it was.  When saving fails, or the new board has no
snapshot, the board has already changed.
-/

namespace Kanban

/-- What a keeper takes from outside at each operation: the time in UTC, if the calendar has
it, and a supply of ids. -/
structure Source where
  now : Option Moment
  ids : Nat → Text

/-- What outlives a keeper: the backend and how many ids have been drawn. -/
structure Surroundings (β : Type) where
  backend : β
  drawn : Nat

/-- A board and where it is kept. -/
structure Keeper (β : Type) extends Surroundings β where
  board : Board

/-- The stamp of an operation after a number of ids have been drawn; the clock stands still
meanwhile. -/
def Source.stamp (src : Source) (drawn : Nat) : Stamp :=
  ⟨src.now, fun i => src.ids (drawn + i)⟩

namespace Keeper

variable {β : Type} [Backend β] {α : Type}

/-! ### Opening -/

/-- Why a board could not be opened. -/
inductive OpenError where
  | storage (e : StorageError)
  | notWritten (e : Board.Unwritten)
  | unlisted (e : Text.UnlistedWord)
  | noSample (e : Board.NoSample)

/-- The value that a text is. -/
def decodeText? (s : Text) : Option Json := Json.read? s

/-- The value that bytes are. -/
def decodeBytes? (bytes : ByteArray) : Option Json := do decodeText? (← Text.decodeUtf8? bytes)

/-- The board that bytes are, if they are the snapshot of one. -/
def boardOfBytes? (bytes : ByteArray) : Option Board := do
  (Board.read (← decodeBytes? bytes)).value?

/-- A board that is saved when it is opened, with `n` more ids drawn. -/
def openSaving (w : Surroundings β) (n : Nat) (b : Board) :
    Except OpenError (Keeper β) × Surroundings β :=
  match b.snapshot with
  | .error e => (throw (.notWritten e), { w with drawn := w.drawn + n })
  | .ok bytes =>
    let (r, backend) := Backend.save bytes w.backend
    let w : Surroundings β := ⟨backend, w.drawn + n⟩
    match r with
    | .ok () => (pure ⟨w, b⟩, w)
    | .error e => (throw (.storage e), w)

/-- The sample board, opened. -/
def openSample (src : Source) (w : Surroundings β) :
    Except OpenError (Keeper β) × Surroundings β :=
  match Board.sample (src.stamp w.drawn) with
  | .ok b => openSaving w Board.samples.length b
  | .error e => (throw (.noSample e), w)

/-- The board in the backend, opened; with `accents`, the accents of its texts are restored
first.  Where there is no board the sample board takes its place. -/
def start (src : Source) (accents : Bool) (w : Surroundings β) :
    Except OpenError (Keeper β) × Surroundings β :=
  match Backend.load w.backend with
  | .error e => (throw (.storage e), w)
  | .ok content =>
    match content.bind boardOfBytes? with
    | none => openSample src w
    | some b =>
      if accents then
        match b.restoreAccents with
        | .error e => (throw (.unlisted e), w)
        | .ok (b, true) => openSaving w 0 b
        | .ok (b, false) => (pure ⟨w, b⟩, w)
      else (pure ⟨w, b⟩, w)

/-! ### Operations -/

/-- Why an operation has failed. -/
inductive Failure where
  | refused (r : Refusal)
  /-- The board has changed, and has no snapshot. -/
  | notWritten (e : Board.Unwritten)
  /-- The board has changed, and its snapshot could not be saved. -/
  | notSaved (e : StorageError)

/-- A failure in words, where it has any. -/
def Failure.message? : Failure → Option Text
  | .refused r => r.message?
  | .notWritten e => some e.message
  | .notSaved _ => none

/-- The keeper with a new board, for which `n` ids were drawn, after it was saved.  A board
without a snapshot is kept as well, but nothing is saved. -/
def commit (k : Keeper β) (n : Nat) (b : Board) (a : α) : Except Failure α × Keeper β :=
  match b.snapshot with
  | .error e => (throw (.notWritten e), ⟨⟨k.backend, k.drawn + n⟩, b⟩)
  | .ok bytes =>
    let (r, backend) := Backend.save bytes k.backend
    (match r with
      | .ok () => pure a
      | .error e => throw (.notSaved e),
      ⟨⟨backend, k.drawn + n⟩, b⟩)

/-- The keeper after a command: the new board is kept, if there is one. -/
def commitEntry (k : Keeper β) : Except Refusal (Option (Board × Entry)) →
    Except Failure (Option Entry) × Keeper β
  | .error r => (throw (.refused r), k)
  | .ok none => (pure none, k)
  | .ok (some (b, e)) => k.commit 1 b (some e)

/-- Creates a task and gives the task with the new id. -/
def create (k : Keeper β) (src : Source) (d : NewTask) :
    Except Failure (Option Task) × Keeper β :=
  match k.board.create (src.stamp k.drawn) d with
  | .error r => (throw (.refused r), k)
  | .ok (b, e) => k.commit 2 b (b.task? e.taskId)

/-- Edits a task. -/
def update (k : Keeper β) (src : Source) (id : Text) (e : TaskEdit) :
    Except Failure (Option Entry) × Keeper β :=
  k.commitEntry (k.board.update (src.stamp k.drawn) id e)

/-- Removes a task. -/
def delete (k : Keeper β) (src : Source) (id : Text) :
    Except Failure (Option Entry) × Keeper β :=
  k.commitEntry (k.board.delete (src.stamp k.drawn) id)

/-- Moves a task to another column. -/
def move (k : Keeper β) (src : Source) (id : Text) (column : Json) :
    Except Failure (Option Entry) × Keeper β :=
  k.commitEntry (k.board.move (src.stamp k.drawn) id column)

/-- Sets the review flag. -/
def setReviewMode (k : Keeper β) (value : Bool) : Except Failure Unit × Keeper β :=
  if k.board.reviewMode = value then (pure (), k)
  else k.commit 0 (k.board.setReviewMode value) ()

/-! ### Imports -/

/-- What became of a snapshot that was to be imported. -/
inductive Import where
  | accepted (replacements : List Replacement)
  | rejected (first : Issue) (more : List Issue)

/-- Takes over the board of a snapshot. -/
def importValue (k : Keeper β) (src : Source) (snapshot : Json) :
    Except Failure Import × Keeper β :=
  match Board.adopt (src.stamp k.drawn) snapshot with
  | .error r => (throw (.refused r), k)
  | .ok (.bad first more) => (pure (.rejected first more), k)
  | .ok (.ok (b, replacements)) =>
    k.commit (2 * replacements.length) b (.accepted replacements)

/-- Takes over the board of a snapshot that was to be decoded first. -/
def importDecoded (k : Keeper β) (src : Source) : Option Json → Except Failure Import × Keeper β
  | some snapshot => k.importValue src snapshot
  | none => (pure (.rejected ⟨[], .notJson⟩ []), k)

/-- Takes over the board of a text. -/
def importText (k : Keeper β) (src : Source) (s : Text) : Except Failure Import × Keeper β :=
  k.importDecoded src (decodeText? s)

/-- Takes over the board of bytes. -/
def importBytes (k : Keeper β) (src : Source) (bytes : ByteArray) :
    Except Failure Import × Keeper β :=
  k.importDecoded src (decodeBytes? bytes)

end Keeper

end Kanban
