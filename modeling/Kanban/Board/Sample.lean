import Kanban.Board.Command

/-!
# The sample board

The board that a new user finds: five tasks of a trading desk, due some days before or after
the time at which the board is made.
-/

namespace Kanban.Board

/-- A task of the sample board: all but its id and times, and the days until it is due. -/
structure Sample where
  title : Text
  description : Text
  priority : Priority
  tags : List Text
  minutes : Int
  column : Column
  days : Int

/-- The tasks of the sample board. -/
def samples : List Sample := [
  { title := "Rebalanceo diario de portafolio LATAM"
    description := "Ajustar posiciones en ADRs con volatilidad > 2.5 y revisar stop-loss."
    priority := .high
    tags := ["broker", "riesgo", "latam"]
    minutes := 90
    column := .todo
    days := 1 },
  { title := "Validar señales de arbitraje cripto"
    description := "Cruzar spreads entre exchanges y registrar gaps > 1.2%"
    priority := .medium
    tags := ["cripto", "arbitraje"]
    minutes := 45
    column := .doing
    days := 3 },
  { title := "Reporte semanal de liquidez"
    description := "Comparar cash vs. colateral y preparar resumen ejecutivo."
    priority := .low
    tags := ["reporting", "liquidez"]
    minutes := 120
    column := .todo
    days := 5 },
  { title := "Auditar operaciones fuera de ventana"
    description := "Verificar ejecuciones fuera del horario aprobado."
    priority := .high
    tags := ["compliance", "auditoria"]
    minutes := 60
    column := .doing
    days := -1 },
  { title := "Cerrar posiciones de riesgo residual"
    description := "Vender posiciones con correlación inversa baja."
    priority := .medium
    tags := ["riesgo", "cierre"]
    minutes := 75
    column := .done
    days := 2 }]

/-- Why there is no sample board: the time, or the due time of a task, is outside of the
calendar. -/
structure NoSample where
  now : Option Moment

/-- A task of the sample board with its id and times. -/
def Sample.toTask (s : Sample) (now : Moment) (id : Text) : Except NoSample Task :=
  match now.addDays? s.days with
  | none => throw ⟨some now⟩
  | some due =>
    pure {
      id
      title := s.title
      description := some s.description
      priority := s.priority
      tags := s.tags
      estimate := .int s.minutes
      createdAt := now.stamp
      dueAt := some due.stamp
      column := s.column
      reviewerNote := none
      score := none
      scoreComment := none }

/-- The sample board, made at the time and with the ids of a stamp. -/
def sample (s : Stamp) : Except NoSample Board :=
  match s.now.shows 0 with
  | none => throw ⟨none⟩
  | some now => do
    let tasks ← samples.zipIdx.mapM fun (t, i) => t.toTask now (s.fresh i)
    pure ⟨tasks, [], false⟩

end Kanban.Board
