import Kanban.Board
import Kanban.Text.Accent

/-!
# Accents on a board

Restoring the accents in all texts of the tasks of a board.
-/

namespace Kanban

open Text

/-- A task with the accents of its texts. -/
def Task.restoreAccents (t : Task) : Except UnlistedWord Task := do
  let title ← Text.restoreAccents t.title
  let description ← t.description.mapM Text.restoreAccents
  let tags ← t.tags.mapM Text.restoreAccents
  let reviewerNote ← t.reviewerNote.mapM Text.restoreAccents
  let scoreComment ← t.scoreComment.mapM Text.restoreAccents
  pure { t with title, description, tags, reviewerNote, scoreComment }

/-- A board with the accents of its tasks, and whether that changed any of them. -/
def Board.restoreAccents (b : Board) : Except UnlistedWord (Board × Bool) := do
  let tasks ← b.tasks.mapM Task.restoreAccents
  if tasks = b.tasks then pure (b, false) else pure ({ b with tasks }, true)

end Kanban
