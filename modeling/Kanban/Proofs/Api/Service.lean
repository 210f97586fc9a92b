import Kanban.Proofs.Api.Failure
import Kanban.Proofs.Keeper.StepLaw

/-!
# Replies tell the truth

What a reply says has been done to the board has been done, and nothing else: an error says that
nothing was, and so does asking for a part of the board; a created task is the one that was
appended; a task is called changed exactly when there is a new entry about it and the board was
saved; and a task that was deleted is on the board no more.  All this is so unless the request
strands the keeper with a new board that has no snapshot: that is answered with an error as well
(`Api.truthful_serve_iff`).
-/

namespace Kanban.Api

variable {β : Type} [Backend β]

/-! ### What a reply can be about -/

/-- The new board was saved, once. -/
structure SavedOnce (count : β → Nat) (k k' : Keeper β) : Prop where
  saved : ∃ bytes, k'.board.snapshot = .ok bytes
    ∧ Backend.save bytes k.backend = (.ok (), k'.backend)
  once : count k'.backend = count k.backend + 1

/-- There is one entry more in front of the audit log, about what was done to a task. -/
def Logs (k k' : Keeper β) (action : Action) (id : Text) : Prop :=
  ∃ x : Entry, k'.board.audit = x :: k.board.audit ∧ x.action = action ∧ x.taskId = id

/-- The task stands at the end of the board, and that is noted. -/
structure Appends (count : β → Nat) (k k' : Keeper β) (t : Task) : Prop where
  tasks : k'.board.tasks = k.board.tasks ++ [t]
  reviewMode : k'.board.reviewMode = k.board.reviewMode
  logged : Logs k k' .create t.id
  saved : SavedOnce count k k'

/-- No task has the id any more, and that is noted. -/
structure Drops (count : β → Nat) (k k' : Keeper β) (id : Text) : Prop where
  gone : id ∉ k'.board.taskIds
  logged : Logs k k' .delete id
  saved : SavedOnce count k k'

/-- The reply shows the task with the id, and says whether it has changed. -/
structure Tells (count : β → Nat) (k : Keeper β) (action : Action) (id : Text)
    (x : Reply × Keeper β) (t : Task) (changed : Bool) : Prop where
  content : x.1.content = .json (.obj [("task", t.toJson), ("changed", .bool changed)])
  found : x.2.board.task? id = some t
  noted : changed = true ↔ Logs k x.2 action id ∧ SavedOnce count k x.2
  same : changed = false → x.2 = k

variable {count : β → Nat} {k : Keeper β} {src : Source} {id : Text}
  {x : Reply × Keeper β}

/-- The task that was created is the one that is shown, if its id is new. -/
theorem Creates.appends (hcount : Backend.IsCount count) (h : Creates k src x) :
  ∃ t, Appends count k x.2 t
    ∧ (src.ids k.drawn ∉ k.board.taskIds →
      x.1.content = .json (.obj [("task", t.toJson), ("id", .str t.id)]))
  := by
  cases h with
  | @intro t u e b bytes w board id action taskId found snapshot save =>
      refine ⟨t, ⟨?_, ?_, ⟨e, ?_, action, taskId⟩, ⟨bytes, snapshot, save⟩, hcount save⟩, ?_⟩
      · rw [board]
      · rw [board]
      · rw [board]
      · intro hfresh
        rw [← id] at hfresh
        rw [board] at found
        obtain rfl := Option.some.inj (found.symm.trans (Board.task?_append_of_not_mem hfresh))
        rfl

theorem Edits.tells (hcount : Backend.IsCount count) {action : Action} (h : Edits k action id x) :
  ∃ t changed, Tells count k action id x t changed
  := by
  cases h with
  | @same t found =>
      refine ⟨t, false, rfl, found, ?_, fun _ => rfl⟩
      apply iff_of_false Bool.false_ne_true
      rintro ⟨-, hsaved⟩
      apply absurd hsaved.once
      simp
  | @changed t e b bytes w found audit kind taskId snapshot save =>
      refine ⟨t, true, rfl, found, ?_, fun h => absurd h.symm Bool.false_ne_true⟩
      apply iff_of_true rfl
      exact ⟨⟨e, audit, kind, taskId⟩, ⟨bytes, snapshot, save⟩, hcount save⟩

theorem Removes.drops (hcount : Backend.IsCount count) (h : Removes k id x) :
  Drops count k x.2 id
  := by
  cases h with
  | @intro e b bytes w board action taskId snapshot save =>
      refine ⟨?_, ⟨e, ?_, action, taskId⟩, ⟨bytes, snapshot, save⟩, hcount save⟩
      · rw [board]
        simp [Board.taskIds]
      · rw [board]

/-! ### Requests -/

variable {ρ : Type} {F : Framework ρ} {x : ρ} {r : Request} {e : Endpoint}

/-- The request is to change the task with the id. -/
inductive Framework.Alters (F : Framework ρ) (x : ρ) : Action → Text → Prop
  | update {id : Text} {r : Request} (call : F.dispatch x = .call (.updateTask id) r) :
      F.Alters x .update id
  | move {id : Text} {r : Request} (call : F.dispatch x = .call (.moveTask id) r) :
      F.Alters x .move id

/-- What the reply to a request says about the keeper is so. -/
structure Truthful (count : β → Nat) (F : Framework ρ) (k : Keeper β) (src : Source) (x : ρ)
    (y : Reply × Keeper β) : Prop where
  quiet : 400 ≤ y.1.status ∨ F.method x = .get →
    y.2.board = k.board ∧ y.2.backend = k.backend
  created : ∀ r, F.dispatch x = .call .createTask r → y.1.status = 201 →
    ∃ t, Appends count k y.2 t
      ∧ (src.ids k.drawn ∉ k.board.taskIds →
        y.1.content = .json (.obj [("task", t.toJson), ("id", .str t.id)]))
  altered : ∀ action id, F.Alters x action id → y.1.status = 200 →
    ∃ t changed, Tells count k action id y t changed
  deleted : ∀ id r, F.dispatch x = .call (.deleteTask id) r → y.1.status = 200 →
    Drops count k y.2 id

/-- A request that is not to get something is answered by the reply of its handler. -/
theorem serve_eq_handle (hF : F.Documented) (h : F.dispatch x = .call e r)
    (he : e.method ≠ .get) :
  serve F k src x = handle k src r e
  := by
  have hhead : F.method x ≠ .head := by
    rcases hF.method x e r h with hmethod | ⟨-, hget⟩
    · intro hhead
      cases e <;> cases hmethod.symm.trans hhead
    · exact absurd hget he
  rw [serve, h]
  dsimp only
  rw [if_neg hhead]

/-- Whatever the framework does with a request, it ends in an error or succeeds. -/
theorem settles_serve (hsave : Backend.Writable k.backend) :
  Settles False k (serve F k src x)
  := by
  cases hx : F.dispatch x with
  | page status =>
      rw [serve, hx]
      apply settles_same False.elim
  | call e r =>
      obtain ⟨hstatus, hkeeper⟩ := serve_of_call k src hx
      rcases settles_handle hsave src r e with ⟨kept, error, -⟩ | ⟨status, kept⟩
      · left
        refine ⟨?_, ?_, False.elim⟩
        · rwa [hkeeper]
        · rwa [hstatus]
      · right
        constructor
        · rwa [hstatus]
        · rwa [hkeeper]

/-- What is got leaves the keeper as it was. -/
theorem serve_get (hF : F.Documented) (h : F.method x = .get) :
  (serve F k src x).2 = k
  := by
  cases hx : F.dispatch x with
  | page status => rw [serve, hx]
  | call e r =>
      rw [(serve_of_call _ _ hx).2]
      apply handle_get
      rcases hF.method x e r hx with hmethod | ⟨hhead, -⟩
      · rw [← hmethod, h]
      · cases h.symm.trans hhead

theorem creates_of_status (hsave : Backend.Writable k.backend)
    (hstatus : (handle k src r .createTask).1.status = 201) :
  Creates k src (handle k src r .createTask)
  := by
  rw [handle, withMembers] at hstatus ⊢
  cases hm : r.members? with
  | none =>
      rw [hm] at hstatus
      cases hstatus
  | some m =>
      rw [hm] at hstatus
      apply of_status (createTask_spec hsave src m)
      apply hstatus.trans_lt
      decide

theorem moves_of_status (hsave : Backend.Writable k.backend)
    (hstatus : (handle k src r (.moveTask id)).1.status = 200) :
  Edits k .move id (handle k src r (.moveTask id))
  := by
  rw [handle, withMembers] at hstatus ⊢
  cases hm : r.members? with
  | none =>
      rw [hm] at hstatus
      cases hstatus
  | some m =>
      rw [hm] at hstatus
      apply of_status (moveTask_spec hsave src id m)
      apply hstatus.trans_lt
      decide

theorem edits_of_status (hF : F.Documented) (hsave : Backend.Writable k.backend)
    {action : Action} (halters : F.Alters x action id)
    (hstatus : (serve F k src x).1.status = 200) :
  Edits k action id (serve F k src x)
  := by
  cases halters with
  | update call =>
      rw [serve_eq_handle hF call nofun] at hstatus ⊢
      apply of_status (updateTask_spec hsave src id _)
      apply hstatus.trans_lt
      decide
  | move call =>
      rw [serve_eq_handle hF call nofun] at hstatus ⊢
      apply moves_of_status hsave hstatus

/-- As long as saves succeed, the reply to a request tells the truth about the board exactly if the
board is the same as before or has a snapshot. -/
theorem truthful_serve_iff (hF : F.Documented) (hcount : Backend.IsCount count)
    (hsave : Backend.Writable k.backend) (src : Source) (x : ρ) :
  Truthful count F k src x (serve F k src x)
    ↔ (serve F k src x).2.board = k.board
      ∨ ∃ bytes, (serve F k src x).2.board.snapshot = .ok bytes
  := by
  have hsettles : Settles False k (serve F k src x) := settles_serve hsave
  constructor
  · intro htruthful
    rcases hsettles with herrs | ⟨-, hsame | hsnapshot⟩
    · left
      apply (htruthful.quiet (.inl herrs.error)).1
    · left
      rw [hsame]
    · right
      apply hsnapshot
  · intro hwritten
    constructor
    · rintro (herror | hget)
      · rcases hsettles with ⟨hsame | hstrands, -, -⟩ | hsucceeds
        · rw [hsame]
          exact ⟨rfl, rfl⟩
        · apply And.intro _ hstrands.backend
          apply hwritten.resolve_right
          rintro ⟨bytes, hbytes⟩
          obtain ⟨e, he⟩ := hstrands.unwritten
          cases he.symm.trans hbytes
        · have := hsucceeds.status
          omega
      · rw [serve_get hF hget]
        exact ⟨rfl, rfl⟩
    · intro r hcall hstatus
      rw [serve_eq_handle hF hcall nofun] at hstatus ⊢
      apply (creates_of_status hsave hstatus).appends hcount
    · intro action id halters hstatus
      apply (edits_of_status hF hsave halters hstatus).tells hcount
    · intro id r hcall hstatus
      rw [serve_eq_handle hF hcall nofun] at hstatus ⊢
      have hremoves : Removes k id (handle k src r (.deleteTask id)) := by
        apply of_status (deleteTask_spec hsave src id)
        apply hstatus.trans_lt
        decide
      apply hremoves.drops hcount

/-- Deleting the only task of a board. -/
def deleting : Message where
  path := "/api/tasks/a"
  query := []
  method := .delete
  body := .empty

/-- The only task of a board is deleted, and the board was saved once. -/
theorem truthful_serve_deleting :
  (serve .usual Keeper.single ⟨some Keeper.january, Uuid.supply 0⟩ deleting).1.status = 200
    ∧ Drops Memory.saves Keeper.single
      (serve .usual Keeper.single ⟨some Keeper.january, Uuid.supply 0⟩ deleting).2 "a"
  := by
  have hcall : Framework.usual.dispatch deleting = .call (.deleteTask "a") deleting.request := rfl
  have hsnapshot : (serve .usual Keeper.single ⟨some Keeper.january, Uuid.supply 0⟩
      deleting).2.board.snapshot.isOk = true := by
    decide +kernel
  have hstatus : (serve .usual Keeper.single ⟨some Keeper.january, Uuid.supply 0⟩
      deleting).1.status = 200 := by
    decide +kernel
  have htruthful := (truthful_serve_iff documented_usual (k := Keeper.single)
    Backend.isCount_saves (fun _ => ⟨_, rfl⟩) ⟨some Keeper.january, Uuid.supply 0⟩ deleting).mpr
      (.inr (isOk_iff.mp hsnapshot))
  exact ⟨hstatus, htruthful.deleted "a" _ hcall hstatus⟩

/-- An error is the reply where a title with half of a surrogate pair has come onto the board. -/
theorem not_truthful_serve_half :
  Backend.Writable idle.backend
    ∧ ¬ Truthful Memory.saves .usual idle ⟨some Keeper.january, Uuid.supply 0⟩
      (creating "\x7b\"title\": \"abc\\ud800\"\x7d")
      (serve .usual idle ⟨some Keeper.january, Uuid.supply 0⟩
        (creating "\x7b\"title\": \"abc\\ud800\"\x7d"))
  := by
  apply And.intro fun _ => ⟨_, rfl⟩
  intro htruthful
  have hstatus : (serve .usual idle ⟨some Keeper.january, Uuid.supply 0⟩
      (creating "\x7b\"title\": \"abc\\ud800\"\x7d")).1.status = 400 := by
    decide +kernel
  have htasks : (serve .usual idle ⟨some Keeper.january, Uuid.supply 0⟩
      (creating "\x7b\"title\": \"abc\\ud800\"\x7d")).2.board.tasks.length = 1 := by
    decide +kernel
  rw [(htruthful.quiet (.inl hstatus.ge)).1] at htasks
  cases htasks

end Kanban.Api
