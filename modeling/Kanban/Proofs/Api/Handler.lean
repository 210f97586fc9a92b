import Kanban.Api
import Kanban.Proofs.Board.Ids
import Kanban.Proofs.Board.Lines
import Kanban.Proofs.Board.Refusal
import Kanban.Proofs.Board.Snapshot
import Kanban.Proofs.Keeper.Operation

/-!
# What handlers do

A request that is to change the board is handed to one of six handlers.  When boards can be saved
each of them either ends in an error (`Errs`), or does one thing, which its reply is about: a task
is created (`Creates`), changed or found to be as asked for (`Edits`), or removed (`Removes`).  Of
the review flag and of imports it is only said here that the reply is no error (`Settles`).

An error leaves the keeper as it was, with one exception: where the new board has no snapshot the
keeper is stranded with a board that was not saved (`Strands`).
-/

namespace Kanban

/-! ### Values that replies show -/

namespace Board

variable {b : Board} {bytes : ByteArray}

theorem isShort_of_snapshot (h : b.snapshot = .ok bytes) :
  b.toJson.isShort = true
  := by
  obtain ⟨t, ht, -⟩ := snapshot_eq_ok_iff.mp h
  rw [text?, Json.write?] at ht
  by_contra hshort
  simp [hshort] at ht

theorem isShort_task (h : b.toJson.isShort = true) {t : Task} (ht : t ∈ b.tasks) :
  t.toJson.isShort = true
  := by
  have htasks := Members.isShort_value h "tasks"
  apply Json.isShort_of_mem htasks
  apply List.mem_map_of_mem ht

end Board

namespace Api

theorem Reply.showing_of_isShort {shown : List Json} (h : ∀ v ∈ shown, v.isShort = true)
    (r : Reply) :
  r.showing shown = r
  := by
  rw [showing, if_pos (List.all_eq_true.mpr h)]

/-! ### Errors -/

section

variable {β : Type} {fit fit' : Prop} {k k' : Keeper β} {x : Reply × Keeper β}

/-- The second keeper holds another board, which has no snapshot, and nothing was saved. -/
structure Strands (k k' : Keeper β) : Prop where
  backend : k'.backend = k.backend
  unwritten : ∃ e, k'.board.snapshot = .error e

/-- A keeper that commits to a board without a snapshot is stranded. -/
theorem strands_commit {b : Board} {e : Board.Unwritten} (hb : b.snapshot = .error e) (n : Nat) :
  Strands k ⟨⟨k.backend, k.drawn + n⟩, b⟩
  := ⟨rfl, e, hb⟩

/-- An error.  It leaves the keeper as it was or strands it.  When the request was `fit` to be
served, the request is at fault. -/
structure Errs (fit : Prop) (k : Keeper β) (x : Reply × Keeper β) : Prop where
  kept : x.2 = k ∨ Strands k x.2
  error : 400 ≤ x.1.status
  fault : fit → x.1.status < 500

theorem errs_error {status : Nat} (hlow : 400 ≤ status) (hhigh : status < 500)
    (content : Content) :
  Errs fit k (⟨status, content⟩, k)
  := ⟨.inl rfl, hlow, fun _ => hhigh⟩

theorem errs_bad (message : Text) :
  Errs fit k (.bad message, k)
  := errs_error le_rfl (by decide) _

theorem errs_noTask :
  Errs fit k (.noTask, k)
  := errs_error (by decide) (by decide) _

theorem errs_failed (h : ¬ fit) :
  Errs fit k (.failed, k)
  := ⟨.inl rfl, Nat.le_add_right 400 100, fun hfit => absurd hfit h⟩

/-- What tells of failures calls the request at fault. -/
def Blames (tell : Text → Reply) : Prop := ∀ message, (tell message).status = 400

theorem blames_bad :
  Blames Reply.bad
  := fun _ => rfl

theorem Blames.errs {tell : Text → Reply} (htell : Blames tell) (hkept : k' = k ∨ Strands k k')
    (message : Text) :
  Errs fit k (tell message, k')
  := by
  have hstatus := htell message
  refine ⟨hkept, ?_, fun _ => ?_⟩ <;> dsimp only <;> omega

/-- A refusal in words is told, and there are words if the request was fit. -/
theorem errs_of_refused {tell : Text → Reply} (htell : Blames tell) {r : Refusal}
    (h : fit → ∃ message, r.message? = some message) :
  Errs fit k (.ofFailure tell (.refused r), k)
  := by
  rw [Reply.ofFailure, Keeper.Failure.message?]
  cases hr : r.message? with
  | some message => apply htell.errs (.inl rfl)
  | none =>
      apply errs_failed
      intro hfit
      obtain ⟨message, hmessage⟩ := h hfit
      cases hr.symm.trans hmessage

/-- A computation that is refused, in words if the request was fit, ends in an error. -/
theorem errs_of_error {α : Type} {x : Except Refusal α} {r : Refusal}
    (hx : fit → Explained x) (hr : x = .error r) :
  Errs fit k (.ofRefusal r, k)
  := by
  have hrefusal : Reply.ofRefusal r = .ofFailure .bad (.refused r) := by
    rw [Reply.ofRefusal, Reply.ofFailure, Keeper.Failure.message?]
    cases r.message? <;> rfl
  rw [hrefusal]
  apply errs_of_refused blames_bad fun hfit => (hx hfit).told r hr

/-- A request that is not fit and ends in an error does so whatever the error is. -/
theorem errs_failed_of_kept (h : ¬ fit) (hkept : k' = k ∨ Strands k k') :
  Errs fit k (.failed, k')
  := ⟨hkept, Nat.le_add_right 400 100, fun hfit => absurd hfit h⟩

/-- What is no error has been done. -/
theorem of_status {fit P : Prop} (h : Errs fit k x ∨ P) (hstatus : x.1.status < 400) :
  P
  := by
  apply h.resolve_left
  intro herrs
  have := herrs.error
  omega

/-- The reply is no error, and if the board is another one it has a snapshot. -/
structure Succeeds (k : Keeper β) (x : Reply × Keeper β) : Prop where
  status : x.1.status < 400
  kept : x.2 = k ∨ ∃ bytes, x.2.board.snapshot = .ok bytes

/-- The request ends in an error or succeeds. -/
def Settles (fit : Prop) (k : Keeper β) (x : Reply × Keeper β) : Prop :=
  Errs fit k x ∨ Succeeds k x

theorem Settles.mono (h : Settles fit k x) (hfit : fit' → fit) :
  Settles fit' k x
  := by
  apply h.imp_left
  rintro ⟨kept, error, fault⟩
  exact ⟨kept, error, fun h => fault (hfit h)⟩

/-- Whatever the reply is, the request settles if the keeper is the same. -/
theorem settles_same {reply : Reply} (h : fit → reply.status < 500) :
  Settles fit k (reply, k)
  := by
  rcases Nat.lt_or_ge reply.status 400 with hlt | hge
  · right
    exact ⟨hlt, .inl rfl⟩
  · left
    exact ⟨.inl rfl, hge, h⟩

theorem settles_withMembers {r : Request} {f : Members → Reply × Keeper β}
    (hbody : fit → r.members? ≠ none) (hf : ∀ m, r.members? = some m → Settles fit k (f m)) :
  Settles fit k (withMembers k r f)
  := by
  rw [withMembers]
  cases hm : r.members? with
  | none =>
      left
      apply errs_failed
      intro hfit
      apply hbody hfit hm
  | some m => apply hf m hm

end

variable {β : Type} [Backend β] {fit : Prop} {k : Keeper β} {src : Source} {id : Text}

/-! ### Creating a task -/

/-- A task with a new id stands at the end of the board, and the entry about it in front of the
audit log; the board was saved, and the task that is found under the id is shown. -/
inductive Creates (k : Keeper β) (src : Source) : Reply × Keeper β → Prop
  | intro {t u : Task} {x : Entry} {b : Board} {bytes : ByteArray} {w : β}
      (board : b = { k.board with tasks := k.board.tasks ++ [t], audit := x :: k.board.audit })
      (id : t.id = src.ids k.drawn) (action : x.action = .create) (taskId : x.taskId = t.id)
      (found : b.task? t.id = some u) (snapshot : b.snapshot = .ok bytes)
      (save : Backend.save bytes k.backend = (.ok (), w)) :
      Creates k src
        (.created (.obj [("task", u.toJson), ("id", .str u.id)]), ⟨⟨w, k.drawn + 2⟩, b⟩)

theorem Creates.succeeds {x : Reply × Keeper β} (h : Creates k src x) :
  Succeeds k x
  := by
  cases h with
  | intro _ _ _ _ _ snapshot => exact ⟨Nat.le_add_left 202 198, .inr ⟨_, snapshot⟩⟩

theorem createTask_spec (hsave : Backend.Writable k.backend) (src : Source) (m : Members) :
  Errs (src.now.isSome = true) k (createTask k src m) ∨ Creates k src (createTask k src m)
  := by
  rw [createTask]
  split_ifs
  · cases hd : NewTask.ofMembers m with
    | error r =>
        left
        apply errs_of_error (fun _ => NewTask.explained_ofMembers m) hd
    | ok d =>
        dsimp only
        rw [Keeper.create]
        cases hx : k.board.create (src.stamp k.drawn) d with
        | error r =>
            left
            apply errs_of_refused blames_bad
            intro hfit
            apply (Board.explained_create (fun _ => hfit) _ (NewTask.tags_of_ofMembers hd)).told
              r hx
        | ok made =>
            obtain ⟨b, x⟩ := made
            obtain ⟨t, ht, he, hb⟩ := Board.create_eq_ok_iff.mp hx
            obtain ⟨now, -, rfl⟩ := Stamp.entry_eq_ok_iff.mp he
            obtain ⟨u, hu⟩ : ∃ u, b.task? t.id = some u := by
              apply Board.exists_task?_iff.mpr
              simp [hb, Board.taskIds]
            dsimp only
            cases hsnapshot : b.snapshot with
            | error e =>
                left
                rw [Keeper.commit_of_unwritten k 2 hsnapshot]
                apply blames_bad.errs (.inr (strands_commit hsnapshot 2))
            | ok bytes =>
                right
                obtain ⟨w, hw, hcommit⟩ := Keeper.exists_commit hsave 2 hsnapshot (b.task? t.id)
                have hshort := Board.isShort_task (Board.isShort_of_snapshot hsnapshot)
                  (Board.mem_of_task? hu).1
                rw [hcommit, hu]
                dsimp only
                rw [Reply.showing_of_isShort (by simpa using hshort)]
                apply Creates.intro hb (d.toTask_spec ht).2.1 rfl rfl hu hsnapshot hw
  · left
    apply errs_bad

theorem settles_createTask (hsave : Backend.Writable k.backend) (src : Source) (m : Members) :
  Settles (src.now.isSome = true) k (createTask k src m)
  := (createTask_spec hsave src m).imp_right Creates.succeeds

/-! ### Changing a task -/

/-- The task that is found under the id is shown.  It has changed exactly if the reply says so;
then an entry about it is in front of the audit log, and the board was saved. -/
inductive Edits (k : Keeper β) (action : Action) (id : Text) : Reply × Keeper β → Prop
  | same {t : Task} (found : k.board.task? id = some t) :
      Edits k action id (.ok (.obj [("task", t.toJson), ("changed", .bool false)]), k)
  | changed {t : Task} {x : Entry} {b : Board} {bytes : ByteArray} {w : β}
      (found : b.task? id = some t) (audit : b.audit = x :: k.board.audit)
      (kind : x.action = action) (taskId : x.taskId = id) (snapshot : b.snapshot = .ok bytes)
      (save : Backend.save bytes k.backend = (.ok (), w)) :
      Edits k action id
        (.ok (.obj [("task", t.toJson), ("changed", .bool true)]), ⟨⟨w, k.drawn + 1⟩, b⟩)

theorem Edits.succeeds {action : Action} {x : Reply × Keeper β} (h : Edits k action id x) :
  Succeeds k x
  := by
  cases h with
  | same => exact ⟨Nat.le_add_left 201 199, .inl rfl⟩
  | changed _ _ _ _ snapshot => exact ⟨Nat.le_add_left 201 199, .inr ⟨_, snapshot⟩⟩

/-- What a command that makes a new board has to provide for its reply. -/
structure Announces (b b' : Board) (action : Action) (id : Text) (x : Entry) : Prop where
  found : ∃ t, b'.task? id = some t
  audit : b'.audit = x :: b.audit
  action : x.action = action
  taskId : x.taskId = id

/-- The tasks on the board can be shown. -/
def Shows (b : Board) : Prop := ∀ t ∈ b.tasks, t.toJson.isShort = true

theorem changeReply_spec {tell : Text → Reply} (htell : Blames tell) {action : Action}
    {r : Except Refusal (Option (Board × Entry))} (hsave : Backend.Writable k.backend)
    (hr : fit → Explained r) (hshows : fit → Shows k.board)
    (hfound : ∃ t, k.board.task? id = some t)
    (hmade : ∀ b x, r = .ok (some (b, x)) → Announces k.board b action id x) :
  Errs fit k (changeReply tell id (k.commitEntry r))
    ∨ Edits k action id (changeReply tell id (k.commitEntry r))
  := by
  rcases r with r | _ | ⟨b, x⟩
  · left
    apply errs_of_refused htell fun hfit => (hr hfit).told r rfl
  · obtain ⟨t, ht⟩ := hfound
    have hreply : changeReply tell id (k.commitEntry (.ok none)) = (taskReply k id false, k) := rfl
    rw [hreply, taskReply, ht]
    dsimp only
    by_cases hshort : t.toJson.isShort = true
    · right
      rw [Reply.showing_of_isShort (by simpa using hshort)]
      apply Edits.same ht
    · left
      have hfailed (reply : Reply) : reply.showing [t.toJson] = .failed := by
        simp [Reply.showing, hshort]
      rw [hfailed]
      apply errs_failed
      intro hfit
      apply hshort (hshows hfit t (Board.mem_of_task? ht).1)
  · obtain ⟨⟨t, ht⟩, haudit, haction, htask⟩ := hmade b x rfl
    rw [Keeper.commitEntry]
    cases hsnapshot : b.snapshot with
    | error e =>
        left
        rw [Keeper.commit_of_unwritten k 1 hsnapshot]
        apply htell.errs (.inr (strands_commit hsnapshot 1))
    | ok bytes =>
        right
        obtain ⟨w, hw, hcommit⟩ := Keeper.exists_commit hsave 1 hsnapshot (some x)
        have hshort := Board.isShort_task (Board.isShort_of_snapshot hsnapshot)
          (Board.mem_of_task? ht).1
        rw [hcommit, changeReply, taskReply, ht]
        dsimp only
        rw [Reply.showing_of_isShort (by simpa using hshort)]
        apply Edits.changed ht haudit haction htask hsnapshot hw

theorem announces_update {s : Stamp} {b b' : Board} {e : TaskEdit} {x : Entry}
    (h : b.update s id e = .ok (some (b', x))) :
  Announces b b' .update id x
  := by
  obtain ⟨t, u, ht, hu, -, hx, hb⟩ := Board.update_eq_ok_some_iff.mp h
  obtain ⟨now, -, rfl⟩ := Stamp.entry_eq_ok_iff.mp hx
  refine ⟨?_, Board.audit_update h, rfl, rfl⟩
  apply Board.exists_task?_iff.mpr
  rw [hb]
  change id ∈ (b.replaceTask id u).map (·.id)
  rw [Board.taskIds_replaceTask ((e.apply_spec hu).2.1.trans (Board.mem_of_task? ht).2)]
  apply Board.exists_task?_iff.mp ⟨t, ht⟩

theorem announces_move {s : Stamp} {b b' : Board} {v : Json} {x : Entry}
    (h : b.move s id v = .ok (some (b', x))) :
  Announces b b' .move id x
  := by
  obtain ⟨t, c, -, ht, -, hx, hb⟩ := Board.move_eq_ok_some_iff.mp h
  obtain ⟨now, -, rfl⟩ := Stamp.entry_eq_ok_iff.mp hx
  refine ⟨?_, Board.audit_move h, rfl, rfl⟩
  apply Board.exists_task?_iff.mpr
  rw [hb]
  change id ∈ (b.replaceTask id { t with column := c }).map (·.id)
  rw [Board.taskIds_replaceTask (u := { t with column := c }) (Board.mem_of_task? ht).2]
  apply Board.exists_task?_iff.mp ⟨t, ht⟩

/-- An edit is fit to be made when there is a time, the tasks can be shown, and what is to become
of a task counts as an object. -/
structure FitsUpdate (src : Source) (b : Board) (id : Text) (m? : Option Members) : Prop where
  now : src.now.isSome = true
  shows : Shows b
  body : (∃ t, b.task? id = some t) → m?.isSome = true

theorem updateTask_spec (hsave : Backend.Writable k.backend) (src : Source) (id : Text)
    (m? : Option Members) :
  Errs (FitsUpdate src k.board id m?) k (updateTask k src id m?)
    ∨ Edits k .update id (updateTask k src id m?)
  := by
  unfold updateTask
  cases ht : k.board.task? id with
  | none =>
      left
      apply errs_noTask
  | some t =>
      cases m? with
      | none =>
          left
          apply errs_failed
          intro hfit
          cases hfit.body ⟨t, ht⟩
      | some m =>
          dsimp only
          cases he : TaskEdit.ofMembers m with
          | error r =>
              left
              apply errs_of_error (fun _ => TaskEdit.explained_ofMembers m) he
          | ok e =>
              apply changeReply_spec blames_bad hsave _ FitsUpdate.shows ⟨t, ht⟩
                fun b x => announces_update
              intro hfit
              apply Board.explained_update (fun _ => hfit.now) _ _ (TaskEdit.tags_of_ofMembers he)

/-- A move is fit to be made when there is a time, the tasks can be shown, and the column is a
text or counts for nothing. -/
structure FitsMove (src : Source) (b : Board) (m : Members) : Prop where
  now : src.now.isSome = true
  shows : Shows b
  column : (columnName? (m.value "state")).isSome = true

theorem moveTask_spec (hsave : Backend.Writable k.backend) (src : Source) (id : Text)
    (m : Members) :
  Errs (FitsMove src k.board m) k (moveTask k src id m) ∨ Edits k .move id (moveTask k src id m)
  := by
  rw [moveTask]
  split
  next hname =>
    left
    apply errs_failed
    intro hfit
    have := hfit.column
    rw [hname] at this
    cases this
  next name hname =>
    split_ifs with hempty hnone
    · left
      apply errs_bad
    · left
      apply errs_noTask
    · apply changeReply_spec (fun _ => rfl) hsave _ FitsMove.shows _ fun b x => announces_move
      · intro hfit
        apply Board.explained_move (fun _ => hfit.now)
      · apply Option.ne_none_iff_exists'.mp
        simpa using hnone

theorem settles_updateTask (hsave : Backend.Writable k.backend) (src : Source) (id : Text)
    (m? : Option Members) :
  Settles (FitsUpdate src k.board id m?) k (updateTask k src id m?)
  := (updateTask_spec hsave src id m?).imp_right Edits.succeeds

theorem settles_moveTask (hsave : Backend.Writable k.backend) (src : Source) (id : Text)
    (m : Members) :
  Settles (FitsMove src k.board m) k (moveTask k src id m)
  := (moveTask_spec hsave src id m).imp_right Edits.succeeds

/-! ### Removing a task -/

/-- No task has the id any more, and an entry about it is in front of the audit log; the board was
saved. -/
inductive Removes (k : Keeper β) (id : Text) : Reply × Keeper β → Prop
  | intro {x : Entry} {b : Board} {bytes : ByteArray} {w : β}
      (board : b = { k.board with
        tasks := k.board.tasks.filter (·.id ≠ id), audit := x :: k.board.audit })
      (action : x.action = .delete) (taskId : x.taskId = id) (snapshot : b.snapshot = .ok bytes)
      (save : Backend.save bytes k.backend = (.ok (), w)) :
      Removes k id (.ok (.obj [("deleted", .str id)]), ⟨⟨w, k.drawn + 1⟩, b⟩)

theorem Removes.succeeds {x : Reply × Keeper β} (h : Removes k id x) :
  Succeeds k x
  := by
  cases h with
  | intro _ _ _ snapshot => exact ⟨Nat.le_add_left 201 199, .inr ⟨_, snapshot⟩⟩

/-- Where there is a time a task that is found is removed. -/
theorem exists_delete_of_found {s : Stamp} (hs : (s.now.shows 0).isSome = true) {b : Board}
    {t : Task} (ht : b.task? id = some t) :
  ∃ b' x, b.delete s id = .ok (some (b', x))
  := by
  obtain ⟨now, hnow⟩ := Option.isSome_iff_exists.mp hs
  simp only [Board.delete, ht, Stamp.entry, Stamp.time, hnow]
  exact ⟨_, _, rfl⟩

/-- Where there is a time no removal is refused. -/
theorem exists_delete {s : Stamp} (hs : (s.now.shows 0).isSome = true) (b : Board) (id : Text) :
  ∃ made, b.delete s id = .ok made
  := by
  cases ht : b.task? id with
  | none =>
      use none
      rw [Board.delete, ht]
      rfl
  | some t =>
      obtain ⟨b', x, h⟩ := exists_delete_of_found hs ht
      exact ⟨_, h⟩

/-- A task is fit to be removed when there is a time and the board without it has a snapshot. -/
structure FitsDelete (k : Keeper β) (src : Source) (id : Text) : Prop where
  now : src.now.isSome = true
  written : ∀ b x, k.board.delete (src.stamp k.drawn) id = .ok (some (b, x)) →
    ∃ bytes, b.snapshot = .ok bytes

theorem deleteTask_spec (hsave : Backend.Writable k.backend) (src : Source) (id : Text) :
  Errs (FitsDelete k src id) k (deleteTask k src id) ∨ Removes k id (deleteTask k src id)
  := by
  rw [deleteTask, Keeper.delete]
  rcases hx : k.board.delete (src.stamp k.drawn) id with r | _ | ⟨b, x⟩
  · left
    apply errs_failed
    intro hfit
    obtain ⟨made, hmade⟩ := exists_delete (s := src.stamp k.drawn) hfit.now k.board id
    cases hx.symm.trans hmade
  · left
    apply errs_noTask
  · obtain ⟨t, -, he, hb⟩ := Board.delete_eq_ok_some_iff.mp hx
    obtain ⟨now, -, rfl⟩ := Stamp.entry_eq_ok_iff.mp he
    rw [Keeper.commitEntry]
    cases hsnapshot : b.snapshot with
    | error e =>
        left
        rw [Keeper.commit_of_unwritten k 1 hsnapshot]
        apply errs_failed_of_kept _ (.inr (strands_commit hsnapshot 1))
        intro hfit
        obtain ⟨bytes, hbytes⟩ := hfit.written _ _ hx
        cases hsnapshot.symm.trans hbytes
    | ok bytes =>
        right
        obtain ⟨w, hw, hcommit⟩ := Keeper.exists_commit hsave 1 hsnapshot (some _)
        rw [hcommit]
        apply Removes.intro hb rfl rfl hsnapshot hw

theorem settles_deleteTask (hsave : Backend.Writable k.backend) (src : Source) (id : Text) :
  Settles (FitsDelete k src id) k (deleteTask k src id)
  := (deleteTask_spec hsave src id).imp_right Removes.succeeds

/-! ### The review flag and imports -/

/-- The review flag is fit to be set when it is set already or the new board has a snapshot. -/
def FitsReview (k : Keeper β) (m : Members) : Prop :=
  ∀ value, m.value "reviewMode" = .bool value → k.board.reviewMode ≠ value →
    ∃ bytes, (k.board.setReviewMode value).snapshot = .ok bytes

theorem settles_setReviewMode (hsave : Backend.Writable k.backend) (m : Members) :
  Settles (FitsReview k m) k (setReviewMode k m)
  := by
  rw [setReviewMode]
  split
  next value hvalue =>
    rw [Keeper.setReviewMode]
    split_ifs with hsame
    · right
      exact ⟨Nat.le_add_left 201 199, .inl rfl⟩
    · cases hsnapshot : (k.board.setReviewMode value).snapshot with
      | error e =>
          left
          rw [Keeper.commit_of_unwritten k 0 hsnapshot]
          apply errs_failed_of_kept _ (.inr (strands_commit hsnapshot 0))
          intro hfit
          obtain ⟨bytes, hbytes⟩ := hfit value hvalue hsame
          cases hsnapshot.symm.trans hbytes
      | ok bytes =>
          right
          obtain ⟨w, -, hcommit⟩ := Keeper.exists_commit hsave 0 hsnapshot ()
          rw [hcommit]
          exact ⟨Nat.le_add_left 201 199, .inr ⟨bytes, hsnapshot⟩⟩
  · left
    apply errs_bad

/-- A snapshot is fit to be imported when it is not refused and the board that it becomes has a
snapshot. -/
structure FitsImport (k : Keeper β) (src : Source) (v : Json) : Prop where
  adopted : ∃ c, Board.adopt (src.stamp k.drawn) v = .ok c
  written : ∀ b rs, Board.adopt (src.stamp k.drawn) v = .ok (.ok (b, rs)) →
    ∃ bytes, b.snapshot = .ok bytes

theorem settles_importBoard (hsave : Backend.Writable k.backend) (src : Source)
    (bytes : ByteArray) :
  Settles (∀ v ∈ Keeper.decodeBytes? bytes, FitsImport k src v) k (importBoard k src bytes)
  := by
  rw [importBoard, Keeper.importBytes]
  cases hdecode : Keeper.decodeBytes? bytes with
  | none =>
      left
      apply errs_error (by decide) (by decide)
  | some v =>
      rw [Keeper.importDecoded, Keeper.importValue]
      rcases hx : Board.adopt (src.stamp k.drawn) v with r | ⟨b, rs⟩ | ⟨first, more⟩
      · left
        apply errs_failed
        intro hfit
        obtain ⟨c, hc⟩ := (hfit v rfl).adopted
        cases hx.symm.trans hc
      · dsimp only
        cases hsnapshot : b.snapshot with
        | error e =>
            left
            rw [Keeper.commit_of_unwritten k _ hsnapshot]
            apply errs_failed_of_kept _ (.inr (strands_commit hsnapshot _))
            intro hfit
            obtain ⟨saved, hsaved⟩ := (hfit v rfl).written b rs hx
            cases hsnapshot.symm.trans hsaved
        | ok saved =>
            right
            obtain ⟨w, -, hcommit⟩ := Keeper.exists_commit hsave (2 * rs.length) hsnapshot
              (Keeper.Import.accepted rs)
            rw [hcommit]
            exact ⟨Nat.le_add_left 201 199, .inr ⟨saved, hsnapshot⟩⟩
      · left
        apply errs_error (by decide) (by decide)

/-! ### All endpoints -/

/-- When a request is fit to be served: what is asked for can be shown, or what is to be done can
be done. -/
def Fits (k : Keeper β) (src : Source) (r : Request) : Endpoint → Prop
  | .createTask => src.now.isSome = true ∧ r.members? ≠ none
  | .updateTask id => FitsUpdate src k.board id r.members?
  | .deleteTask id => FitsDelete k src id
  | .moveTask _ => ∃ m, r.members? = some m ∧ FitsMove src k.board m
  | .setReviewMode => ∃ m, r.members? = some m ∧ FitsReview k m
  | .importBoard => ∀ v ∈ Keeper.decodeBytes? r.body, FitsImport k src v
  | e => (handle k src r e).1.status < 500

/-- Whatever is asked for, the request ends in an error or succeeds. -/
theorem settles_handle (hsave : Backend.Writable k.backend) (src : Source) (r : Request)
    (e : Endpoint) :
  Settles (Fits k src r e) k (handle k src r e)
  := by
  cases e with
  | createTask =>
      apply settles_withMembers And.right
      intro m _
      apply (settles_createTask hsave src m).mono And.left
  | updateTask id => apply settles_updateTask hsave
  | deleteTask id => apply settles_deleteTask hsave
  | moveTask id =>
      apply settles_withMembers (f := moveTask k src id)
      · rintro ⟨m, hm, -⟩ hnone
        cases hm.symm.trans hnone
      · intro m hm
        apply (settles_moveTask hsave src id m).mono
        rintro ⟨m', hm', hfit⟩
        obtain rfl := Option.some.inj (hm.symm.trans hm')
        apply hfit
  | setReviewMode =>
      apply settles_withMembers (f := setReviewMode k)
      · rintro ⟨m, hm, -⟩ hnone
        cases hm.symm.trans hnone
      · intro m hm
        apply (settles_setReviewMode hsave m).mono
        rintro ⟨m', hm', hfit⟩
        obtain rfl := Option.some.inj (hm.symm.trans hm')
        apply hfit
  | importBoard => apply settles_importBoard hsave
  | _ => apply settles_same id

/-- What is got leaves the keeper as it was. -/
theorem handle_get {e : Endpoint} (he : e.method = .get) (r : Request) :
  (handle k src r e).2 = k
  := by
  cases e <;> first | rfl | cases he

end Api

end Kanban
