import Kanban.Proofs.Board.Command
import Kanban.Proofs.Json.Comparison
import Kanban.Proofs.Keeper.Operation
import Kanban.Proofs.Storage
import Kanban.Proofs.Uuid

/-!
# What a command leaves behind

A command that returns has either changed nothing, the number of saves included, or it has
changed the value of the board, saved the snapshot of the new board once, and put one entry in
front of the audit log, which is the one it answers with; setting the review flag makes no
entry (`Keeper.step_law`).  So a command saves exactly when it changes the board.
-/

namespace Kanban

/-- The call sets the review flag. -/
def Operation.IsReview : Operation → Prop
  | review _ => True
  | _ => False

/-- An answer that shows nobody an entry. -/
def Answer.Silent : Answer → Prop
  | .entry none => True
  | .done => True
  | _ => False

/-- An answer to which an entry belongs: the entry itself, or the task that it has created. -/
def Answer.Reports : Answer → Entry → Prop
  | .entry (some e), x => x = e
  | .created (some t), x =>
    x.action = .create ∧ x.taskId = t.id ∧ x.changes = [⟨"task", .null, t.toJson⟩]
  | _, _ => False

namespace Board

variable {b b' : Board}

theorem alike_of_toJson_alike (h : b.toJson.alike b'.toJson = true) :
  b.audit.length = b'.audit.length ∧ b.reviewMode = b'.reviewMode
  := by
  obtain ⟨-, hmembers⟩ := Json.agree_obj_iff.mp h
  constructor
  · obtain ⟨w, hw, haudit⟩ := hmembers ("audit", .arr (b.audit.map Entry.toJson)) (by simp)
    obtain rfl : Json.arr (b'.audit.map Entry.toJson) = w := Option.some.inj hw
    simpa using (Json.agree_arr_iff.mp haudit).length_eq
  · obtain ⟨w, hw, hmode⟩ := hmembers ("reviewMode", .bool b.reviewMode) (by simp)
    obtain rfl : Json.bool b'.reviewMode = w := Option.some.inj hw
    apply Json.alike_bool_iff.mp hmode

/-- A task with a new id is found at the end of the board. -/
theorem task?_append_of_not_mem {t : Task} (h : t.id ∉ b.taskIds) :
  task? { b with tasks := b.tasks ++ [t] } t.id = some t
  := by
  have hnone : b.tasks.find? (·.id == t.id) = none := by
    rw [List.find?_eq_none]
    intro u hu hid
    apply h
    rw [← beq_iff_eq.mp hid]
    apply List.mem_map_of_mem hu
  rw [task?]
  rw [List.find?_append, hnone]
  simp

end Board

namespace Operation

variable {b b' : Board} {s : Stamp} {n : Nat} {a : Answer}

/-- A command other than the review flag that changes the board puts the entry that belongs to
its answer in front of the audit log. -/
theorem logged_of_effect {o : Operation} (ho : o.IsCommand) (hreview : ¬ o.IsReview)
    (hfresh : s.fresh 0 ∉ b.taskIds) (h : o.effect b s = .ok (.change n b' a)) :
  ∃ e, b'.audit = e :: b.audit ∧ a.Reports e
  := by
  cases makes_of_effect ho h with
  | @create d x made =>
      refine ⟨x, Board.audit_create made, ?_⟩
      obtain ⟨t, ht, he, rfl⟩ := Board.create_eq_ok_iff.mp made
      obtain ⟨m, -, rfl⟩ := Stamp.entry_eq_ok_iff.mp he
      obtain ⟨-, hid, -⟩ := d.toTask_spec ht
      have hfound : Board.task? { b with tasks := b.tasks ++ [t] } t.id = some t := by
        apply Board.task?_append_of_not_mem
        rwa [hid]
      change Answer.Reports (.created (Board.task? { b with tasks := b.tasks ++ [t] } t.id)) _
      rw [hfound]
      exact ⟨rfl, rfl, rfl⟩
  | update made => exact ⟨_, Board.audit_update made, rfl⟩
  | delete made => exact ⟨_, Board.audit_delete made, rfl⟩
  | move made => exact ⟨_, Board.audit_move made, rfl⟩
  | review => exact absurd trivial hreview

/-- A command that changes nothing shows nobody an entry. -/
theorem silent_of_effect {o : Operation} (ho : o.IsCommand)
    (h : o.effect b s = .ok (.none a)) :
  a.Silent
  := by
  have hentry {r : Except Refusal (Option (Board × Entry))}
      (h : r.map Effect.ofEntry = .ok (.none a)) : a.Silent := by
    obtain ⟨_ | ⟨c, x⟩, -, ha⟩ := map_eq_ok_iff.mp h <;> cases ha
    trivial
  cases o with
  | create d =>
      obtain ⟨x, -, ha⟩ := map_eq_ok_iff.mp h
      cases ha
  | update id e => apply hentry h
  | delete id => apply hentry h
  | move id column => apply hentry h
  | review value =>
      replace h := Except.ok.inj h
      split_ifs at h
      cases h
      trivial
  | _ => cases ho

/-- The review flag is changed to another value, and nothing else is. -/
theorem review_of_effect {o : Operation} (ho : o.IsReview)
    (h : o.effect b s = .ok (.change n b' a)) :
  a = .done ∧ b'.reviewMode ≠ b.reviewMode ∧ b' = { b with reviewMode := b'.reviewMode }
  := by
  have hcommand : o.IsCommand := by
    cases o with
    | review value => trivial
    | _ => cases ho
  cases makes_of_effect hcommand h with
  | review differs made =>
      rw [made]
      exact ⟨rfl, differs.symm, rfl⟩
  | _ => cases ho

/-- A command that changes the board changes the length of the audit log or the review flag. -/
theorem ne_of_effect {o : Operation} (ho : o.IsCommand) (hfresh : s.fresh 0 ∉ b.taskIds)
    (h : o.effect b s = .ok (.change n b' a)) :
  b.audit.length ≠ b'.audit.length ∨ b.reviewMode ≠ b'.reviewMode
  := by
  by_cases hreview : o.IsReview
  · right
    apply (review_of_effect hreview h).2.1.symm
  · left
    obtain ⟨e, he, -⟩ := logged_of_effect ho hreview hfresh h
    simp [he]

end Operation

namespace Keeper

variable {β : Type} [Backend β] {count : β → Nat}

/-- Nothing has changed, and no entry is shown. -/
structure Idle (k k' : Keeper β) (a : Answer) : Prop where
  same : k' = k
  silent : a.Silent

/-- The board has changed and its snapshot was saved, once, with one entry more unless only the
review flag has changed. -/
structure Noted (count : β → Nat) (o : Operation) (k k' : Keeper β) (a : Answer) : Prop where
  differs : k.board.toJson.alike k'.board.toJson = false
  saved : ∃ bytes, k'.board.snapshot = .ok bytes
    ∧ Backend.save bytes k.backend = (.ok (), k'.backend)
  once : count k'.backend = count k.backend + 1
  audit : ¬ o.IsReview → ∃ e, k'.board.audit = e :: k.board.audit ∧ a.Reports e
  review : o.IsReview → k'.board.audit = k.board.audit ∧ a = .done

theorem noted_of_effect
    (hcount : Backend.IsCount count) {o : Operation} {st : Stamp} {k : Keeper β} {n : Nat}
    {b : Board} {a : Answer} {bytes : ByteArray} {w : β} (ho : o.IsCommand)
    (hfresh : st.fresh 0 ∉ k.board.taskIds)
    (heffect : o.effect k.board st = .ok (.change n b a)) (hsnapshot : b.snapshot = .ok bytes)
    (hsave : Backend.save bytes k.backend = (.ok (), w)) :
  Noted count o k ⟨⟨w, k.drawn + n⟩, b⟩ a
  := by
  constructor
  · rw [Bool.eq_false_iff]
    intro halike
    obtain ⟨haudit, hmode⟩ := Board.alike_of_toJson_alike halike
    rcases Operation.ne_of_effect ho hfresh heffect with hne | hne
    · apply hne haudit
    · apply hne hmode
  · exact ⟨bytes, hsnapshot, hsave⟩
  · apply hcount hsave
  · intro h
    apply Operation.logged_of_effect ho h hfresh heffect
  · intro h
    obtain ⟨ha, -, hb⟩ := Operation.review_of_effect h heffect
    apply And.intro _ ha
    dsimp only
    rw [hb]

/-- A command that returns has either done nothing or changed the board, noted it, and saved it
once; and it has saved exactly when the board is another one. -/
theorem step_law
    (hcount : Backend.IsCount count) {ids : Nat → Text} {k : Keeper β} {s : Step} {a : Answer}
    (hcommand : s.operation.IsCommand) (hfresh : ids k.drawn ∉ k.board.taskIds)
    (hreturned : (k.step ids s).1 = .ok a) :
  Xor (Idle k (k.step ids s).2 a) (Noted count s.operation k (k.step ids s).2 a)
    ∧ (count (k.step ids s).2.backend ≠ count k.backend ↔ (k.step ids s).2.board ≠ k.board)
  := by
  have houtcome := outcome_step ids k s
  generalize k.step ids s = x at houtcome hreturned ⊢
  obtain ⟨r, k'⟩ := x
  cases houtcome with
  | refused => cases hreturned
  | unchanged effect =>
      obtain rfl := Except.ok.inj hreturned
      constructor
      · left
        constructor
        · exact ⟨rfl, Operation.silent_of_effect hcommand effect⟩
        · intro h
          have := h.once
          omega
      · simp
  | saved effect snapshot save =>
      obtain rfl := Except.ok.inj hreturned
      have hnoted := noted_of_effect hcount hcommand hfresh effect snapshot save
      constructor
      · right
        apply And.intro hnoted
        intro h
        have hsame := congrArg (fun l : Keeper β => count l.backend) h.same
        have := hnoted.once
        dsimp only at hsame this
        omega
      · apply iff_of_true
        · rw [hnoted.once]
          simp
        · rintro rfl
          rcases Operation.ne_of_effect hcommand hfresh effect with hne | hne <;> apply hne rfl
  | unsaved => cases hreturned
  | unwritten => cases hreturned

/-- A keeper in memory of a board with one task. -/
def single : Keeper Memory where
  backend := .empty
  drawn := 0
  board := {
    tasks := [⟨"a", "Sow", none, .low, [], .int 5, "", none, .todo, none, none, none⟩]
    audit := []
    reviewMode := false }

/-- Removing the only task of a board saves it once. -/
theorem saves_delete_single :
  (single.step (Uuid.supply 0) ⟨some ⟨0, some 0⟩, .delete "a"⟩).2.backend.saves ≠ 0
  := by
  have hcommand : (Operation.delete "a").IsCommand := trivial
  have hfresh : Uuid.supply 0 single.drawn ∉ single.board.taskIds := by decide
  have hok : (single.step (Uuid.supply 0) ⟨some ⟨0, some 0⟩, .delete "a"⟩).1.isOk = true := by
    decide +kernel
  obtain ⟨a, hreturned⟩ := isOk_iff.mp hok
  apply (step_law Backend.isCount_saves hcommand hfresh hreturned).2.mpr
  intro h
  have : single.board.tasks = [] := by
    rw [← h]
    decide +kernel
  cases this

end Keeper

end Kanban
