import Kanban.Proofs.Api.Failure

/-!
# Sessions

Whatever a request asks for, to the keeper it is one operation or none (`Api.performs_serve`), with
values that can be written and read back.  So all that comes about by serving requests is reachable
(`Api.reachable_session`), and what holds of reachable keepers holds all along a session.
-/

namespace Kanban

/-! ### Values from requests -/

theorem Draft.legible_estimate {v w : Json} (hv : v.Legible) (h : estimate v = .ok w) :
  w.Legible
  := by
  rw [estimate.eq_def] at h
  split at h
  · obtain rfl := Except.ok.inj h
    apply Number.legible_of_small
    decide
  next n =>
    have hn : n.Legible := hv
    have hsettled := Number.legible_settled hn
    rw [Number.settled] at hsettled
    split at h
    next i hi =>
      obtain rfl := Except.ok.inj h
      rwa [hi] at hsettled
    · cases h
  · cases h

theorem NewTask.legible_of_ofMembers {m : Members} {d : NewTask} (hm : Json.Legible (.obj m))
    (h : ofMembers m = .ok d) :
  d.estimate.Legible
  := by
  simp only [ofMembers, bind_eq_ok_iff, pure_eq_ok_iff] at h
  obtain ⟨_, -, _, -, _, hestimate, _, -, rfl⟩ := h
  apply Draft.legible_estimate (Members.legible_value hm _) hestimate

theorem TaskEdit.legible_of_ofMembers {m : Members} {e : TaskEdit} (hm : Json.Legible (.obj m))
    (h : ofMembers m = .ok e) :
  e.estimate.Legible
  := by
  simp only [ofMembers, bind_eq_ok_iff, pure_eq_ok_iff] at h
  obtain ⟨_, -, _, -, _, hestimate, rfl⟩ := h
  apply Draft.legible_estimate (Members.legible_value hm _) hestimate

namespace Api

/-- The value that a handler is told is legible, since some text writes it. -/
theorem Framework.Documented.legible {ρ : Type} {F : Framework ρ} (hF : F.Documented) {x : ρ}
    {e : Endpoint} {r : Request} (h : F.dispatch x = .call e r) :
  r.value.Legible
  := by
  rcases hF.value x e r h with hnull | ⟨s, hread⟩
  · rw [hnull]
    trivial
  · apply Json.legible_of_read? hread

theorem Request.legible_of_members? {r : Request} (hr : r.value.Legible) {m : Members}
    (h : r.members? = some m) :
  Json.Legible (.obj m)
  := by
  rw [members?] at h
  split_ifs at h
  · split at h
    next m' hm' =>
      obtain rfl := Option.some.inj h
      rwa [hm'] at hr
    · cases h
  · obtain rfl := Option.some.inj h
    apply Json.legible_obj_iff.mpr
    simp

/-! ### Requests as operations -/

theorem changeReply_snd {β : Type} (tell : Text → Reply) (id : Text)
    (x : Except Keeper.Failure (Option Entry) × Keeper β) :
  (changeReply tell id x).2 = x.2
  := by
  rcases x with ⟨f | e, k'⟩ <;> rfl

variable {β : Type} [Backend β] {k : Keeper β} {src : Source} {r : Request} {ids : Nat → Text}

/-- The keeper is what it was, or has carried out one operation with legible values. -/
def Performs (k : Keeper β) (src : Source) (k' : Keeper β) : Prop :=
  k' = k ∨ ∃ o : Operation, o.Legible ∧ k' = (k.perform src o).2

theorem performs_createTask {m : Members} (hm : Json.Legible (.obj m)) :
  Performs k src (createTask k src m).2
  := by
  rw [createTask]
  split_ifs
  · cases hd : NewTask.ofMembers m with
    | error r => exact .inl rfl
    | ok d =>
        right
        refine ⟨.create d, NewTask.legible_of_ofMembers hm hd, ?_⟩
        dsimp only
        rw [Keeper.perform]
        rcases k.create src d with ⟨f | _ | t, k'⟩ <;> rfl
  · exact .inl rfl

theorem performs_updateTask {id : Text} {m? : Option Members}
    (hm : ∀ m ∈ m?, Json.Legible (.obj m)) :
  Performs k src (updateTask k src id m?).2
  := by
  unfold updateTask
  cases k.board.task? id with
  | none => exact .inl rfl
  | some t =>
      cases m? with
      | none => exact .inl rfl
      | some m =>
          dsimp only
          cases he : TaskEdit.ofMembers m with
          | error r => exact .inl rfl
          | ok e =>
              right
              refine ⟨.update id e, TaskEdit.legible_of_ofMembers (hm m rfl) he, ?_⟩
              apply changeReply_snd

theorem performs_moveTask (id : Text) (m : Members) :
  Performs k src (moveTask k src id m).2
  := by
  rw [moveTask]
  split
  · exact .inl rfl
  next name _ =>
    split_ifs
    · exact .inl rfl
    · exact .inl rfl
    · right
      refine ⟨.move id (.str name), trivial, ?_⟩
      apply changeReply_snd

theorem performs_deleteTask (id : Text) :
  Performs k src (deleteTask k src id).2
  := by
  right
  refine ⟨.delete id, trivial, ?_⟩
  rw [deleteTask, Keeper.perform]
  rcases k.delete src id with ⟨f | _ | e, k'⟩ <;> rfl

theorem performs_setReviewMode (m : Members) :
  Performs k src (setReviewMode k m).2
  := by
  rw [setReviewMode]
  split
  next value _ =>
    right
    refine ⟨.review (.bool value), trivial, ?_⟩
    change _ = (k.setReviewMode value).2
    rcases k.setReviewMode value with ⟨f | _, k'⟩ <;> rfl
  · exact .inl rfl

theorem performs_importBoard (bytes : ByteArray) :
  Performs k src (importBoard k src bytes).2
  := by
  right
  refine ⟨.importBytes bytes, trivial, ?_⟩
  rw [importBoard, Keeper.perform]
  rcases k.importBytes src bytes with ⟨f | i, k'⟩ <;> rfl

theorem performs_withMembers {f : Members → Reply × Keeper β}
    (hf : ∀ m, r.members? = some m → Performs k src (f m).2) :
  Performs k src (withMembers k r f).2
  := by
  rw [withMembers]
  cases hm : r.members? with
  | none => exact .inl rfl
  | some m => apply hf m hm

/-- To the keeper a request to an endpoint is one operation or none. -/
theorem performs_handle (hr : r.value.Legible) (e : Endpoint) :
  Performs k src (handle k src r e).2
  := by
  cases e with
  | createTask =>
      apply performs_withMembers (f := createTask k src)
      intro m hm
      apply performs_createTask (Request.legible_of_members? hr hm)
  | updateTask id =>
      apply performs_updateTask fun m hm => Request.legible_of_members? hr hm
  | deleteTask id => apply performs_deleteTask
  | moveTask id =>
      apply performs_withMembers (f := moveTask k src id)
      intro m _
      apply performs_moveTask
  | setReviewMode =>
      apply performs_withMembers (f := setReviewMode k)
      intro m _
      apply performs_setReviewMode
  | importBoard => apply performs_importBoard
  | _ => exact .inl rfl

variable {ρ : Type} {F : Framework ρ}

/-- To the keeper a request is one operation or none. -/
theorem performs_serve (hF : F.Documented) (k : Keeper β) (src : Source) (x : ρ) :
  Performs k src (serve F k src x).2
  := by
  cases hx : F.dispatch x with
  | page status =>
      left
      rw [serve, hx]
  | call e r =>
      rw [(serve_of_call _ _ hx).2]
      apply performs_handle (hF.legible hx)

/-! ### Sessions -/

/-- A request, and the time at which it is served. -/
structure Turn (ρ : Type) where
  now : Option Moment
  request : ρ

/-- The keeper after a number of requests. -/
def session (F : Framework ρ) (ids : Nat → Text) : Keeper β → List (Turn ρ) → Keeper β
  | k, [] => k
  | k, t :: turns => session F ids (serve F k ⟨t.now, ids⟩ t.request).2 turns

theorem reachable_serve (hF : F.Documented) (hk : Keeper.Reachable ids k) {now : Option Moment}
    (hnow : ∀ m ∈ now, m.Utc) (x : ρ) :
  Keeper.Reachable ids (serve F k ⟨now, ids⟩ x).2
  := by
  rcases performs_serve hF k ⟨now, ids⟩ x with hsame | ⟨o, ho, hperform⟩
  · rwa [hsame]
  · rw [hperform]
    apply hk.step (s := ⟨now, o⟩) ⟨hnow, ho⟩

/-- What comes about by serving requests, by a clock in UTC, is reachable. -/
theorem reachable_session (hF : F.Documented) (hk : Keeper.Reachable ids k)
    {turns : List (Turn ρ)} (hturns : ∀ t ∈ turns, ∀ m ∈ t.now, m.Utc) :
  Keeper.Reachable ids (session F ids k turns)
  := by
  induction turns generalizing k with
  | nil => apply hk
  | cons t turns ih =>
      obtain ⟨ht, hturns⟩ := List.forall_mem_cons.mp hturns
      apply ih (reachable_serve hF hk ht t.request) hturns

end Api

end Kanban
