import Kanban.Board.Intake
import Kanban.Proofs.Except

/-!
# Refusals in words

Of all refusals three have no words: a time that cannot be noted, tags that are no collection
and a request that is no object.  With a clock that shows a time, a draft that was taken from the
members of an object meets none of these, neither when it is taken nor when a command is carried
out with it (`NewTask.explained_ofMembers`, `Board.explained_create` and their siblings).
-/

namespace Kanban

/-- Whatever the reason for a refusal, it can be told. -/
structure Explained {α : Type} (x : Except Refusal α) : Prop where
  told : ∀ r, x = .error r → ∃ message, r.message? = some message

namespace Explained

variable {α β : Type}

theorem ok (a : α) :
  Explained (.ok a)
  := by
  constructor
  intro r h
  cases h

theorem error {r : Refusal} {message : Text} (h : r.message? = some message) :
  Explained (α := α) (.error r)
  := by
  constructor
  intro r' hr
  cases hr
  exact ⟨message, h⟩

theorem bind {x : Except Refusal α} {f : α → Except Refusal β} (hx : Explained x)
    (hf : ∀ a, x = .ok a → Explained (f a)) :
  Explained (x >>= f)
  := by
  cases x with
  | error r =>
      obtain ⟨message, h⟩ := hx.told r rfl
      apply error h
  | ok a => apply hf a rfl

theorem map {x : Except Refusal α} (hx : Explained x) (f : α → β) :
  Explained (x >>= fun a => pure (f a))
  := hx.bind fun a _ => .ok (f a)

end Explained

/-! ### Drafts -/

namespace Draft

theorem explained_priority (v : Json) :
  Explained (priority v)
  := by
  rw [priority.eq_def]
  split
  · split
    · apply Explained.ok
    · apply Explained.error rfl
  · apply Explained.error rfl

theorem explained_column (v : Json) :
  Explained (column v)
  := by
  rw [column.eq_def]
  split
  · split
    · apply Explained.ok
    · apply Explained.error rfl
  · apply Explained.error rfl

theorem explained_tags (v : Json) :
  Explained (tags v)
  := by
  rw [tags.eq_def]
  split
  · apply Explained.ok
  · apply Explained.ok
  · apply Explained.error rfl

/-- The tags of a draft are a list. -/
theorem exists_of_tags {v w : Json} (h : tags v = .ok w) :
  ∃ items, w = .arr items
  := by
  rw [tags.eq_def] at h
  split at h
  · exact ⟨_, (Except.ok.inj h).symm⟩
  · exact ⟨_, (Except.ok.inj h).symm⟩
  · cases h

theorem explained_estimate (v : Json) :
  Explained (estimate v)
  := by
  rw [estimate.eq_def]
  split
  · apply Explained.ok
  · split
    · apply Explained.ok
    · apply Explained.error rfl
  · apply Explained.error rfl

theorem explained_openColumn (v : Json) :
  Explained (openColumn v)
  := by
  rw [openColumn]
  split_ifs
  · apply (explained_column v).map
  · apply Explained.ok

theorem explained_startColumn (v : Json) :
  Explained (startColumn v)
  := by
  rw [startColumn]
  split_ifs
  · apply explained_column
  · apply Explained.ok

theorem explained_requestedPriority (m : Members) :
  Explained (requestedPriority m)
  := by
  rw [requestedPriority]
  apply (explained_priority _).map

theorem explained_collection (items : List Json) :
  Explained (collection (.arr items))
  := .ok items

theorem explained_accept (r : Record) :
  Explained (accept r)
  := by
  unfold accept
  cases Task.check r.toJson with
  | ok t => apply Explained.ok
  | bad first more => apply Explained.error rfl

end Draft

theorem NewTask.explained_ofMembers (m : Members) :
  Explained (ofMembers m)
  := by
  apply (Draft.explained_requestedPriority m).bind
  intro _ _
  apply (Draft.explained_tags _).bind
  intro _ _
  apply (Draft.explained_estimate _).bind
  intro _ _
  apply (Draft.explained_openColumn _).map

theorem TaskEdit.explained_ofMembers (m : Members) :
  Explained (ofMembers m)
  := by
  apply (Draft.explained_requestedPriority m).bind
  intro _ _
  apply (Draft.explained_tags _).bind
  intro _ _
  apply (Draft.explained_estimate _).map

theorem NewTask.tags_of_ofMembers {m : Members} {d : NewTask} (h : ofMembers m = .ok d) :
  ∃ items, d.tags = .arr items
  := by
  simp only [ofMembers, bind_eq_ok_iff, pure_eq_ok_iff] at h
  obtain ⟨_, -, _, htags, _, -, _, -, rfl⟩ := h
  apply Draft.exists_of_tags htags

theorem TaskEdit.tags_of_ofMembers {m : Members} {e : TaskEdit} (h : ofMembers m = .ok e) :
  ∃ items, e.tags = .arr items
  := by
  simp only [ofMembers, bind_eq_ok_iff, pure_eq_ok_iff] at h
  obtain ⟨_, -, _, htags, _, -, rfl⟩ := h
  apply Draft.exists_of_tags htags

/-! ### Commands -/

theorem Stamp.explained_time {s : Stamp} (hs : ∀ i, (s.now.shows i).isSome = true) (i : Nat) :
  Explained (s.time i)
  := by
  obtain ⟨m, hm⟩ := Option.isSome_iff_exists.mp (hs i)
  rw [time, hm]
  apply Explained.ok

theorem Stamp.explained_entry {s : Stamp} (hs : ∀ i, (s.now.shows i).isSome = true) (i : Nat)
    (action : Action) (taskId : Text) (changes : List Change) :
  Explained (s.entry i action taskId changes)
  := (explained_time hs i).map _

theorem NewTask.explained_toTask {d : NewTask} {s : Stamp}
    (hs : ∀ i, (s.now.shows i).isSome = true) (hd : ∃ items, d.tags = .arr items) :
  Explained (d.toTask s)
  := by
  obtain ⟨items, htags⟩ := hd
  apply (Draft.explained_priority _).bind
  intro _ _
  rw [htags]
  apply (Draft.explained_collection items).bind
  intro _ _
  apply (Stamp.explained_time hs 0).bind
  intro _ _
  apply (Draft.explained_startColumn _).bind
  intro _ _
  apply Draft.explained_accept

theorem TaskEdit.explained_apply {e : TaskEdit} (he : ∃ items, e.tags = .arr items) (t : Task) :
  Explained (e.apply t)
  := by
  obtain ⟨items, htags⟩ := he
  apply (Draft.explained_priority _).bind
  intro _ _
  rw [htags]
  apply (Draft.explained_collection items).bind
  intro _ _
  apply Draft.explained_accept

namespace Board

variable {s : Stamp}

theorem explained_create (hs : ∀ i, (s.now.shows i).isSome = true) (b : Board) {d : NewTask}
    (hd : ∃ items, d.tags = .arr items) :
  Explained (b.create s d)
  := by
  apply (d.explained_toTask hs hd).bind
  intro _ _
  apply (Stamp.explained_entry hs ..).map

theorem explained_update (hs : ∀ i, (s.now.shows i).isSome = true) (b : Board) (id : Text)
    {e : TaskEdit} (he : ∃ items, e.tags = .arr items) :
  Explained (b.update s id e)
  := by
  rw [update]
  split
  · apply Explained.ok
  · apply (e.explained_apply he _).bind
    intro _ _
    split
    · apply Explained.ok
    · apply (Stamp.explained_entry hs ..).map

theorem explained_move (hs : ∀ i, (s.now.shows i).isSome = true) (b : Board) (id : Text)
    (v : Json) :
  Explained (b.move s id v)
  := by
  apply (Draft.explained_column v).bind
  intro c _
  split
  · apply Explained.ok
  · split_ifs
    · apply Explained.ok
    · apply (Stamp.explained_entry hs ..).map

end Board

end Kanban
