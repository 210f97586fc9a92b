import Kanban.Proofs.Json.Edit
import Kanban.Proofs.Keeper.Repetition

/-!
# Texts that are left out

A text that may be left out of a draft counts as left out when it is blank: a call that gives such a
text does the same as one that gives none.  The due time alone is not trimmed, so this holds of it
for the empty text, and for another blank one exactly where nothing would come of the call anyway
(`Keeper.concur_put_iff`).
-/

namespace Kanban

/-! ### Blank texts -/

namespace Text

/-- There is nothing in the text but blanks. -/
def IsVoid (s : Text) : Prop := ∀ c ∈ s.toList, isBlank c = true

theorem trim_of_isVoid {s : Text} (h : IsVoid s) :
  trim s.toList = []
  := by
  have hfront : s.toList.dropWhile isBlank = [] := List.dropWhile_eq_nil_iff.mpr h
  rw [trim, hfront]
  rfl

end Text

variable {w : Text}

theorem Draft.clean_of_isVoid (h : Text.IsVoid w) :
  clean (.str w) = clean .null
  := by
  rw [clean, Text.trim_of_isVoid h]
  rfl

/-- A blank text denotes no moment. -/
theorem Text.IsVoid.not_readable (h : IsVoid w) :
  ¬ Check.Readable w
  := by
  rw [Check.Readable, Moment.ofText?, trim_of_isVoid h]
  decide

/-! ### Fields of drafts -/

/-- The fields with texts that may be left out when a task is created. -/
def NewTask.texts : List Field := [.description, .dueAt]

/-- The fields with texts that may be left out when a task is edited. -/
def TaskEdit.texts : List Field := [.description, .dueAt, .reviewerNote, .scoreComment]

/-- The draft with a value in one of these fields. -/
def NewTask.put (d : NewTask) (f : Field) (v : Json) : NewTask :=
  match f with
  | .description => { d with description := v }
  | .dueAt => { d with dueAt := v }
  | _ => d

/-- The edit with a value in one of these fields. -/
def TaskEdit.put (e : TaskEdit) (f : Field) (v : Json) : TaskEdit :=
  match f with
  | .description => { e with description := v }
  | .dueAt => { e with dueAt := v }
  | .reviewerNote => { e with reviewerNote := v }
  | .scoreComment => { e with scoreComment := v }
  | _ => e

theorem NewTask.texts_subset :
  texts ⊆ TaskEdit.texts
  := by decide

theorem TaskEdit.key_ne {f : Field} (h : f ∈ texts) :
  f.key ≠ "title" ∧ f.key ≠ "priority"
  := by
  revert f
  decide

theorem Draft.title_set {name : Text} (h : name ≠ "title") (m : Members) (v : Json) :
  title (m.set name v) = title m
  := by
  rw [title, Members.get?_set_of_ne m h.symm, title]

theorem Draft.requestedPriority_set {name : Text} (h : name ≠ "priority") (m : Members)
    (v : Json) :
  requestedPriority (m.set name v) = requestedPriority m
  := by
  rw [requestedPriority, Members.get?_set_of_ne m h.symm, requestedPriority]

/-- A draft that is taken from members in which such a field is set is the one that is taken from
the members, with the field set. -/
theorem NewTask.ofMembers_set {f : Field} (hf : f ∈ texts) (m : Members) (v : Json) :
  ofMembers (m.set f.key v) = (·.put f v) <$> ofMembers m
  := by
  obtain ⟨htitle, hpriority⟩ := TaskEdit.key_ne (texts_subset hf)
  simp only [ofMembers, map_bind, map_pure, Draft.requestedPriority_set hpriority,
    Draft.title_set htitle, Members.value_set]
  simp only [texts, List.mem_cons, List.not_mem_nil, or_false] at hf
  rcases hf with rfl | rfl <;> rfl

theorem TaskEdit.ofMembers_set {f : Field} (hf : f ∈ texts) (m : Members) (v : Json) :
  ofMembers (m.set f.key v) = (·.put f v) <$> ofMembers m
  := by
  obtain ⟨htitle, hpriority⟩ := key_ne hf
  simp only [ofMembers, map_bind, map_pure, Draft.requestedPriority_set hpriority,
    Draft.title_set htitle, Members.value_set]
  simp only [texts, List.mem_cons, List.not_mem_nil, or_false] at hf
  rcases hf with rfl | rfl | rfl | rfl <;> rfl

/-! ### Commands -/

/-- A record whose due time is a blank text is not accepted. -/
theorem Draft.accept_ne_ok {r : Record} (hw : Text.IsVoid w) (hr : r .dueAt = .str w) (t : Task) :
  accept r ≠ .ok t
  := by
  intro h
  obtain ⟨rfl, hvalid⟩ := accept_eq_ok_iff.mp h
  have hdue : t.dueAt = some w := Json.ofText?_injective hr
  exact hw.not_readable (hvalid.dueAt w hdue)

theorem Draft.present_of_ne (h : w ≠ "") :
  present (.str w) = .str w
  := by
  simp [present, Json.truthy, h]

namespace NewTask

variable {f : Field} {s : Stamp} {d : NewTask}

theorem toTask_put (hf : f ∈ texts) (hw : Text.IsVoid w) (h : f = .dueAt → w = "") :
  (d.put f (.str w)).toTask s = (d.put f .null).toTask s
  := by
  simp only [texts, List.mem_cons, List.not_mem_nil, or_false] at hf
  rcases hf with rfl | rfl
  · simp only [toTask, put, Draft.clean_of_isVoid hw]
  · rw [h rfl]
    rfl

theorem toTask_put_dueAt (hw : Text.IsVoid w) (h : w ≠ "") (t : Task) :
  (d.put .dueAt (.str w)).toTask s ≠ .ok t
  := by
  simp only [toTask, Ne, bind_eq_ok_iff]
  rintro ⟨_, -, _, -, _, -, _, -, haccept⟩
  exact Draft.accept_ne_ok hw (Draft.present_of_ne h) t haccept

end NewTask

namespace TaskEdit

variable {f : Field} {e : TaskEdit} {t : Task}

theorem apply_put (hf : f ∈ texts) (hw : Text.IsVoid w) (h : f = .dueAt → w = "") :
  (e.put f (.str w)).apply t = (e.put f .null).apply t
  := by
  simp only [texts, List.mem_cons, List.not_mem_nil, or_false] at hf
  rcases hf with rfl | rfl | rfl | rfl
  · simp only [apply, put, Draft.clean_of_isVoid hw]
  · rw [h rfl]
    rfl
  · simp only [apply, put, Draft.clean_of_isVoid hw]
  · simp only [apply, put, Draft.clean_of_isVoid hw]

theorem apply_put_dueAt (hw : Text.IsVoid w) (h : w ≠ "") (u : Task) :
  (e.put .dueAt (.str w)).apply t ≠ .ok u
  := by
  simp only [apply, Ne, bind_eq_ok_iff]
  rintro ⟨_, -, _, -, haccept⟩
  exact Draft.accept_ne_ok hw (Draft.present_of_ne h) u haccept

end TaskEdit

/-! ### Operations -/

namespace Operation

/-- The fields with texts that may be left out of the draft of an operation. -/
def texts : Operation → List Field
  | create _ => NewTask.texts
  | update _ _ => TaskEdit.texts
  | _ => []

/-- The operation with a value in one of these fields of the draft. -/
def put (f : Field) (v : Json) : Operation → Operation
  | create d => create (d.put f v)
  | update id e => update id (e.put f v)
  | o => o

/-- The operation is an edit of a task that is not on the board. -/
def Misses (b : Board) : Operation → Prop
  | update id _ => b.task? id = none
  | _ => False

variable {f : Field} {o : Operation} {b : Board} {s : Stamp}

/-- A text that is blank, and empty if it is the due time, has the effect of none. -/
theorem effect_put (hf : f ∈ o.texts) (hw : Text.IsVoid w) (h : f = .dueAt → w = "") :
  (o.put f (.str w)).effect b s = (o.put f .null).effect b s
  := by
  cases o with
  | create d =>
      rw [put, put, effect, effect, Board.create, Board.create, NewTask.toTask_put hf hw h]
  | update id e =>
      simp only [put, effect, Board.update, TaskEdit.apply_put hf hw h]
  | _ => cases hf

theorem effect_put_of_misses (h : o.Misses b) (f : Field) (v : Json) :
  (o.put f v).effect b s = .ok (.none (.entry none))
  := by
  cases o with
  | update id e =>
      rw [put, effect, Board.update, h]
      rfl
  | _ => cases h

/-- A due time that is blank but not empty has no effect at all, unless there is nothing to edit. -/
theorem effect_put_dueAt_ne_ok (hf : .dueAt ∈ o.texts) (hw : Text.IsVoid w) (hne : w ≠ "")
    (h : ¬ o.Misses b) (x : Effect) :
  (o.put .dueAt (.str w)).effect b s ≠ .ok x
  := by
  intro heffect
  cases o with
  | create d =>
      obtain ⟨_, hcreate, -⟩ := map_eq_ok_iff.mp heffect
      obtain ⟨t, ht, -⟩ := bind_eq_ok_iff.mp hcreate
      exact NewTask.toTask_put_dueAt hw hne t ht
  | update id e =>
      obtain ⟨_, hupdate, -⟩ := map_eq_ok_iff.mp heffect
      obtain ⟨t, ht⟩ := Option.ne_none_iff_exists'.mp h
      rw [Board.update, ht] at hupdate
      obtain ⟨u, hu, -⟩ := bind_eq_ok_iff.mp hupdate
      exact TaskEdit.apply_put_dueAt hw hne u hu
  | _ => cases hf

end Operation

/-! ### Calls -/

namespace Call

/-- The fields with texts that may be left out of the draft in a call. -/
def texts : Call → List Field
  | operation o => o.texts
  | createFrom (.obj _) => NewTask.texts
  | updateFrom _ (.obj _) => TaskEdit.texts
  | _ => []

/-- The call with a value in one of these fields; with `null`, the field is left out. -/
def put (f : Field) (v : Json) : Call → Call
  | operation o => operation (o.put f v)
  | createFrom (.obj m) => createFrom (.obj (Members.set m f.key v))
  | updateFrom id (.obj m) => updateFrom id (.obj (Members.set m f.key v))
  | c => c

/-- The call is to edit a task that is not on the board. -/
def Misses (b : Board) : Call → Prop
  | operation o => o.Misses b
  | createFrom _ => False
  | updateFrom id _ => b.task? id = none

variable {f : Field} {c : Call} {o : Operation}

theorem operation?_put (hf : f ∈ c.texts) (v : Json) :
  (c.put f v).operation? = c.operation?.map (·.put f v)
  := by
  cases c with
  | operation o => rfl
  | createFrom payload =>
      cases payload with
      | obj m =>
          simp only [put, operation?, NewTask.ofJson, NewTask.ofMembers_set hf]
          cases NewTask.ofMembers m <;> rfl
      | _ => cases hf
  | updateFrom id payload =>
      cases payload with
      | obj m =>
          simp only [put, operation?, TaskEdit.ofJson, TaskEdit.ofMembers_set hf]
          cases TaskEdit.ofMembers m <;> rfl
      | _ => cases hf

theorem texts_of_operation? (h : c.operation? = .ok o) (hf : f ∈ c.texts) :
  f ∈ o.texts
  := by
  cases c with
  | operation o' =>
      obtain rfl := Except.ok.inj h
      exact hf
  | createFrom payload =>
      obtain ⟨d, -, rfl⟩ := map_eq_ok_iff.mp h
      cases payload with
      | obj m => exact hf
      | _ => cases hf
  | updateFrom id payload =>
      obtain ⟨e, -, rfl⟩ := map_eq_ok_iff.mp h
      cases payload with
      | obj m => exact hf
      | _ => cases hf

theorem misses_of_operation? (h : c.operation? = .ok o) (b : Board) :
  c.Misses b ↔ o.Misses b
  := by
  cases c with
  | operation o' =>
      obtain rfl := Except.ok.inj h
      rfl
  | createFrom payload =>
      obtain ⟨d, -, rfl⟩ := map_eq_ok_iff.mp h
      rfl
  | updateFrom id payload =>
      obtain ⟨e, -, rfl⟩ := map_eq_ok_iff.mp h
      rfl

end Call

namespace Keeper

/-- Two outcomes concur: they are the same, or both are refusals. -/
def Concur {β : Type} (x y : Except Failure Answer × Keeper β) : Prop :=
  x = y ∨ refuses x.1 = true ∧ refuses y.1 = true

/-- An outcome concurs with a refusal exactly when it is one. -/
theorem concur_iff_of_refuses {β : Type} {x y : Except Failure Answer × Keeper β}
    (hx : refuses x.1 = true) :
  Concur x y ↔ refuses y.1 = true
  := by
  constructor
  · rintro (rfl | ⟨-, hy⟩)
    · exact hx
    · exact hy
  · intro hy
    exact .inr ⟨hx, hy⟩

variable {β : Type} [Backend β] {src : Source} {k : Keeper β} {f : Field} {c : Call}
  {o : Operation}

/-- An operation without an effect is refused. -/
theorem refuses_of_effect_ne_ok (h : ∀ x, o.effect k.board (src.stamp k.drawn) ≠ .ok x) :
  refuses (k.perform src o).1 = true
  := by
  rw [perform_eq]
  cases heffect : o.effect k.board (src.stamp k.drawn) with
  | error r => rfl
  | ok x => exact absurd heffect (h x)

theorem perform_put (hf : f ∈ o.texts) (hw : Text.IsVoid w) (h : f = .dueAt → w = "") :
  k.perform src (o.put f (.str w)) = k.perform src (o.put f .null)
  := by
  rw [perform_eq, perform_eq, Operation.effect_put hf hw h]

theorem perform_put_of_misses (h : o.Misses k.board) (f : Field) (v : Json) :
  k.perform src (o.put f v) = (.ok (.entry none), k)
  := by
  rw [perform_eq, Operation.effect_put_of_misses h]
  rfl

/-- An operation that gives a blank text concurs with the one that gives none.  If the text is a due
time and not empty, it does so only where nothing comes of the operation anyway. -/
theorem perform_put_iff (hf : f ∈ o.texts) (hw : Text.IsVoid w) :
  Concur (k.perform src (o.put f (.str w))) (k.perform src (o.put f .null))
    ↔ (f = .dueAt → w ≠ "" →
      refuses (k.perform src (o.put f .null)).1 = true ∨ o.Misses k.board)
  := by
  by_cases hsame : f = .dueAt → w = ""
  · constructor
    · intro _ hdue hne
      exact absurd (hsame hdue) hne
    · intro _
      exact .inl (perform_put hf hw hsame)
  · obtain ⟨rfl, hne⟩ := Classical.not_imp.mp hsame
    by_cases hmisses : o.Misses k.board
    · constructor
      · intro _ _ _
        exact .inr hmisses
      · intro _
        left
        rw [perform_put_of_misses hmisses, perform_put_of_misses hmisses]
    · rw [concur_iff_of_refuses
        (refuses_of_effect_ne_ok (Operation.effect_put_dueAt_ne_ok hf hw hne hmisses))]
      simp [hne, hmisses]

/-- A call that gives a blank text does the same as the call that leaves the field out, or both are
refused.  Only where the text is a due time and not empty, this is so just if the call without it
is refused too, or if the task to edit is not on the board. -/
theorem concur_put_iff (hf : f ∈ c.texts) (hw : Text.IsVoid w) :
  Concur (k.call src (c.put f (.str w))) (k.call src (c.put f .null))
    ↔ (f = .dueAt → w ≠ "" → refuses (k.call src (c.put f .null)).1 = true ∨ c.Misses k.board)
  := by
  rw [call, call, Call.operation?_put hf, Call.operation?_put hf]
  cases hc : c.operation? with
  | error r =>
      constructor
      · intro _ _ _
        exact .inl rfl
      · intro _
        exact .inl rfl
  | ok o =>
      rw [Call.misses_of_operation? hc]
      apply perform_put_iff (Call.texts_of_operation? hc hf) hw

/-- An edit that is sent with a title only. -/
def retitling : Call := .updateFrom harvest.id (.obj [("title", .str "Harvest home")])

/-- A blank note does the same as none. -/
theorem concur_put_retitling :
  (.reviewerNote ∈ retitling.texts ∧ Text.IsVoid " \t")
    ∧ Concur (reaper.call dawn (retitling.put .reviewerNote (.str " \t")))
        (reaper.call dawn (retitling.put .reviewerNote .null))
  := by
  have hmem : .reviewerNote ∈ retitling.texts := by decide
  have hblank : Text.IsVoid " \t" := by
    simp [Text.IsVoid]
    decide
  refine ⟨⟨hmem, hblank⟩, (concur_put_iff hmem hblank).mpr ?_⟩
  intro h
  cases h

/-- A due time of one blank is refused where an omitted one is not. -/
theorem not_concur_put_retitling :
  ¬ Concur (reaper.call dawn (retitling.put .dueAt (.str " ")))
      (reaper.call dawn (retitling.put .dueAt .null))
  := by
  rw [concur_iff_of_refuses]
  · decide +kernel
  · decide +kernel

end Keeper

end Kanban
