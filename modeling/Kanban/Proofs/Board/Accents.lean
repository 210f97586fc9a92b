import Kanban.Board.Accents
import Kanban.Proofs.Board.Normal
import Kanban.Proofs.Text.Accent

/-!
# Boards with their accents

The accents of a board are restored in each text of each of its tasks, which fails exactly where
a text has a disguised word (`Board.exists_restoreAccents_iff`).  A board with its accents is
sound if the board was, its tasks have all that they had besides texts, and nothing is left to do
in it (`Board.restoreAccents_restored`).  So a board that was read is read again with its accents
(`Board.accents_of_read`).
-/

namespace Kanban

/-! ### Texts -/

namespace Text

variable {s s' : Text}

/-- The text has a disguised word. -/
def HasDisguise (s : Text) : Prop := ∃ run ∈ runs s.toList, Disguised run

theorem hasDisguise_of_disguised (h : Disguised s.toList) :
  HasDisguise s
  := by
  refine ⟨s.toList, ?_, h⟩
  rw [runs_run (isWord_of_listed h.1)]
  apply List.mem_singleton_self

theorem exists_restoreAccents_iff :
  (∃ s', restoreAccents s = .ok s') ↔ ¬ HasDisguise s
  := by
  have h : (∃ s', restoreAccents s = .ok s') ↔ ∃ cs, restoreChars s.toList = .ok cs := by
    constructor
    · rintro ⟨s', h⟩
      exact ⟨_, restoreAccents_eq_ok_iff.mp h⟩
    · rintro ⟨cs, h⟩
      refine ⟨Text.ofList cs, restoreAccents_eq_ok_iff.mpr ?_⟩
      rwa [Text.toList_ofList]
  rw [h, exists_restoreChars_iff, HasDisguise]
  simp

theorem restoreAccents_restored (h : restoreAccents s = .ok s') :
  s'.length = s.length ∧ restoreAccents s' = .ok s'
  := by
  obtain ⟨hlength, hagain⟩ := restoreChars_restored (restoreAccents_eq_ok_iff.mp h)
  exact ⟨hlength, restoreAccents_eq_ok_iff.mpr hagain⟩

end Text

/-! ### Tasks -/

namespace Task

variable {t u : Task}

/-- The texts of a task that may have accents. -/
def texts (t : Task) : List Text :=
  t.title :: (t.description.toList ++ t.tags ++ t.reviewerNote.toList ++ t.scoreComment.toList)

/-- `u` is `t` but for its texts, which have their accents. -/
structure Restores (t u : Task) : Prop where
  title : Text.restoreAccents t.title = .ok u.title
  description : Option.Rel (fun s s' => Text.restoreAccents s = .ok s') t.description u.description
  tags : List.Forall₂ (fun s s' => Text.restoreAccents s = .ok s') t.tags u.tags
  reviewerNote :
    Option.Rel (fun s s' => Text.restoreAccents s = .ok s') t.reviewerNote u.reviewerNote
  scoreComment :
    Option.Rel (fun s s' => Text.restoreAccents s = .ok s') t.scoreComment u.scoreComment
  rest : u = { t with
    title := u.title
    description := u.description
    tags := u.tags
    reviewerNote := u.reviewerNote
    scoreComment := u.scoreComment }

theorem restoreAccents_eq_ok_iff :
  t.restoreAccents = .ok u ↔ t.Restores u
  := by
  simp only [restoreAccents, bind_eq_ok_iff, pure_eq_ok_iff, mapM_eq_ok_iff, optionMapM_eq_ok_iff]
  constructor
  · rintro ⟨title, htitle, description, hdescription, tags, htags, note, hnote, comment, hcomment,
      rfl⟩
    exact ⟨htitle, hdescription, htags, hnote, hcomment, rfl⟩
  · rintro ⟨htitle, hdescription, htags, hnote, hcomment, hrest⟩
    exact ⟨_, htitle, _, hdescription, _, htags, _, hnote, _, hcomment, hrest.symm⟩

theorem exists_restoreAccents_iff :
  (∃ u, t.restoreAccents = .ok u) ↔ ∀ s ∈ t.texts, ¬ Text.HasDisguise s
  := by
  simp only [texts, List.forall_mem_cons, List.forall_mem_append,
    ← Text.exists_restoreAccents_iff]
  simp only [← exists_optionMapM_iff]
  simp only [restoreAccents, bind_eq_ok_iff, pure_eq_ok_iff, ← exists_mapM_iff]
  constructor
  · rintro ⟨_, title, htitle, description, hdescription, tags, htags, note, hnote, comment,
      hcomment, -⟩
    exact ⟨⟨_, htitle⟩, ⟨⟨⟨_, hdescription⟩, _, htags⟩, _, hnote⟩, _, hcomment⟩
  · rintro ⟨⟨title, htitle⟩, ⟨⟨⟨description, hdescription⟩, tags, htags⟩, note, hnote⟩, comment,
      hcomment⟩
    exact ⟨_, title, htitle, description, hdescription, tags, htags, note, hnote, comment, hcomment,
      rfl⟩

/-- A task that has its accents stays as it is. -/
theorem Restores.again (h : t.Restores u) :
  u.Restores u
  := by
  have hoption {x y : Option Text}
      (h : Option.Rel (fun s s' => Text.restoreAccents s = .ok s') x y) :
      Option.Rel (fun s s' => Text.restoreAccents s = .ok s') y y := by
    cases h with
    | some h => exact .some (Text.restoreAccents_restored h).2
    | none => exact .none
  refine ⟨(Text.restoreAccents_restored h.title).2, hoption h.description, ?_,
    hoption h.reviewerNote, hoption h.scoreComment, rfl⟩
  apply List.forall₂_same.mpr
  intro s' hs'
  obtain ⟨s, -, hs⟩ := exists_mem_left h.tags hs'
  apply (Text.restoreAccents_restored hs).2

theorem Restores.valid (h : t.Restores u) (ht : t.Valid) :
  u.Valid
  := by
  obtain ⟨hid, htitle, hestimate, hcreated, hdue, hscore⟩ := ht
  rw [h.rest]
  refine ⟨hid, ?_, hestimate, hcreated, hdue, hscore⟩
  dsimp only
  rwa [(Text.restoreAccents_restored h.title).1]

/-- `u` has all that `t` has besides texts, and a text wherever `t` has one. -/
structure Retains (t u : Task) : Prop where
  id : u.id = t.id
  priority : u.priority = t.priority
  estimate : u.estimate = t.estimate
  createdAt : u.createdAt = t.createdAt
  dueAt : u.dueAt = t.dueAt
  column : u.column = t.column
  score : u.score = t.score
  tags : u.tags.length = t.tags.length
  description : u.description.isSome = t.description.isSome
  reviewerNote : u.reviewerNote.isSome = t.reviewerNote.isSome
  scoreComment : u.scoreComment.isSome = t.scoreComment.isSome

theorem Restores.retains (h : t.Restores u) :
  t.Retains u
  := by
  have hoption {R : Text → Text → Prop} {x y : Option Text} (h : Option.Rel R x y) :
      y.isSome = x.isSome := by
    cases h <;> rfl
  exact {
    id := by rw [h.rest]
    priority := by rw [h.rest]
    estimate := by rw [h.rest]
    createdAt := by rw [h.rest]
    dueAt := by rw [h.rest]
    column := by rw [h.rest]
    score := by rw [h.rest]
    tags := h.tags.length_eq.symm
    description := hoption h.description
    reviewerNote := hoption h.reviewerNote
    scoreComment := hoption h.scoreComment }

theorem Restores.sound (h : t.Restores u) (ht : t.Sound) :
  u.Sound
  := by
  refine ⟨h.valid ht.valid, (legible_toJson_iff (h.valid ht.valid)).mpr ?_⟩
  rw [h.retains.estimate]
  apply (legible_toJson_iff ht.valid).mp ht.legible

end Task

/-! ### Boards -/

namespace Board

variable {b b' : Board} {changed : Bool}

/-- Some text of a task has a disguised word. -/
def HasDisguise (b : Board) : Prop := ∃ t ∈ b.tasks, ∃ s ∈ t.texts, Text.HasDisguise s

theorem restoreAccents_eq_ok_iff :
  b.restoreAccents = .ok (b', changed)
    ↔ List.Forall₂ Task.Restores b.tasks b'.tasks ∧ b' = { b with tasks := b'.tasks }
      ∧ changed = decide (b'.tasks ≠ b.tasks)
  := by
  simp only [restoreAccents, bind_eq_ok_iff, mapM_eq_ok_iff, Task.restoreAccents_eq_ok_iff]
  constructor
  · rintro ⟨tasks, htasks, h⟩
    split_ifs at h with hsame
    · obtain ⟨rfl, rfl⟩ := Prod.mk.inj (pure_eq_ok_iff.mp h)
      rw [hsame] at htasks
      exact ⟨htasks, rfl, by simp⟩
    · obtain ⟨rfl, rfl⟩ := Prod.mk.inj (pure_eq_ok_iff.mp h)
      exact ⟨htasks, rfl, by simp [hsame]⟩
  · rintro ⟨htasks, hb, rfl⟩
    refine ⟨b'.tasks, htasks, ?_⟩
    split_ifs with hsame
    · rw [hsame] at hb
      rw [hb]
      simp
    · rw [← hb]
      simp [hsame]

/-- The accents of a board can be restored exactly where no text has a disguised word. -/
theorem exists_restoreAccents_iff :
  (∃ b' changed, b.restoreAccents = .ok (b', changed)) ↔ ¬ b.HasDisguise
  := by
  have htasks : (∃ b' changed, b.restoreAccents = .ok (b', changed))
      ↔ ∃ ts, b.tasks.mapM Task.restoreAccents = .ok ts := by
    simp only [restoreAccents_eq_ok_iff, mapM_eq_ok_iff, Task.restoreAccents_eq_ok_iff]
    constructor
    · rintro ⟨b', _, h, -, -⟩
      exact ⟨b'.tasks, h⟩
    · rintro ⟨ts, h⟩
      exact ⟨{ b with tasks := ts }, _, h, rfl, rfl⟩
  rw [htasks, exists_mapM_iff, HasDisguise]
  simp only [Task.exists_restoreAccents_iff]
  simp

/-- A board has changed exactly if it is not the one that it was. -/
theorem changed_iff_ne (h : b.restoreAccents = .ok (b', changed)) :
  changed = true ↔ b' ≠ b
  := by
  obtain ⟨-, hb, rfl⟩ := restoreAccents_eq_ok_iff.mp h
  rw [decide_eq_true_iff, not_iff_not]
  constructor
  · intro hsame
    rw [hb, hsame]
  · intro hsame
    rw [hsame]

theorem eq_of_restoreAccents (h : b.restoreAccents = .ok (b', false)) :
  b' = b
  := by
  by_contra hne
  cases (changed_iff_ne h).mpr hne

/-- Every task is one of the tasks that were there, with its accents. -/
theorem exists_restores_of_mem (h : b.restoreAccents = .ok (b', changed)) {u : Task}
    (hu : u ∈ b'.tasks) :
  ∃ t ∈ b.tasks, t.Restores u
  := by
  obtain ⟨htasks, -, -⟩ := restoreAccents_eq_ok_iff.mp h
  apply exists_mem_left htasks hu

theorem audit_restoreAccents (h : b.restoreAccents = .ok (b', changed)) :
  b'.audit = b.audit
  := by
  obtain ⟨-, hb, -⟩ := restoreAccents_eq_ok_iff.mp h
  rw [hb]

theorem reviewMode_restoreAccents (h : b.restoreAccents = .ok (b', changed)) :
  b'.reviewMode = b.reviewMode
  := by
  obtain ⟨-, hb, -⟩ := restoreAccents_eq_ok_iff.mp h
  rw [hb]

theorem retains_restoreAccents (h : b.restoreAccents = .ok (b', changed)) :
  List.Forall₂ Task.Retains b.tasks b'.tasks
  := by
  obtain ⟨htasks, -, -⟩ := restoreAccents_eq_ok_iff.mp h
  apply htasks.imp fun _ _ => Task.Restores.retains

theorem Valid.restoreAccents (hb : b.Valid) (h : b.restoreAccents = .ok (b', changed)) :
  b'.Valid
  := by
  intro u hu
  obtain ⟨t, ht, htu⟩ := exists_restores_of_mem h hu
  apply htu.valid (hb t ht)

theorem Sound.restoreAccents (hb : b.Sound) (h : b.restoreAccents = .ok (b', changed)) :
  b'.Sound
  := by
  refine ⟨?_, audit_restoreAccents h ▸ hb.audit⟩
  intro u hu
  obtain ⟨t, ht, htu⟩ := exists_restores_of_mem h hu
  apply htu.sound (hb.tasks t ht)

theorem IsSettled.restoreAccents (hb : b.IsSettled)
    (h : b.restoreAccents = .ok (b', changed)) :
  b'.IsSettled
  := by
  intro u hu
  obtain ⟨t, ht, htu⟩ := exists_restores_of_mem h hu
  rw [htu.retains.estimate]
  apply hb t ht

/-- The tasks keep their ids. -/
theorem taskIds_restoreAccents (h : b.restoreAccents = .ok (b', changed)) :
  b'.taskIds = b.taskIds
  := by
  have hids := (retains_restoreAccents h).flip.imp fun _ _ => Task.Retains.id
  rw [← List.forall₂_eq_eq_eq]
  apply List.forall₂_map_left_iff.mpr
  apply List.forall₂_map_right_iff.mpr hids

/-- Nothing is left to do in a board that has its accents. -/
theorem restoreAccents_restored (h : b.restoreAccents = .ok (b', changed)) :
  b'.restoreAccents = .ok (b', false)
  := by
  apply restoreAccents_eq_ok_iff.mpr
  refine ⟨?_, rfl, by simp⟩
  apply List.forall₂_same.mpr
  intro u hu
  obtain ⟨t, -, htu⟩ := exists_restores_of_mem h hu
  apply htu.again

/-- What was read as a board is with its accents still read from its written form.  It has all
that it had besides texts, it is marked as changed exactly if it is another board, and nothing is
left to do in it. -/
theorem accents_of_read {v : Json} (hread : read v = .ok b)
    (h : b.restoreAccents = .ok (b', changed)) :
  read b'.toJson = .ok b'
    ∧ (b'.audit = b.audit ∧ b'.reviewMode = b.reviewMode
      ∧ List.Forall₂ Task.Retains b.tasks b'.tasks)
    ∧ (changed = true ↔ b' ≠ b) ∧ b'.restoreAccents = .ok (b', false)
  := by
  refine ⟨?_, ⟨audit_restoreAccents h, reviewMode_restoreAccents h, retains_restoreAccents h⟩,
    changed_iff_ne h, restoreAccents_restored h⟩
  have hvalid : b'.Valid := (valid_of_read hread).restoreAccents h
  have hsettled : b'.IsSettled := (isSettled_of_read hread).restoreAccents h
  rw [read_toJson_of_valid hvalid, hsettled.eq]
  intro e he
  apply valid_of_mem_audit hread
  rwa [← audit_restoreAccents h]

/-- A board whose task has two texts without accents. -/
def plain : Board := { pruned with
  tasks := pruned.tasks.map fun t => { t with title := "gestion", tags := ["dia"] } }

/-- The same board with the accents. -/
def accented : Board := { pruned with
  tasks := pruned.tasks.map fun t => { t with title := "gestión", tags := ["día"] } }

theorem read_plain :
  read plain.toJson = .ok plain
  := by
  apply read_toJson_of_valid (b := plain)
  · intro t ht
    obtain rfl := List.mem_singleton.mp ht
    obtain ⟨hid, -, hestimate, hcreated, hdue, hscore⟩ := valid_pruned _ (List.mem_singleton_self _)
    exact ⟨hid, by decide, hestimate, hcreated, hdue, hscore⟩
  · intro e he
    apply valid_of_mem_audit read_pruned he

theorem restoreAccents_plain :
  plain.restoreAccents = .ok (accented, true)
  := by
  apply restoreAccents_eq_ok_iff.mpr
  refine ⟨.cons ?_ .nil, rfl, rfl⟩
  constructor
  · exact Text.restoreAccents_word (p := ("gestion", "gestión")) (by decide)
  · exact .none
  · exact .cons (Text.restoreAccents_word (p := ("dia", "día")) (by decide)) .nil
  · exact .none
  · exact .none
  · rfl

/-- A board with two accents is read from its written form, and is not changed any more. -/
theorem accents_of_read_plain :
  read plain.toJson = .ok plain ∧ plain.restoreAccents = .ok (accented, true)
    ∧ read accented.toJson = .ok accented ∧ accented.restoreAccents = .ok (accented, false)
  := by
  obtain ⟨hagain, -, -, hrestored⟩ := accents_of_read read_plain restoreAccents_plain
  exact ⟨read_plain, restoreAccents_plain, hagain, hrestored⟩

end Board

end Kanban
