import Kanban.Board.Sample
import Kanban.Proofs.Board.Accents
import Kanban.Proofs.Board.Command

/-!
# The sample board

There is a sample board exactly at the times from which its tasks can be due
(`Board.exists_sample_iff`).  It is sound and reads as itself, its tasks have the ids that were
drawn for it, in order (`Board.taskIds_sample`), and it lacks the accent of one word, which is a
tag (`Board.restoreAccents_sample`).
-/

namespace Kanban.Board

variable {s : Stamp} {b : Board}

/-! ### Its tasks -/

theorem isEstimate_int {n : Int} (h : 0 ≤ n) :
  Check.IsEstimate (.int n)
  := by
  refine ⟨rfl, rfl, ?_⟩
  rw [Number.int_lt_int, decide_eq_false_iff_not]
  omega

theorem samples_spec :
  ∀ x ∈ samples, Check.leastTitle ≤ x.title.length ∧ 0 ≤ x.minutes ∧ x.minutes.natAbs < 10 ^ 3
  := by
  decide

theorem Sample.toTask_eq_ok_iff {x : Sample} {now : Moment} {id : Text} {t : Task} :
  x.toTask now id = .ok t
    ↔ ∃ due, now.addDays? x.days = some due
      ∧ t = ⟨id, x.title, some x.description, x.priority, x.tags, .int x.minutes, now.stamp,
        some due.stamp, x.column, none, none, none⟩
  := by
  rw [toTask]
  cases now.addDays? x.days with
  | none => simp
  | some due =>
      rw [pure_eq_ok_iff]
      simp [eq_comm]

theorem sample_eq_ok_iff :
  sample s = .ok b
    ↔ ∃ now, s.now.shows 0 = some now
      ∧ List.Forall₂ (fun p t => p.1.toTask now (s.fresh p.2) = .ok t) samples.zipIdx b.tasks
      ∧ b = ⟨b.tasks, [], false⟩
  := by
  rw [sample]
  cases s.now.shows 0 with
  | none => simp
  | some now =>
      simp only [bind_eq_ok_iff, pure_eq_ok_iff, mapM_eq_ok_iff, Option.some.injEq,
        exists_eq_left']
      constructor
      · rintro ⟨tasks, htasks, rfl⟩
        exact ⟨htasks, rfl⟩
      · rintro ⟨htasks, hb⟩
        exact ⟨b.tasks, htasks, hb.symm⟩

theorem exists_mem_zipIdx {x : Sample} (hx : x ∈ samples) :
  ∃ i, (x, i) ∈ samples.zipIdx
  := by
  rw [← List.zipIdx_map_fst 0 samples] at hx
  obtain ⟨⟨_, i⟩, hi, rfl⟩ := List.mem_map.mp hx
  exact ⟨i, hi⟩

/-- Every task of the sample board is made from one of the samples. -/
theorem mem_sample (h : sample s = .ok b) {t : Task} (ht : t ∈ b.tasks) :
  ∃ now i, ∃ x ∈ samples, s.now.shows 0 = some now ∧ x.toTask now (s.fresh i) = .ok t
  := by
  obtain ⟨now, hnow, htasks, -⟩ := sample_eq_ok_iff.mp h
  obtain ⟨⟨x, i⟩, hx, hxt⟩ := exists_mem_left htasks ht
  exact ⟨now, i, x, List.fst_mem_of_mem_zipIdx hx, hnow, hxt⟩

/-- There is a sample board at the times from which each of its tasks can be due. -/
theorem exists_sample_iff :
  (∃ b, sample s = .ok b)
    ↔ ∃ now, s.now.shows 0 = some now ∧ ∀ x ∈ samples, (now.addDays? x.days).isSome = true
  := by
  have htasks (now : Moment) :
      (∃ ts, (samples.zipIdx.mapM fun p => p.1.toTask now (s.fresh p.2)) = .ok ts)
        ↔ ∀ x ∈ samples, (now.addDays? x.days).isSome = true := by
    rw [exists_mapM_iff]
    simp only [Sample.toTask_eq_ok_iff, Option.isSome_iff_exists]
    constructor
    · intro h x hx
      obtain ⟨i, hi⟩ := exists_mem_zipIdx hx
      obtain ⟨_, due, hdue, -⟩ := h _ hi
      exact ⟨due, hdue⟩
    · rintro h ⟨x, i⟩ hx
      obtain ⟨due, hdue⟩ := h x (List.fst_mem_of_mem_zipIdx hx)
      exact ⟨_, due, hdue, rfl⟩
  simp only [← htasks, sample_eq_ok_iff, mapM_eq_ok_iff]
  constructor
  · rintro ⟨b, now, hnow, h, -⟩
    exact ⟨now, hnow, b.tasks, h⟩
  · rintro ⟨now, hnow, ts, h⟩
    exact ⟨⟨ts, [], false⟩, now, hnow, h, rfl⟩

theorem taskIds_sample (h : sample s = .ok b) :
  b.taskIds = (List.range samples.length).map s.fresh
  := by
  obtain ⟨now, -, htasks, -⟩ := sample_eq_ok_iff.mp h
  have hids : List.Forall₂ (fun t p => Task.id t = s.fresh p.2) b.tasks samples.zipIdx := by
    apply htasks.flip.imp
    intro t p hp
    obtain ⟨due, -, rfl⟩ := Sample.toTask_eq_ok_iff.mp hp
    rfl
  have hrange : samples.zipIdx.map Prod.snd = List.range samples.length := by
    rw [List.zipIdx_map_snd, List.range_eq_range']
  rw [← hrange, List.map_map, ← List.forall₂_eq_eq_eq]
  apply List.forall₂_map_left_iff.mpr
  apply List.forall₂_map_right_iff.mpr hids

/-! ### It reads as itself -/

/-- The task of a sample is valid if its times are read. -/
theorem valid_of_toTask {x : Sample} (hx : x ∈ samples) {now : Moment} {id : Text} {t : Task}
    (hid : Check.isUuid id = true) (hnow : Check.Readable now.stamp)
    (hdue : ∀ due, now.addDays? x.days = some due → Check.Readable due.stamp)
    (h : x.toTask now id = .ok t) :
  t.Valid
  := by
  obtain ⟨htitle, hminutes, -⟩ := samples_spec x hx
  obtain ⟨due, haddDays, rfl⟩ := Sample.toTask_eq_ok_iff.mp h
  refine ⟨hid, htitle, isEstimate_int hminutes, hnow, ?_, by simp⟩
  intro text htext
  obtain rfl := Option.some.inj htext
  apply hdue due haddDays

theorem sound_of_toTask {x : Sample} (hx : x ∈ samples) {now : Moment} {id : Text} {t : Task}
    (hs : s.Proper) (hnow : s.now.shows 0 = some now) (hid : Check.isUuid id = true)
    (h : x.toTask now id = .ok t) :
  t.Sound
  := by
  obtain ⟨-, -, hsmall⟩ := samples_spec x hx
  have hlegible : Number.Legible (.int x.minutes) := Number.legible_of_small hsmall
  have hestimate : t.record .estimate = .num (.int x.minutes) := by
    obtain ⟨due, -, rfl⟩ := Sample.toTask_eq_ok_iff.mp h
    rfl
  apply Task.sound_of_estimate _ hestimate hlegible
  apply valid_of_toTask hx hid (hs.readable hnow) _ h
  intro due hdue
  obtain ⟨hwall, hoffset⟩ := Moment.addDays?_spec hdue
  apply Moment.Utc.readable ⟨hoffset.trans (hs.utc 0 now hnow).offset, hwall⟩

/-- The sample board is sound. -/
theorem sound_of_sample (hs : s.Proper) (h : sample s = .ok b) :
  b.Sound
  := by
  constructor
  · intro t ht
    obtain ⟨now, i, x, hx, hnow, hxt⟩ := mem_sample h ht
    apply sound_of_toTask hx hs hnow (hs.fresh i) hxt
  · obtain ⟨now, -, -, hb⟩ := sample_eq_ok_iff.mp h
    rw [hb]
    simp

theorem isSettled_of_sample (h : sample s = .ok b) :
  b.IsSettled
  := by
  intro t ht
  obtain ⟨now, i, x, -, -, hxt⟩ := mem_sample h ht
  obtain ⟨due, -, rfl⟩ := Sample.toTask_eq_ok_iff.mp hxt
  rfl

/-! ### Its accents -/

/-- The board with the accent of the word that is a tag of the sample board. -/
def withAuditoria (b : Board) : Board where
  tasks := b.tasks.map fun t =>
    { t with tags := t.tags.map fun s : Text => if s = "auditoria" then "auditoría" else s }
  audit := b.audit
  reviewMode := b.reviewMode

theorem samples_plain :
  (samples.all fun x => (x.title :: x.description :: x.tags).all fun s =>
    s == "auditoria" || (Text.runs s.toList).all fun run => !decide (Text.Listed run)) = true
  := by
  -- Most characters are of ASCII, and need not be looked for in all ranges.
  rw [Text.runs_eq]
  decide +kernel

/-- All other texts of the sample board have their accents. -/
theorem restoreAccents_text {x : Sample} (hx : x ∈ samples) {text : Text}
    (htext : text ∈ x.title :: x.description :: x.tags) :
  Text.restoreAccents text = .ok (if text = "auditoria" then "auditoría" else text)
  := by
  split_ifs with hauditoria
  · rw [hauditoria]
    apply Text.restoreAccents_word (p := ("auditoria", "auditoría"))
    decide
  · apply Text.restoreAccents_eq_ok_iff.mpr
    apply Text.restoreChars_of_not_listed
    have h := List.all_eq_true.mp (List.all_eq_true.mp samples_plain x hx) text htext
    simpa [hauditoria] using h

theorem restores_toTask {x : Sample} (hx : x ∈ samples) {now : Moment} {id : Text} {t : Task}
    (h : x.toTask now id = .ok t) :
  t.Restores
    { t with tags := t.tags.map fun s : Text => if s = "auditoria" then "auditoría" else s }
  := by
  have hwords : ∀ x ∈ samples, x.title ≠ "auditoria" ∧ x.description ≠ "auditoria" := by decide
  obtain ⟨htitle, hdescription⟩ := hwords x hx
  obtain ⟨due, -, rfl⟩ := Sample.toTask_eq_ok_iff.mp h
  constructor
  · have h := restoreAccents_text hx List.mem_cons_self
    rwa [if_neg htitle] at h
  · have h := restoreAccents_text hx (List.mem_cons_of_mem _ List.mem_cons_self)
    rw [if_neg hdescription] at h
    exact .some h
  · apply List.forall₂_map_right_iff.mpr
    apply List.forall₂_same.mpr
    intro text htext
    apply restoreAccents_text hx (List.mem_cons_of_mem _ (List.mem_cons_of_mem _ htext))
  · exact .none
  · exact .none
  · rfl

theorem not_mem_tags_withAuditoria {t : Task} (ht : t ∈ b.withAuditoria.tasks) :
  ("auditoria" : Text) ∉ t.tags
  := by
  obtain ⟨u, -, rfl⟩ := List.mem_map.mp ht
  intro hmem
  obtain ⟨text, -, h⟩ := List.mem_map.mp hmem
  split_ifs at h with htext
  · revert h
    decide
  · exact htext h

/-- Only the accent of the tag is left to be restored. -/
theorem restoreAccents_sample (h : sample s = .ok b) :
  b.restoreAccents = .ok (b.withAuditoria, true)
  := by
  have hchanged : b.withAuditoria.tasks ≠ b.tasks := by
    obtain ⟨now, -, htasks, -⟩ := sample_eq_ok_iff.mp h
    have hsome : ∃ x ∈ samples, ("auditoria" : Text) ∈ x.tags := by decide
    obtain ⟨x, hx, htag⟩ := hsome
    obtain ⟨i, hi⟩ := exists_mem_zipIdx hx
    obtain ⟨t, ht, hxt⟩ := exists_mem_left htasks.flip hi
    obtain ⟨due, -, rfl⟩ := Sample.toTask_eq_ok_iff.mp hxt
    -- The tag is on the board, but is no tag of the board with its accent.
    intro hsame
    rw [← hsame] at ht
    apply not_mem_tags_withAuditoria ht htag
  apply restoreAccents_eq_ok_iff.mpr
  refine ⟨?_, rfl, by simp [hchanged]⟩
  apply List.forall₂_map_right_iff.mpr
  apply List.forall₂_same.mpr
  intro t ht
  obtain ⟨now, i, x, hx, -, hxt⟩ := mem_sample h ht
  apply restores_toTask hx hxt

end Kanban.Board
