import Kanban.Proofs.Board.Sample
import Kanban.Proofs.Moment.Offset
import Kanban.Proofs.Moment.Order
import Kanban.Proofs.Uuid

/-!
# The times on a board

The times that a board notes are stamps.  Stamps of moments in UTC are accepted and read back to
the millisecond, and they are in the order of time (`Moment.stamps_read_in_order`).  The sample
board may be made at any moment.  It reads as itself, and its tasks are read as due the right number
of days later, exactly when a clock that is so far from UTC is read back from a stamp
(`Board.sample_reads_iff`).
-/

namespace Kanban

/-! ### Stamps of moments in UTC -/

/-- The stamp of a moment in UTC is read as the moment, cut off to the millisecond, and is accepted
wherever it is noted; and of two stamps the one of the earlier moment comes first, or they are the
same when the moments are to the millisecond. -/
theorem Moment.stamps_read_in_order {m n : Moment} (hm : m.Utc) (hn : n.Utc) :
  ofText? m.stamp = some m.cut
    ∧ (∀ (s : Stamp) (i : ℕ) (text : Text), s.now.shows i = some m → s.time i = .ok text →
      ∀ name, Check.time name (some (.str text)) = .ok text)
    ∧ (m.instant ≤ n.instant → m.stamp ≤ n.stamp)
    ∧ (m.stamp = n.stamp ↔ m.cut = n.cut)
  := by
  have hread : ofText? m.stamp = some m.cut := by
    rw [ofText?_stamp hm, cut, hm.offset]
  refine ⟨hread, ?_, ?_, ?_⟩
  · intro s i text hshows htext name
    obtain ⟨_, hshows', rfl⟩ := Stamp.time_eq_ok_iff.mp htext
    obtain rfl := Option.some.inj (hshows.symm.trans hshows')
    apply Check.time_eq_ok_iff.mpr ⟨rfl, hm.readable⟩
  · intro h
    apply (notLater_stamp hm hn h).texts
  · constructor
    · intro h
      rw [h, ofText?_stamp hn] at hread
      obtain hcut := Option.some.inj hread
      rw [← hcut, cut, hn.offset]
    · intro h
      apply stamp_eq_stamp (hm.offset.trans hn.offset.symm)
      have hwall := congrArg wall h
      simp only [cut] at hwall
      omega

/-- The last microsecond of the year 999. -/
def lateIn999 : Moment := ⟨Date.yearStart 1000 * Moment.day - 1, some 0⟩

/-- The first moment of the year 1000. -/
def earlyIn1000 : Moment := ⟨Date.yearStart 1000 * Moment.day, some 0⟩

/-- The stamps of two moments in years of three and of four digits. -/
theorem Moment.stamps_read_in_order_years :
  lateIn999.Utc ∧ earlyIn1000.Utc ∧ lateIn999.instant ≤ earlyIn1000.instant
    ∧ ofText? lateIn999.stamp = some ⟨Date.yearStart 1000 * day - 1000, some 0⟩
    ∧ lateIn999.stamp < earlyIn1000.stamp
  := by
  have hlate : lateIn999.Utc := ⟨rfl, by decide⟩
  have hearly : earlyIn1000.Utc := ⟨rfl, by decide⟩
  have hle : lateIn999.instant ≤ earlyIn1000.instant := by decide
  obtain ⟨hread, -, horder, hsame⟩ := stamps_read_in_order hlate hearly
  refine ⟨hlate, hearly, hle, ?_, ?_⟩
  · rw [hread]
    decide
  · apply lt_of_le_of_ne (horder hle)
    rw [ne_eq, hsame]
    decide

/-! ### The sample board at any moment -/

namespace Board

variable {s : Stamp} {b : Board} {now : Moment}

/-- Tasks whose due times are read, each as a time in a relation to that so many days after `now`,
cut off to the millisecond. -/
def DueAfter (R : Moment → Moment → Prop) (now : Moment) (days : List ℤ) (tasks : List Task) :
    Prop :=
  List.Forall₂ (fun n t => ∃ due read, now.addDays? n = some due
    ∧ t.dueAt.bind Moment.ofText? = some read ∧ R read due.cut.settled) days tasks

theorem days_samples :
  samples.zipIdx.map (fun p => p.1.days) = [1, 3, 5, -1, 2]
  := rfl

theorem isLocal_of_addDays? (hnow : now.Local) {n : ℤ} {due : Moment}
    (h : now.addDays? n = some due) :
  due.Local
  := by
  obtain ⟨hwall, hoffset⟩ := Moment.addDays?_spec h
  constructor
  · apply hwall
  · rw [hoffset]
    apply hnow.offset

theorem tells_of_addDays? (hnow : now.Tells) {n : ℤ} {due : Moment}
    (h : now.addDays? n = some due) :
  due.Tells
  := by
  rw [Moment.Tells, (Moment.addDays?_spec h).2]
  apply hnow

theorem readable_of_tells (hlocal : now.Local) (h : now.Tells) :
  Check.Readable now.stamp
  := by
  rw [Check.Readable, Moment.ofText?_stamp_of_tells hlocal h]
  rfl

theorem dueAt_toTask {x : Sample} {id : Text} {t : Task} (h : x.toTask now id = .ok t) :
  ∃ due, now.addDays? x.days = some due ∧ t.dueAt = some due.stamp
  := by
  obtain ⟨due, hdays, rfl⟩ := Sample.toTask_eq_ok_iff.mp h
  exact ⟨due, hdays, rfl⟩

/-- The tasks of the sample board are due as the stamps of their due times are read. -/
theorem dueAfter_sample_iff {R : Moment → Moment → Prop} (hshows : s.now.shows 0 = some now)
    (h : sample s = .ok b) :
  DueAfter R now [1, 3, 5, -1, 2] b.tasks
    ↔ ∀ x ∈ samples, ∃ due read, now.addDays? x.days = some due
      ∧ Moment.ofText? due.stamp = some read ∧ R read due.cut.settled
  := by
  obtain ⟨_, hshows', htasks, -⟩ := sample_eq_ok_iff.mp h
  obtain rfl := Option.some.inj (hshows.symm.trans hshows')
  rw [DueAfter, ← days_samples, List.forall₂_map_left_iff]
  constructor
  · intro hdue x hx
    obtain ⟨i, hi⟩ := exists_mem_zipIdx hx
    have hboth := List.Forall₂.mp (fun _ _ => And.intro) htasks hdue
    obtain ⟨t, -, htask, due, read, hdays, hread, hR⟩ := exists_mem_left hboth.flip hi
    obtain ⟨due', hdays', hstamp⟩ := dueAt_toTask htask
    obtain rfl := Option.some.inj (hdays.symm.trans hdays')
    rw [hstamp, Option.bind_some] at hread
    exact ⟨due, read, hdays, hread, hR⟩
  · intro hdue
    have hall : ∀ p ∈ samples.zipIdx, p.1 ∈ samples := fun p hp => List.fst_mem_of_mem_zipIdx hp
    apply ((List.forall₂_and_left _ _).mpr ⟨hall, htasks⟩).imp
    rintro ⟨x, i⟩ t ⟨hx, htask⟩
    obtain ⟨due, read, hdays, hread, hR⟩ := hdue x hx
    obtain ⟨due', hdays', hstamp⟩ := dueAt_toTask htask
    obtain rfl := Option.some.inj (hdays.symm.trans hdays')
    refine ⟨due, read, hdays, ?_, hR⟩
    rw [hstamp, Option.bind_some, hread]

/-- Made at a moment that is read back from its stamp, the sample board reads as itself. -/
theorem read_sample_of_tells (hids : ∀ i, Check.isUuid (s.fresh i) = true)
    (hshows : s.now.shows 0 = some now) (hlocal : now.Local) (h : sample s = .ok b)
    (htells : now.Tells) :
  read b.toJson = .ok b
  := by
  have hvalid : b.Valid := by
    intro t ht
    obtain ⟨_, i, x, hx, hshows', hxt⟩ := mem_sample h ht
    obtain rfl := Option.some.inj (hshows.symm.trans hshows')
    apply valid_of_toTask hx (hids i) (readable_of_tells hlocal htells) _ hxt
    intro due hdue
    apply readable_of_tells (isLocal_of_addDays? hlocal hdue) (tells_of_addDays? htells hdue)
  have haudit : ∀ e ∈ b.audit, e.Valid := by
    obtain ⟨_, -, -, hb⟩ := sample_eq_ok_iff.mp h
    rw [hb]
    simp
  rw [read_toJson_of_valid hvalid haudit, (isSettled_of_sample h).eq]

/-- The sample board reads as itself, and its tasks as due one, three and five days later, one day
earlier and two days later, exactly when it is made at a moment that is read back from its
stamp. -/
theorem sample_reads_iff (hids : ∀ i, Check.isUuid (s.fresh i) = true)
    (hshows : s.now.shows 0 = some now) (hlocal : now.Local) (h : sample s = .ok b) :
  (read b.toJson = .ok b
      ∧ DueAfter (fun m n => m.instant = n.instant) now [1, 3, 5, -1, 2] b.tasks ↔ now.Tells)
    ∧ (now.Tells → DueAfter Eq now [1, 3, 5, -1, 2] b.tasks)
  := by
  obtain ⟨_, hshows', hdays⟩ := exists_sample_iff.mp ⟨b, h⟩
  obtain rfl := Option.some.inj (hshows.symm.trans hshows')
  have hdue (htells : now.Tells) : DueAfter Eq now [1, 3, 5, -1, 2] b.tasks := by
    rw [dueAfter_sample_iff hshows h]
    intro x hx
    obtain ⟨due, hdue⟩ := Option.isSome_iff_exists.mp (hdays x hx)
    refine ⟨due, _, hdue, ?_, rfl⟩
    apply Moment.ofText?_stamp_of_tells (isLocal_of_addDays? hlocal hdue)
      (tells_of_addDays? htells hdue)
  refine ⟨⟨?_, ?_⟩, hdue⟩
  · rintro ⟨-, hsame⟩
    -- The clock is as far from UTC when the first of the tasks is due.
    obtain ⟨due, read, hfirst, hread, hinstant⟩ :=
      (dueAfter_sample_iff hshows h).mp hsame _ List.mem_cons_self
    have htells := (Moment.tells_iff (isLocal_of_addDays? hlocal hfirst)).mpr
      ⟨read, hread, hinstant⟩
    rwa [Moment.Tells, (Moment.addDays?_spec hfirst).2] at htells
  · intro htells
    refine ⟨read_sample_of_tells hids hshows hlocal h htells, ?_⟩
    apply (hdue htells).imp
    rintro n t ⟨due, read, hn, hread, rfl⟩
    exact ⟨due, _, hn, hread, rfl⟩

/-- The sample board has a task, which was created when the board was made. -/
theorem exists_createdAt (hshows : s.now.shows 0 = some now) (h : sample s = .ok b) :
  ∃ t ∈ b.tasks, t.createdAt = now.stamp
  := by
  obtain ⟨_, hshows', htasks, -⟩ := sample_eq_ok_iff.mp h
  obtain rfl := Option.some.inj (hshows.symm.trans hshows')
  obtain ⟨i, hi⟩ := exists_mem_zipIdx (x := samples.head (by decide)) (List.head_mem _)
  obtain ⟨t, ht, htask⟩ := exists_mem_left htasks.flip hi
  obtain ⟨due, -, rfl⟩ := Sample.toTask_eq_ok_iff.mp htask
  exact ⟨_, ht, rfl⟩

/-- A board whose written form is accepted has valid tasks. -/
theorem valid_of_read_toJson {c : Board} (h : read b.toJson = .ok c) :
  b.Valid
  := by
  obtain ⟨m, hm, ⟨items, hitems, htasks⟩, -⟩ := read_eq_ok_iff.mp h
  obtain rfl := Json.obj.inj hm
  have hitems : items = b.tasks.map Task.toJson := (Json.arr.inj hitems).symm
  rw [hitems] at htasks
  intro t ht
  obtain ⟨u, -, hu⟩ := exists_mem_left htasks.flip (List.mem_map_of_mem ht)
  rw [Task.read, Checked.map_eq_ok_iff] at hu
  obtain ⟨v, hv, -⟩ := hu
  obtain ⟨hrecord, hvalid⟩ := Task.check_toJson_eq_ok_iff.mp hv
  rwa [← Task.record_injective hrecord]

/-- A stamp of a watch that stands still, with a supply of ids. -/
def stillStamp (now : Moment) : Stamp := ⟨Watch.still now, Uuid.supply 1⟩

/-- The last microsecond of 28 February 2024 on a clock that is five and a half hours ahead. -/
def february : Moment :=
  ⟨Date.toDay ⟨2024, 2, 29⟩ * Moment.day - 1, some (330 * Moment.minute)⟩

/-- Noon on 1 March 2025 on a clock that is half a minute ahead. -/
def hastyNoon : Moment :=
  ⟨Date.toDay ⟨2025, 3, 1⟩ * Moment.day + 43200 * Moment.second, some (30 * Moment.second)⟩

theorem exists_sample_still (now : Moment)
    (h : ∀ x ∈ samples, (now.addDays? x.days).isSome = true) :
  ∃ b, sample (stillStamp now) = .ok b
  := exists_sample_iff.mpr ⟨now, rfl, h⟩

/-- A sample board whose tasks are due on the leap day, on both sides of it and in March. -/
theorem sample_reads_february :
  february.Local ∧ february.Tells ∧ ∃ b, sample (stillStamp february) = .ok b
    ∧ read b.toJson = .ok b ∧ DueAfter Eq february [1, 3, 5, -1, 2] b.tasks
  := by
  have hlocal : february.Local := by
    constructor
    · decide
    · intro o ho
      obtain rfl := Option.some.inj ho
      decide
  have htells : february.Tells := by
    intro o ho
    obtain rfl := Option.some.inj ho
    decide
  obtain ⟨b, hb⟩ := exists_sample_still february (by decide)
  obtain ⟨hiff, hdue⟩ := sample_reads_iff (s := stillStamp february) (Uuid.isUuid_supply 1) rfl
    hlocal hb
  exact ⟨hlocal, htells, b, hb, (hiff.mpr htells).1, hdue htells⟩

/-- A sample board that is not accepted. -/
theorem not_read_sample_hasty :
  hastyNoon.Local ∧ ∃ b, sample (stillStamp hastyNoon) = .ok b ∧ ∀ c, read b.toJson ≠ .ok c
  := by
  have hlocal : hastyNoon.Local := by
    constructor
    · decide
    · intro o ho
      obtain rfl := Option.some.inj ho
      decide
  obtain ⟨b, hb⟩ := exists_sample_still hastyNoon (by decide)
  refine ⟨hlocal, b, hb, ?_⟩
  intro c hc
  obtain ⟨t, ht, hcreated⟩ := exists_createdAt (s := stillStamp hastyNoon) rfl hb
  have hreadable := (valid_of_read_toJson hc t ht).createdAt
  rw [Check.Readable, hcreated, Moment.ofText?_stamp_eq hlocal.wall,
    Moment.readZone?_of_ahead rfl (by decide)] at hreadable
  cases hreadable

end Board

end Kanban
