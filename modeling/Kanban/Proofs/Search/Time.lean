import Kanban.Proofs.Search.Conjunction

/-!
# Searching by due time

Whether a task is due as a search asks depends on nothing but the instant that its due time
denotes (`Query.dueHolds_iff`), and a search that asks for nothing else finds the tasks that are
(`Search.FindsDue.mem_iff`).  As time goes by, what was due within a week is due within a week still
or has become overdue, and what was overdue stays so (`Search.findsDue_later`).
-/

namespace Kanban

/-- The instant at which a task is due, where it has a due time that can be read. -/
def Task.dueInstant? (t : Task) : Option Int := (t.dueAt.bind Moment.ofText?).map Moment.instant

theorem Moment.instant_of_addDays? {m n : Moment} {days : Int} (h : m.addDays? days = some n) :
  n.instant = m.instant + days * day
  := by
  unfold addDays? at h
  dsimp only at h
  split_ifs at h with hwall
  obtain rfl := Option.some.inj h
  simp only [instant]
  omega

namespace Due

/-- The search that asks for a due time and for nothing else. -/
def text (d : Due) : Text := "due:" ++ d.name

/-- What is due at an instant is as asked. -/
def HoldsAt (now i : Int) : Due → Prop
  | overdue => i < now
  | week => now ≤ i ∧ i ≤ now + 7 * Moment.day

variable {now now' i : Int}

instance : (d : Due) → Decidable (d.HoldsAt now i)
  | overdue => inferInstanceAs (Decidable (i < now))
  | week => inferInstanceAs (Decidable (now ≤ i ∧ i ≤ now + 7 * Moment.day))

theorem HoldsAt.not_overdue (h : week.HoldsAt now i) :
  ¬ overdue.HoldsAt now i
  := not_lt.mpr h.1

theorem HoldsAt.overdue_later (h : overdue.HoldsAt now i) (hle : now ≤ now') :
  overdue.HoldsAt now' i
  := lt_of_lt_of_le h hle

/-- The week ends later and begins where what is overdue ends, so that nothing drops out between
the two. -/
theorem HoldsAt.week_later (h : week.HoldsAt now i) (hle : now ≤ now') :
  week.HoldsAt now' i ∨ overdue.HoldsAt now' i
  := by
  rcases lt_or_ge i now' with hlt | hge
  · exact .inr hlt
  · refine .inl ⟨hge, ?_⟩
    calc i ≤ now + 7 * Moment.day := h.2
      _ ≤ now' + 7 * Moment.day := by omega

end Due

namespace Task

variable {t u : Task} {d : Due} {now now' : Moment}

/-- The task has a due time that can be read, and at that instant it is due as asked. -/
def IsDue (t : Task) (d : Due) (now : Moment) : Prop :=
  ∃ i, t.dueInstant? = some i ∧ d.HoldsAt now.instant i

theorem isDue_congr (h : u.dueInstant? = t.dueInstant?) :
  u.IsDue d now ↔ t.IsDue d now
  := by
  rw [IsDue, IsDue, h]

theorem not_isDue_of_none (h : t.dueInstant? = none) :
  ¬ t.IsDue d now
  := by
  rintro ⟨i, hi, -⟩
  cases h.symm.trans hi

theorem not_isDue_both :
  ¬ (t.IsDue .overdue now ∧ t.IsDue .week now)
  := by
  rintro ⟨⟨i, hi, hoverdue⟩, j, hj, hsoon⟩
  obtain rfl := Option.some.inj (hi.symm.trans hj)
  exact hsoon.not_overdue hoverdue

theorem IsDue.overdue_later (h : t.IsDue .overdue now) (hle : now.instant ≤ now'.instant) :
  t.IsDue .overdue now'
  := by
  obtain ⟨i, hi, hoverdue⟩ := h
  exact ⟨i, hi, hoverdue.overdue_later hle⟩

theorem IsDue.week_later (h : t.IsDue .week now) (hle : now.instant ≤ now'.instant) :
  Xor (t.IsDue .week now') (t.IsDue .overdue now')
  := by
  obtain ⟨i, hi, hsoon⟩ := h
  have hnot : ¬ (t.IsDue .overdue now' ∧ t.IsDue .week now') := not_isDue_both
  rcases hsoon.week_later hle with hsoon' | hoverdue'
  · have hdue : t.IsDue .week now' := ⟨i, hi, hsoon'⟩
    exact .inl ⟨hdue, fun hoverdue => hnot ⟨hoverdue, hdue⟩⟩
  · have hdue : t.IsDue .overdue now' := ⟨i, hi, hoverdue'⟩
    exact .inr ⟨hdue, fun hsoon' => hnot ⟨hdue, hsoon'⟩⟩

end Task

namespace Query

variable {now : Moment} {t : Task} {d : Due}

theorem read_due (d : Due) :
  read (some d.text) = .ok (ofClauses [.due d])
  := by
  cases d <;> rfl

/-- Whether a task is due as asked depends on nothing but the instant at which it is due. -/
theorem dueHolds_iff (hweek : (now.addDays? 7).isSome = true) :
  dueHolds d now t = .ok true ↔ t.IsDue d now
  := by
  obtain ⟨last, hlast⟩ := Option.isSome_iff_exists.mp hweek
  have hend := Moment.instant_of_addDays? hlast
  rw [dueHolds, Task.IsDue, Task.dueInstant?]
  cases t.dueAt.bind Moment.ofText? with
  | none => simp
  | some m =>
      cases d with
      | overdue => simp [Due.HoldsAt]
      | week =>
          dsimp only
          rw [hlast]
          split_ifs with hpast
          · simp [Due.HoldsAt, hpast]
          · simp [Due.HoldsAt, hend, not_lt.mp hpast]

theorem finds_due_iff (hweek : (now.addDays? 7).isSome = true) :
  (ofClauses [.due d]).finds now t = true ↔ t.IsDue d now
  := by
  rw [finds_iff, ← dueHolds_iff hweek]
  constructor
  · rintro ⟨-, -, -, hdue, -⟩
    exact hdue
  · intro hdue
    exact ⟨rfl, rfl, rfl, hdue, rfl⟩

end Query

namespace Search

variable {now now' : Moment} {tasks : List Task} {found found' : Due → List Task} {t : Task}

/-- These are the tasks that the searches for a due time find at a moment. -/
def FindsDue (now : Moment) (tasks : List Task) (found : Due → List Task) : Prop :=
  ∀ d, search (some now) (some d.text) tasks = .ok (found d)

theorem search_due (hweek : (now.addDays? 7).isSome = true) (d : Due) (tasks : List Task) :
  search (some now) (some d.text) tasks
    = .ok (tasks.filter ((Query.ofClauses [.due d]).finds now))
  := search_eq_ok_iff.mpr ⟨_, Query.read_due d, Query.filterBy_eq hweek⟩

theorem exists_findsDue (hweek : (now.addDays? 7).isSome = true) (tasks : List Task) :
  ∃ found, FindsDue now tasks found
  := ⟨_, fun d => search_due hweek d tasks⟩

theorem FindsDue.mem_iff (h : FindsDue now tasks found) (hweek : (now.addDays? 7).isSome = true)
    {d : Due} :
  t ∈ found d ↔ t ∈ tasks ∧ t.IsDue d now
  := by
  have hd := Except.ok.inj ((h d).symm.trans (search_due hweek d tasks))
  rw [hd, List.mem_filter, Query.finds_due_iff hweek]

/-- At two moments, one after the other, the searches for a due time are answered, with the tasks
that are due as asked.  They never find a task without a due time that can be read, and no task is
found by both at once.  What is overdue stays so; what is due within a week is later due within a
week or overdue, and not both.  Tasks that are due at the same instant are found by the same
searches, however their due times are written. -/
theorem findsDue_later (hle : now.instant ≤ now'.instant) (hweek : (now.addDays? 7).isSome = true)
    (hweek' : (now'.addDays? 7).isSome = true) (tasks : List Task) :
  ∃ found found', FindsDue now tasks found ∧ FindsDue now' tasks found'
    ∧ ∀ t ∈ tasks,
      (∀ d, (t ∈ found d ↔ t.IsDue d now) ∧ (t ∈ found' d ↔ t.IsDue d now'))
      ∧ (t.dueInstant? = none → ∀ d, t ∉ found d ∧ t ∉ found' d)
      ∧ ¬ (t ∈ found .overdue ∧ t ∈ found .week)
      ∧ ¬ (t ∈ found' .overdue ∧ t ∈ found' .week)
      ∧ (t ∈ found .overdue → t ∈ found' .overdue)
      ∧ (t ∈ found .week → Xor (t ∈ found' .week) (t ∈ found' .overdue))
      ∧ ∀ u ∈ tasks, u.dueInstant? = t.dueInstant? →
        ∀ d, (u ∈ found d ↔ t ∈ found d) ∧ (u ∈ found' d ↔ t ∈ found' d)
  := by
  obtain ⟨found, hfound⟩ := exists_findsDue hweek tasks
  obtain ⟨found', hfound'⟩ := exists_findsDue hweek' tasks
  have hmem {t : Task} (ht : t ∈ tasks) (d : Due) : t ∈ found d ↔ t.IsDue d now := by
    simp [hfound.mem_iff hweek, ht]
  have hmem' {t : Task} (ht : t ∈ tasks) (d : Due) : t ∈ found' d ↔ t.IsDue d now' := by
    simp [hfound'.mem_iff hweek', ht]
  refine ⟨found, found', hfound, hfound', fun t ht => ?_⟩
  refine ⟨fun d => ⟨hmem ht d, hmem' ht d⟩, ?_⟩
  simp only [hmem ht, hmem' ht]
  refine ⟨?_, Task.not_isDue_both, Task.not_isDue_both, ?_, ?_, ?_⟩
  · intro hnone d
    exact ⟨Task.not_isDue_of_none hnone, Task.not_isDue_of_none hnone⟩
  · intro hoverdue
    exact hoverdue.overdue_later hle
  · intro hsoon
    exact hsoon.week_later hle
  · intro u hu hdue d
    rw [hmem hu, hmem' hu]
    exact ⟨Task.isDue_congr hdue, Task.isDue_congr hdue⟩

/-- The day after `roadworks` is due, on a clock that is ahead of UTC. -/
def morrow : Moment := ⟨13 * Moment.day, some (19800 * Moment.second)⟩

/-- A task that is due when `roadworks` is, by a clock that is behind UTC. -/
def tollgate : Task := { roadworks with dueAt := some "0001-01-11 21:00-03" }

theorem findsDue_later_tollgate :
  eve.instant ≤ morrow.instant ∧ (eve.addDays? 7).isSome = true
    ∧ (morrow.addDays? 7).isSome = true
    ∧ ∃ found found',
      FindsDue eve [roadworks, tollgate] found ∧ FindsDue morrow [roadworks, tollgate] found'
      ∧ roadworks ∈ found .week ∧ tollgate ∈ found .week
      ∧ Xor (tollgate ∈ found' .week) (tollgate ∈ found' .overdue)
  := by
  have hle : eve.instant ≤ morrow.instant := by decide +kernel
  have hweek : (eve.addDays? 7).isSome = true := by decide +kernel
  have hweek' : (morrow.addDays? 7).isSome = true := by decide +kernel
  have hdue : tollgate.dueInstant? = roadworks.dueInstant? := by decide +kernel
  have hinstant : roadworks.dueInstant? = some (11 * Moment.day) := by decide +kernel
  obtain ⟨found, found', hfound, hfound', hall⟩ :=
    findsDue_later hle hweek hweek' [roadworks, tollgate]
  obtain ⟨hdues, -, -, -, -, -, hsame⟩ := hall roadworks (by simp)
  have hsoon : roadworks ∈ found .week := (hdues .week).1.mpr ⟨_, hinstant, by decide⟩
  have hsoon' : tollgate ∈ found .week := (hsame tollgate (by simp) hdue .week).1.mpr hsoon
  obtain ⟨-, -, -, -, -, hxor, -⟩ := hall tollgate (by simp)
  exact ⟨hle, hweek, hweek', found, found', hfound, hfound', hsoon, hsoon', hxor hsoon'⟩

end Search

end Kanban
