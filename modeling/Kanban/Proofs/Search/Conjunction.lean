import Kanban.Proofs.Search.Reading

/-!
# Searching by several clauses

With a week ahead every search is answered, with the tasks that meet all that is asked
(`Query.filterBy_eq`).  What the clauses of two texts ask together is what each of them asks, as
long as no kind of clause of which only one counts is in both (`Query.finds_append`); so searching
by a text and then, in what was found, by another one is searching by both (`search_append`).
-/

namespace Kanban

namespace Search

/-- The kinds of clauses of which only the last one of a text counts. -/
inductive Kind where
  | priority
  | due
  | estimate
  deriving DecidableEq

/-- The kind of a clause, if only one of its kind counts. -/
def Clause.kind? : Clause → Option Kind
  | .priority _ => some .priority
  | .due _ => some .due
  | .estimate _ => some .estimate
  | _ => none

/-- There is a clause of the kind. -/
def Has (cs : List Clause) (k : Kind) : Prop := ∃ c ∈ cs, c.kind? = some k

end Search

namespace Query

open Search

variable {q : Query} {now : Moment} {t : Task} {tasks : List Task} {cs ds : List Clause}

/-! ### Answers -/

/-- The task is found by the query. -/
def finds (q : Query) (now : Moment) (t : Task) : Bool := (q.holds now t).toOption == some true

theorem finds_iff :
  q.finds now t = true
    ↔ q.textMatches t = true ∧ q.tagsMatch t = true ∧ q.priorityMatches t = true
      ∧ q.dueMatches now t = .ok true ∧ q.estimateMatches t = true
  := by
  rw [finds, beq_iff_eq, toOption_eq_some_iff, holds]
  split_ifs with hconsidered
  · simp only [Bool.and_eq_true, and_assoc] at hconsidered
    simp only [bind_eq_ok_iff, pure_eq_ok_iff, Bool.and_eq_true]
    constructor
    · rintro ⟨b, hdue, rfl, hestimate⟩
      exact ⟨hconsidered.1, hconsidered.2.1, hconsidered.2.2, hdue, hestimate⟩
    · rintro ⟨-, -, -, hdue, hestimate⟩
      exact ⟨true, hdue, rfl, hestimate⟩
  · constructor
    · simp
    · rintro ⟨htext, htags, hpriority, -⟩
      apply absurd _ hconsidered
      simp [htext, htags, hpriority]

/-- With a week ahead a search is answered. -/
theorem filterBy_eq (hweek : (now.addDays? 7).isSome = true) :
  q.filterBy (some now) tasks = .ok (tasks.filter (q.finds now))
  := by
  rw [filterBy, filter, filterM_eq_ok_iff]
  refine ⟨?_, rfl⟩
  intro t _
  rw [exists_holds_iff]
  intro houtlasts
  rw [houtlasts.ended] at hweek
  cases hweek

/-! ### Clauses of two texts -/

/-- The words of the free text, each in lower case. -/
theorem textWords_eq :
  q.textWords = (Text.words q.text.toList).map Text.lower
  := by
  rw [textWords, Text.words_lower, Text.words_trim]

theorem textWords_ofClauses :
  (ofClauses cs).textWords
    = ((cs.filterMap Clause.free?).flatMap fun s => Text.words s.toList).map Text.lower
  := by
  have hspace : (" " : Text).toList = [.char ' '] := rfl
  rw [textWords_eq, ofClauses, Text.toList_intercalate, hspace, Text.words_intercalate,
    List.flatMap_map]

theorem textMatches_append :
  (ofClauses (cs ++ ds)).textMatches t
    = ((ofClauses cs).textMatches t && (ofClauses ds).textMatches t)
  := by
  simp only [textMatches, textWords_ofClauses]
  rw [List.filterMap_append, List.flatMap_append, List.map_append, List.all_append]

theorem tagsMatch_append :
  (ofClauses (cs ++ ds)).tagsMatch t = ((ofClauses cs).tagsMatch t && (ofClauses ds).tagsMatch t)
  := by
  simp only [tagsMatch, ofClauses, List.filterMap_append, List.all_append]

/-- Among clauses some of which count, and all of them stand on one side, the last one that counts
is the last one on that side. -/
theorem getLast?_append_cases {α : Type} {f : Clause → Option α} {k : Kind}
    (hf : ∀ c a, f c = some a → c.kind? = some k) (h : ¬ (Has cs k ∧ Has ds k)) :
  ((cs ++ ds).filterMap f).getLast? = (cs.filterMap f).getLast? ∧ (ds.filterMap f).getLast? = none
    ∨ ((cs ++ ds).filterMap f).getLast? = (ds.filterMap f).getLast?
      ∧ (cs.filterMap f).getLast? = none
  := by
  have hnil {cs : List Clause} (hcs : ¬ Has cs k) : cs.filterMap f = [] := by
    rw [List.filterMap_eq_nil_iff]
    intro c hc
    rw [Option.eq_none_iff_forall_ne_some]
    intro a ha
    apply hcs ⟨c, hc, hf c a ha⟩
  rw [List.filterMap_append]
  rcases not_and_or.mp h with hcs | hds
  · right
    simp [hnil hcs]
  · left
    simp [hnil hds]

theorem all_getLast?_append {α : Type} {f : Clause → Option α} {k : Kind}
    (hf : ∀ c a, f c = some a → c.kind? = some k) (h : ¬ (Has cs k ∧ Has ds k)) (p : α → Bool) :
  ((cs ++ ds).filterMap f).getLast?.all p
    = ((cs.filterMap f).getLast?.all p && (ds.filterMap f).getLast?.all p)
  := by
  rcases getLast?_append_cases hf h with ⟨hlast, hnone⟩ | ⟨hlast, hnone⟩
  · rw [hlast, hnone, Option.all_none, Bool.and_true]
  · rw [hlast, hnone, Option.all_none, Bool.true_and]

theorem priorityMatches_append (h : ¬ (Has cs .priority ∧ Has ds .priority)) :
  (ofClauses (cs ++ ds)).priorityMatches t
    = ((ofClauses cs).priorityMatches t && (ofClauses ds).priorityMatches t)
  := by
  have hkind : ∀ c p, Clause.priority? c = some p → c.kind? = some .priority := by
    intro c p hp
    cases c <;> simp_all [Clause.priority?, Clause.kind?]
  simp only [priorityMatches, ofClauses]
  apply all_getLast?_append hkind h

theorem estimateMatches_append (h : ¬ (Has cs .estimate ∧ Has ds .estimate)) :
  (ofClauses (cs ++ ds)).estimateMatches t
    = ((ofClauses cs).estimateMatches t && (ofClauses ds).estimateMatches t)
  := by
  have hkind : ∀ c b, Clause.estimate? c = some b → c.kind? = some .estimate := by
    intro c b hb
    cases c <;> simp_all [Clause.estimate?, Clause.kind?]
  simp only [estimateMatches, ofClauses]
  apply all_getLast?_append hkind h

theorem dueMatches_append (h : ¬ (Has cs .due ∧ Has ds .due)) :
  (ofClauses (cs ++ ds)).dueMatches now t = .ok true
    ↔ (ofClauses cs).dueMatches now t = .ok true ∧ (ofClauses ds).dueMatches now t = .ok true
  := by
  have hkind : ∀ c d, Clause.due? c = some d → c.kind? = some .due := by
    intro c d hd
    cases c <;> simp_all [Clause.due?, Clause.kind?]
  simp only [dueMatches, ofClauses]
  rcases getLast?_append_cases hkind h with ⟨hlast, hnone⟩ | ⟨hlast, hnone⟩
  · rw [hlast, hnone]
    simp
  · rw [hlast, hnone]
    simp

/-- What the clauses of two texts ask together is what each of them asks. -/
theorem finds_append (h : ∀ k, ¬ (Has cs k ∧ Has ds k)) :
  (ofClauses (cs ++ ds)).finds now t
    = ((ofClauses cs).finds now t && (ofClauses ds).finds now t)
  := by
  rw [Bool.eq_iff_iff, Bool.and_eq_true, finds_iff, finds_iff, finds_iff]
  rw [textMatches_append, tagsMatch_append, priorityMatches_append (h .priority),
    dueMatches_append (h .due), estimateMatches_append (h .estimate)]
  simp only [Bool.and_eq_true]
  constructor
  · rintro ⟨⟨htext, htext'⟩, ⟨htags, htags'⟩, ⟨hpriority, hpriority'⟩, ⟨hdue, hdue'⟩,
      hestimate, hestimate'⟩
    exact ⟨⟨htext, htags, hpriority, hdue, hestimate⟩,
      htext', htags', hpriority', hdue', hestimate'⟩
  · rintro ⟨⟨htext, htags, hpriority, hdue, hestimate⟩,
      htext', htags', hpriority', hdue', hestimate'⟩
    exact ⟨⟨htext, htext'⟩, ⟨htags, htags'⟩, ⟨hpriority, hpriority'⟩, ⟨hdue, hdue'⟩,
      hestimate, hestimate'⟩

end Query

namespace Search

open Query

theorem search_eq_ok_iff {clock : Option Moment} {text : Option Text} {tasks found : List Task} :
  search clock text tasks = .ok found
    ↔ ∃ q, Query.read text = .ok q ∧ q.filterBy clock tasks = .ok found
  := by
  simp only [search, bind_eq_ok_iff, mapError_eq_ok_iff]

/-- The text has a clause of the kind. -/
def Sets (text : Text) (k : Kind) : Prop :=
  ∃ w ∈ asked (some text), ∃ c, Means w c ∧ c.kind? = some k

variable {a b : Text} {now : Moment}

theorem asked_append :
  asked (some (a ++ " " ++ b)) = asked (some a) ++ asked (some b)
  := by
  have hspace : (a ++ " " ++ b).toList = a.toList ++ Point.char ' ' :: b.toList := by
    simp [Text.toList_ofString]
  rw [asked, Option.getD_some, hspace, Text.words_append_cons (by decide)]
  rfl

theorem has_of_forall₂ {ws : List (List Point)} {cs : List Clause} {k : Kind}
    (h : List.Forall₂ (fun w c => Clause.ofWord w = .ok c) ws cs) (hk : Has cs k) :
  ∃ w ∈ ws, ∃ c, Means w c ∧ c.kind? = some k
  := by
  obtain ⟨c, hc, hkind⟩ := hk
  obtain ⟨w, hw, hread⟩ := exists_mem_left h hc
  obtain ⟨-, hmeans | ⟨rfl, -⟩⟩ := Clause.ofWord_eq_ok_iff.mp hread
  · exact ⟨w, hw, c, hmeans, hkind⟩
  · cases hkind

/-- Searching by one text, and by another one in what was found, is searching by both, where no
kind of clause of which only one counts is in both. -/
theorem search_append (ha : ∀ w ∈ asked (some a), ¬ Overlong w)
    (hb : ∀ w ∈ asked (some b), ¬ Overlong w) (hkinds : ∀ k, ¬ (Sets a k ∧ Sets b k))
    (hweek : (now.addDays? 7).isSome = true) (tasks : List Task) :
  ∃ first both, search (some now) (some a) tasks = .ok first
    ∧ search (some now) (some b) first = .ok both
    ∧ search (some now) (some (a ++ " " ++ b)) tasks = .ok both
  := by
  obtain ⟨qa, hqa⟩ : ∃ q, Query.read (some a) = .ok q := Query.exists_ofText_iff.mpr ha
  obtain ⟨qb, hqb⟩ : ∃ q, Query.read (some b) = .ok q := Query.exists_ofText_iff.mpr hb
  obtain ⟨cs, hcs, rfl⟩ := Query.read_eq_ok_iff.mp hqa
  obtain ⟨ds, hds, rfl⟩ := Query.read_eq_ok_iff.mp hqb
  have hboth : Query.read (some (a ++ " " ++ b)) = .ok (Query.ofClauses (cs ++ ds)) := by
    rw [Query.read_eq_ok_iff, asked_append]
    exact ⟨_, List.rel_append hcs hds, rfl⟩
  have hfinds : ∀ k, ¬ (Has cs k ∧ Has ds k) := by
    rintro k ⟨hck, hdk⟩
    apply hkinds k ⟨has_of_forall₂ hcs hck, has_of_forall₂ hds hdk⟩
  simp only [search_eq_ok_iff]
  refine ⟨_, _, ⟨_, hqa, filterBy_eq hweek⟩, ⟨_, hqb, filterBy_eq hweek⟩, _, hboth, ?_⟩
  rw [filterBy_eq hweek, List.filter_filter]
  apply congrArg Except.ok
  apply List.filter_congr
  intro t _
  rw [finds_append hfinds, Bool.and_comm]

/-- The kinds of clauses in a text that is read can be told from its words. -/
theorem sets_iff {k : Kind} (h : ∀ w ∈ asked (some a), ¬ Overlong w) :
  Sets a k
    ↔ k ∈ (asked (some a)).filterMap fun w => (Clause.ofWord w).toOption.bind Clause.kind?
  := by
  simp only [Sets, List.mem_filterMap, Option.bind_eq_some_iff, toOption_eq_some_iff]
  constructor
  · rintro ⟨w, hw, c, hmeans, hkind⟩
    exact ⟨w, hw, c, hmeans.ofWord (h w hw), hkind⟩
  · rintro ⟨w, hw, c, hread, hkind⟩
    obtain ⟨-, hmeans | ⟨rfl, -⟩⟩ := Clause.ofWord_eq_ok_iff.mp hread
    · exact ⟨w, hw, c, hmeans, hkind⟩
    · cases hkind

/-- The day before `roadworks` is due. -/
def eve : Moment := ⟨10 * Moment.day, some 0⟩

/-- A task that is due soon. -/
def roadworks : Task where
  id := "00000000-0000-4000-8000-000000000001"
  title := "ΝΕΑ ΟΔΟΣ"
  description := none
  priority := .high
  tags := [" Obras "]
  estimate := .int 90
  createdAt := "0001-01-11T00:00:00.000Z"
  dueAt := some "0001-01-12T00:00:00.000Z"
  column := .todo
  reviewerNote := none
  score := none
  scoreComment := none

/-- A capital sigma at the end of the first text does not see the second one. -/
theorem search_append_roadworks :
  (∀ w ∈ asked (some "tag:obras p:high ΟΔΟΣ"), ¬ Overlong w)
    ∧ (∀ w ∈ asked (some "ΝΕΑ est:<=90 due:week"), ¬ Overlong w)
    ∧ (∀ k, ¬ (Sets "tag:obras p:high ΟΔΟΣ" k ∧ Sets "ΝΕΑ est:<=90 due:week" k))
    ∧ (eve.addDays? 7).isSome = true
    ∧ ∃ first both,
      search (some eve) (some "tag:obras p:high ΟΔΟΣ") [roadworks] = .ok first
      ∧ search (some eve) (some "ΝΕΑ est:<=90 due:week") first = .ok both
      ∧ search (some eve)
          (some ("tag:obras p:high ΟΔΟΣ" ++ " " ++ "ΝΕΑ est:<=90 due:week")) [roadworks] = .ok both
  := by
  have ha : ∀ w ∈ asked (some "tag:obras p:high ΟΔΟΣ"), ¬ Overlong w := by decide +kernel
  have hb : ∀ w ∈ asked (some "ΝΕΑ est:<=90 due:week"), ¬ Overlong w := by decide +kernel
  have hkinds : ∀ k, ¬ (Sets "tag:obras p:high ΟΔΟΣ" k ∧ Sets "ΝΕΑ est:<=90 due:week" k) := by
    intro k
    rw [sets_iff ha, sets_iff hb]
    cases k <;> decide +kernel
  have hweek : (eve.addDays? 7).isSome = true := by decide +kernel
  exact ⟨ha, hb, hkinds, hweek, search_append ha hb hkinds hweek [roadworks]⟩

end Search

end Kanban
