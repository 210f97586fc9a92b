import Kanban.Proofs.Search.Rewording

/-!
# What a search finds

The words that a query looks for have to be in the title of a task or in its description, each of
them in one of the two (`Query.filterBy_text`).

A search for tags and text alone does not look at the time (`Query.filterBy_of_plain`).  Searching
for a tag of a task as the task has it finds the task unless the lower case of the tag is another
one behind `tag:` (`search_tag_iff`).  Searching for a word finds a task that has it in a place in
which the word has its own lower case, so it finds all tasks that have it exactly if no place
gives the word another lower case (`search_literal_iff`).
-/

namespace Kanban

/-- The texts of a task that are searched. -/
def Task.searched (t : Task) : List Text := t.title :: t.description.toList

/-- The word is in the lower case of the title or in that of the description. -/
def Task.Mentions (t : Task) (w : List Point) : Prop :=
  w <:+: Text.lower t.title.toList ∨ w <:+: Text.lower (t.description.getD "").toList

instance (t : Task) (w : List Point) : Decidable (t.Mentions w) :=
  inferInstanceAs (Decidable (_ ∨ _))

namespace Query

open Search

variable {q : Query} {now : Moment} {t : Task} {tasks : List Task} {name w : List Point}

/-- The query asks for tags and text only. -/
def Plain (q : Query) : Prop := q.priority = none ∧ q.due = none ∧ q.estimate = none

theorem filterBy_of_plain (h : q.Plain) :
  q.filterBy (some now) tasks = .ok (tasks.filter fun t => q.textMatches t && q.tagsMatch t)
  := by
  obtain ⟨hpriority, hdue, hestimate⟩ := h
  have hholds : ∀ t, q.holds now t = .ok (q.textMatches t && q.tagsMatch t) := by
    intro t
    have hmatches : q.priorityMatches t = true ∧ q.estimateMatches t = true
        ∧ q.dueMatches now t = .ok true := by
      simp [priorityMatches, estimateMatches, dueMatches, hpriority, hdue, hestimate]
    rw [holds, hmatches.1, hmatches.2.1, hmatches.2.2, Bool.and_true]
    split_ifs with hconsidered
    · rw [hconsidered]
      rfl
    · rw [Bool.eq_false_iff.mpr hconsidered]
      rfl
  rw [filterBy, filter, filterM_eq_ok_iff]
  refine ⟨fun t _ => ⟨_, hholds t⟩, ?_⟩
  apply List.filter_congr
  intro t _
  rw [hholds]
  cases q.textMatches t && q.tagsMatch t <;> rfl

/-! ### Tags -/

theorem tagsMatch_tag (h : name ≠ []) :
  (ofClauses [.tag name]).tagsMatch t = true
    ↔ ∃ tag ∈ t.tags, Text.lower (Text.trim tag.toList) = Text.lower name
  := by
  obtain ⟨c, name, rfl⟩ := List.exists_cons_of_ne_nil h
  simp [tagsMatch, ofClauses, Clause.tag?, comparedTags]

/-- The tag clause of a tag asks for its lower case behind `tag:`. -/
theorem read_tag {s : List Point} (h : Text.Unbroken s) :
  read (some ("tag:" ++ Text.ofList s))
    = .ok (ofClauses [.tag (Text.lowerBetween ("tag:" : Text).toList.reverse s [])])
  := by
  have hstart : ("tag:" : Text).toList.all Text.isFixed = true := rfl
  have hchars : ∀ c ∈ ("tag:" : Text).toList, Text.isBlank c = false ∧ Text.IsLow c :=
    fun c hc => Text.isFixed_spec (List.all_eq_true.mp hstart c hc)
  have hword : asked (some ("tag:" ++ Text.ofList s)) = [("tag:" : Text).toList ++ s] := by
    rw [asked, Option.getD_some, Text.toList_append, Text.toList_ofList]
    apply Text.words_of_unbroken
    refine ⟨List.append_ne_nil_of_left_ne_nil (List.cons_ne_nil _ _) s, ?_⟩
    rw [List.forall_mem_append]
    exact ⟨fun c hc => (hchars c hc).1, h.2⟩
  have hlower : Text.lower (("tag:" : Text).toList ++ s)
      = ("tag:" : Text).toList ++ Text.lowerBetween ("tag:" : Text).toList.reverse s [] := by
    rw [Text.lower_eq_lowerBetween, Text.lowerBetween_append, List.append_nil, List.append_nil]
    rw [Text.lowerBetween_of_isLow fun c hc => (hchars c hc).2]
  have hclause : Clause.ofWord (("tag:" : Text).toList ++ s)
      = .ok (.tag (Text.lowerBetween ("tag:" : Text).toList.reverse s [])) := by
    rw [Clause.ofWord, hlower, after?_append]
    rfl
  rw [read_eq_ok_iff, hword]
  exact ⟨_, .cons hclause .nil, rfl⟩

/-! ### Title and description -/

/-- A word does not go across the blank between title and description, and that blank keeps their
lower cases apart. -/
theorem occursIn_haystack_iff_mentions (h : Text.Unbroken w) :
  Text.occursIn w (haystack t) = true ↔ t.Mentions w
  := by
  have hspace : Point.char ' ' ∉ w := by
    intro hmem
    cases (h.2 _ hmem).symm.trans (by decide : Text.isBlank ' ' = true)
  rw [Text.occursIn_iff, haystack, Text.lower_append_cons (by decide),
    Text.infix_append_cons_iff hspace, Task.Mentions]

theorem occursIn_haystack_iff (h : Text.Unbroken w) :
  Text.occursIn w (haystack t) = true ↔ ∃ s ∈ t.searched, w <:+: Text.lower s.toList
  := by
  rw [occursIn_haystack_iff_mentions h, Task.Mentions]
  cases hdescription : t.description with
  | none =>
      have hnil : ¬ w <:+: Text.lower [] := by
        rw [Text.lower, Text.lowerFrom, List.infix_nil]
        apply h.1
      simp [Task.searched, hdescription, hnil, Text.toList_ofString]
  | some d => simp [Task.searched, hdescription]

/-- All words of a query have to be in the title or in the description, each of them on its own. -/
theorem textMatches_iff :
  q.textMatches t = true ↔ ∀ w ∈ q.textWords, t.Mentions w
  := by
  rw [textMatches, List.all_eq_true]
  apply forall₂_congr
  intro w hw
  apply occursIn_haystack_iff_mentions (Text.unbroken_of_mem_words hw)

theorem holds_eq_ite :
  q.holds now t
    = if ∀ w ∈ q.textWords, t.Mentions w then { q with text := "" }.holds now t else pure false
  := by
  have hnone : { q with text := "" }.textMatches t = true := rfl
  simp only [← textMatches_iff]
  split_ifs with htext
  · rw [holds, holds, htext, hnone]
    rfl
  · rw [holds, Bool.eq_false_iff.mpr htext]
    rfl

/-- Exactly the tasks that have every word of the query in the title, or in the description, pass
its text clause; what else it asks is asked of these. -/
theorem filterBy_text (q : Query) (clock : Option Moment) (tasks : List Task) :
  (∀ t, q.textMatches t = true ↔ ∀ w ∈ q.textWords, t.Mentions w)
    ∧ q.filterBy clock tasks
      = { q with text := "" }.filterBy clock
          (tasks.filter fun t => ∀ w ∈ q.textWords, t.Mentions w)
  := by
  constructor
  · intro t
    apply textMatches_iff
  · cases clock with
    | none => rfl
    | some now =>
        simp only [filterBy, filter, ← filterM_ite]
        apply congrArg (fun holds => tasks.filterM holds)
        funext t
        apply holds_eq_ite

/-- The last letter of a title stays the last one of its word before a description. -/
example :
  (forText "ΟΔΟΣ").textMatches { roadworks with description := some "Α" } = true
  := by decide +kernel

/-! ### Words -/

/-- What is read from a text that is kept as it is asks for this text alone. -/
theorem eq_of_read {s : Text} (hread : read (some s) = .ok q) (hfree : q.text = s) :
  q = forText s
  := by
  have hagain := read_free hread
  rw [hfree] at hagain
  apply Except.ok.inj (hread.symm.trans hagain)

/-- A word finds what has its lower case in the lower case of one of its texts. -/
theorem textMatches_forText {s : Text} (h : Text.Unbroken s.toList) :
  (forText s).textMatches t = true ↔ ∃ u ∈ t.searched, Text.lower s.toList <:+: Text.lower u.toList
  := by
  have hwords : (forText s).textWords = [Text.lower s.toList] := by
    rw [textWords_eq, forText, Text.words_of_unbroken h, List.map_singleton]
  rw [textMatches, hwords, List.all_cons, List.all_nil, Bool.and_true,
    occursIn_haystack_iff h.lower]

end Query

namespace Search

open Query

/-- Searching for a tag of a task finds the task unless the tag has another lower case behind
`tag:` and no tag of the task has that one by itself. -/
theorem search_tag_iff {t : Task} {tag : Text} (hmem : tag ∈ t.tags)
    (hunbroken : Text.Unbroken (Text.trim tag.toList)) (now : Moment) :
  ∃ found, search (some now) (some ("tag:" ++ Text.ofList (Text.trim tag.toList))) [t] = .ok found
    ∧ (t ∈ found
      ↔ ¬ Text.Shifts ("tag:" : Text).toList.reverse (Text.trim tag.toList) []
        ∨ ∃ other ∈ t.tags, Text.lower (Text.trim other.toList)
          = Text.lowerBetween ("tag:" : Text).toList.reverse (Text.trim tag.toList) [])
  := by
  generalize hs : Text.trim tag.toList = s at hunbroken ⊢
  have hplain : (ofClauses [.tag (Text.lowerBetween ("tag:" : Text).toList.reverse s [])]).Plain :=
    ⟨rfl, rfl, rfl⟩
  have htext : (ofClauses
      [.tag (Text.lowerBetween ("tag:" : Text).toList.reverse s [])]).textMatches t = true := rfl
  refine ⟨_, search_eq_ok_iff.mpr ⟨_, read_tag hunbroken, filterBy_of_plain hplain⟩, ?_⟩
  rw [List.mem_filter, htext, Bool.true_and, tagsMatch_tag (Text.lowerBetween_ne_nil hunbroken.1),
    Text.lower_lowerBetween, ← Text.lowerBetween_eq_iff]
  constructor
  · rintro ⟨-, hfound⟩
    apply Or.inr hfound
  · rintro (hsame | hfound)
    · refine ⟨List.mem_singleton_self t, tag, hmem, ?_⟩
      rw [hs, hsame]
    · exact ⟨List.mem_singleton_self t, hfound⟩

theorem search_tag_roadworks :
  (" Obras " : Text) ∈ roadworks.tags ∧ Text.Unbroken (Text.trim (" Obras " : Text).toList)
    ∧ ∃ found, search (some eve)
        (some ("tag:" ++ Text.ofList (Text.trim (" Obras " : Text).toList))) [roadworks] = .ok found
      ∧ (roadworks ∈ found
        ↔ ¬ Text.Shifts ("tag:" : Text).toList.reverse (Text.trim (" Obras " : Text).toList) []
          ∨ ∃ other ∈ roadworks.tags, Text.lower (Text.trim other.toList)
            = Text.lowerBetween ("tag:" : Text).toList.reverse
              (Text.trim (" Obras " : Text).toList) [])
  := by
  have hmem : (" Obras " : Text) ∈ roadworks.tags := List.mem_singleton_self _
  have hunbroken : Text.Unbroken (Text.trim (" Obras " : Text).toList) := by decide +kernel
  exact ⟨hmem, hunbroken, search_tag_iff hmem hunbroken eve⟩

/-- A capital sigma as a tag does not find its task: behind `tag:` it ends a word. -/
theorem search_tag_sigma :
  Text.Unbroken (Text.trim ("Σ" : Text).toList)
    ∧ search (some eve) (some ("tag:" ++ Text.ofList (Text.trim ("Σ" : Text).toList)))
        [{ roadworks with tags := ["Σ"] }] = .ok []
  := by
  refine ⟨by decide +kernel, ?_⟩
  rw [← toOption_eq_some_iff]
  decide +kernel

/-- The task is found by the text. -/
def Finds (now : Moment) (text : Text) (t : Task) : Prop :=
  ∃ found, search (some now) (some text) [t] = .ok found ∧ t ∈ found

theorem finds_word_iff {now : Moment} {s : Text} {q : Query} {t : Task}
    (hread : Query.read (some s) = .ok q) (hfree : q.text = s) (h : Text.Unbroken s.toList) :
  Finds now s t ↔ ∃ u ∈ t.searched, Text.lower s.toList <:+: Text.lower u.toList
  := by
  obtain rfl := eq_of_read hread hfree
  have hplain : (forText s).Plain := ⟨rfl, rfl, rfl⟩
  have htags : (forText s).tagsMatch t = true := rfl
  have hsearch : search (some now) (some s) [t] = .ok _ :=
    search_eq_ok_iff.mpr ⟨_, hread, filterBy_of_plain hplain⟩
  rw [← textMatches_forText h]
  constructor
  · rintro ⟨found, hfound, ht⟩
    rw [← Except.ok.inj (hsearch.symm.trans hfound)] at ht
    rw [List.mem_filter, htags, Bool.and_true] at ht
    apply ht.2
  · intro hmatches
    refine ⟨_, hsearch, ?_⟩
    rw [List.mem_filter, htags, Bool.and_true]
    exact ⟨List.mem_singleton_self t, hmatches⟩

/-- Searching for a word finds what has it in a place in which the word has its own lower case;
it finds all that have it exactly if no place gives the word another lower case. -/
theorem search_literal_iff {w : Text} {q : Query} (hread : Query.read (some w) = .ok q)
    (hfree : q.text = w) (hunbroken : Text.Unbroken w.toList) :
  (∀ now t, ∀ s ∈ t.searched, ∀ before after, s.toList = before ++ w.toList ++ after →
      ¬ Text.Shifts before.reverse w.toList after → Finds now w t)
    ∧ ((∀ now t, (∃ s ∈ t.searched, w.toList <:+: s.toList) → Finds now w t)
      ↔ Text.Steady w.toList)
  := by
  have hplace : ∀ now t, ∀ s ∈ t.searched, ∀ before after,
      s.toList = before ++ w.toList ++ after → ¬ Text.Shifts before.reverse w.toList after →
      Finds now w t := by
    intro now t s hs before after hsplit hstays
    rw [finds_word_iff hread hfree hunbroken]
    refine ⟨s, hs, ?_⟩
    rw [hsplit]
    apply Text.infix_lower hstays
  refine ⟨hplace, ?_, ?_⟩
  · intro hall
    rw [Text.steady_iff_infix]
    intro before after
    have hfinds := hall eve
      { roadworks with title := Text.ofList (before ++ w.toList ++ after) }
      ⟨_, List.mem_cons_self, by rw [Text.toList_ofList]; apply List.infix_append⟩
    rw [finds_word_iff hread hfree hunbroken] at hfinds
    obtain ⟨s, hs, hinfix⟩ := hfinds
    cases List.mem_singleton.mp hs
    rwa [Text.toList_ofList] at hinfix
  · rintro hsteady now t ⟨s, hs, before, after, hsplit⟩
    apply hplace now t s hs before after hsplit.symm (hsteady _ _)

theorem read_roads :
  ∃ q, Query.read (some "ΟΔΟΣ") = .ok q ∧ q.text = "ΟΔΟΣ"
  := by
  have hfree : ((Query.read (some "ΟΔΟΣ")).toOption.map Query.text) = some "ΟΔΟΣ" := by
    decide +kernel
  obtain ⟨q, hq, htext⟩ := Option.map_eq_some_iff.mp hfree
  exact ⟨q, toOption_eq_some_iff.mp hq, htext⟩

/-- A word whose last letter is a capital sigma finds the tasks in which no letter is behind it,
but not all in which it occurs. -/
theorem search_literal_roads :
  ∃ q, Query.read (some "ΟΔΟΣ") = .ok q ∧ q.text = "ΟΔΟΣ" ∧ Text.Unbroken ("ΟΔΟΣ" : Text).toList
    ∧ Finds eve "ΟΔΟΣ" roadworks
    ∧ ¬ ∀ now t, (∃ s ∈ t.searched, ("ΟΔΟΣ" : Text).toList <:+: s.toList) → Finds now "ΟΔΟΣ" t
  := by
  obtain ⟨q, hq, htext⟩ := read_roads
  have hunbroken : Text.Unbroken ("ΟΔΟΣ" : Text).toList := by decide +kernel
  obtain ⟨hplace, hall⟩ := search_literal_iff hq htext hunbroken
  refine ⟨q, hq, htext, hunbroken, ?_, ?_⟩
  · apply hplace eve roadworks _ List.mem_cons_self ("ΝΕΑ " : Text).toList [] rfl
    decide +kernel
  · rw [hall]
    decide +kernel

/-- A word does not find the task that has it in a longer word, in which its last letter is
another one. -/
theorem search_literal_longer :
  (∃ q, Query.read (some "ΟΔΟΣ") = .ok q ∧ q.text = "ΟΔΟΣ") ∧ Text.Unbroken ("ΟΔΟΣ" : Text).toList
    ∧ ("ΟΔΟΣ" : Text).toList <:+: ("ΟΔΟΣΗΜΑΝΣΗ" : Text).toList
    ∧ search (some eve) (some "ΟΔΟΣ") [{ roadworks with title := "ΟΔΟΣΗΜΑΝΣΗ" }]
      = .ok []
  := by
  refine ⟨read_roads, by decide +kernel, ⟨[], ("ΗΜΑΝΣΗ" : Text).toList, by decide +kernel⟩, ?_⟩
  rw [← toOption_eq_some_iff]
  decide +kernel

end Search

end Kanban
