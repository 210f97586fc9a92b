import Kanban.Proofs.Search.Conjunction

/-!
# A search in other words

What two texts with a space between them ask for is what each of them asks for, joined
(`Query.read_append`).  The free text of a query, read by itself, asks for nothing but this text
(`Query.read_text`).  A text in lower case asks for what the text asks for, with the words that
are looked for in lower case (`Query.read_lowered`); since that is how they are looked for, it
finds the same (`search_lowered`).
-/

namespace Kanban

namespace Text

variable {ss ts : List Text}

/-- The text in lower case. -/
def lowered (s : Text) : Text := Text.ofList (lower s.toList)

/-! ### Texts with spaces between them -/

theorem lowered_intercalate :
  lowered ((" " : Text).intercalate ss) = (" " : Text).intercalate (ss.map lowered)
  := by
  have hspace : (" " : Text).toList = [.char ' '] := rfl
  rw [lowered, ← toList_inj, toList_ofList, toList_intercalate, toList_intercalate, hspace,
    lower_intercalate]
  simp [Function.comp_def, lowered]

theorem intercalate_ne_empty (h : ("" : Text) ∉ ss) (hnil : ss ≠ []) :
  (" " : Text).intercalate ss ≠ ""
  := by
  obtain ⟨s, ss, rfl⟩ := List.exists_cons_of_ne_nil hnil
  have hs : s ≠ "" := by
    rintro rfl
    apply h List.mem_cons_self
  cases ss with
  | nil => simpa using hs
  | cons t ss => simp [Text.intercalate_cons_cons, hs]

/-- Two rows of texts none of which is empty make up what each of them makes up, with a space
between unless a row is missing. -/
theorem intercalate_append (hss : ("" : Text) ∉ ss) (hts : ("" : Text) ∉ ts) :
  (" " : Text).intercalate (ss ++ ts)
    = (" " : Text).intercalate
      ([(" " : Text).intercalate ss, (" " : Text).intercalate ts].filter (· ≠ ("" : Text)))
  := by
  by_cases hs : ss = []
  · by_cases ht : ts = []
    · simp [hs, ht]
    · simp [hs, intercalate_ne_empty hts ht]
  · by_cases ht : ts = []
    · simp [ht, intercalate_ne_empty hss hs]
    · rw [Text.intercalate_append_of_ne_nil hs ht]
      simp [intercalate_ne_empty hss hs, intercalate_ne_empty hts ht, intercalate_cons_cons]

end Text

namespace Search

variable {w : List Point} {cs : List Clause}

/-! ### Clauses in lower case -/

/-- The clause with the word that it looks for in lower case. -/
def Clause.lowered : Clause → Clause
  | .free word => .free (Text.lower word)
  | c => c

/-- Nothing but the words looked for changes. -/
theorem filterMap_lowered {α : Type} {f : Clause → Option α} (hf : ∀ w, f (.free w) = none) :
  (cs.map Clause.lowered).filterMap f = cs.filterMap f
  := by
  have hlowered : f ∘ Clause.lowered = f := by
    funext c
    cases c with
    | free w => apply (hf _).trans (hf w).symm
    | _ => rfl
  rw [List.filterMap_map, hlowered]

/-- A word in lower case is the clause that the word is: nothing else is looked at. -/
theorem Clause.ofWord_lower :
  ofWord (Text.lower w) = lowered <$> ofWord w
  := by
  rw [ofWord, ofWord, Text.lower_lower]
  split
  · rfl
  · split
    · rfl
    · split
      · rfl
      · split
        next rest _ =>
          cases estimateBound? rest with
          | error long => rfl
          | ok bound => cases bound <;> rfl
        · rfl

end Search

namespace Query

open Search

variable {q : Query} {cs ds : List Clause} {text : Option Text}

theorem read_eq (text : Option Text) :
  read text = ofClauses <$> (asked text).mapM Clause.ofWord
  := rfl

/-! ### Joined texts -/

/-- The query for what two queries ask for.  Where only one clause counts it is that of the second
query, if this has one. -/
def join (q r : Query) : Query where
  text := (" " : Text).intercalate ([q.text, r.text].filter (· ≠ ("" : Text)))
  tags := q.tags ++ r.tags
  priority := r.priority.or q.priority
  due := r.due.or q.due
  estimate := r.estimate.or q.estimate

theorem ofClauses_append (hcs : ("" : Text) ∉ cs.filterMap Clause.free?)
    (hds : ("" : Text) ∉ ds.filterMap Clause.free?) :
  ofClauses (cs ++ ds) = (ofClauses cs).join (ofClauses ds)
  := by
  simp only [ofClauses, join, List.filterMap_append, List.getLast?_append,
    Text.intercalate_append hcs hds]

/-- Reading two texts with a space between them is reading the first, then the second, and joining
the queries. -/
theorem read_append (a b : Text) :
  read (some (a ++ " " ++ b)) = (do pure ((← read (some a)).join (← read (some b))))
  := by
  rw [read_eq, read_eq, read_eq, asked_append, List.mapM_append]
  cases ha : (asked (some a)).mapM Clause.ofWord with
  | error long => rfl
  | ok cs =>
      cases hb : (asked (some b)).mapM Clause.ofWord with
      | error long => rfl
      | ok ds =>
          have hcs := empty_not_mem_free (mapM_eq_ok_iff.mp ha)
          have hds := empty_not_mem_free (mapM_eq_ok_iff.mp hb)
          apply congrArg Except.ok (ofClauses_append hcs hds)

/-- The priority is that of the second text, which sets no bound. -/
example :
  (read (some ("p:low est:<=90 ΝΕΑ" ++ " " ++ "tag:obras p:high"))).toOption
    = some ⟨"ΝΕΑ", ["obras"], some .high, none, some ⟨.atMost, .int 90⟩⟩
  := by decide +kernel

/-! ### A text alone -/

/-- The query for a text alone. -/
def forText (s : Text) : Query where
  text := s
  tags := []
  priority := none
  due := none
  estimate := none

theorem ofClauses_free {ws : List (List Point)} :
  ofClauses (ws.map .free) = forText ((" " : Text).intercalate (ws.map Text.ofList))
  := by
  simp [ofClauses, forText, List.filterMap_map, Function.comp_def, Clause.free?, Clause.tag?,
    Clause.priority?, Clause.due?, Clause.estimate?]

/-- The free text of a query is read as the query for this text alone. -/
theorem read_free (h : read text = .ok q) :
  read (some q.text) = .ok (forText q.text)
  := by
  rw [text_of_read h, read_eq_ok_iff, asked_freeWords]
  refine ⟨(freeWords text).map .free, ?_, ofClauses_free⟩
  rw [List.forall₂_map_right_iff, List.forall₂_same]
  intro w hw
  apply (mem_freeWords hw).2

/-- The words looked for are those of the text that are no clauses, each in lower case. -/
theorem textWords_of_read (h : read text = .ok q) :
  q.textWords = (freeWords text).map Text.lower
  := by
  have hwords : Text.words ((" " : Text).intercalate ((freeWords text).map Text.ofList)).toList
      = freeWords text := asked_freeWords
  rw [textWords_eq, text_of_read h, hwords]

/-- Reading the free text of a query leaves nothing of it out and finds no clause in it: what is
looked for are the words of the text read first that are no clauses, each in lower case. -/
theorem read_text (h : read text = .ok q) :
  read (some q.text) = .ok (forText q.text)
    ∧ (forText q.text).textWords = (freeWords text).map Text.lower
  := by
  constructor
  · apply read_free h
  · apply textWords_of_read h

/-- What looks like a clause and is none stays what it is. -/
theorem read_text_urgent :
  read (some "tag:obras p:urgent ΟΔΟΣ") = .ok ⟨"p:urgent ΟΔΟΣ", ["obras"], none, none, none⟩
    ∧ read (some "p:urgent ΟΔΟΣ") = .ok (forText "p:urgent ΟΔΟΣ")
    ∧ (forText "p:urgent ΟΔΟΣ").textWords
      = (freeWords (some "tag:obras p:urgent ΟΔΟΣ")).map Text.lower
  := by
  have h : read (some "tag:obras p:urgent ΟΔΟΣ")
      = .ok ⟨"p:urgent ΟΔΟΣ", ["obras"], none, none, none⟩ := by
    rw [← toOption_eq_some_iff]
    decide +kernel
  exact ⟨h, read_text h⟩

/-! ### Lower case -/

/-- The query with the text that it looks for in lower case. -/
def lowered (q : Query) : Query := { q with text := Text.lowered q.text }

theorem ofClauses_lowered :
  ofClauses (cs.map Clause.lowered) = (ofClauses cs).lowered
  := by
  have hfree : Clause.free? ∘ Clause.lowered = fun c => c.free?.map Text.lowered := by
    funext c
    cases c <;> simp [Clause.lowered, Clause.free?, Text.lowered]
  have htext : (" " : Text).intercalate ((cs.map Clause.lowered).filterMap Clause.free?)
      = Text.lowered ((" " : Text).intercalate (cs.filterMap Clause.free?)) := by
    rw [List.filterMap_map, hfree, ← List.map_filterMap, Text.lowered_intercalate]
  rw [ofClauses, htext, filterMap_lowered (f := Clause.tag?) fun _ => rfl,
    filterMap_lowered (f := Clause.priority?) fun _ => rfl,
    filterMap_lowered (f := Clause.due?) fun _ => rfl,
    filterMap_lowered (f := Clause.estimate?) fun _ => rfl]
  rfl

/-- A text in lower case is read as the text is, with the words that are looked for in lower
case. -/
theorem read_lowered (s : Text) :
  read (some (Text.lowered s)) = lowered <$> read (some s)
  := by
  have hwords : asked (some (Text.lowered s)) = (asked (some s)).map Text.lower := by
    rw [asked, Option.getD_some, Text.lowered, Text.toList_ofList,
      Text.words_lower, asked, Option.getD_some]
  have hclauses : ((asked (some s)).map Text.lower).mapM Clause.ofWord
      = List.map Clause.lowered <$> (asked (some s)).mapM Clause.ofWord := by
    rw [List.mapM_map, ← mapM_fmap]
    apply congrArg (fun f => (asked (some s)).mapM f)
    funext w
    apply Clause.ofWord_lower
  rw [read_eq, read_eq, hwords, hclauses, Functor.map_map, Functor.map_map]
  apply congrArg (fun f => f <$> (asked (some s)).mapM Clause.ofWord)
  funext cs
  apply ofClauses_lowered

theorem textWords_lowered :
  q.lowered.textWords = q.textWords
  := by
  rw [textWords_eq, textWords_eq, lowered, Text.lowered, Text.toList_ofList, Text.words_lower,
    List.map_map]
  apply List.map_congr_left
  intro w _
  apply Text.lower_lower

/-- It makes no difference to what is found whether the text of a query is in lower case. -/
theorem filterBy_lowered {clock : Option Moment} {tasks : List Task} :
  q.lowered.filterBy clock tasks = q.filterBy clock tasks
  := by
  have hholds : ∀ now, q.lowered.holds now = q.holds now := by
    intro now
    funext t
    rw [holds, holds, textMatches, textMatches, textWords_lowered]
    rfl
  cases clock with
  | none => rfl
  | some now => rw [filterBy, filterBy, filter, filter, hholds]

end Query

namespace Search

/-- A text in lower case asks for the same as the text, word by word in lower case, and searching
by it finds the same. -/
theorem search_lowered {s : Text} {q : Query} {now : Moment} (hread : Query.read (some s) = .ok q)
    (hweek : (now.addDays? 7).isSome = true) (tasks : List Task) :
  (∃ r, Query.read (some (Text.lowered s)) = .ok r ∧ r.tags = q.tags ∧ r.priority = q.priority
      ∧ r.due = q.due ∧ r.estimate = q.estimate ∧ r.textWords = q.textWords)
    ∧ ∃ found, search (some now) (some (Text.lowered s)) tasks = .ok found
      ∧ search (some now) (some s) tasks = .ok found
  := by
  have hlowered : Query.read (some (Text.lowered s)) = .ok q.lowered := by
    rw [Query.read_lowered, hread]
    rfl
  have hfilter : q.filterBy (some now) tasks = .ok (tasks.filter (q.finds now)) :=
    Query.filterBy_eq hweek
  constructor
  · exact ⟨q.lowered, hlowered, rfl, rfl, rfl, rfl, Query.textWords_lowered⟩
  · refine ⟨_, search_eq_ok_iff.mpr ⟨_, hlowered, ?_⟩, search_eq_ok_iff.mpr ⟨_, hread, hfilter⟩⟩
    rw [Query.filterBy_lowered, hfilter]

/-- A capital sigma is in lower case what it is at the end of its word. -/
theorem search_lowered_roadworks :
  Query.read (some "TAG:Obras P:HIGH ΟΔΟΣ") = .ok ⟨"ΟΔΟΣ", ["obras"], some .high, none, none⟩
    ∧ (eve.addDays? 7).isSome = true
    ∧ (∃ r, Query.read (some (Text.lowered "TAG:Obras P:HIGH ΟΔΟΣ")) = .ok r ∧ r.tags = ["obras"]
        ∧ r.priority = some .high ∧ r.due = none ∧ r.estimate = none
        ∧ r.textWords = (⟨"ΟΔΟΣ", ["obras"], some .high, none, none⟩ : Query).textWords)
    ∧ ∃ found,
      search (some eve) (some (Text.lowered "TAG:Obras P:HIGH ΟΔΟΣ")) [roadworks] = .ok found
      ∧ search (some eve) (some "TAG:Obras P:HIGH ΟΔΟΣ") [roadworks] = .ok found
  := by
  have hread : Query.read (some "TAG:Obras P:HIGH ΟΔΟΣ")
      = .ok ⟨"ΟΔΟΣ", ["obras"], some .high, none, none⟩ := by
    rw [← toOption_eq_some_iff]
    decide +kernel
  have hweek : (eve.addDays? 7).isSome = true := by decide +kernel
  exact ⟨hread, hweek, search_lowered hread hweek [roadworks]⟩

end Search

end Kanban
