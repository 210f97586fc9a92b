import Kanban.Proofs.Search.Clause
import Kanban.Proofs.Text.Words

/-!
# What a search asks for

The clauses of a query are those of the words of its text, one for each (`Query.read_eq_ok_iff`).
A search is read unless a word of it sets a bound of too many digits, and then the words that are
no clauses are its free text (`Query.exists_read_iff`).  They are the words of that text again
(`asked_freeWords`).
-/

namespace Kanban

namespace Search

variable {w : List Point} {ws : List (List Point)} {cs : List Clause} {text : Option Text}

/-- The words of what is asked. -/
def asked (text : Option Text) : List (List Point) := Text.words (text.getD "").toList

/-- The word can be used as a clause. -/
def IsClause (word : List Point) : Prop := ∃ c, Means word c

theorem not_isClause_iff :
  ¬ IsClause w ↔ Clause.ofWord w = .ok (.free w)
  := by
  rw [IsClause, not_exists]
  constructor
  · apply ofWord_of_not_means
  · intro h
    apply (free_of_ofWord h).2

instance : Decidable (IsClause w) :=
  match h : Clause.ofWord w with
  | .ok (.free v) => .isFalse (not_exists.mpr (free_of_ofWord h).2)
  | .ok (.tag _) | .ok (.priority _) | .ok (.due _) | .ok (.estimate _) | .error _ =>
    .isTrue (not_not.mp fun hnone => by cases h.symm.trans (not_isClause_iff.mp hnone))

/-- Of the words of a text those are free that are no clauses. -/
theorem filterMap_free? (h : List.Forall₂ (fun w c => Clause.ofWord w = .ok c) ws cs) :
  cs.filterMap Clause.free? = (ws.filter fun w => ¬ IsClause w).map Text.ofList
  := by
  induction h with
  | nil => rfl
  | @cons w c ws cs hw _ ih =>
      by_cases hclause : IsClause w
      · have hfree : c.free? = none := by
          cases c with
          | free v => apply absurd hclause (not_exists.mpr (free_of_ofWord hw).2)
          | _ => rfl
        rw [List.filterMap_cons_none hfree, List.filter_cons_of_neg (by simpa using hclause), ih]
      · obtain rfl := Except.ok.inj (hw.symm.trans (not_isClause_iff.mp hclause))
        have hfree : (Clause.free w).free? = some (Text.ofList w) := rfl
        rw [List.filterMap_cons_some hfree, List.filter_cons_of_pos (by simpa using hclause), ih]
        rfl

/-- The words of what is asked that are no clauses. -/
def freeWords (text : Option Text) : List (List Point) :=
  (asked text).filter fun w => ¬ IsClause w

theorem mem_freeWords (h : w ∈ freeWords text) :
  Text.Unbroken w ∧ Clause.ofWord w = .ok (.free w)
  := by
  obtain ⟨hasked, hclause⟩ := List.mem_filter.mp h
  refine ⟨Text.unbroken_of_mem_words hasked, ?_⟩
  rw [← not_isClause_iff]
  simpa using hclause

/-- Among the free words of a text none is empty. -/
theorem empty_not_mem_free
    (h : List.Forall₂ (fun w c => Clause.ofWord w = .ok c) (asked text) cs) :
  ("" : Text) ∉ cs.filterMap Clause.free?
  := by
  rw [filterMap_free? h]
  intro hmem
  obtain ⟨w, hw, hempty⟩ := List.mem_map.mp hmem
  apply (mem_freeWords hw).1.1
  rw [← Text.toList_ofList w, hempty]
  rfl

/-- The free words of a text are the words of the text that they make up. -/
theorem asked_freeWords :
  asked (some ((" " : Text).intercalate ((freeWords text).map Text.ofList))) = freeWords text
  := by
  have hlists : (freeWords text).map (Text.toList ∘ Text.ofList) = freeWords text := by
    simp [Function.comp_def]
  rw [asked, Option.getD_some, Text.toList_intercalate, List.map_map, hlists]
  apply Text.words_intercalate_of_unbroken
  intro w hw
  apply (mem_freeWords hw).1

end Search

namespace Query

open Search

variable {q : Query} {text : Option Text}

/-- A query is made of what the words of its text mean. -/
theorem read_eq_ok_iff :
  read text = .ok q
    ↔ ∃ cs, List.Forall₂ (fun w c => Clause.ofWord w = .ok c) (asked text) cs ∧ ofClauses cs = q
  := by
  simp only [read, ofText, bind_eq_ok_iff, pure_eq_ok_iff, mapM_eq_ok_iff, asked]

/-- The free text of a query is made up of the words that are no clauses. -/
theorem text_of_read (h : read text = .ok q) :
  q.text = (" " : Text).intercalate ((freeWords text).map Text.ofList)
  := by
  obtain ⟨cs, hcs, rfl⟩ := read_eq_ok_iff.mp h
  rw [ofClauses, filterMap_free? hcs, freeWords]

/-- A text is read, with the words that are no clauses as its free text, unless a word of it
sets a bound of too many digits. -/
theorem exists_read_iff (text : Option Text) :
  (∃ q, read text = .ok q
      ∧ q.text = (" " : Text).intercalate
        (((asked text).filter fun w => ¬ IsClause w).map Text.ofList))
    ↔ ∀ w ∈ asked text, ¬ Overlong w
  := by
  rw [asked, ← exists_ofText_iff]
  constructor
  · rintro ⟨q, hq, -⟩
    exact ⟨q, hq⟩
  · rintro ⟨q, hq⟩
    obtain ⟨cs, hcs, rfl⟩ := read_eq_ok_iff.mp hq
    refine ⟨_, hq, ?_⟩
    rw [ofClauses, filterMap_free? hcs]
    rfl

/-- A bound with one digit more than are allowed. -/
def nines : List Point := ("est:" : Text).toList ++ List.replicate (maxDigits + 1) (.char '9')

/-- Not every text is read. -/
theorem not_exists_read_nines :
  ¬ ∃ q, read (some (Text.ofList nines)) = .ok q
  := by
  have hall : ("est:9" : Text).toList.all Text.isFixed = true := rfl
  have hchars : ∀ c ∈ nines, Text.isBlank c = false ∧ Text.IsLow c := by
    intro c hc
    have hmem : c ∈ ("est:9" : Text).toList := by
      rcases List.mem_append.mp hc with hc | hc
      · apply List.mem_append_left [.char '9'] hc
      · rw [List.eq_of_mem_replicate hc]
        decide
    apply Text.isFixed_spec (List.all_eq_true.mp hall c hmem)
  have hlower : Text.lower nines = nines := by
    rw [Text.lower_eq_lowerBetween]
    apply Text.lowerBetween_of_isLow
    intro c hc
    apply (hchars c hc).2
  have hword : Text.words nines = [nines] := by
    apply Text.words_of_unbroken
    refine ⟨by simp [nines], ?_⟩
    intro c hc
    apply (hchars c hc).1
  have hlong : Overlong nines := by
    refine ⟨_, by rw [hlower, nines, after?_append], ?_⟩
    have hdigits : ∀ c ∈ List.replicate (maxDigits + 1) (.char '9'), Text.isDigit c = true := by
      intro c hc
      rw [List.eq_of_mem_replicate hc]
      decide
    have hsplit : splitSign ([] ++ List.replicate (maxDigits + 1) (.char '9')) = (.equal, _) :=
      splitSign_append (.inr ⟨rfl, rfl⟩) (by simp) hdigits
    rw [List.nil_append] at hsplit
    rw [LongBound, hsplit]
    exact ⟨by simp, hdigits⟩
  change ¬ ∃ q, ofText (Text.ofList nines) = .ok q
  rw [exists_ofText_iff, Text.toList_ofList, hword]
  intro hall
  apply hall nines (by simp) hlong

end Query

end Kanban
