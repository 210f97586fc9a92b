import Kanban.Proofs.Board.Check
import Kanban.Proofs.Search

/-!
# What words of a search mean

`Search.Means` is the grammar of clauses, and a word is read as the clause that it means
(`Clause.ofWord_eq_ok_iff`): a word that means none is text, and a word that would set a bound of
too many digits cannot be read.
-/

namespace Kanban

theorem Due.ofName?_eq_some_iff {s : Text} {d : Due} :
  ofName? s = some d ↔ s = d.name
  := by
  constructor
  · intro h
    have hname := List.find?_some (by exact h)
    apply (beq_iff_eq.mp hname).symm
  · rintro rfl
    cases d <;> decide

namespace Search

variable {w cs ds sign : List Point} {comparison : Comparison}

/-! ### The grammar -/

/-- The sign asks for the comparison; no sign asks for equality. -/
def Signs (sign : List Point) (comparison : Comparison) : Prop :=
  sign = comparison.sign.toList ∨ sign = [] ∧ comparison = .equal

/-- The word is a clause. -/
inductive Means (word : List Point) : Clause → Prop where
  | tag {name : List Point} (written : Text.lower word = ("tag:" : Text).toList ++ name) :
      Means word (.tag name)
  | priority {p : Priority} (written : Text.lower word = ("p:" : Text).toList ++ p.name.toList) :
      Means word (.priority p)
  | due {d : Due} (written : Text.lower word = ("due:" : Text).toList ++ d.name.toList) :
      Means word (.due d)
  | estimate {sign ds : List Point} {comparison : Comparison} {n : Nat}
      (written : Text.lower word = ("est:" : Text).toList ++ (sign ++ ds))
      (signs : Signs sign comparison)
      (digits : ds ≠ []) (value : Text.digitsValue? ds = some n) :
      Means word (.estimate ⟨comparison, .int n⟩)

/-! ### Bounds -/

theorem signs_splitSign (cs : List Point) :
  ∃ sign, cs = sign ++ (splitSign cs).2 ∧ Signs sign (splitSign cs).1
  := by
  fun_cases splitSign cs with
  | case1 rest => exact ⟨[.char '<', .char '='], rfl, .inl rfl⟩
  | case2 rest => exact ⟨[.char '>', .char '='], rfl, .inl rfl⟩
  | case3 rest => exact ⟨[.char '<'], rfl, .inl rfl⟩
  | case4 rest => exact ⟨[.char '>'], rfl, .inl rfl⟩
  | case5 rest => exact ⟨[.char '='], rfl, .inl rfl⟩
  | case6 => exact ⟨[], rfl, .inr ⟨rfl, rfl⟩⟩

/-- A sign in front of digits is taken off them. -/
theorem splitSign_append (hsign : Signs sign comparison) (hnil : ds ≠ [])
    (hdigits : ∀ c ∈ ds, Text.isDigit c = true) :
  splitSign (sign ++ ds) = (comparison, ds)
  := by
  obtain ⟨c, ds, rfl⟩ := List.exists_cons_of_ne_nil hnil
  have hc : c ≠ .char '<' ∧ c ≠ .char '>' ∧ c ≠ .char '=' := by
    have hdigit := hdigits c List.mem_cons_self
    refine ⟨?_, ?_, ?_⟩ <;> rintro rfl <;> revert hdigit <;> decide
  rcases hsign with rfl | ⟨rfl, rfl⟩
  · cases comparison <;> simp [Comparison.sign, Text.toList_ofString, splitSign, hc]
  · simp [splitSign, hc]

theorem estimateBound?_append {n : Nat} (hsign : Signs sign comparison) (hnil : ds ≠ [])
    (hvalue : Text.digitsValue? ds = some n) (hlong : ¬ LongBound (sign ++ ds)) :
  estimateBound? (sign ++ ds) = .ok (some ⟨comparison, .int n⟩)
  := by
  have hdigits := Text.isSome_digitsValue?_iff.mp (Option.isSome_of_eq_some hvalue)
  have hsplit := splitSign_append hsign hnil hdigits
  have hshort : ¬ maxDigits < ds.length := by
    intro hlength
    apply hlong
    rw [LongBound, hsplit]
    exact ⟨hlength, hdigits⟩
  rw [estimateBound?, hsplit]
  dsimp only
  split
  · contradiction
  next hnone => cases hvalue.symm.trans hnone
  next m _ hsome =>
    cases hvalue.symm.trans hsome
    rw [if_neg hshort]
    rfl

theorem estimateBound?_of_none
    (h : (splitSign cs).2 = [] ∨ Text.digitsValue? (splitSign cs).2 = none) :
  estimateBound? cs = .ok none
  := by
  rw [estimateBound?]
  dsimp only
  split
  · rfl
  · rfl
  next hvalue hnil =>
    rcases h with h | h
    · apply absurd h hnil
    · cases hvalue.symm.trans h

/-! ### Words -/

theorem after?_append {start : Text} {rest : List Point} :
  after? start (start.toList ++ rest) = some rest
  := after?_eq_some_iff.mpr rfl

/-- A clause that can be read is read. -/
theorem Means.ofWord {c : Clause} (h : Means w c) (hlong : ¬ Overlong w) :
  Clause.ofWord w = .ok c
  := by
  cases h with
  | tag written =>
      rw [Clause.ofWord, written, after?_append]
      rfl
  | @priority p written =>
      have htag : after? "tag:" (("p:" : Text).toList ++ p.name.toList) = none := rfl
      rw [Clause.ofWord, written, htag, after?_append]
      rw [Option.bind_some, Text.ofList_toList, Priority.ofName?_name]
      rfl
  | @due d written =>
      have htag : after? "tag:" (("due:" : Text).toList ++ d.name.toList) = none := rfl
      have hpriority : after? "p:" (("due:" : Text).toList ++ d.name.toList) = none := rfl
      rw [Clause.ofWord, written, htag, hpriority, after?_append]
      rw [Option.bind_some, Text.ofList_toList, Due.ofName?_eq_some_iff.mpr rfl]
      rfl
  | @estimate sign ds comparison n written signs digits value =>
      have htag : after? "tag:" (("est:" : Text).toList ++ (sign ++ ds)) = none := rfl
      have hpriority : after? "p:" (("est:" : Text).toList ++ (sign ++ ds)) = none := rfl
      have hdue : after? "due:" (("est:" : Text).toList ++ (sign ++ ds)) = none := rfl
      have hshort : ¬ LongBound (sign ++ ds) := by
        intro hbound
        apply hlong ⟨_, _, hbound⟩
        rw [written, after?_append]
      rw [Clause.ofWord, written, htag, hpriority, hdue, after?_append]
      dsimp only [Option.bind_none]
      rw [estimateBound?_append signs digits value hshort]
      rfl

/-- A word that is no clause is text. -/
theorem ofWord_of_not_means (h : ∀ c, ¬ Means w c) :
  Clause.ofWord w = .ok (.free w)
  := by
  have htag : after? "tag:" (Text.lower w) = none := by
    rw [Option.eq_none_iff_forall_ne_some]
    intro name hname
    apply h _ (.tag (after?_eq_some_iff.mp hname))
  have hpriority : ((after? "p:" (Text.lower w)).bind fun rest =>
      Priority.ofName? (Text.ofList rest)) = none := by
    rw [Option.eq_none_iff_forall_ne_some]
    intro p hp
    obtain ⟨rest, hrest, hname⟩ := Option.bind_eq_some_iff.mp hp
    apply h (.priority p) (.priority _)
    rw [after?_eq_some_iff.mp hrest, ← Priority.ofName?_eq_some_iff.mp hname, Text.toList_ofList]
  have hdue : ((after? "due:" (Text.lower w)).bind fun rest =>
      Due.ofName? (Text.ofList rest)) = none := by
    rw [Option.eq_none_iff_forall_ne_some]
    intro d hd
    obtain ⟨rest, hrest, hname⟩ := Option.bind_eq_some_iff.mp hd
    apply h (.due d) (.due _)
    rw [after?_eq_some_iff.mp hrest, ← Due.ofName?_eq_some_iff.mp hname, Text.toList_ofList]
  rw [Clause.ofWord, htag, hpriority, hdue]
  dsimp only
  cases hest : after? "est:" (Text.lower w) with
  | none => rfl
  | some rest =>
      have hbound : estimateBound? rest = .ok none := by
        apply estimateBound?_of_none
        by_contra hwritten
        obtain ⟨digits, hvalue⟩ := not_or.mp hwritten
        obtain ⟨n, value⟩ := Option.ne_none_iff_exists'.mp hvalue
        obtain ⟨sign, hsplit, signs⟩ := signs_splitSign rest
        apply h _ (.estimate _ signs digits value)
        rw [← hsplit, after?_eq_some_iff.mp hest]
      dsimp only
      rw [hbound]
      rfl

/-- A word is read as the clause that it means, and as text if it means none. -/
theorem Clause.ofWord_eq_ok_iff {c : Clause} :
  ofWord w = .ok c ↔ ¬ Overlong w ∧ (Means w c ∨ c = .free w ∧ ∀ c, ¬ Means w c)
  := by
  constructor
  · intro h
    have hlong := exists_ofWord_iff.mp ⟨c, h⟩
    refine ⟨hlong, ?_⟩
    by_cases hmeans : ∃ c, Means w c
    · obtain ⟨d, hd⟩ := hmeans
      cases h.symm.trans (hd.ofWord hlong)
      apply Or.inl hd
    · rw [not_exists] at hmeans
      cases h.symm.trans (ofWord_of_not_means hmeans)
      exact .inr ⟨rfl, hmeans⟩
  · rintro ⟨hlong, hmeans | ⟨rfl, hnone⟩⟩
    · apply hmeans.ofWord hlong
    · apply ofWord_of_not_means hnone

/-- A word that is read as text is read as itself. -/
theorem free_of_ofWord {v : List Point} (h : Clause.ofWord w = .ok (.free v)) :
  v = w ∧ ∀ c, ¬ Means w c
  := by
  obtain ⟨-, hmeans | ⟨hfree, hnone⟩⟩ := Clause.ofWord_eq_ok_iff.mp h
  · cases hmeans
  · exact ⟨Clause.free.inj hfree, hnone⟩

end Search

end Kanban
