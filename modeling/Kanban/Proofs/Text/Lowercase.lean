import Mathlib
import Kanban.Text.Blank
import Kanban.Text.Lowercase

/-!
# Lower case in its place

`lowerBetween before cs after` is what the characters `cs` become in the lower case of a text in
which they stand between `before` and `after`.  Of what stands around them it depends only on
whether cased letters are next to them (`lowerBetween_congr`), so a blank parts a text into two
whose lower cases do not touch each other (`lower_append_cons`), and blanks are those of the text.
What is in lower case stays as it is (`lower_lowerBetween`).

Characters by themselves have another lower case than in their place only at a capital sigma
that is the first or the last of their letters: `Shifts` tells when (`lowerBetween_eq_iff`).
Those that have the same lower case in all places are `Steady`; only theirs is in the lower case
of each text that they are in (`steady_iff_infix`).
-/

namespace Kanban

theorem Point.toNat_ofNat {n : Nat} (h : n < 0x110000) :
  (ofNat n).toNat = n
  := by
  rw [ofNat]
  split_ifs
  · simp only [toNat]
    omega
  · rw [toNat_char, Char.toNat_ofNat, if_pos]
    rw [Nat.isValidChar]
    omega

namespace Text

variable {c : Point} {cs l r before before' after after' : List Point}

/-! ### Letters that are next -/

theorem startsCased_cons :
  startsCased (c :: cs) = if isCaseIgnorable c then startsCased cs else isCased c
  := by
  rw [startsCased, List.dropWhile_cons]
  split_ifs <;> rfl

@[simp]
theorem startsCased_nil :
  startsCased [] = false
  := rfl

/-- Two letters that are not passed over. -/
theorem cased_letters :
  ∀ c ∈ [.char 'a', .char 'Σ'], isCaseIgnorable c = false ∧ isCased c = true
  := by
  have hall : ([.char 'a', .char 'Σ'].all fun c => !isCaseIgnorable c && isCased c) = true := by
    decide +kernel
  simpa using hall

theorem startsCased_of_letter (h : c ∈ [.char 'a', .char 'Σ']) :
  startsCased (c :: cs) = true
  := by
  obtain ⟨hcounts, hcased⟩ := cased_letters c h
  rw [startsCased_cons, hcounts, hcased]
  rfl

@[simp]
theorem startsCased_sigma :
  startsCased (Point.char 'Σ' :: cs) = true
  := startsCased_of_letter (by simp)

/-- Characters that are passed over do not count. -/
theorem startsCased_append (h : ∀ c ∈ l, isCaseIgnorable c = true) :
  startsCased (l ++ r) = startsCased r
  := by
  induction l with
  | nil => rfl
  | cons c l ih =>
      obtain ⟨hc, hl⟩ := List.forall_mem_cons.mp h
      rw [List.cons_append, startsCased_cons, if_pos hc, ih hl]

/-- What stands behind the first character that counts does not. -/
theorem startsCased_append_of_not (h : ¬ ∀ c ∈ l, isCaseIgnorable c = true) :
  startsCased (l ++ r) = startsCased l
  := by
  induction l with
  | nil => simp at h
  | cons c l ih =>
      rw [List.cons_append, startsCased_cons, startsCased_cons]
      split_ifs with hc
      · apply ih
        intro hl
        apply h (List.forall_mem_cons.mpr ⟨hc, hl⟩)
      · rfl

theorem startsCased_append_congr (h : startsCased r = startsCased after) :
  startsCased (l ++ r) = startsCased (l ++ after)
  := by
  by_cases hl : ∀ c ∈ l, isCaseIgnorable c = true
  · rw [startsCased_append hl, startsCased_append hl, h]
  · rw [startsCased_append_of_not hl, startsCased_append_of_not hl]

theorem startsCased_of_forall (h : ∀ c ∈ l, isCaseIgnorable c = true) :
  startsCased l = false
  := by
  have happend := startsCased_append (r := []) h
  rwa [List.append_nil] at happend

/-! ### Characters between others -/

/-- The lower case of a character with `before` in front of it, nearest first, and `after`
behind it. -/
def lowerOne (before : List Point) (c : Point) (after : List Point) : List Point :=
  if c = .char 'İ' then [.char 'i', .char '\u0307']
  else if c = .char 'Σ' then [lowerSigma before after]
  else [lowerChar c]

/-- The lower case of characters with `before` in front of them, nearest first, and `after`
behind them. -/
def lowerBetween (before : List Point) : List Point → (after : List Point) → List Point
  | [], _ => []
  | c :: cs, after => lowerOne before c (cs ++ after) ++ lowerBetween (c :: before) cs after

theorem lowerFrom_eq_lowerBetween :
  lowerFrom before cs = lowerBetween before cs []
  := by
  induction cs generalizing before with
  | nil => rfl
  | cons c cs ih =>
      rw [lowerFrom, lowerBetween, lowerOne, List.append_nil, ih]
      split_ifs <;> rfl

theorem lower_eq_lowerBetween :
  lower cs = lowerBetween [] cs []
  := lowerFrom_eq_lowerBetween

theorem lowerBetween_append :
  lowerBetween before (l ++ r) after
    = lowerBetween before l (r ++ after) ++ lowerBetween (l.reverse ++ before) r after
  := by
  induction l generalizing before with
  | nil => rfl
  | cons c l ih =>
      rw [List.cons_append, lowerBetween, lowerBetween, ih]
      simp

theorem lowerSigma_eq_lowerSigma_iff :
  lowerSigma before after = lowerSigma before' after'
    ↔ (startsCased before && !startsCased after) = (startsCased before' && !startsCased after')
  := by
  rw [lowerSigma, lowerSigma]
  cases startsCased before && !startsCased after <;>
    cases startsCased before' && !startsCased after' <;> decide

/-- Two places give characters the same lower case when they do so to each capital sigma. -/
theorem lowerBetween_eq_lowerBetween_iff :
  lowerBetween before cs after = lowerBetween before' cs after'
    ↔ ∀ u v, cs = u ++ Point.char 'Σ' :: v →
      lowerSigma (u.reverse ++ before) (v ++ after)
        = lowerSigma (u.reverse ++ before') (v ++ after')
  := by
  induction cs generalizing before before' with
  | nil => simp [lowerBetween]
  | cons c cs ih =>
      have htail : (lowerBetween (c :: before) cs after = lowerBetween (c :: before') cs after')
          ↔ ∀ u v, cs = u ++ Point.char 'Σ' :: v →
            lowerSigma ((c :: u).reverse ++ before) (v ++ after)
              = lowerSigma ((c :: u).reverse ++ before') (v ++ after') := by
        simpa using @ih (c :: before) (c :: before')
      rw [lowerBetween, lowerBetween]
      by_cases hc : c = .char 'Σ'
      · subst hc
        rw [lowerOne, lowerOne, if_neg (by decide), if_pos rfl, if_neg (by decide), if_pos rfl]
        rw [List.singleton_append, List.singleton_append, List.cons.injEq, htail]
        constructor
        · rintro ⟨hhead, hrest⟩ (_ | ⟨d, u⟩) v hsplit
          · obtain ⟨-, rfl⟩ := List.cons.inj hsplit
            apply hhead
          · obtain ⟨rfl, rfl⟩ := List.cons.inj hsplit
            apply hrest u v rfl
        · intro hall
          refine ⟨hall [] cs rfl, ?_⟩
          rintro u v rfl
          apply hall (Point.char 'Σ' :: u) v rfl
      · rw [lowerOne, lowerOne, if_neg hc, if_neg hc, List.append_cancel_left_eq, htail]
        constructor
        · rintro hrest (_ | ⟨d, u⟩) v hsplit
          · apply absurd (List.cons.inj hsplit).1 hc
          · obtain ⟨rfl, rfl⟩ := List.cons.inj hsplit
            apply hrest u v rfl
        · rintro hall u v rfl
          apply hall (c :: u) v rfl

/-- Of what stands around characters only the next letters have a say in their lower case. -/
theorem lowerBetween_congr (hbefore : startsCased before = startsCased before')
    (hafter : startsCased after = startsCased after') :
  lowerBetween before cs after = lowerBetween before' cs after'
  := by
  rw [lowerBetween_eq_lowerBetween_iff]
  intro u v _
  rw [lowerSigma_eq_lowerSigma_iff]
  rw [startsCased_append_congr hbefore, startsCased_append_congr hafter]

/-- Without a capital sigma nothing around characters has a say in their lower case. -/
theorem lowerBetween_of_not_mem (h : Point.char 'Σ' ∉ cs) :
  lowerBetween before cs after = lowerBetween before' cs after'
  := by
  rw [lowerBetween_eq_lowerBetween_iff]
  rintro u v rfl
  apply absurd (by simp) h

/-! ### Places that matter -/

/-- In their place between `before`, nearest first, and `after` the characters have another lower
case than by themselves. -/
inductive Shifts (before cs after : List Point) : Prop where
  /-- Their first letter is a capital sigma with no letter behind it and a letter in front. -/
  | first {u v : List Point} (split : cs = u ++ Point.char 'Σ' :: v)
      (skips : ∀ c ∈ u, isCaseIgnorable c = true) (starts : startsCased before = true)
      (ends : startsCased (v ++ after) = false) : Shifts before cs after
  /-- Their last letter is a capital sigma with letters on both sides. -/
  | last {u v : List Point} (split : cs = u ++ Point.char 'Σ' :: v)
      (skips : ∀ c ∈ v, isCaseIgnorable c = true) (starts : startsCased u.reverse = true)
      (ends : startsCased after = true) : Shifts before cs after

/-- Exactly where characters do not shift they have their own lower case. -/
theorem lowerBetween_eq_iff :
  lowerBetween before cs after = lower cs ↔ ¬ Shifts before cs after
  := by
  rw [lower_eq_lowerBetween, lowerBetween_eq_lowerBetween_iff]
  simp only [List.append_nil, lowerSigma_eq_lowerSigma_iff]
  constructor
  · rintro hall (@⟨u, v, split, skips, starts, ends⟩ | @⟨u, v, split, skips, starts, ends⟩)
    · have hu : ∀ c ∈ u.reverse, isCaseIgnorable c = true :=
        fun c hc => skips c (List.mem_reverse.mp hc)
      have hsigma := hall u v split
      rw [startsCased_append hu, startsCased_of_forall hu, starts, ends] at hsigma
      cases hsigma
    · have hu : ¬ ∀ c ∈ u.reverse, isCaseIgnorable c = true := by
        intro hu
        cases starts.symm.trans (startsCased_of_forall hu)
      have hsigma := hall u v split
      rw [startsCased_append_of_not hu, startsCased_append skips, startsCased_of_forall skips,
        starts, ends] at hsigma
      cases hsigma
  · intro hstays u v split
    by_cases hu : ∀ c ∈ u.reverse, isCaseIgnorable c = true
    · have hskips : ∀ c ∈ u, isCaseIgnorable c = true :=
        fun c hc => hu c (List.mem_reverse.mpr hc)
      rw [startsCased_append hu, startsCased_of_forall hu, Bool.false_and, Bool.and_eq_false_imp]
      intro starts
      rw [Bool.not_eq_false']
      by_contra ends
      apply hstays (.first split hskips starts (Bool.eq_false_iff.mpr ends))
    · rw [startsCased_append_of_not hu]
      by_cases hv : ∀ c ∈ v, isCaseIgnorable c = true
      · rw [startsCased_append hv, startsCased_of_forall hv]
        cases starts : startsCased u.reverse with
        | false => rfl
        | true =>
            have ends : startsCased after = false := by
              by_contra ends
              apply hstays (.last split hv starts (Bool.eq_true_of_not_eq_false ends))
            rw [ends]
      · rw [startsCased_append_of_not hv]

instance : Decidable (Shifts before cs after) :=
  decidable_of_iff (lowerBetween before cs after ≠ lower cs) (by
    rw [ne_eq, lowerBetween_eq_iff, not_not])

theorem lowerBetween_sigma {u v : List Point} :
  lowerBetween before (u ++ Point.char 'Σ' :: v) after
    = lowerBetween before u (Point.char 'Σ' :: (v ++ after))
      ++ lowerSigma (u.reverse ++ before) (v ++ after)
        :: lowerBetween (Point.char 'Σ' :: (u.reverse ++ before)) v after
  := by
  rw [lowerBetween_append, lowerBetween, lowerOne, if_neg (by decide), if_pos rfl]
  rfl

/-- Characters that shift at both ends shift at each of them when nothing is at the other. -/
theorem Shifts.one_side (h : Shifts before cs after) :
  Shifts before cs [] ∨ Shifts [] cs after
  := by
  rcases h with @⟨u, v, split, skips, starts, ends⟩ | ⟨split, skips, starts, ends⟩
  · left
    apply Shifts.first split skips starts
    by_cases hv : ∀ c ∈ v, isCaseIgnorable c = true
    · rw [startsCased_append hv, startsCased_nil]
    · rw [startsCased_append_of_not hv] at ends
      rw [startsCased_append_of_not hv, ends]
  · right
    exact Shifts.last split skips starts ends

/-- Characters that are passed over have no capital sigma among them. -/
theorem sigma_not_mem (h : ∀ c ∈ l, isCaseIgnorable c = true) :
  Point.char 'Σ' ∉ l
  := by
  intro hsigma
  have hcounts : isCaseIgnorable 'Σ' = false := (cased_letters 'Σ' (by simp)).1
  cases hcounts.symm.trans (h 'Σ' hsigma)

/-- A shift behind letters takes a small sigma away. -/
theorem Shifts.count_lt_of_before (h : Shifts before cs []) :
  (lowerBetween before cs []).count (.char 'σ') < (lower cs).count (.char 'σ')
  := by
  rcases h with @⟨u, v, rfl, skips, starts, ends⟩ | ⟨-, -, -, ends⟩
  · have hu : ∀ c ∈ u.reverse, isCaseIgnorable c = true :=
      fun c hc => skips c (List.mem_reverse.mp hc)
    have hplace : lowerSigma (u.reverse ++ before) (v ++ []) = .char 'ς' := by
      rw [lowerSigma, startsCased_append hu, starts, ends, if_pos (by simp)]
    have hself : lowerSigma (u.reverse ++ []) (v ++ []) = .char 'σ' := by
      rw [lowerSigma, startsCased_append hu, startsCased_nil, Bool.false_and, if_neg (by simp)]
    have hleft : lowerBetween before u (Point.char 'Σ' :: (v ++ []))
        = lowerBetween [] u (Point.char 'Σ' :: (v ++ [])) :=
      lowerBetween_of_not_mem (sigma_not_mem skips)
    have hright : lowerBetween (Point.char 'Σ' :: (u.reverse ++ before)) v []
        = lowerBetween (Point.char 'Σ' :: (u.reverse ++ [])) v [] := by
      apply lowerBetween_congr _ rfl
      rw [startsCased_sigma, startsCased_sigma]
    rw [lower_eq_lowerBetween, lowerBetween_sigma, lowerBetween_sigma]
    rw [hplace, hself, hleft, hright]
    simp [List.count_append]
  · cases ends

/-- A shift in front of letters takes a final sigma away. -/
theorem Shifts.count_lt_of_after (h : Shifts [] cs after) :
  (lowerBetween [] cs after).count (.char 'ς') < (lower cs).count (.char 'ς')
  := by
  rcases h with ⟨-, -, starts, -⟩ | @⟨u, v, rfl, skips, starts, ends⟩
  · cases starts
  · have hplace : lowerSigma (u.reverse ++ []) (v ++ after) = .char 'σ' := by
      rw [lowerSigma, startsCased_append skips, ends, if_neg (by simp)]
    have hself : lowerSigma (u.reverse ++ []) (v ++ []) = .char 'ς' := by
      rw [lowerSigma, startsCased_append skips, List.append_nil, starts, startsCased_nil,
        if_pos (by simp)]
    have hleft : lowerBetween [] u (Point.char 'Σ' :: (v ++ after))
        = lowerBetween [] u (Point.char 'Σ' :: (v ++ [])) := by
      apply lowerBetween_congr rfl
      rw [startsCased_sigma, startsCased_sigma]
    have hright : lowerBetween (Point.char 'Σ' :: (u.reverse ++ [])) v after
        = lowerBetween (Point.char 'Σ' :: (u.reverse ++ [])) v [] :=
      lowerBetween_of_not_mem (sigma_not_mem skips)
    rw [lower_eq_lowerBetween, lowerBetween_sigma, lowerBetween_sigma]
    rw [hplace, hself, hleft, hright]
    simp [List.count_append]

/-- Nothing moves the characters: in every place they have their own lower case. -/
def Steady (cs : List Point) : Prop := ∀ before after, ¬ Shifts before cs after

/-- What is moved by anything is moved by a letter on one side. -/
theorem steady_iff :
  Steady cs ↔ ¬ Shifts [.char 'a'] cs [] ∧ ¬ Shifts [] cs [.char 'a']
  := by
  have hletter : startsCased [.char 'a'] = true := startsCased_of_letter (by simp)
  constructor
  · intro h
    exact ⟨h _ _, h _ _⟩
  · rintro ⟨hbefore, hafter⟩ before after h
    rcases h.one_side with h | h
    · cases h with
      | first split skips starts ends => apply hbefore (.first split skips hletter ends)
      | last split skips starts ends => simp at ends
    · cases h with
      | first split skips starts ends => simp at starts
      | last split skips starts ends => apply hafter (.last split skips starts hletter)

instance : Decidable (Steady cs) := decidable_of_iff _ steady_iff.symm

/-! ### Tables -/

theorem inRanges_eq_false_of_apart {rs rs' : List Range} {n : Nat}
    (hapart : ∀ r ∈ rs, ∀ r' ∈ rs', r.2 < r'.1 ∨ r'.2 < r.1) (h : inRanges rs n = true) :
  inRanges rs' n = false
  := by
  rw [Bool.eq_false_iff]
  intro h'
  obtain ⟨r, hr, hlow, hhigh⟩ := inRanges_eq_true_iff.mp h
  obtain ⟨r', hr', hlow', hhigh'⟩ := inRanges_eq_true_iff.mp h'
  have := hapart r hr r' hr'
  omega

/-- The capitals of a run. -/
def CaseRun.capitals (r : CaseRun) : Range := (r.1, r.2.1)

/-- The lower case of the capitals of a run, and what lies between. -/
def CaseRun.smalls (r : CaseRun) : Range := (r.2.2.2, r.2.2.2 + (r.2.1 - r.1))

theorem CaseRun.bounds {r : CaseRun} {n : Nat} (h : r.has n = true) :
  r.1 ≤ n ∧ n ≤ r.2.1 ∧ (n - r.1) % r.2.2.1 = 0
  := by
  simpa [CaseRun.has, and_assoc] using h

/-- A character is of no run and its own lower case, or it is a capital of a run. -/
theorem lowerChar_cases (c : Point) :
  (∀ r ∈ caseRuns, r.has c.toNat = false) ∧ lowerChar c = c
    ∨ ∃ r ∈ caseRuns, r.has c.toNat = true ∧ (lowerChar c).toNat = r.2.2.2 + (c.toNat - r.1)
  := by
  have hvalid : ∀ r ∈ caseRuns, r.smalls.2 < 0x110000 := by
    decide +kernel
  rw [lowerChar]
  cases hfind : caseRuns.find? (·.has c.toNat) with
  | none => exact .inl ⟨by simpa using hfind, rfl⟩
  | some r =>
      have hr := List.mem_of_find?_eq_some hfind
      have hhas := List.find?_some hfind
      refine .inr ⟨r, hr, hhas, Point.toNat_ofNat ?_⟩
      have hbounds := CaseRun.bounds hhas
      have hsmalls := hvalid r hr
      simp only [CaseRun.smalls] at hsmalls
      omega

/-! ### Blanks -/

/-- The characters that have another case, those that are passed over and those that count. -/
def casing : List (List Range) :=
  [caseRuns.map CaseRun.capitals, caseRuns.map CaseRun.smalls, caseIgnorableRanges, casedRanges]

/-- No blank is one of these characters. -/
theorem inRanges_of_isBlank {rs : List Range} (hrs : rs ∈ casing) (h : isBlank c = true) :
  inRanges rs c.toNat = false
  := by
  have hapart : ∀ rs ∈ casing, ∀ r ∈ blankRanges, ∀ r' ∈ rs, r.2 < r'.1 ∨ r'.2 < r.1 := by
    decide +kernel
  apply inRanges_eq_false_of_apart (hapart rs hrs) h

theorem isBlank_of_inRanges {rs : List Range} (hrs : rs ∈ casing)
    (h : inRanges rs c.toNat = true) :
  isBlank c = false
  := by
  rw [Bool.eq_false_iff]
  intro hblank
  cases h.symm.trans (inRanges_of_isBlank hrs hblank)

theorem CaseRun.inRanges_capitals {r : CaseRun} (hr : r ∈ caseRuns) (h : r.has c.toNat = true) :
  inRanges (caseRuns.map capitals) c.toNat = true
  := by
  obtain ⟨hlow, hhigh, -⟩ := bounds h
  exact inRanges_eq_true_iff.mpr ⟨_, List.mem_map_of_mem hr, hlow, hhigh⟩

theorem isBlank_lowerChar :
  isBlank (lowerChar c) = isBlank c
  := by
  rcases lowerChar_cases c with ⟨-, hc⟩ | ⟨r, hr, hhas, hc⟩
  · rw [hc]
  · have hcapital := CaseRun.inRanges_capitals hr hhas
    have hsmall : inRanges (caseRuns.map CaseRun.smalls) (lowerChar c).toNat = true := by
      obtain ⟨hlow, hhigh, -⟩ := CaseRun.bounds hhas
      refine inRanges_eq_true_iff.mpr ⟨_, List.mem_map_of_mem hr, ?_⟩
      rw [hc, CaseRun.smalls]
      omega
    rw [isBlank_of_inRanges (by simp [casing]) hcapital,
      isBlank_of_inRanges (by simp [casing]) hsmall]

theorem lowerOne_of_isBlank (h : isBlank c = true) :
  lowerOne before c after = [c]
  := by
  have hspecial : c ≠ .char 'İ' ∧ c ≠ .char 'Σ' := by
    constructor <;> rintro rfl <;> revert h <;> decide
  rw [lowerOne, if_neg hspecial.1, if_neg hspecial.2]
  rcases lowerChar_cases c with ⟨-, hc⟩ | ⟨r, hr, hhas, -⟩
  · rw [hc]
  · have hcapital := isBlank_of_inRanges (by simp [casing]) (CaseRun.inRanges_capitals hr hhas)
    cases h.symm.trans hcapital

theorem startsCased_cons_of_isBlank (h : isBlank c = true) :
  startsCased (c :: cs) = false
  := by
  rw [startsCased_cons, isCaseIgnorable, isCased]
  rw [inRanges_of_isBlank (by simp [casing]) h, inRanges_of_isBlank (by simp [casing]) h]
  rfl

/-- A blank parts the lower case of a text in two. -/
theorem lower_append_cons (h : isBlank c = true) :
  lower (l ++ c :: r) = lower l ++ c :: lower r
  := by
  have hleft : lowerBetween [] l (c :: r) = lower l := by
    rw [lower_eq_lowerBetween]
    apply lowerBetween_congr rfl (startsCased_cons_of_isBlank h)
  have hright : lowerBetween (c :: l.reverse) r [] = lower r := by
    rw [lower_eq_lowerBetween]
    apply lowerBetween_congr (startsCased_cons_of_isBlank h) rfl
  rw [lower_eq_lowerBetween, lowerBetween_append, lowerBetween, List.append_nil, List.append_nil]
  rw [hleft, hright, lowerOne_of_isBlank h]
  rfl

theorem lowerOne_ne_nil :
  lowerOne before c after ≠ []
  := by
  rw [lowerOne]
  split_ifs <;> simp

theorem lowerBetween_ne_nil (h : cs ≠ []) :
  lowerBetween before cs after ≠ []
  := by
  obtain ⟨c, cs, rfl⟩ := List.exists_cons_of_ne_nil h
  rw [lowerBetween]
  apply List.append_ne_nil_of_left_ne_nil lowerOne_ne_nil

theorem isBlank_of_mem_lowerOne {d : Point} (h : d ∈ lowerOne before c after) :
  isBlank d = isBlank c
  := by
  rw [lowerOne] at h
  split_ifs at h with hdotted hsigma
  · subst hdotted
    have hall : ([.char 'i', .char '\u0307'].all fun d => isBlank d == isBlank 'İ') = true := rfl
    apply beq_iff_eq.mp (List.all_eq_true.mp hall d h)
  · subst hsigma
    rw [List.mem_singleton.mp h, lowerSigma]
    split_ifs <;> decide
  · rw [List.mem_singleton.mp h, isBlank_lowerChar]

/-- Without blanks characters get none. -/
theorem not_isBlank_of_mem_lowerBetween (h : ∀ c ∈ cs, isBlank c = false) :
  ∀ d ∈ lowerBetween before cs after, isBlank d = false
  := by
  induction cs generalizing before with
  | nil => simp [lowerBetween]
  | cons c cs ih =>
      obtain ⟨hc, hcs⟩ := List.forall_mem_cons.mp h
      rw [lowerBetween, List.forall_mem_append]
      refine ⟨?_, ih hcs⟩
      intro d hd
      rw [isBlank_of_mem_lowerOne hd, hc]

/-! ### Lower case of lower case -/

/-- The character is its own lower case, wherever it stands. -/
def IsLow (c : Point) : Prop := ∀ before after, lowerOne before c after = [c]

theorem isLow_of_forall (h : ∀ r ∈ caseRuns, r.has c.toNat = false) (hdotted : c ≠ .char 'İ') :
  IsLow c
  := by
  have hsigma : c ≠ .char 'Σ' := by
    have hhas : ∃ r ∈ caseRuns, r.has 'Σ'.toNat = true := by decide +kernel
    rintro rfl
    obtain ⟨r, hr, hhas⟩ := hhas
    cases hhas.symm.trans (h r hr)
  have hchar : lowerChar c = c := by
    rw [lowerChar, List.find?_eq_none.mpr (by simpa using h)]
  intro before after
  rw [lowerOne, if_neg hdotted, if_neg hsigma, hchar]

/-- Before the Latin letters with marks only the capitals of ASCII are in a run. -/
theorem isLow_of_lt (h : c.toNat < 0x41 ∨ 0x5A < c.toNat ∧ c.toNat < 0xC0) :
  IsLow c
  := by
  have hruns : ∀ r ∈ caseRuns, 0x41 ≤ r.1 ∧ r.2.1 ≤ 0x5A ∨ 0xC0 ≤ r.1 := by decide +kernel
  apply isLow_of_forall
  · intro r hr
    have := hruns r hr
    rw [Bool.eq_false_iff]
    intro hhas
    have hbounds := CaseRun.bounds hhas
    omega
  · rintro rfl
    revert h
    decide

/-- The lower case of a capital is in no run. -/
theorem has_smalls_eq_false {r r' : CaseRun} (hr : r ∈ caseRuns) (hr' : r' ∈ caseRuns) {n : Nat}
    (h : r.has n = true) :
  r'.has (r.2.2.2 + (n - r.1)) = false
  := by
  -- Where both runs go in steps of two their members are odd and even.
  have hapart : (caseRuns.all fun r => caseRuns.all fun r' =>
      Nat.blt r.smalls.2 r'.1 || Nat.blt r'.2.1 r.smalls.1
        || (Nat.beq r.2.2.1 2 || Nat.beq r.1 r.2.1)
          && (Nat.beq r'.2.2.1 2 && Nat.beq ((r.smalls.1 + r'.1) % 2) 1)) = true := by
    decide +kernel
  have hcases := List.all_eq_true.mp (List.all_eq_true.mp hapart r hr) r' hr'
  obtain ⟨hlow, hhigh, hstep⟩ := CaseRun.bounds h
  rw [Bool.eq_false_iff]
  intro h'
  obtain ⟨hlow', hhigh', hstep'⟩ := CaseRun.bounds h'
  simp only [Bool.or_eq_true, Bool.and_eq_true, Nat.blt_eq, Nat.beq_eq, CaseRun.smalls] at hcases
  rcases hcases with (hbelow | habove) | ⟨htwo | hsingle, htwo', hodd⟩
  · omega
  · omega
  · rw [htwo] at hstep
    rw [htwo'] at hstep'
    omega
  · rw [htwo'] at hstep'
    omega

theorem isLow_lowerChar (hdotted : c ≠ .char 'İ') :
  IsLow (lowerChar c)
  := by
  rcases lowerChar_cases c with ⟨hnone, hc⟩ | ⟨r, hr, hhas, hc⟩
  · rw [hc]
    apply isLow_of_forall hnone hdotted
  · apply isLow_of_forall
    · intro r' hr'
      rw [hc]
      apply has_smalls_eq_false hr hr' hhas
    · have hapart : ∀ r ∈ caseRuns, r.smalls.2 < 'İ'.toNat ∨ 'İ'.toNat < r.smalls.1 := by
        decide +kernel
      have hbounds := CaseRun.bounds hhas
      have hsmalls := hapart r hr
      simp only [CaseRun.smalls] at hsmalls
      intro heq
      rw [heq, Point.toNat_char] at hc
      omega

theorem isLow_of_mem_lowerOne {d : Point} (h : d ∈ lowerOne before c after) :
  IsLow d
  := by
  have hspecial : ∀ d ∈ [Point.char 'i', .char '\u0307', .char 'ς', .char 'σ'], IsLow d := by
    have hall : ([Point.char 'i', .char '\u0307', .char 'ς', .char 'σ'].all fun d =>
        caseRuns.all (fun r => !r.has d.toNat) && d != .char 'İ') = true := by
      decide +kernel
    intro d hd
    have h := List.all_eq_true.mp hall d hd
    simp only [Bool.and_eq_true, List.all_eq_true, Bool.not_eq_true', bne_iff_ne] at h
    apply isLow_of_forall h.1 h.2
  rw [lowerOne] at h
  split_ifs at h with hdotted
  · apply hspecial
    apply List.mem_append_left [.char 'ς', .char 'σ'] h
  · apply hspecial
    rw [List.mem_singleton.mp h, lowerSigma]
    split_ifs <;> simp
  · rw [List.mem_singleton.mp h]
    apply isLow_lowerChar hdotted

theorem isLow_of_mem_lowerBetween :
  ∀ d ∈ lowerBetween before cs after, IsLow d
  := by
  induction cs generalizing before with
  | nil => simp [lowerBetween]
  | cons c cs ih =>
      rw [lowerBetween, List.forall_mem_append]
      exact ⟨fun d => isLow_of_mem_lowerOne, ih⟩

theorem lowerBetween_of_isLow (h : ∀ c ∈ cs, IsLow c) :
  lowerBetween before cs after = cs
  := by
  induction cs generalizing before with
  | nil => rfl
  | cons c cs ih =>
      obtain ⟨hc, hcs⟩ := List.forall_mem_cons.mp h
      rw [lowerBetween, hc, ih hcs]
      rfl

/-- What is in lower case, wherever it was, is its own lower case. -/
theorem lower_lowerBetween :
  lower (lowerBetween before cs after) = lowerBetween before cs after
  := by
  rw [lower_eq_lowerBetween]
  apply lowerBetween_of_isLow isLow_of_mem_lowerBetween

theorem lower_lower :
  lower (lower cs) = lower cs
  := by
  have hcs : lower cs = lowerBetween [] cs [] := lower_eq_lowerBetween
  rw [hcs, lower_lowerBetween]

/-! ### Parts of a text -/

/-- In the lower case of a text each part has its lower case between the other parts. -/
theorem lower_append_append :
  lower (l ++ cs ++ r)
    = lowerBetween [] l (cs ++ r) ++ lowerBetween l.reverse cs r
      ++ lowerBetween (cs.reverse ++ l.reverse) r []
  := by
  rw [lower_eq_lowerBetween, lowerBetween_append, lowerBetween_append]
  simp

theorem infix_lower (h : ¬ Shifts l.reverse cs r) :
  lower cs <:+: lower (l ++ cs ++ r)
  := by
  rw [lower_append_append, lowerBetween_eq_iff.mpr h]
  apply List.infix_append

/-- Steady characters are those whose lower case is in that of every text that they are in. -/
theorem steady_iff_infix :
  Steady cs ↔ ∀ l r, lower cs <:+: lower (l ++ cs ++ r)
  := by
  have hletter : ∀ before after, lowerBetween before [.char 'a'] after = [.char 'a'] := by
    intro before after
    apply lowerBetween_of_isLow
    simpa using isLow_of_lt (c := .char 'a') (by decide)
  constructor
  · intro h l r
    apply infix_lower (h _ _)
  · intro hall
    rw [steady_iff]
    constructor
    · intro hshifts
      have hlower : lower ([.char 'a'] ++ cs ++ [])
          = Point.char 'a' :: lowerBetween [.char 'a'] cs [] := by
        rw [lower_append_append, hletter, lowerBetween, List.append_nil]
        rfl
      have hcount := (hall [.char 'a'] []).sublist.count_le (.char 'σ')
      rw [hlower, List.count_cons_of_ne (by decide)] at hcount
      apply absurd hcount (not_le.mpr hshifts.count_lt_of_before)
    · intro hshifts
      have hlower : lower ([] ++ cs ++ [.char 'a'])
          = lowerBetween [] cs [.char 'a'] ++ [.char 'a'] := by
        rw [lower_append_append, hletter, lowerBetween, List.nil_append]
        rfl
      have hcount := (hall [] [.char 'a']).sublist.count_le (.char 'ς')
      rw [hlower, List.count_append, List.count_singleton] at hcount
      apply absurd hcount (not_le.mpr hshifts.count_lt_of_after)

end Text

end Kanban
