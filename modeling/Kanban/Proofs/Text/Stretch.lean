import Kanban.Proofs.Text.Accent
import Kanban.Proofs.Text.Lowercase

/-!
# Accents stretch by stretch

A text is made of stretches: the runs of word characters, each as long as can be, and what stands
between them.  The search for words from left to right comes to the same as taking each stretch on
its own (`restoreChars_eq_mapM`), in whatever order the words are looked for at each place
(`restoreFrom_of_perm`).  So a text with its accents has the listed words exchanged, in any case,
and is otherwise as it was (`restoreAccents_stretches`).
-/

namespace Kanban.Text

variable {c l : Point} {word run rest cs new : List Point}

/-! ### Stretches of a text -/

/-- The runs of word characters in a text and what stands between them, in order. -/
def stretches (cs : List Point) : List (List Point) := cs.splitBy fun c d => isWord c == isWord d

theorem stretches_append {w : Bool} (hne : run ≠ []) (hrun : ∀ c ∈ run, isWord c = w)
    (hrest : ∀ c ∈ rest.head?, isWord c = !w) :
  stretches (run ++ rest) = run :: stretches rest
  := by
  have hchain : run.IsChain fun c d => isWord c == isWord d := by
    apply List.Pairwise.isChain
    apply List.pairwise_of_forall_mem_list
    intro c hc d hd
    rw [hrun c hc, hrun d hd, beq_self_eq_true]
  rw [stretches, List.splitBy_append, List.splitBy_of_isChain hne hchain]
  · rfl
  · intro c hc d hd
    rw [hrun c (List.mem_of_mem_getLast? hc), hrest d hd]
    cases w <;> rfl

/-- Where the first characters with a property end, there is none with it. -/
theorem head?_dropWhile {p : Point → Bool} (hc : c ∈ (cs.dropWhile p).head?) :
  p c = false
  := by
  have h := List.head?_dropWhile_not p cs
  rw [hc] at h
  simpa using h

/-- A text is empty, or a stretch in front of a text that goes on with one of the other kind. -/
theorem stretches_induction {P : List Point → Prop} (nil : P [])
    (append : ∀ (w : Bool) (run rest : List Point), run ≠ [] → (∀ c ∈ run, isWord c = w) →
      (∀ c ∈ rest.head?, isWord c = !w) → P rest → P (run ++ rest)) (cs : List Point) :
  P cs
  := by
  induction hn : cs.length using Nat.strong_induction_on generalizing cs with
  | _ n ih =>
      cases cs with
      | nil => exact nil
      | cons c cs =>
          rw [← List.takeWhile_append_dropWhile (p := (isWord · == isWord c)) (l := c :: cs)]
          apply append (isWord c)
          · simp
          · intro d hd
            simpa using List.mem_takeWhile_imp hd
          · intro d hd
            apply Bool.eq_not_of_ne
            simpa using head?_dropWhile hd
          · apply ih _ _ _ rfl
            rw [List.dropWhile_cons_of_pos (by simp), ← hn, List.length_cons, Nat.lt_succ_iff]
            apply (List.dropWhile_sublist _).length_le

/-- What stands between two runs stays. -/
theorem restoreChars_gap {gap : List Point} (hgap : ∀ c ∈ gap, isWord c = false) :
  restoreChars (gap ++ rest) = (gap ++ ·) <$> restoreChars rest
  := by
  induction gap with
  | nil =>
      symm
      apply id_map
  | cons c gap ih =>
      obtain ⟨hc, hgap⟩ := List.forall_mem_cons.mp hgap
      have h : restoreChars ([] ++ c :: (gap ++ rest)) = _ := restoreChars_append_cons (by simp) hc
      rw [List.nil_append, restoreRun_of_not_listed not_listed_nil, ih hgap] at h
      rw [List.cons_append, h]
      cases restoreChars rest <;> rfl

/-- The accents of a text are restored in each of its stretches. -/
theorem restoreChars_eq_mapM (cs : List Point) :
  restoreChars cs = List.flatten <$> (stretches cs).mapM restoreRun
  := by
  induction cs using stretches_induction with
  | nil => rfl
  | append w run rest hne hrun hrest ih =>
      have hstart : restoreChars (run ++ rest)
          = restoreRun run >>= fun new => (new ++ ·) <$> restoreChars rest := by
        cases w with
        | true =>
            apply restoreChars_append hrun
            cases rest with
            | nil => rfl
            | cons c rest => apply hrest c rfl
        | false =>
            have hnot : ¬ Listed run := by
              intro h
              obtain ⟨c, hc⟩ := List.exists_mem_of_ne_nil run hne
              exact absurd ((hrun c hc).symm.trans (isWord_of_listed h c hc)) (by decide)
            rw [restoreChars_gap hrun, restoreRun_of_not_listed hnot]
            rfl
      rw [hstart, stretches_append hne hrun hrest, ih, List.mapM_cons]
      cases restoreRun run with
      | error e => rfl
      | ok new => cases (stretches rest).mapM restoreRun <;> rfl

/-! ### The order of the words -/

theorem wordAtStart?_of_perm {words : List (List Point)} (hwords : words.Perm accentWords)
    (cs : List Point) :
  wordAtStart? words cs = wordAtStart? accentWords cs
  := by
  have hrest : startsInWord (cs.dropWhile isWord) = false := by
    cases hcs : cs.dropWhile isWord with
    | nil => rfl
    | cons c rest =>
        have hc : c ∈ (cs.dropWhile isWord).head? := by
          rw [hcs]
          rfl
        apply head?_dropWhile hc
  rw [← List.takeWhile_append_dropWhile (p := isWord) (l := cs)]
  rw [wordAtStart?_append_of_perm hwords (fun _ => List.mem_takeWhile_imp) hrest]
  rw [wordAtStart?_append (fun _ => List.mem_takeWhile_imp) hrest]

/-- It does not matter in which order the words are looked for. -/
theorem restoreFrom_of_perm {words : List (List Point)} (hwords : words.Perm accentWords)
    (skip : Nat) (inWord : Bool) (cs : List Point) :
  restoreFrom words skip inWord cs = restoreFrom accentWords skip inWord cs
  := by
  induction cs generalizing skip inWord with
  | nil => cases skip <;> rfl
  | cons c cs ih =>
      cases skip with
      | zero => simp only [restoreFrom, wordAtStart?_of_perm hwords, ih]
      | succ skip => apply ih

/-! ### Words in any case -/

/-- But for the Kelvin sign, which is a capital k, only a letter of ASCII has a letter of ASCII as
its lower case. -/
theorem toLower_of_lowerChar (hl : l.is Char.isLower = true) (hk : l ≠ .char 'k')
    (h : lowerChar c = l) :
  c.map Char.toLower = l
  := by
  obtain ⟨hlow, hhigh⟩ := bounds_of_isLower hl
  rcases lowerChar_cases c with ⟨-, hsame⟩ | ⟨r, hr, hhas, hsmall⟩
  · obtain rfl : c = l := hsame.symm.trans h
    rcases toLower_cases (c := c) rfl with ⟨hc, -⟩ | ⟨-, hc, -⟩
    · exact hc.symm
    · omega
  · have hruns : ∀ r ∈ caseRuns, r = (0x41, 0x5A, 1, 0x61) ∨ 0x7A < r.2.2.2
        ∨ r = (0x212A, 0x212A, 1, 0x6B) := by
      decide +kernel
    obtain ⟨hfirst, hlast, -⟩ := CaseRun.bounds hhas
    rw [h] at hsmall
    rcases hruns r hr with rfl | hfar | rfl
    · rcases toLower_cases (c := c) rfl with ⟨-, hc⟩ | ⟨-, -, hc⟩
      · exact absurd ⟨hfirst, hlast⟩ hc
      · apply Point.toNat_inj.mp
        rw [hc, hsmall]
        dsimp only at hfirst ⊢
        omega
    · omega
    · apply absurd (Point.toNat_inj.mp _) hk
      rw [hsmall]
      dsimp only at hfirst hlast ⊢
      rw [Nat.le_antisymm hlast hfirst]
      rfl

/-- A run without disguises writes the word that is its lower case. -/
theorem spells_of_lowerFrom (before : List Point)
    (hword : ∀ l ∈ word, l.is Char.isLower = true ∧ l ≠ .char 'k')
    (hplain : ∀ c ∈ run, c ∉ disguises) (h : lowerFrom before run = word) :
  Spells word run
  := by
  induction run generalizing before word with
  | nil =>
      obtain rfl : [] = word := h
      exact .nil
  | cons c run ih =>
      obtain ⟨hc, hplain⟩ := List.forall_mem_cons.mp hplain
      have hdotted : c ≠ .char 'İ' := by
        rintro rfl
        exact absurd (by decide) hc
      rw [lowerFrom, if_neg hdotted] at h
      split_ifs at h with hsigma
      · have hlower : (lowerSigma before run).is Char.isLower = false := by
          rw [lowerSigma]
          split_ifs <;> decide
        rw [← h, List.forall_mem_cons, hlower] at hword
        cases hword.1.1
      · rw [← h, List.forall_mem_cons] at hword
        rw [← h]
        obtain ⟨⟨hl, hk⟩, hword⟩ := hword
        constructor
        · apply Bool.or_eq_true_iff.mpr (.inl (beq_iff_eq.mpr (toLower_of_lowerChar hl hk rfl)))
        · apply ih _ hword hplain rfl

/-- A run has the lower case of a listed word exactly when it writes that word in letters of
ASCII. -/
theorem lower_eq_iff {p : Text × Text} (hp : p ∈ accentTable) :
  lower run = lower p.1.toList ↔ Spells p.1.toList run ∧ ∀ c ∈ run, c ∉ disguises
  := by
  have hlower := isLower_of_mem_accentTable hp
  have hself : lower p.1.toList = p.1.toList :=
    lowerFrom_eq [] hlower (spells_of_mem_accentTable hp) (not_mem_disguises_of_mem_accentTable hp)
  have hkelvin : (accentTable.all fun p => !p.1.toList.contains 'k') = true := rfl
  rw [hself]
  constructor
  · intro h
    have hplain : ∀ c ∈ run, c ∉ disguises := by
      intro c hc hdisguise
      obtain ⟨d, hd, hupper⟩ := exists_mem_lowerFrom [] hc hdisguise
      change d ∈ lower run at hd
      rw [h] at hd
      rw [hlower d hd] at hupper
      cases hupper
    refine ⟨spells_of_lowerFrom [] ?_ hplain h, hplain⟩
    intro l hl
    refine ⟨hlower l hl, ?_⟩
    rintro rfl
    have := List.all_eq_true.mp hkelvin p hp
    simp [hl] at this
  · rintro ⟨h, hplain⟩
    apply lowerFrom_eq [] hlower h hplain

/-- The words with their accents start with small letters of ASCII. -/
theorem accent_letter {p : Text × Text} (hp : p ∈ accentTable) :
  ∃ d ds, p.2.toList = d :: ds ∧ d.map Char.toLower = d ∧ d.is Char.isUpper = false
    ∧ (d.map Char.toUpper).map Char.toLower = d ∧ (d.map Char.toUpper).is Char.isUpper = true
  := by
  have hall : (accentTable.all fun p => p.2.toList.head?.any fun d =>
      d.map Char.toLower == d && !d.is Char.isUpper
        && (d.map Char.toUpper).map Char.toLower == d
        && (d.map Char.toUpper).is Char.isUpper) = true := rfl
  have h := List.all_eq_true.mp hall p hp
  cases hp2 : p.2.toList with
  | nil => simp [hp2] at h
  | cons d ds =>
      simp only [hp2, List.head?_cons, Option.any_some, Bool.and_eq_true, beq_iff_eq,
        Bool.not_eq_true', and_assoc] at h
      exact ⟨d, ds, rfl, h⟩

/-- What a stretch of a text becomes.  A listed word, in any case, becomes the word beside it, with
a capital exactly if it has one, and any other stretch stays. -/
inductive Becomes : List Point → List Point → Prop where
  | listed {p : Text × Text} {c d e : Point} {cs ds : List Point} (row : p ∈ accentTable)
      (word : lower (c :: cs) = lower p.1.toList) (accents : p.2.toList = d :: ds)
      (letter : e.map Char.toLower = d) (capital : e.is Char.isUpper = c.is Char.isUpper) :
      Becomes (c :: cs) (e :: ds)
  | other {run : List Point} (unlisted : ∀ p ∈ accentTable, lower run ≠ lower p.1.toList) :
      Becomes run run

theorem becomes_of_restoreRun (h : restoreRun run = .ok new) :
  Becomes run new
  := by
  by_cases hlisted : Listed run
  · have hplain : ∀ c ∈ run, c ∉ disguises := by
      intro c hc hdisguise
      apply exists_restoreRun_iff.mp ⟨new, h⟩ ⟨hlisted, c, hc, hdisguise⟩
    rw [restoreRun, if_pos hlisted] at h
    obtain ⟨p, hp, hspells⟩ := hlisted
    have hword := (lower_eq_iff hp).mpr ⟨hspells, hplain⟩
    rw [accented_eq_ok hp hspells hplain] at h
    obtain ⟨d, ds, haccents, hsmall, hsmall', hcapital, hcapital'⟩ := accent_letter hp
    rw [haccents] at h
    obtain rfl := Except.ok.inj h
    cases run with
    | nil => exact absurd ⟨p, hp, hspells⟩ not_listed_nil
    | cons c cs =>
        cases hc : c.is Char.isUpper with
        | true =>
            rw [startsCapital, hc]
            exact .listed hp hword haccents hcapital (hcapital'.trans hc.symm)
        | false =>
            rw [startsCapital, hc]
            exact .listed hp hword haccents hsmall (hsmall'.trans hc.symm)
  · rw [restoreRun_of_not_listed hlisted] at h
    obtain rfl := Except.ok.inj h
    apply Becomes.other
    intro p hp hword
    exact hlisted ⟨p, hp, ((lower_eq_iff hp).mp hword).1⟩

/-! ### Texts -/

/-- The accents of a text can be restored exactly where no stretch of it is a disguised word.  Then
each stretch becomes what it has to, so that the text keeps its length, and nothing depends on the
order in which the words are looked for. -/
theorem restoreAccents_stretches (s : Text) :
  ((∃ s', restoreAccents s = .ok s') ↔ ∀ run ∈ stretches s.toList, ¬ Disguised run)
    ∧ (∀ s', restoreAccents s = .ok s' →
      (∃ news, List.Forall₂ Becomes (stretches s.toList) news ∧ s'.toList = news.flatten)
        ∧ s'.length = s.length)
    ∧ ∀ words, words.Perm accentWords →
      Text.ofList <$> restoreFrom words 0 false s.toList = restoreAccents s
  := by
  have hchars (s' : Text) : restoreAccents s = .ok s' ↔ ∃ news,
      List.Forall₂ (fun run new => restoreRun run = .ok new) (stretches s.toList) news
        ∧ news.flatten = s'.toList := by
    rw [restoreAccents_eq_ok_iff, restoreChars_eq_mapM, fmap_eq_ok_iff]
    simp only [mapM_eq_ok_iff]
  refine ⟨?_, ?_, ?_⟩
  · simp only [hchars, ← exists_restoreRun_iff, ← exists_forall₂_iff]
    constructor
    · rintro ⟨s', news, h, -⟩
      exact ⟨news, h⟩
    · rintro ⟨news, h⟩
      exact ⟨Text.ofList news.flatten, news, h, rfl⟩
  · intro s' h
    obtain ⟨news, hnews, hs'⟩ := (hchars s').mp h
    refine ⟨⟨news, hnews.imp fun _ _ => becomes_of_restoreRun, hs'.symm⟩, ?_⟩
    apply (restoreChars_restored (restoreAccents_eq_ok_iff.mp h)).1
  · intro words hwords
    rw [restoreFrom_of_perm hwords]
    rfl

theorem restoreAccents_dia :
  restoreAccents "Dia, SENALES" = .ok "Día, Señales"
  := by
  have hstretches : stretches ("Dia, SENALES" : Text).toList
      = [("Dia" : Text).toList, (", " : Text).toList, ("SENALES" : Text).toList] := by
    decide +kernel
  have hdia : restoreRun ("Dia" : Text).toList = .ok ("Día" : Text).toList := by
    rw [restoreRun, if_pos (by decide)]
    exact accented_eq_ok (p := ("dia", "día")) (by decide) (by decide) (by decide)
  have hgap : restoreRun (", " : Text).toList = .ok (", " : Text).toList :=
    restoreRun_of_not_listed (by decide)
  have hsenales : restoreRun ("SENALES" : Text).toList = .ok ("Señales" : Text).toList := by
    rw [restoreRun, if_pos (by decide)]
    exact accented_eq_ok (p := ("senales", "señales")) (by decide) (by decide)
      (by decide)
  apply restoreAccents_eq_ok_iff.mpr
  rw [restoreChars_eq_mapM, fmap_eq_ok_iff, hstretches]
  refine ⟨_, mapM_eq_ok_iff.mpr (.cons hdia (.cons hgap (.cons hsenales .nil))), ?_⟩
  decide

/-- The accents of two words are restored, one of them in capitals, also if short words are looked
for before long ones. -/
theorem restoreAccents_stretches_dia :
  restoreAccents "Dia, SENALES" = .ok "Día, Señales"
    ∧ (∃ news, List.Forall₂ Becomes (stretches ("Dia, SENALES" : Text).toList) news
      ∧ ("Día, Señales" : Text).toList = news.flatten)
    ∧ accentWords.reverse.Perm accentWords
    ∧ Text.ofList <$> restoreFrom accentWords.reverse 0 false ("Dia, SENALES" : Text).toList
      = .ok "Día, Señales"
  := by
  obtain ⟨-, hbecomes, horder⟩ := restoreAccents_stretches "Dia, SENALES"
  have hperm : accentWords.reverse.Perm accentWords := List.reverse_perm _
  exact ⟨restoreAccents_dia, (hbecomes _ restoreAccents_dia).1, hperm,
    (horder _ hperm).trans restoreAccents_dia⟩

end Kanban.Text
