import Kanban.Proofs.Except
import Kanban.Text.Accent
import Kanban.Text.Pieces

/-!
# Accents run by run

A text consists of runs of word characters and of what stands between them, and accents are
restored in each run on its own (`restoreChars_append_cons`): a run that spells a listed word is
exchanged for that word with its accents, and all else stays as it is.  This fails exactly where
a run spells a listed word with a disguise among its letters (`exists_restoreChars_iff`).  Where
it does not fail, the text keeps its length, and nothing is left to do in what results
(`restoreChars_restored`).
-/

namespace Kanban.Text

variable {l c : Point} {word run rest cs new : List Point}

/-! ### Letters -/

theorem toLower_cases (h : c.map Char.toLower = l) :
  c = l ∧ ¬ (0x41 ≤ c.toNat ∧ c.toNat ≤ 0x5A)
    ∨ 0x41 ≤ c.toNat ∧ c.toNat ≤ 0x5A ∧ l.toNat = c.toNat + 0x20
  := by
  cases c with
  | half n =>
      have hn := Point.toNat_half_bounds n
      exact .inl ⟨h, by omega⟩
  | char c =>
      rw [Point.map_char] at h
      have hbounds : c.val ≥ 'A'.val ∧ c.val ≤ 'Z'.val ↔ 0x41 ≤ c.toNat ∧ c.toNat ≤ 0x5A :=
        and_congr UInt32.le_iff_toNat_le UInt32.le_iff_toNat_le
      unfold Char.toLower at h
      split_ifs at h with hc
      · right
        obtain ⟨hlow, hhigh⟩ := hbounds.mp hc
        refine ⟨hlow, hhigh, ?_⟩
        rw [← h]
        change (c.val + 0x20).toNat = c.toNat + 0x20
        rw [UInt32.toNat_add]
        change (c.toNat + 0x20) % 2 ^ 32 = c.toNat + 0x20
        omega
      · left
        exact ⟨h, fun h => hc (hbounds.mpr h)⟩

theorem bounds_of_isLower (h : l.is Char.isLower = true) :
  0x61 ≤ l.toNat ∧ l.toNat ≤ 0x7A
  := by
  cases l with
  | half n => contradiction
  | char l =>
      simp only [Point.is_char, Char.isLower, Bool.and_eq_true, decide_eq_true_eq] at h
      exact ⟨UInt32.le_iff_toNat_le.mp h.1, UInt32.le_iff_toNat_le.mp h.2⟩

/-- On letters of ASCII the full lower case is the usual one. -/
theorem lowerChar_eq (hl : l.is Char.isLower = true) (h : c.map Char.toLower = l) :
  lowerChar c = l
  := by
  obtain ⟨hlow, hhigh⟩ := bounds_of_isLower hl
  rcases toLower_cases h with ⟨rfl, -⟩ | ⟨hc, hc', hsum⟩
  · have hruns : ∀ r ∈ caseRuns, r.2.1 ≤ 0x5A ∨ 0x7A < r.1 := by decide +kernel
    have hnone : caseRuns.find? (·.has c.toNat) = none := by
      rw [List.find?_eq_none]
      intro r hr
      rcases hruns r hr with h | h <;> simp [CaseRun.has] <;> omega
    rw [lowerChar, hnone]
  · have hfirst : CaseRun.has (0x41, 0x5A, 1, 0x61) c.toNat = true := by
      simp only [CaseRun.has, Bool.and_eq_true, decide_eq_true_eq, beq_iff_eq]
      omega
    have hsome : caseRuns.find? (·.has c.toNat) = some (0x41, 0x5A, 1, 0x61) :=
      List.find?_cons_of_pos hfirst
    rw [lowerChar, hsome]
    dsimp only
    rw [← Point.ofNat_toNat l]
    congr 1
    omega

/-- All but the first few ranges of word characters lie outside of ASCII. -/
theorem isWord_eq (c : Point) :
  isWord c = inRanges (if c.toNat < 0x80 then wordRanges.take 4 else wordRanges) c.toNat
  := by
  split_ifs with hc
  · have hsplit : isWord c
        = (inRanges (wordRanges.take 4) c.toNat || inRanges (wordRanges.drop 4) c.toNat) := by
      rw [inRanges, inRanges, ← List.any_append, List.take_append_drop]
      rfl
    have hlater : ((wordRanges.drop 4).all fun r => decide (0x80 ≤ r.1)) = true := by
      decide +kernel
    rw [hsplit, Bool.or_eq_left_iff_imp]
    intro hmem
    obtain ⟨r, hr, hlow, -⟩ := inRanges_eq_true_iff.mp hmem
    have := decide_eq_true_eq.mp (List.all_eq_true.mp hlater r hr)
    omega
  · rfl

theorem isWord_of_toLower (hl : l.is Char.isLower = true) (h : c.map Char.toLower = l) :
  isWord c = true
  := by
  obtain ⟨hlow, hhigh⟩ := bounds_of_isLower hl
  apply inRanges_eq_true_iff.mpr
  rcases toLower_cases h with ⟨rfl, -⟩ | ⟨hc, hc', -⟩
  · exact ⟨(0x61, 0x7A), by decide, hlow, hhigh⟩
  · exact ⟨(0x41, 0x5A), by decide, hc, hc'⟩

/-- The characters that stand for a letter without being it in either case. -/
def disguises : List Point := [.char 'İ', .char 'ı', .char 'ſ']

/-- A small letter of ASCII is found in either case or in a disguise. -/
theorem isLetter_cases (h : isLetter l c = true) :
  c.map Char.toLower = l ∨ c ∈ disguises
  := by
  rcases Bool.or_eq_true_iff.mp h with h | h
  · left
    apply beq_iff_eq.mp h
  · right
    have hsubset : guises l ⊆ disguises := by
      unfold guises
      split <;> decide
    apply hsubset (List.contains_iff_mem.mp h)

theorem isWord_of_isLetter (hl : l.is Char.isLower = true) (h : isLetter l c = true) :
  isWord c = true
  := by
  rcases isLetter_cases h with h | h
  · apply isWord_of_toLower hl h
  · have hall : disguises.all isWord = true := rfl
    apply List.all_eq_true.mp hall c h

/-! ### Listed words -/

/-- The run writes the word, each of its letters in some guise. -/
def Spells (word run : List Point) : Prop :=
  List.Forall₂ (fun l c => isLetter l c = true) word run

instance : Decidable (Spells word run) := inferInstanceAs (Decidable (List.Forall₂ ..))

/-- The run writes one of the words of the table. -/
def Listed (run : List Point) : Prop := ∃ p ∈ accentTable, Spells p.1.toList run

instance : Decidable (Listed run) :=
  inferInstanceAs (Decidable (∃ p ∈ accentTable, Spells p.1.toList run))

/-- The run writes one of the words of the table, but not in letters of ASCII alone. -/
def Disguised (run : List Point) : Prop := Listed run ∧ ∃ c ∈ run, c ∈ disguises

instance : Decidable (Disguised run) :=
  inferInstanceAs (Decidable (Listed run ∧ ∃ c ∈ run, c ∈ disguises))

theorem isLower_of_mem_accentTable {p : Text × Text} (hp : p ∈ accentTable) :
  ∀ l ∈ p.1.toList, l.is Char.isLower = true
  := by
  have hall : (accentTable.all fun p => p.1.toList.all (·.is Char.isLower)) = true := rfl
  apply List.all_eq_true.mp
  apply List.all_eq_true.mp hall p hp

theorem spells_of_mem_accentTable {p : Text × Text} (hp : p ∈ accentTable) :
  Spells p.1.toList p.1.toList
  := by
  apply List.forall₂_same.mpr
  intro l hl
  obtain ⟨hlow, -⟩ := bounds_of_isLower (isLower_of_mem_accentTable hp l hl)
  apply Bool.or_eq_true_iff.mpr (.inl _)
  rcases toLower_cases (c := l) rfl with ⟨h, -⟩ | h
  · rw [← h, beq_iff_eq]
  · omega

theorem not_mem_disguises_of_mem_accentTable {p : Text × Text} (hp : p ∈ accentTable) :
  ∀ c ∈ p.1.toList, c ∉ disguises
  := by
  intro c hc hdisguise
  have hall : disguises.all (!·.is Char.isLower) = true := rfl
  have := List.all_eq_true.mp hall c hdisguise
  rw [isLower_of_mem_accentTable hp c hc] at this
  cases this

theorem mem_accentWords :
  word ∈ accentWords ↔ ∃ p ∈ accentTable, p.1.toList = word
  := by
  rw [accentWords]
  rw [List.mem_mergeSort, List.mem_map]

/-- What holds of a letter in every guise holds of the characters that write a word. -/
theorem Spells.forall_mem {P : Point → Prop} (h : Spells word run)
    (hletter : ∀ l ∈ word, ∀ c, isLetter l c = true → P c) :
  ∀ c ∈ run, P c
  := by
  induction h with
  | nil => simp
  | cons hlc _ ih =>
      obtain ⟨hl, hletter⟩ := List.forall_mem_cons.mp hletter
      apply List.forall_mem_cons.mpr ⟨hl _ hlc, ih hletter⟩

theorem isWord_of_listed (h : Listed run) :
  ∀ c ∈ run, isWord c = true
  := by
  obtain ⟨p, hp, hspells⟩ := h
  apply hspells.forall_mem (P := fun c => isWord c = true)
  intro l hl c
  apply isWord_of_isLetter (isLower_of_mem_accentTable hp l hl)

theorem not_listed_of_mem (hc : c ∈ run) (hcase : (c.map Char.toLower).is Char.isLower = false)
    (hplain : c ∉ disguises) :
  ¬ Listed run
  := by
  rintro ⟨p, hp, hspells⟩
  have hall : ∀ c ∈ run, (c.map Char.toLower).is Char.isLower = true ∨ c ∈ disguises := by
    apply hspells.forall_mem
      (P := fun c => (c.map Char.toLower).is Char.isLower = true ∨ c ∈ disguises)
    intro l hl c hlc
    apply (isLetter_cases hlc).imp_left
    rintro rfl
    apply isLower_of_mem_accentTable hp _ hl
  rcases hall c hc with h | h
  · rw [h] at hcase
    cases hcase
  · apply hplain h

theorem not_listed_nil :
  ¬ Listed []
  := by
  decide

/-! ### Words with their accents -/

/-- Without disguises the lower case of a run is the word that it writes. -/
theorem lowerFrom_eq (before : List Point) (hword : ∀ l ∈ word, l.is Char.isLower = true)
    (h : Spells word run) (hplain : ∀ c ∈ run, c ∉ disguises) :
  lowerFrom before run = word
  := by
  induction h generalizing before with
  | nil => rfl
  | @cons l c word run hlc _ ih =>
      obtain ⟨hl, hword⟩ := List.forall_mem_cons.mp hword
      obtain ⟨hc, hplain⟩ := List.forall_mem_cons.mp hplain
      have hcase : c.map Char.toLower = l := (isLetter_cases hlc).resolve_right hc
      have hnot : c ≠ .char 'İ' ∧ c ≠ .char 'Σ' := by
        constructor <;> rintro rfl <;> rw [← hcase] at hl <;> exact absurd hl (by decide)
      rw [lowerFrom]
      rw [if_neg hnot.1, if_neg hnot.2, lowerChar_eq hl hcase, ih _ hword hplain]

/-- A disguise leaves a character in the lower case that is no small letter of ASCII. -/
theorem exists_mem_lowerFrom (before : List Point) (hc : c ∈ run) (h : c ∈ disguises) :
  ∃ d ∈ lowerFrom before run, d.is Char.isLower = false
  := by
  induction run generalizing before with
  | nil => cases hc
  | cons e run ih =>
      rw [lowerFrom]
      rcases List.mem_cons.mp hc with rfl | hc
      · simp only [disguises, List.mem_cons, List.not_mem_nil, or_false] at h
        rcases h with rfl | rfl | rfl
        · exact ⟨'\u0307', by simp, by decide⟩
        · exact ⟨'ı', List.mem_cons_self, by decide⟩
        · exact ⟨'ſ', List.mem_cons_self, by decide⟩
      · obtain ⟨d, hd, hlower⟩ := ih (e :: before) hc
        refine ⟨d, ?_, hlower⟩
        split_ifs
        · apply List.mem_cons_of_mem _ (List.mem_cons_of_mem _ hd)
        · apply List.mem_cons_of_mem _ hd
        · apply List.mem_cons_of_mem _ hd

/-- A listed word in letters of ASCII is found in the table. -/
theorem accented_eq_ok {p : Text × Text} (hp : p ∈ accentTable) (h : Spells p.1.toList run)
    (hplain : ∀ c ∈ run, c ∉ disguises) :
  accented run = .ok (if startsCapital run then capitalize p.2.toList else p.2.toList)
  := by
  have hkeys : ∀ p ∈ accentTable, accentTable.lookup p.1 = some p.2 := by decide +kernel
  have hlower : lower run = p.1.toList :=
    lowerFrom_eq [] (isLower_of_mem_accentTable hp) h hplain
  rw [accented]
  rw [hlower, Text.ofList_toList, hkeys p hp]
  rfl

/-- A disguised word is not found in the table. -/
theorem accented_eq_error (h : ∃ c ∈ run, c ∈ disguises) :
  accented run = .error ⟨run⟩
  := by
  obtain ⟨c, hc, hdisguise⟩ := h
  obtain ⟨d, hd, hlower⟩ := exists_mem_lowerFrom [] hc hdisguise
  have hnone : accentTable.lookup (Text.ofList (lower run)) = none := by
    rw [List.lookup_eq_none_iff]
    intro p hp
    rw [bne_iff_ne]
    rintro hkey
    have := isLower_of_mem_accentTable hp d (by rw [← hkey, Text.toList_ofList]; exact hd)
    rw [hlower] at this
    cases this
  rw [accented]
  rw [hnone]
  rfl

/-- What a listed word is exchanged for is a word of the same length that is not listed. -/
theorem accent_spec {p : Text × Text} (hp : p ∈ accentTable)
    (hnew : new = p.2.toList ∨ new = capitalize p.2.toList) :
  new.length = p.1.toList.length ∧ (∀ c ∈ new, isWord c = true) ∧ ¬ Listed new
  := by
  have hall : (accentTable.all fun p => [p.2.toList, capitalize p.2.toList].all fun new =>
      new.length == p.1.toList.length && new.all isWord
        && new.any fun c =>
          !(c.map Char.toLower).is Char.isLower && !disguises.contains c) = true := rfl
  have h := List.all_eq_true.mp (List.all_eq_true.mp hall p hp) new (by simpa using hnew)
  simp only [Bool.and_eq_true, beq_iff_eq, List.all_eq_true, List.any_eq_true, Bool.not_eq_true',
    List.contains_eq_mem, decide_eq_false_iff_not] at h
  obtain ⟨⟨hlength, hword⟩, c, hc, hcase, hplain⟩ := h
  exact ⟨hlength, hword, not_listed_of_mem hc hcase hplain⟩

/-! ### Runs -/

/-- A run with its accents, if it writes a listed word. -/
def restoreRun (run : List Point) : Except UnlistedWord (List Point) :=
  if Listed run then accented run else pure run

theorem restoreRun_of_not_listed (h : ¬ Listed run) :
  restoreRun run = .ok run
  := if_neg h

theorem exists_restoreRun_iff :
  (∃ new, restoreRun run = .ok new) ↔ ¬ Disguised run
  := by
  by_cases hlisted : Listed run
  · rw [restoreRun]
    rw [if_pos hlisted]
    obtain ⟨p, hp, h⟩ := hlisted
    by_cases hdisguise : ∃ c ∈ run, c ∈ disguises
    · rw [accented_eq_error hdisguise]
      simpa [Disguised, hdisguise] using ⟨p, hp, h⟩
    · have hplain : ∀ c ∈ run, c ∉ disguises := by simpa using hdisguise
      rw [accented_eq_ok hp h hplain]
      simp [Disguised, hdisguise]
  · rw [restoreRun_of_not_listed hlisted]
    simp [Disguised, hlisted]

/-- A word of the table is exchanged for the one beside it. -/
theorem restoreRun_word {p : Text × Text} (hp : p ∈ accentTable) :
  restoreRun p.1.toList = .ok p.2.toList
  := by
  have hspells := spells_of_mem_accentTable hp
  have hplain : ∀ c ∈ p.1.toList, c ∉ disguises := not_mem_disguises_of_mem_accentTable hp
  have hcapital : startsCapital p.1.toList = false := by
    have hall : (accentTable.all fun p => !startsCapital p.1.toList) = true := rfl
    simpa using List.all_eq_true.mp hall p hp
  rw [restoreRun]
  rw [if_pos ⟨p, hp, hspells⟩, accented_eq_ok hp hspells hplain, hcapital]
  rfl

/-- A run that is restored keeps its length and is still one, and nothing is left to do in it. -/
theorem restoreRun_spec (hrun : ∀ c ∈ run, isWord c = true) (h : restoreRun run = .ok new) :
  new.length = run.length ∧ (∀ c ∈ new, isWord c = true) ∧ restoreRun new = .ok new
  := by
  by_cases hlisted : Listed run
  · have hplain := exists_restoreRun_iff.mp ⟨new, h⟩
    rw [restoreRun, if_pos hlisted] at h
    obtain ⟨p, hp, hspells⟩ := hlisted
    rw [accented_eq_ok hp hspells] at h
    · have hnew : new = p.2.toList ∨ new = capitalize p.2.toList := by
        obtain rfl := Except.ok.inj h
        split_ifs <;> simp
      obtain ⟨hlength, hword, hnot⟩ := accent_spec hp hnew
      refine ⟨?_, hword, restoreRun_of_not_listed hnot⟩
      rw [hlength]
      apply hspells.length_eq
    · intro c hc hdisguise
      apply hplain ⟨⟨p, hp, hspells⟩, c, hc, hdisguise⟩
  · rw [restoreRun_of_not_listed hlisted] at h
    obtain rfl := Except.ok.inj h
    exact ⟨rfl, hrun, restoreRun_of_not_listed hlisted⟩

/-! ### Looking for words -/

theorem startsWithWord_iff :
  startsWithWord word cs = true ↔ ∃ run rest, cs = run ++ rest ∧ Spells word run
  := by
  induction word generalizing cs with
  | nil => simp [startsWithWord, Spells]
  | cons l word ih =>
      cases cs with
      | nil => simp [startsWithWord, Spells]
      | cons c cs =>
          rw [startsWithWord, Bool.and_eq_true, ih]
          simp only [Spells, List.forall₂_cons_left_iff]
          constructor
          · rintro ⟨hlc, run, rest, rfl, h⟩
            exact ⟨c :: run, rest, rfl, c, run, hlc, h, rfl⟩
          · rintro ⟨_, rest, hcs, d, run, hlc, h, rfl⟩
            obtain ⟨rfl, rfl⟩ := List.cons.inj hcs
            exact ⟨hlc, run, rest, rfl, h⟩

/-- Word characters at the start of a text, as far as they go, are a run of it. -/
theorem takeWhile_isWord (hrun : ∀ c ∈ run, isWord c = true) (hrest : startsInWord rest = false) :
  (run ++ rest).takeWhile isWord = run
  := by
  rw [List.takeWhile_append_of_pos hrun]
  cases rest with
  | nil => simp
  | cons c rest => rw [List.takeWhile_cons_of_neg (by simpa [startsInWord] using hrest),
      List.append_nil]

theorem startsWithWhole_iff (hword : word ∈ accentWords) (hrun : ∀ c ∈ run, isWord c = true)
    (hrest : startsInWord rest = false) :
  startsWithWhole (run ++ rest) word = true ↔ Spells word run
  := by
  rw [startsWithWhole, Bool.and_eq_true, startsWithWord_iff, Bool.not_eq_true']
  constructor
  · rintro ⟨⟨run', rest', hcs, h⟩, hend⟩
    obtain ⟨p, hp, rfl⟩ := mem_accentWords.mp hword
    -- Both `run` and `run'` are the word characters at the start, as far as they go.
    rw [hcs, h.length_eq, List.drop_left] at hend
    have hrun' := isWord_of_listed ⟨p, hp, h⟩
    rw [← takeWhile_isWord hrun hrest, hcs, takeWhile_isWord hrun' hend]
    apply h
  · intro h
    apply And.intro ⟨run, rest, rfl, h⟩
    rw [h.length_eq, List.drop_left]
    apply hrest

/-- At the start of a text the run there is found if it is listed, in whatever order the words are
looked for. -/
theorem wordAtStart?_append_of_perm {words : List (List Point)} (hwords : words.Perm accentWords)
    (hrun : ∀ c ∈ run, isWord c = true) (hrest : startsInWord rest = false) :
  wordAtStart? words (run ++ rest) = if Listed run then some run else none
  := by
  rw [wordAtStart?]
  cases hfind : words.find? (startsWithWhole (run ++ rest)) with
  | none =>
      rw [List.find?_eq_none] at hfind
      rw [if_neg]
      · rfl
      · rintro ⟨p, hp, h⟩
        have hword := mem_accentWords.mpr ⟨p, hp, rfl⟩
        apply hfind _ (hwords.mem_iff.mpr hword) ((startsWithWhole_iff hword hrun hrest).mpr h)
  | some word =>
      have hword := hwords.mem_iff.mp (List.mem_of_find?_eq_some hfind)
      have h := (startsWithWhole_iff hword hrun hrest).mp (List.find?_some hfind)
      obtain ⟨p, hp, rfl⟩ := mem_accentWords.mp hword
      rw [if_pos ⟨p, hp, h⟩]
      simp [h.length_eq]

theorem wordAtStart?_append (hrun : ∀ c ∈ run, isWord c = true)
    (hrest : startsInWord rest = false) :
  wordAtStart? accentWords (run ++ rest) = if Listed run then some run else none
  := wordAtStart?_append_of_perm (.refl _) hrun hrest

theorem wordAtStart?_rest (hrest : startsInWord rest = false) :
  wordAtStart? accentWords rest = none
  := by
  have h : wordAtStart? accentWords ([] ++ rest) = _ := wordAtStart?_append (by simp) hrest
  rwa [if_neg not_listed_nil] at h

/-! ### Texts -/

/-- The characters of a text with its accents. -/
def restoreChars (cs : List Point) : Except UnlistedWord (List Point) :=
  restoreFrom accentWords 0 false cs

/-- Where no run starts it does not matter what stands before. -/
theorem restoreFrom_rest (inWord : Bool) (hrest : startsInWord rest = false) :
  restoreFrom accentWords 0 inWord rest = restoreChars rest
  := by
  cases inWord with
  | false => rfl
  | true =>
      cases rest with
      | nil => rfl
      | cons c rest => simp [restoreChars, restoreFrom, wordAtStart?_rest hrest]

/-- The rest of a run that writes no listed word is left as it is. -/
theorem restoreFrom_inside (hrun : ∀ c ∈ run, isWord c = true)
    (hrest : startsInWord rest = false) :
  restoreFrom accentWords 0 true (run ++ rest) = (run ++ ·) <$> restoreChars rest
  := by
  induction run with
  | nil =>
      rw [List.nil_append, restoreFrom_rest true hrest]
      symm
      apply id_map
  | cons c run ih =>
      obtain ⟨hc, hrun⟩ := List.forall_mem_cons.mp hrun
      rw [List.cons_append, restoreFrom]
      rw [hc, ih hrun]
      cases restoreChars rest <;> rfl

/-- The rest of a run that was exchanged is skipped. -/
theorem restoreFrom_skip (inWord : Bool) (run : List Point) (hrest : startsInWord rest = false) :
  restoreFrom accentWords run.length inWord (run ++ rest) = restoreChars rest
  := by
  induction run generalizing inWord with
  | nil => apply restoreFrom_rest inWord hrest
  | cons c run ih => apply ih

/-- A run at the start of a text is restored on its own. -/
theorem restoreChars_append (hrun : ∀ c ∈ run, isWord c = true)
    (hrest : startsInWord rest = false) :
  restoreChars (run ++ rest) = restoreRun run >>= fun new => (new ++ ·) <$> restoreChars rest
  := by
  cases run with
  | nil =>
      rw [restoreRun_of_not_listed not_listed_nil]
      cases h : restoreChars rest <;> apply h
  | cons c run =>
      have hword := wordAtStart?_append hrun hrest
      obtain ⟨hc, hrun⟩ := List.forall_mem_cons.mp hrun
      rw [List.cons_append] at hword
      rw [restoreChars, List.cons_append, restoreFrom, restoreRun]
      rw [if_neg (by simp), hword]
      split_ifs with hlisted
      · dsimp only
        rw [List.length_cons, Nat.add_sub_cancel, restoreFrom_skip _ _ hrest]
        rfl
      · dsimp only
        rw [hc, restoreFrom_inside hrun hrest]
        cases restoreChars rest <;> rfl

theorem restoreChars_run (hrun : ∀ c ∈ run, isWord c = true) :
  restoreChars run = restoreRun run
  := by
  have h : restoreChars (run ++ []) = _ := restoreChars_append hrun rfl
  rw [List.append_nil] at h
  rw [h]
  cases restoreRun run with
  | error e => rfl
  | ok new => apply congrArg Except.ok (List.append_nil new)

/-- A character between two runs stays, and each side of it is restored on its own. -/
theorem restoreChars_append_cons (hrun : ∀ d ∈ run, isWord d = true) (hc : isWord c = false) :
  restoreChars (run ++ c :: rest)
    = restoreRun run >>= fun new => (fun old => new ++ c :: old) <$> restoreChars rest
  := by
  have hrest : startsInWord (c :: rest) = false := hc
  have hstop : restoreChars (c :: rest) = (c :: ·) <$> restoreChars rest := by
    rw [restoreChars, restoreFrom]
    rw [if_neg (by simp), wordAtStart?_rest hrest, hc]
    rfl
  rw [restoreChars_append hrun hrest, hstop]
  cases restoreChars rest <;> rfl

/-- A text is a run, or a run and a character that belongs to none in front of another text. -/
theorem runs_induction {P : List Point → Prop}
    (run : ∀ run, (∀ c ∈ run, isWord c = true) → P run)
    (cons : ∀ run c rest, (∀ d ∈ run, isWord d = true) → isWord c = false → P rest →
      P (run ++ c :: rest)) (cs : List Point) :
  P cs
  := by
  induction cs using pieces_induction (p := fun c => !isWord c) with
  | piece w hw =>
      apply run w
      simpa using hw
  | cut w c r hw hc ih =>
      apply cons w c r _ _ ih
      · simpa using hw
      · simpa using hc

/-- The runs of word characters in a text, some of them empty. -/
def runs (cs : List Point) : List (List Point) := pieces (!isWord ·) cs

theorem runs_eq :
  runs = pieces fun c =>
    !inRanges (if c.toNat < 0x80 then wordRanges.take 4 else wordRanges) c.toNat
  := by
  have hword : (fun c => !isWord c) = fun c =>
      !inRanges (if c.toNat < 0x80 then wordRanges.take 4 else wordRanges) c.toNat := by
    funext c
    rw [isWord_eq]
  rw [← hword]
  rfl

theorem runs_run (hrun : ∀ c ∈ run, isWord c = true) :
  runs run = [run]
  := by
  apply pieces_of_forall_not
  intro c hc
  rw [hrun c hc]
  rfl

theorem runs_append_cons (hrun : ∀ d ∈ run, isWord d = true) (hc : isWord c = false) :
  runs (run ++ c :: rest) = run :: runs rest
  := by
  have h := pieces_append_cons (!isWord ·) run rest (c := c) (by rw [hc]; rfl)
  rw [runs, h]
  change runs run ++ runs rest = _
  rw [runs_run hrun]
  rfl

/-- The accents of a text can be restored exactly where no run of it is a disguised word. -/
theorem exists_restoreChars_iff :
  (∃ new, restoreChars cs = .ok new) ↔ ∀ run ∈ runs cs, ¬ Disguised run
  := by
  induction cs using runs_induction with
  | run run hrun =>
      rw [restoreChars_run hrun, runs_run hrun, exists_restoreRun_iff]
      simp
  | cons run c rest hrun hc ih =>
      rw [restoreChars_append_cons hrun hc, runs_append_cons hrun hc, List.forall_mem_cons]
      rw [← ih, ← exists_restoreRun_iff]
      simp only [bind_eq_ok_iff, fmap_eq_ok_iff]
      constructor
      · rintro ⟨_, new, hnew, old, hold, -⟩
        exact ⟨⟨new, hnew⟩, old, hold⟩
      · rintro ⟨⟨new, hnew⟩, old, hold⟩
        exact ⟨_, new, hnew, old, hold, rfl⟩

/-- A text without listed words has all its accents. -/
theorem restoreChars_of_not_listed (h : ∀ run ∈ runs cs, ¬ Listed run) :
  restoreChars cs = .ok cs
  := by
  induction cs using runs_induction with
  | run run hrun =>
      rw [runs_run hrun, List.forall_mem_singleton] at h
      rw [restoreChars_run hrun, restoreRun_of_not_listed h]
  | cons run c rest hrun hc ih =>
      rw [runs_append_cons hrun hc, List.forall_mem_cons] at h
      rw [restoreChars_append_cons hrun hc, restoreRun_of_not_listed h.1, ih h.2]
      rfl

/-- A text keeps its length when its accents are restored, and then it has all of them. -/
theorem restoreChars_restored (h : restoreChars cs = .ok new) :
  new.length = cs.length ∧ restoreChars new = .ok new
  := by
  induction cs using runs_induction generalizing new with
  | run run hrun =>
      rw [restoreChars_run hrun] at h
      obtain ⟨hlength, hword, hagain⟩ := restoreRun_spec hrun h
      rw [restoreChars_run hword]
      exact ⟨hlength, hagain⟩
  | cons run c rest hrun hc ih =>
      rw [restoreChars_append_cons hrun hc] at h
      obtain ⟨new, hnew, h⟩ := bind_eq_ok_iff.mp h
      obtain ⟨old, hold, rfl⟩ := fmap_eq_ok_iff.mp h
      obtain ⟨hlength, hword, hagain⟩ := restoreRun_spec hrun hnew
      obtain ⟨hlength', hagain'⟩ := ih hold
      rw [restoreChars_append_cons hword hc, hagain, hagain']
      constructor
      · simp only [List.length_append, List.length_cons, hlength, hlength']
      · rfl

theorem restoreAccents_eq_ok_iff {s new : Text} :
  restoreAccents s = .ok new ↔ restoreChars s.toList = .ok new.toList
  := by
  change Text.ofList <$> restoreChars s.toList = .ok new ↔ _
  rw [fmap_eq_ok_iff]
  constructor
  · rintro ⟨cs, hcs, rfl⟩
    rw [Text.toList_ofList]
    apply hcs
  · intro h
    exact ⟨_, h, Text.ofList_toList new⟩

/-- A word of the table is a text that is exchanged for the one beside it. -/
theorem restoreAccents_word {p : Text × Text} (hp : p ∈ accentTable) :
  restoreAccents p.1 = .ok p.2
  := by
  have hword := isWord_of_listed ⟨p, hp, spells_of_mem_accentTable hp⟩
  rw [restoreAccents_eq_ok_iff, restoreChars_run hword]
  apply restoreRun_word hp

end Kanban.Text
