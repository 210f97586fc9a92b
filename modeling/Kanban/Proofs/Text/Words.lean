import Kanban.Proofs.Text.Lowercase
import Kanban.Text.Occurrence

/-!
# Words of a text

The words of a text are those in front of a blank and those behind it (`words_append_cons`).  So
trimming leaves them as they are, the lower case of a text has their lower cases as its words
(`words_lower`), and texts with spaces between them have the words of all of them
(`words_intercalate`).  What has no blank in it occurs on one side of a blank
(`infix_append_cons_iff`).
-/

namespace Kanban.Text

variable {c : Point} {cs l r w : List Point} {ws : List (List Point)}

/-- There are characters, and none of them is blank. -/
def Unbroken (w : List Point) : Prop := w ≠ [] ∧ ∀ c ∈ w, isBlank c = false

instance : Decidable (Unbroken w) :=
  decidable_of_iff ((!w.isEmpty && w.all fun c => !isBlank c) = true) (by simp [Unbroken])

/-! ### Cutting -/

theorem words_of_forall_not (h : ∀ c ∈ w, isBlank c = false) :
  words w = if w = [] then [] else [w]
  := by
  rw [words, pieces_of_forall_not h]
  split_ifs with hw <;> simp [hw]

theorem words_of_unbroken (h : Unbroken w) :
  words w = [w]
  := by
  rw [words_of_forall_not h.2, if_neg h.1]

@[simp]
theorem words_nil :
  words [] = []
  := rfl

/-- The words on either side of a blank are the words of a text. -/
theorem words_append_cons (h : isBlank c = true) :
  words (l ++ c :: r) = words l ++ words r
  := by
  rw [words, pieces_append_cons isBlank l r h, List.filter_append]
  rfl

theorem words_cons (h : isBlank c = true) :
  words (c :: r) = words r
  := words_append_cons (l := []) h

theorem unbroken_of_mem_words (h : w ∈ words cs) :
  Unbroken w
  := by
  have hpiece {v : List Point} (hv : ∀ c ∈ v, isBlank c = false) (hw : w ∈ words v) :
      Unbroken w := by
    rw [words_of_forall_not hv] at hw
    split_ifs at hw with hnil
    · cases hw
    · rw [List.mem_singleton.mp hw]
      exact ⟨hnil, hv⟩
  induction cs using pieces_induction (p := isBlank) with
  | piece v hv => apply hpiece hv h
  | cut v c r hv hc ih =>
      rw [words_append_cons hc] at h
      rcases List.mem_append.mp h with h | h
      · apply hpiece hv h
      · apply ih h

/-! ### Blanks at the ends -/

theorem words_append_of_forall (h : ∀ c ∈ r, isBlank c = true) :
  words (l ++ r) = words l
  := by
  induction r generalizing l with
  | nil => rw [List.append_nil]
  | cons c r ih =>
      obtain ⟨hc, hr⟩ := List.forall_mem_cons.mp h
      rw [words_append_cons hc]
      have hnone := ih (l := []) hr
      rw [List.nil_append] at hnone
      rw [hnone, words_nil, List.append_nil]

theorem words_dropWhile :
  words (cs.dropWhile isBlank) = words cs
  := by
  induction cs with
  | nil => rfl
  | cons c cs ih =>
      rw [List.dropWhile_cons]
      split_ifs with hc
      · rw [ih, words_cons hc]
      · rfl

/-- Trimming takes no word away. -/
theorem words_trim :
  words (trim cs) = words cs
  := by
  rw [trim, ← @words_dropWhile cs]
  generalize cs.dropWhile isBlank = l
  have hblank : ∀ c ∈ (l.reverse.takeWhile isBlank).reverse, isBlank c = true := by
    intro c hc
    apply List.mem_takeWhile_imp (List.mem_reverse.mp hc)
  have hcut :
      (l.reverse.dropWhile isBlank).reverse ++ (l.reverse.takeWhile isBlank).reverse = l := by
    rw [← List.reverse_append, List.takeWhile_append_dropWhile, List.reverse_reverse]
  rw [← words_append_of_forall hblank, hcut]

/-! ### Lower case -/

/-- A character in front of the Latin letters with marks that is neither blank nor a capital. -/
def isFixed (c : Point) : Bool :=
  !isBlank c && (c.toNat < 0x41 || (0x5A < c.toNat && c.toNat < 0xC0))

theorem isFixed_spec (h : isFixed c = true) :
  isBlank c = false ∧ IsLow c
  := by
  simp only [isFixed, Bool.and_eq_true, Bool.or_eq_true, Bool.not_eq_true', decide_eq_true_eq] at h
  exact ⟨h.1, isLow_of_lt h.2⟩

theorem Unbroken.lower (h : Unbroken w) :
  Unbroken (lower w)
  := by
  rw [lower_eq_lowerBetween]
  exact ⟨lowerBetween_ne_nil h.1, not_isBlank_of_mem_lowerBetween h.2⟩

/-- The words of the lower case are the lower cases of the words. -/
theorem words_lower :
  words (lower cs) = (words cs).map lower
  := by
  have hpiece {w : List Point} (hw : ∀ c ∈ w, isBlank c = false) :
      words (lower w) = (words w).map lower := by
    rw [words_of_forall_not hw]
    split_ifs with hnil
    · rw [hnil]
      rfl
    · apply words_of_unbroken (Unbroken.lower ⟨hnil, hw⟩)
  induction cs using pieces_induction (p := isBlank) with
  | piece w hw => apply hpiece hw
  | cut w c r hw hc ih =>
      rw [lower_append_cons hc, words_append_cons hc, words_append_cons hc, List.map_append]
      rw [hpiece hw, ih]

/-! ### Joining -/

section

variable {between s : Text} {ss ts : List Text}

theorem intercalate_cons_of_ne_nil (h : ss ≠ []) :
  between.intercalate (s :: ss) = s ++ between ++ between.intercalate ss
  := by
  obtain ⟨t, ss, rfl⟩ := List.exists_cons_of_ne_nil h
  rw [intercalate_cons_cons]

theorem intercalate_append_of_ne_nil (hs : ss ≠ []) (ht : ts ≠ []) :
  between.intercalate (ss ++ ts) = between.intercalate ss ++ between ++ between.intercalate ts
  := by
  induction ss with
  | nil => contradiction
  | cons s ss ih =>
      have hrest : ss ++ ts ≠ [] := List.append_ne_nil_of_right_ne_nil ss ht
      rw [List.cons_append, intercalate_cons_of_ne_nil hrest]
      by_cases hss : ss = []
      · rw [hss, List.nil_append, intercalate_singleton]
      · rw [ih hss, intercalate_cons_of_ne_nil hss]
        simp only [append_assoc]

end

/-- The words of texts with spaces between them are those of all the texts. -/
theorem words_intercalate :
  words ([.char ' '].intercalate ws) = ws.flatMap words
  := by
  induction ws with
  | nil => rfl
  | cons w ws ih =>
      cases ws with
      | nil => simp
      | cons v ws =>
          rw [List.intercalate_cons_cons, List.append_assoc, List.singleton_append]
          rw [words_append_cons (by decide), ih]
          rfl

/-- Unbroken words are read back from the text that they make up. -/
theorem words_intercalate_of_unbroken (h : ∀ w ∈ ws, Unbroken w) :
  words ([.char ' '].intercalate ws) = ws
  := by
  rw [words_intercalate]
  induction ws with
  | nil => rfl
  | cons w ws ih =>
      obtain ⟨hw, hws⟩ := List.forall_mem_cons.mp h
      rw [List.flatMap_cons, words_of_unbroken hw, ih hws, List.singleton_append]

/-- Texts with spaces between them have their own lower cases. -/
theorem lower_intercalate :
  lower ([.char ' '].intercalate ws) = [.char ' '].intercalate (ws.map lower)
  := by
  induction ws with
  | nil => rfl
  | cons w ws ih =>
      cases ws with
      | nil => simp
      | cons v ws =>
          rw [List.map_cons, List.map_cons, List.intercalate_cons_cons, List.intercalate_cons_cons]
          rw [List.append_assoc, List.append_assoc, List.singleton_append, List.singleton_append]
          rw [lower_append_cons (by decide), ih, List.map_cons]

/-! ### Occurrence -/

theorem occursIn_iff {α : Type} [BEq α] [LawfulBEq α] {needle l : List α} :
  occursIn needle l = true ↔ needle <:+: l
  := by
  induction l with
  | nil => simp [occursIn]
  | cons c l ih =>
      rw [occursIn, Bool.or_eq_true, List.isPrefixOf_iff_prefix, ih, List.infix_cons_iff]

/-- What occurs in a list, but not across a member, occurs on one side of it. -/
theorem infix_append_cons_iff {α : Type} {w l r : List α} {c : α} (h : c ∉ w) :
  w <:+: l ++ c :: r ↔ w <:+: l ∨ w <:+: r
  := by
  have hstart {v : List α} (hv : c ∉ v) (hvr : v <+: c :: r) : v = [] := by
    rcases List.prefix_cons_iff.mp hvr with hnil | ⟨t, rfl, -⟩
    · apply hnil
    · apply absurd (List.mem_cons_self) hv
  constructor
  · intro hw
    rcases List.infix_append_iff.mp hw with hl | hr | ⟨u, v, rfl, hu, hv⟩
    · apply Or.inl hl
    · rcases List.infix_cons_iff.mp hr with hr | hr
      · rw [hstart h hr]
        apply Or.inl List.nil_infix
      · apply Or.inr hr
    · rw [hstart (fun hc => h (List.mem_append_right u hc)) hv, List.append_nil]
      apply Or.inl hu.isInfix
  · rintro (hl | hr)
    · apply hl.trans (List.infix_append' [] l (c :: r))
    · apply hr.trans
      apply List.IsSuffix.isInfix
      apply (List.suffix_cons c r).trans (List.suffix_append l _)

end Kanban.Text
