import Kanban.Board.Snapshot
import Kanban.Uuid
import Mathlib

/-!
# Ids are uuids

A uuid is made of five groups of hexadecimal digits (`Uuid.isUuid_iff`).  The text of every id
has this form (`Uuid.isUuid_text`), and so do all ids of a supply.
-/

namespace Kanban

namespace Text

theorem isHexDigit_digitChar {n : Nat} (h : n < 16) :
  isHexDigit n.digitChar = true
  := by
  interval_cases n <;> decide

theorem isHexDigit_of_mem_toDigits {n : Nat} {c : Char} (h : c ∈ Nat.toDigits 16 n) :
  isHexDigit c = true
  := by
  induction n using Nat.strongRecOn with
  | _ n ih =>
      rcases Nat.lt_or_ge n 16 with hn | hn
      · rw [Nat.toDigits_of_lt_base hn, List.mem_singleton] at h
        rw [h]
        apply isHexDigit_digitChar hn
      · rw [Nat.toDigits_of_base_le (by decide) hn, List.mem_append, List.mem_singleton] at h
        rcases h with h | rfl
        · apply ih (n / 16) (by omega) h
        · apply isHexDigit_digitChar (Nat.mod_lt n (by decide))

theorem isHexDigit_of_mem_hexDigits {width n : Nat} {c : Point} (h : c ∈ hexDigits width n) :
  isHexDigit c = true
  := by
  obtain ⟨d, hd, rfl⟩ := List.mem_map.mp h
  rcases List.mem_append.mp hd with hd | hd
  · rw [List.eq_of_mem_replicate hd]
    rfl
  · apply isHexDigit_of_mem_toDigits hd

theorem length_hexDigits {width n : Nat} (hwidth : width ≠ 0) (h : n < 16 ^ width) :
  (hexDigits width n).length = width
  := by
  have : (Nat.toDigits 16 n).length ≤ width :=
    (Nat.length_toDigits_le_iff (by decide) (Nat.pos_of_ne_zero hwidth)).mpr h
  unfold hexDigits
  dsimp only
  rw [List.length_map, List.length_append, List.length_replicate]
  omega

/-- The pieces between separators, with the separators put back. -/
theorem intercalate_pieces {α : Type} [DecidableEq α] (c : α) (l : List α) :
  [c].intercalate (pieces (· == c) l) = l
  := by
  induction l with
  | nil => rfl
  | cons d l ih =>
      obtain ⟨w, ws, hw⟩ := List.exists_cons_of_ne_nil (pieces_ne_nil (· == c) l)
      by_cases hd : d = c
      · rw [pieces, if_pos (beq_iff_eq.mpr hd), hw, List.intercalate_cons_cons, ← hw, ih, hd]
        rfl
      · rw [pieces, if_neg (by simpa using hd), hw, consFirst]
        rw [hw] at ih
        cases ws <;> simpa [List.intercalate_cons_cons] using ih

end Text

namespace Uuid

/-- Hexadecimal digits in groups of 8, 4, 4, 4 and 12, with hyphens between them. -/
def IsGrouped (cs : List Point) : Prop :=
  ∃ a b c d e : List Point, [a, b, c, d, e].map List.length = [8, 4, 4, 4, 12]
    ∧ (∀ g ∈ [a, b, c, d, e], ∀ x ∈ g, Text.isHexDigit x = true)
    ∧ cs = a ++ Point.char '-' :: b ++ Point.char '-' :: c ++ Point.char '-' :: d
      ++ Point.char '-' :: e

theorem pieces_groups {a b c d e : List Point}
    (hhex : ∀ g ∈ [a, b, c, d, e], ∀ x ∈ g, Text.isHexDigit x = true) :
  Text.pieces (· == .char '-') (a ++ Point.char '-' :: b ++ Point.char '-' :: c
    ++ Point.char '-' :: d ++ Point.char '-' :: e) = [a, b, c, d, e]
  := by
  have hpieces (g : List Point) (hg : g ∈ [a, b, c, d, e]) :
      Text.pieces (· == .char '-') g = [g] := by
    apply Text.pieces_of_forall_not
    intro x hx
    rw [beq_eq_false_iff_ne]
    rintro rfl
    exact absurd (hhex g hg _ hx) (by decide)
  have hcut (l r : List Point) : Text.pieces (· == .char '-') (l ++ Point.char '-' :: r)
      = Text.pieces (· == .char '-') l ++ Text.pieces (· == .char '-') r :=
    Text.pieces_append_cons _ l r rfl
  rw [hcut, hcut, hcut, hcut, hpieces a (by simp), hpieces b (by simp), hpieces c (by simp),
    hpieces d (by simp), hpieces e (by simp)]
  rfl

/-- The last of the groups does not end in a line feed. -/
theorem IsGrouped.getLast?_ne {cs : List Point} (h : IsGrouped cs) :
  cs.getLast? ≠ some (.char '\n')
  := by
  obtain ⟨a, b, c, d, e, hlen, hhex, rfl⟩ := h
  have he : e ≠ [] := by
    rintro rfl
    simp at hlen
  intro h
  rw [List.getLast?_append_of_ne_nil _ (List.cons_ne_nil _ _),
    List.getLast?_cons_of_ne_nil he] at h
  exact absurd (hhex e (by simp) _ (List.mem_of_getLast? h)) (by decide)

/-- Characters are in groups of the right lengths exactly when their pieces are. -/
theorem isGrouped_iff {cs : List Point} :
  IsGrouped cs ↔ (Text.pieces (· == .char '-') cs).map List.length = [8, 4, 4, 4, 12]
    ∧ ∀ g ∈ Text.pieces (· == .char '-') cs, ∀ x ∈ g, Text.isHexDigit x = true
  := by
  constructor
  · rintro ⟨a, b, c, d, e, hlen, hhex, rfl⟩
    rw [pieces_groups hhex]
    exact ⟨hlen, hhex⟩
  · rintro ⟨hlen, hhex⟩
    have hjoin := Text.intercalate_pieces (.char '-') cs
    generalize Text.pieces (· == .char '-') cs = groups at hlen hhex hjoin
    have hcount : groups.length = 5 := by simpa using congrArg List.length hlen
    match groups, hcount with
    | [a, b, c, d, e], _ =>
        refine ⟨a, b, c, d, e, hlen, hhex, ?_⟩
        rw [← hjoin]
        simp [List.intercalate_cons_cons]

/-- What is checked to be a uuid: its groups, and perhaps a line feed after them. -/
theorem isUuid_iff {s : Text} :
  Check.isUuid s = true ↔ ∃ cs, IsGrouped cs ∧ (s.toList = cs ∨ s.toList = cs ++ [.char '\n'])
  := by
  have hgrouped {cs : List Point} :
      ((Text.pieces (· == .char '-') cs).map List.length == [8, 4, 4, 4, 12]
          && (Text.pieces (· == .char '-') cs).all fun g => g.all Text.isHexDigit) = true
        ↔ IsGrouped cs := by
    simp [isGrouped_iff]
  unfold Check.isUuid
  dsimp only
  rw [hgrouped]
  split_ifs with hlast
  · have hfeed : s.toList.dropLast ++ [.char '\n'] = s.toList := by
      apply List.dropLast_append_getLast? _ hlast
    constructor
    · intro h
      exact ⟨_, h, .inr hfeed.symm⟩
    · rintro ⟨cs, h, hs | hs⟩
      · exact absurd (hs ▸ hlast) h.getLast?_ne
      · rw [hs, List.dropLast_concat]
        apply h
  · constructor
    · intro h
      exact ⟨_, h, .inl rfl⟩
    · rintro ⟨cs, h, hs | hs⟩
      · rw [hs]
        apply h
      · rw [hs, List.getLast?_append_of_ne_nil _ (List.cons_ne_nil _ _)] at hlast
        exact absurd rfl hlast

/-- Groups of hexadecimal digits of the right lengths form a uuid. -/
theorem isUuid_of_groups {a b c d e : List Point}
    (hlen : [a, b, c, d, e].map List.length = [8, 4, 4, 4, 12])
    (hhex : ∀ g ∈ [a, b, c, d, e], ∀ x ∈ g, Text.isHexDigit x = true) :
  Check.isUuid (Text.ofList (a ++ Point.char '-' :: b ++ Point.char '-' :: c
    ++ Point.char '-' :: d ++ Point.char '-' :: e)) = true
  := isUuid_iff.mpr ⟨_, ⟨a, b, c, d, e, hlen, hhex, rfl⟩, .inl rfl⟩

/-- The text of an id is a uuid. -/
theorem isUuid_text (n : Nat) :
  Check.isUuid (text n) = true
  := by
  have hlen : (Text.hexDigits 32 (n % 1 <<< 128)).length = 32 := by
    apply Text.length_hexDigits (by decide)
    apply Nat.mod_lt _ (by decide)
  have hhex (c : Point) (h : c ∈ Text.hexDigits 32 (n % 1 <<< 128)) :=
    Text.isHexDigit_of_mem_hexDigits h
  unfold text
  dsimp only
  generalize Text.hexDigits 32 (n % 1 <<< 128) = ds at hlen hhex
  have h := isUuid_of_groups (a := ds.take 8) (b := (ds.drop 8).take 4)
    (c := (ds.drop 12).take 4) (d := (ds.drop 16).take 4) (e := ds.drop 20) (by simp [hlen])
  simp only [List.append_assoc, List.cons_append] at h ⊢
  apply h
  simp only [List.mem_cons, List.not_mem_nil, or_false, forall_eq_or_imp, forall_eq]
  refine ⟨?_, ?_, ?_, ?_, ?_⟩ <;> intro x hx <;> apply hhex
  · apply List.mem_of_mem_take hx
  · apply List.mem_of_mem_drop (List.mem_of_mem_take hx)
  · apply List.mem_of_mem_drop (List.mem_of_mem_take hx)
  · apply List.mem_of_mem_drop (List.mem_of_mem_take hx)
  · apply List.mem_of_mem_drop hx

theorem isUuid_supply (first i : Nat) :
  Check.isUuid (supply first i) = true
  := isUuid_text _

end Uuid

end Kanban
