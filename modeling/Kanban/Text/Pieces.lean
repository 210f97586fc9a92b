/-!
# Pieces

Cutting a list at its separators.  `pieces p l` are the parts of `l` between the members
with `p`; there is one more of them than there are separators, and some may be empty.
-/

namespace Kanban.Text

variable {α : Type}

/-- `c` in front of the first of the pieces. -/
def consFirst (c : α) : List (List α) → List (List α)
  | [] => [[c]]
  | w :: ws => (c :: w) :: ws

/-- The parts of a list between the members with `p`. -/
def pieces (p : α → Bool) : List α → List (List α)
  | [] => [[]]
  | c :: cs => if p c then [] :: pieces p cs else consFirst c (pieces p cs)

theorem pieces_ne_nil (p : α → Bool) (l : List α) :
  pieces p l ≠ []
  := by
  cases l with
  | nil => simp [pieces]
  | cons c cs =>
    by_cases h : p c
    · simp [pieces, h]
    · cases hw : pieces p cs <;> simp [pieces, h, hw, consFirst]

/-- A row without separators is one piece. -/
theorem pieces_of_forall_not {p : α → Bool} {l : List α} (h : ∀ c ∈ l, p c = false) :
  pieces p l = [l]
  := by
  induction l with
  | nil => rfl
  | cons c l ih =>
    obtain ⟨hc, hl⟩ := List.forall_mem_cons.mp h
    simp [pieces, hc, ih hl, consFirst]

/-- A separator cuts the pieces in two. -/
theorem pieces_append_cons (p : α → Bool) (l r : List α) {c : α} (h : p c = true) :
  pieces p (l ++ c :: r) = pieces p l ++ pieces p r
  := by
  induction l with
  | nil => simp [pieces, h]
  | cons d l ih =>
    by_cases hd : p d
    · simp [pieces, hd, ih]
    · obtain ⟨w, ws, hw⟩ := List.exists_cons_of_ne_nil (pieces_ne_nil p l)
      simp [pieces, hd, ih, hw, consFirst]

/-- A list is one piece, or a piece and a separator in front of another list. -/
theorem pieces_induction {p : α → Bool} {P : List α → Prop}
    (piece : ∀ w, (∀ c ∈ w, p c = false) → P w)
    (cut : ∀ w c r, (∀ d ∈ w, p d = false) → p c = true → P r → P (w ++ c :: r)) (l : List α) :
  P l
  := by
  -- Along the list the piece that has begun grows, until a separator ends it.
  suffices hgrown : ∀ w, (∀ c ∈ w, p c = false) → P (w ++ l) from hgrown [] (by simp)
  induction l with
  | nil =>
      intro w hw
      rw [List.append_nil]
      apply piece w hw
  | cons c l ih =>
      intro w hw
      by_cases hc : p c = true
      · apply cut w c l hw hc
        apply ih [] (by simp)
      · rw [List.append_cons]
        apply ih
        intro d hd
        rcases List.mem_append.mp hd with hd | hd
        · apply hw d hd
        · rw [List.mem_singleton.mp hd]
          apply Bool.eq_false_iff.mpr hc

end Kanban.Text
