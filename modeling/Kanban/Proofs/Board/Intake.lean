import Kanban.Board.Intake
import Kanban.Proofs.Board.Command

/-!
# Boards from outside

A board that is taken over from a snapshot is sound when the snapshot is legible, whatever ids
were replaced in it (`Board.sound_of_adopt`).
-/

namespace Kanban

theorem Task.Sound.renamed {t : Task} (h : t.Sound) {id : Text}
    (hid : Check.isUuid id = true) :
  Task.Sound { t with id }
  := by
  apply sound_of_estimate (h.valid.renamed hid) rfl
  apply (legible_toJson_iff h.valid).mp h.legible

namespace Board

variable {s : Stamp}

/-- The task in a place of the list is the one that was there, with a fresh id if its own was seen
before or is that of an earlier task. -/
theorem exists_getElem?_distinguish {fresh : Nat → Text} {ts : List Task} {seen : List Text}
    {i n : Nat} {u : Task} (hu : (distinguish fresh seen i ts).1[n]? = some u) :
  ∃ t, ts[n]? = some t
    ∧ ((t.id ∈ seen ++ (ts.take n).map (·.id)
        ∧ ∃ j, i ≤ j ∧ j < i + (distinguish fresh seen i ts).2.length
          ∧ u = { t with id := fresh j })
      ∨ (t.id ∉ seen ++ (ts.take n).map (·.id) ∧ u = t))
  := by
  induction ts generalizing seen i n with
  | nil => cases hu
  | cons first ts ih =>
      rw [distinguish] at hu ⊢
      split_ifs at hu ⊢ with hseen
      · replace hseen : first.id ∈ seen := by simpa using hseen
        dsimp only at hu ⊢
        rw [List.length_cons]
        cases n with
        | zero =>
            obtain rfl := Option.some.inj hu
            exact ⟨first, rfl, .inl ⟨by simp [hseen], i, by omega, by omega, rfl⟩⟩
        | succ n =>
            obtain ⟨t, ht, hcases⟩ := ih hu
            -- The id of the first task was seen, so that it makes no difference to the rest.
            have hmem : t.id ∈ seen ++ ((first :: ts).take (n + 1)).map (·.id)
                ↔ t.id ∈ seen ++ (ts.take n).map (·.id) := by
              simp only [List.take_succ_cons, List.map_cons, List.mem_append, List.mem_cons]
              grind
            refine ⟨t, ht, ?_⟩
            rw [hmem]
            rcases hcases with ⟨h, j, hij, hj, hid⟩ | hown
            · exact .inl ⟨h, j, by omega, by omega, hid⟩
            · exact .inr hown
      · replace hseen : first.id ∉ seen := by simpa using hseen
        cases n with
        | zero =>
            obtain rfl := Option.some.inj hu
            exact ⟨first, rfl, .inr ⟨by simp [hseen], rfl⟩⟩
        | succ n =>
            obtain ⟨t, ht, hcases⟩ := ih hu
            have hmem : t.id ∈ seen ++ ((first :: ts).take (n + 1)).map (·.id)
                ↔ t.id ∈ (first.id :: seen) ++ (ts.take n).map (·.id) := by
              simp only [List.take_succ_cons, List.map_cons, List.mem_append, List.mem_cons]
              grind
            refine ⟨t, ht, ?_⟩
            rw [hmem]
            apply hcases

/-- Each of the tasks in the end was there before, with its own id if it has none of the fresh
ones. -/
theorem exists_of_mem_distinguish {fresh : Nat → Text} {ts : List Task} {seen : List Text}
    {i : Nat} {u : Task} (hu : u ∈ (distinguish fresh seen i ts).1) :
  ∃ t ∈ ts, u = t ∨ ∃ j, u = { t with id := fresh j }
  := by
  obtain ⟨n, hn⟩ := List.mem_iff_getElem?.mp hu
  obtain ⟨t, ht, ⟨-, j, -, -, rfl⟩ | ⟨-, rfl⟩⟩ := exists_getElem?_distinguish hn
  · exact ⟨t, List.mem_of_getElem? ht, .inr ⟨j, rfl⟩⟩
  · exact ⟨u, List.mem_of_getElem? ht, .inl rfl⟩

/-- Tasks stay sound when some of them get fresh ids. -/
theorem sound_distinguish {fresh : Nat → Text}
    (hfresh : ∀ i, Check.isUuid (fresh i) = true) {ts : List Task} (h : ∀ t ∈ ts, t.Sound)
    (seen : List Text) (i : Nat) :
  ∀ t ∈ (distinguish fresh seen i ts).1, t.Sound
  := by
  intro u hu
  obtain ⟨t, ht, rfl | ⟨j, rfl⟩⟩ := exists_of_mem_distinguish hu
  · apply h u ht
  · apply (h t ht).renamed (hfresh j)

/-- A board that is taken over is that of the snapshot with ids replaced, and with an entry for
each of these in front of the audit log. -/
theorem adopt_eq_ok_ok_iff {v : Json} {b : Board} {rs : List Replacement} :
  adopt s v = .ok (.ok (b, rs))
    ↔ ∃ c entries, read v = .ok c ∧ (distinguish s.fresh [] 0 c.tasks).2 = rs
      ∧ (rs.zipIdx.mapM fun (r, i) => replacementEntry s (rs.length + i) r) = .ok entries
      ∧ b = ⟨(distinguish s.fresh [] 0 c.tasks).1, entries.reverse ++ c.audit, c.reviewMode⟩
  := by
  rw [adopt, intake]
  cases read v with
  | bad first more =>
      rw [Checked.map]
      cases hshown : (Checked.bad (α := Board × List Replacement) first more).shown? with
      | none => simp
      | some d =>
          obtain rfl := Checked.eq_of_shown? hshown
          simp
  | ok c =>
      simp only [Checked.map, Checked.shown?_ok, noteReplacements, bind_eq_ok_iff, pure_eq_ok_iff,
        Checked.ok.injEq, Prod.mk.injEq]
      grind

/-- The board of a legible snapshot is sound. -/
theorem sound_of_adopt {v : Json} {b : Board} {rs : List Replacement} (hv : v.Legible)
    (hs : s.Proper) (h : adopt s v = .ok (.ok (b, rs))) :
  b.Sound
  := by
  obtain ⟨c, entries, hread, -, hentries, rfl⟩ := adopt_eq_ok_ok_iff.mp h
  have hc := sound_of_read hread hv
  constructor
  · apply sound_distinguish hs.fresh hc.tasks
  · intro e he
    rcases List.mem_append.mp he with he | he
    · obtain ⟨⟨r, i⟩, -, hr⟩ :=
        exists_mem_left (mapM_eq_ok_iff.mp hentries) (List.mem_reverse.mp he)
      apply hs.entry_sound hr (by simp)
      simp [Json.Legible]
    · apply hc.audit e he

end Board

end Kanban
