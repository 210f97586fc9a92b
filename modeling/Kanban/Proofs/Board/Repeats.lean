import Kanban.Proofs.Board.Ids

/-!
# Repeated ids

When the tasks of a batch are told apart, each of them stays in its place and keeps all that it has
but perhaps its id.  That is kept by the first task with it, and each later one gets the next of the
ids that are drawn.  `Board.Distinguishes` says this of two lists of tasks and the list of
replacements, without mention of the ids seen on the way, and `Board.distinguishes` proves it for
batches of any length.
-/

namespace Kanban

namespace Board

/-- How many tasks have the id of an earlier one: as many as there are tasks beyond their ids. -/
def repeats (ts : List Task) : ℕ := ts.length - (ts.map (·.id)).toFinset.card

/-- The ids that are drawn for the tasks are different from each other, and none of the tasks has
one of them. -/
structure Spare (fresh : ℕ → Text) (ts : List Task) : Prop where
  distinct : ((List.range (repeats ts)).map fresh).Nodup
  new : ∀ j < repeats ts, fresh j ∉ ts.map (·.id)

instance (fresh : ℕ → Text) (ts : List Task) : Decidable (Spare fresh ts) :=
  decidable_of_iff (((List.range (repeats ts)).map fresh).Nodup
      ∧ ∀ j < repeats ts, fresh j ∉ ts.map (·.id))
    ⟨fun ⟨distinct, new⟩ => ⟨distinct, new⟩, fun h => ⟨h.distinct, h.new⟩⟩

/-- The tasks `us` are the tasks `ts` with the replacements `rs` made, so that no two of them have
the same id. -/
structure Distinguishes (fresh : ℕ → Text) (ts us : List Task) (rs : List Replacement) :
    Prop where
  /-- No task is lost, and each has all that it had but perhaps its id. -/
  kept : List.Forall₂ (fun t u => u = { t with id := u.id }) ts us
  /-- A task keeps its id exactly if no earlier one has it. -/
  id_eq_iff : ∀ n t u, ts[n]? = some t → us[n]? = some u →
    (u.id = t.id ↔ t.id ∉ (ts.take n).map (·.id))
  /-- Any other task gets one of the ids that are drawn. -/
  drawn : ∀ n t u, ts[n]? = some t → us[n]? = some u → t.id ∈ (ts.take n).map (·.id) →
    ∃ j < repeats ts, u.id = fresh j
  /-- The replacements are those of the tasks with another id than before, in order. -/
  replaced : rs = ((ts.zip us).filter fun (t, u) => t.id ≠ u.id).map fun (t, u) => ⟨t.id, u.id⟩
  /-- The ids are taken in the order in which they are drawn. -/
  inOrder : rs.map (·.newId) = (List.range (repeats ts)).map fresh
  distinct : (us.map (·.id)).Nodup

variable {fresh : ℕ → Text} {seen : List Text} {i : ℕ} {ts : List Task}

theorem forall₂_distinguish :
  List.Forall₂ (fun t u => u = { t with id := u.id }) ts (distinguish fresh seen i ts).1
  := by
  induction ts generalizing seen i with
  | nil => constructor
  | cons t ts ih =>
      rw [distinguish]
      split_ifs
      · exact .cons rfl ih
      · exact .cons rfl ih

/-- Each task either is replaced or has an id that was not seen before. -/
theorem length_distinguish (fresh : ℕ → Text) (seen : List Text) (i : ℕ) (ts : List Task) :
  (distinguish fresh seen i ts).2.length + ((ts.map (·.id)).toFinset \ seen.toFinset).card
    = ts.length
  := by
  induction ts generalizing seen i with
  | nil => simp [distinguish]
  | cons t ts ih =>
      rw [distinguish, List.map_cons, List.toFinset_cons, List.length_cons]
      split_ifs with hseen
      · replace hseen : t.id ∈ seen.toFinset := by simpa using hseen
        rw [Finset.insert_sdiff_of_mem _ hseen, List.length_cons, Nat.add_right_comm, ih]
      · replace hseen : t.id ∉ seen.toFinset := by simpa using hseen
        -- The id counts once, here, and is seen from now on.
        have hinsert : insert t.id (ts.map (·.id)).toFinset \ seen.toFinset
            = insert t.id ((ts.map (·.id)).toFinset \ (t.id :: seen).toFinset) := by
          ext x
          simp only [List.toFinset_cons, Finset.mem_insert, Finset.mem_sdiff]
          grind
        rw [hinsert, Finset.card_insert_of_notMem (by simp), ← Nat.add_assoc]
        rw [ih]

theorem length_replacements :
  (distinguish fresh [] 0 ts).2.length = repeats ts
  := by
  have hlength := length_distinguish fresh [] 0 ts
  rw [List.toFinset_nil, Finset.sdiff_empty] at hlength
  rw [repeats, ← hlength, Nat.add_sub_cancel]

theorem newIds_distinguish :
  (distinguish fresh seen i ts).2.map (·.newId)
    = (List.range' i (distinguish fresh seen i ts).2.length).map fresh
  := by
  induction ts generalizing seen i with
  | nil => rfl
  | cons t ts ih =>
      rw [distinguish]
      split_ifs
      · dsimp only
        rw [List.map_cons, ih, List.length_cons, List.range'_succ, List.map_cons]
      · apply ih

/-- With new ids, the replacements are those of the tasks whose ids have changed. -/
theorem replacements_distinguish
    (hnew : ∀ j ∈ Set.Ico i (i + (distinguish fresh seen i ts).2.length),
      fresh j ∉ ts.map (·.id)) :
  (distinguish fresh seen i ts).2
    = ((ts.zip (distinguish fresh seen i ts).1).filter fun (t, u) => t.id ≠ u.id).map
      fun (t, u) => ⟨t.id, u.id⟩
  := by
  induction ts generalizing seen i with
  | nil => rfl
  | cons t ts ih =>
      rw [distinguish] at hnew ⊢
      split_ifs at hnew ⊢
      · dsimp only at hnew ⊢
        rw [List.length_cons] at hnew
        have hfirst : t.id ≠ fresh i := by
          intro h
          apply hnew i ⟨le_refl i, by omega⟩
          rw [← h]
          apply List.mem_cons_self
        rw [List.zip_cons_cons, List.filter_cons_of_pos (by simpa using hfirst), List.map_cons,
          ← ih]
        rintro j ⟨hij, hj⟩ hmem
        apply hnew j ⟨by omega, by omega⟩
        apply List.mem_cons_of_mem _ hmem
      · dsimp only at hnew ⊢
        rw [List.zip_cons_cons, List.filter_cons_of_neg (by simp), ← ih]
        intro j hj hmem
        apply hnew j hj (List.mem_cons_of_mem _ hmem)

/-- The tasks of a batch are told apart with ids that are spare. -/
theorem distinguishes (h : Spare fresh ts) :
  Distinguishes fresh ts (distinguish fresh [] 0 ts).1 (distinguish fresh [] 0 ts).2
  := by
  have hlength : (distinguish fresh [] 0 ts).2.length = repeats ts := length_replacements
  have hrange : Set.Ico 0 (0 + (distinguish fresh [] 0 ts).2.length) = Set.Iio (repeats ts) := by
    rw [Nat.zero_add, hlength]
    apply Set.Ico_bot
  have hplace {n : ℕ} {t u : Task} (ht : ts[n]? = some t)
      (hu : (distinguish fresh [] 0 ts).1[n]? = some u) :
      (t.id ∈ (ts.take n).map (·.id) ∧ ∃ j < repeats ts, u.id = fresh j)
        ∨ (t.id ∉ (ts.take n).map (·.id) ∧ u.id = t.id) := by
    obtain ⟨t', ht', hcases⟩ := exists_getElem?_distinguish hu
    obtain rfl := Option.some.inj (ht.symm.trans ht')
    rcases hcases with ⟨hmem, j, -, hj, rfl⟩ | ⟨hnot, rfl⟩
    · exact .inl ⟨hmem, j, by omega, rfl⟩
    · exact .inr ⟨hnot, rfl⟩
  constructor
  · apply forall₂_distinguish
  · intro n t u ht hu
    rcases hplace ht hu with ⟨hmem, j, hj, hid⟩ | ⟨hnot, hid⟩
    · apply iff_of_false _ (not_not_intro hmem)
      intro hsame
      apply h.new j hj
      rw [← hid, hsame]
      apply List.mem_map_of_mem (List.mem_of_getElem? ht)
    · exact iff_of_true hid hnot
  · intro n t u ht hu hmem
    rcases hplace ht hu with ⟨-, hfresh⟩ | ⟨hnot, -⟩
    · exact hfresh
    · exact absurd hmem hnot
  · apply replacements_distinguish
    rw [hrange]
    apply h.new
  · rw [newIds_distinguish, hlength, List.range_eq_range']
  · apply nodup_distinguish
    · rw [hrange]
      intro j hj k hk
      apply List.inj_on_of_nodup_map h.distinct (List.mem_range.mpr hj) (List.mem_range.mpr hk)
    · rw [hrange]
      apply h.new

end Board

end Kanban
