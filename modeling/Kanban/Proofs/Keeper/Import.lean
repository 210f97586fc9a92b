import Kanban.Proofs.Board.Issue
import Kanban.Proofs.Board.Repeats
import Kanban.Proofs.Keeper.Boot

/-!
# Imports

What a keeper takes over from a snapshot is the board in it with the repeated ids replaced, and an
entry for each replacement in front of its log (`Keeper.import_reconciles`).  A snapshot that is not
a board is rejected with its issues.
-/

namespace Kanban

/-- An entry about a replacement: the task that has the new id has had the old one. -/
structure Entry.Records (x : Entry) (r : Replacement) : Prop where
  action : x.action = .update
  taskId : x.taskId = r.newId
  changes : x.changes = [⟨"id", .str r.oldId, .str r.newId⟩]

namespace Board

variable {s : Stamp}

theorem records_replacementEntry {i : ℕ} {r : Replacement} {x : Entry}
    (h : replacementEntry s i r = .ok x) :
  x.Records r
  := by
  obtain ⟨m, -, rfl⟩ := Stamp.entry_eq_ok_iff.mp h
  constructor <;> rfl

/-- As long as the watch shows a time, there is an entry for each replacement, the last one
first. -/
theorem exists_noteReplacements (hs : ∀ i, (s.now.shows i).isSome = true) (b : Board)
    (rs : List Replacement) :
  ∃ entries, List.Forall₂ Entry.Records entries rs.reverse
    ∧ b.noteReplacements s rs = .ok { b with audit := entries ++ b.audit }
  := by
  have hentry : ∀ x ∈ rs.zipIdx, ∃ e, replacementEntry s (rs.length + x.2) x.1 = .ok e := by
    rintro ⟨r, i⟩ -
    obtain ⟨m, hm⟩ := Option.isSome_iff_exists.mp (hs (rs.length + i))
    exact ⟨_, Stamp.entry_eq_ok_iff.mpr ⟨m, hm, rfl⟩⟩
  obtain ⟨entries, hentries⟩ := exists_mapM_iff.mpr hentry
  have hrecords : List.Forall₂ (fun e r => e.Records r) entries rs := by
    have hflip : List.Forall₂ (fun r e => e.Records r) (rs.zipIdx.map Prod.fst) entries := by
      rw [List.forall₂_map_left_iff]
      apply (mapM_eq_ok_iff.mp hentries).imp
      intro x e he
      apply records_replacementEntry he
    rw [List.zipIdx_map_fst] at hflip
    apply hflip.flip
  use entries.reverse
  constructor
  · apply List.forall₂_reverse_iff.mpr hrecords
  · rw [noteReplacements]
    apply bind_eq_ok_iff.mpr
    exact ⟨entries, hentries, rfl⟩

theorem intake_of_read (fresh : ℕ → Text) {v : Json} {c : Board} (h : read v = .ok c) :
  intake fresh v = .ok ({ c with tasks := (distinguish fresh [] 0 c.tasks).1 },
    (distinguish fresh [] 0 c.tasks).2)
  := by
  rw [intake, h]
  rfl

theorem intake_of_read_bad (fresh : ℕ → Text) {v : Json} {first : Issue} {more : List Issue}
    (h : read v = .bad first more) :
  intake fresh v = .bad first more
  := by
  rw [intake, h]
  rfl

end Board

namespace Keeper

variable {β : Type} [Backend β]

/-- An import takes over all tasks of a snapshot, in order, each with all that it has but perhaps
its id, and the review flag.  The log is that of the snapshot with an entry for each replacement in
front of it, the last one first.  What is not a board is rejected with the issues that it has, or
the import fails if they cannot be shown. -/
theorem import_reconciles (k : Keeper β) (src : Source) (v : Json) :
  (∀ first more, Board.read v = .bad first more →
      Board.intake (src.stamp k.drawn).fresh v = .bad first more
      ∧ k.importValue src v
        = (match (Board.read v).shown? with
          | none => .error (.refused .longInteger)
          | some _ => .ok (.rejected first more), k))
    ∧ ∀ c, Board.read v = .ok c → Board.Spare (src.stamp k.drawn).fresh c.tasks →
      (∃ (m : Members) (items : List Json), v = .obj m ∧ m.value "tasks" = .arr items
        ∧ List.Forall₂ (fun x t => Task.read x = .ok t) items c.tasks
        ∧ m.value "reviewMode" = .bool c.reviewMode)
      ∧ ∃ us rs, Board.Distinguishes (src.stamp k.drawn).fresh c.tasks us rs
        ∧ Board.intake (src.stamp k.drawn).fresh v = .ok (⟨us, c.audit, c.reviewMode⟩, rs)
        ∧ ∀ now, src.now = some now →
          ∃ entries, List.Forall₂ Entry.Records entries rs.reverse
            ∧ k.importValue src v
              = k.commit (2 * rs.length) ⟨us, entries ++ c.audit, c.reviewMode⟩ (.accepted rs)
  := by
  constructor
  · intro first more hread
    have hintake := Board.intake_of_read_bad (src.stamp k.drawn).fresh hread
    apply And.intro hintake
    rw [importValue, Board.adopt, Board.intake, Checked.shown?_map]
    cases hshown : (Board.read v).shown? with
    | none => rfl
    | some c =>
        rw [Checked.eq_of_shown? hshown, hread]
        rfl
  · intro c hread hspare
    obtain ⟨m, hv, ⟨items, hitems, htasks⟩, -, hmode⟩ := Board.read_eq_ok_iff.mp hread
    have hintake := Board.intake_of_read (src.stamp k.drawn).fresh hread
    refine ⟨⟨m, items, hv, hitems, htasks, hmode⟩, _, _, Board.distinguishes hspare, hintake, ?_⟩
    intro now hnow
    have hshows (i : ℕ) : ((src.stamp k.drawn).now.shows i).isSome = true := by
      simp [Source.stamp, Watch.still, hnow]
    obtain ⟨entries, hentries, hnote⟩ := Board.exists_noteReplacements hshows
      { c with tasks := (Board.distinguish (src.stamp k.drawn).fresh [] 0 c.tasks).1 }
      (Board.distinguish (src.stamp k.drawn).fresh [] 0 c.tasks).2
    refine ⟨entries, hentries, ?_⟩
    rw [importValue, Board.adopt, hintake, Checked.shown?_ok]
    dsimp only
    rw [hnote]
    rfl

/-- Of three tasks with one id the second and the third get ids that are drawn, and `null` is no
board. -/
theorem import_reconciles_harvests :
  (∃ us rs entries, Board.Distinguishes (Uuid.supply 0) (harvests 3 "Harvest").tasks us rs
      ∧ rs.map (·.newId) = [Uuid.supply 0 0, Uuid.supply 0 1]
      ∧ List.Forall₂ Entry.Records entries rs.reverse
      ∧ single.importValue ⟨some january, Uuid.supply 0⟩ (harvests 3 "Harvest").toJson
        = single.commit (2 * rs.length) ⟨us, entries ++ [], false⟩ (.accepted rs))
    ∧ single.importValue ⟨some january, Uuid.supply 0⟩ .null
      = (.ok (.rejected ⟨[], .kind "object" "null"⟩ []), single)
  := by
  have hread : Board.read (harvests 3 "Harvest").toJson = .ok (harvests 3 "Harvest") := by
    rw [Board.read_toJson (sound_harvests (by decide) 3), (isSettled_harvests 3 "Harvest").eq]
  have hfresh :
      (Source.stamp ⟨some january, Uuid.supply 0⟩ single.drawn).fresh = Uuid.supply 0 := by
    funext i
    exact congrArg (Uuid.supply 0) (Nat.zero_add i)
  have hrepeats : Board.repeats (harvests 3 "Harvest").tasks = 2 := by decide +kernel
  have hspare : Board.Spare (Uuid.supply 0) (harvests 3 "Harvest").tasks := by decide +kernel
  obtain ⟨-, haccepted⟩ :=
    import_reconciles single ⟨some january, Uuid.supply 0⟩ (harvests 3 "Harvest").toJson
  obtain ⟨hrejected, -⟩ := import_reconciles single ⟨some january, Uuid.supply 0⟩ .null
  rw [hfresh] at haccepted
  obtain ⟨-, us, rs, hdistinguishes, -, himport⟩ := haccepted _ hread hspare
  obtain ⟨entries, hentries, hcommit⟩ := himport january rfl
  have hnewIds := hdistinguishes.inOrder
  rw [hrepeats] at hnewIds
  exact ⟨⟨us, rs, entries, hdistinguishes, hnewIds, hentries, hcommit⟩, (hrejected _ _ rfl).2⟩

end Keeper

end Kanban
