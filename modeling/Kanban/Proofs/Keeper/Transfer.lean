import Kanban.Proofs.Keeper.Decoding
import Kanban.Proofs.Keeper.Reachable

/-!
# Boards that change hands

The text of a board is written for other keepers to take over.  When the ids of its tasks are
distinct none of them has to be replaced, so that the board which is taken over is the one that
was given away, with no entry of its own about it (`Keeper.transfer`).
-/

namespace Kanban

namespace Board

/-- Tasks with distinct ids, none of which was seen before, keep them. -/
theorem distinguish_of_nodup {fresh : Nat → Text} {seen : List Text} {i : Nat}
    {ts : List Task} (hnodup : (ts.map (·.id)).Nodup) (hnew : ∀ t ∈ ts, t.id ∉ seen) :
  distinguish fresh seen i ts = (ts, [])
  := by
  induction ts generalizing seen with
  | nil => rfl
  | cons t ts ih =>
      obtain ⟨ht, hnew⟩ := List.forall_mem_cons.mp hnew
      rw [List.map_cons, List.nodup_cons] at hnodup
      have hrest : ∀ u ∈ ts, u.id ∉ t.id :: seen := by
        intro u hu hmem
        rcases List.mem_cons.mp hmem with hid | hmem
        · apply hnodup.1
          rw [← hid]
          apply List.mem_map_of_mem hu
        · apply hnew u hu hmem
      rw [distinguish, if_neg (by simpa using ht), ih hnodup.2 hrest]

theorem taskIds_settled (b : Board) :
  b.settled.taskIds = b.taskIds
  := by
  rw [taskIds, settled, List.map_map]
  rfl

/-- A sound board with distinct ids is taken over as it is. -/
theorem adopt_toJson {s : Stamp} {b : Board} (hb : b.Sound) (hnodup : b.taskIds.Nodup) :
  adopt s b.toJson = .ok (.ok (b.settled, []))
  := by
  have hkept : distinguish s.fresh [] 0 b.settled.tasks = (b.settled.tasks, []) := by
    apply distinguish_of_nodup
    · rwa [← b.taskIds_settled] at hnodup
    · simp
  apply adopt_eq_ok_ok_iff.mpr
  refine ⟨b.settled, [], read_toJson hb, ?_, rfl, ?_⟩
  · rw [hkept]
  · rw [hkept]
    rfl

end Board

namespace Keeper

variable {β γ : Type} [Backend β] [Backend γ] {ids : Nat → Text}

/-- The board of a reachable keeper that is whole has a text, and this has bytes.  The text or the
bytes can be taken over by any keeper that can save: no id is replaced, and the board there, which
is saved, is alike to the one here. -/
theorem transfer (hids : ∀ i, Check.isUuid (ids i) = true) {k : Keeper β} (hk : Reachable ids k)
    (hnodup : k.board.taskIds.Nodup) (hwhole : k.board.Whole) {target : Keeper γ}
    (hsave : Backend.Writable target.backend) (src : Source) (indent : Option Nat) :
  ∃ (t : Text) (bytes saved : ByteArray) (target' : Keeper γ),
    k.board.text? indent = some t ∧ t.encode? = some bytes
    ∧ target'.board.Alike k.board ∧ target'.board.snapshot = .ok saved
    ∧ Backend.save saved target.backend = (.ok (), target'.backend)
    ∧ target.importText src t = (.ok (.accepted []), target')
    ∧ target.importBytes src bytes = (.ok (.accepted []), target')
  := by
  have hsound := hk.sound hids
  obtain ⟨t, bytes, ht, hbytes⟩ :=
    (Board.exists_encode?_text?_iff hsound.legible indent).mpr hwhole
  obtain ⟨saved, hsaved⟩ := (Board.exists_snapshot_iff hsound.settled).mpr hwhole.settled
  obtain ⟨w, hw, hcommit⟩ := exists_commit hsave 0 hsaved (Import.accepted [])
  have himport : target.importValue src k.board.toJson
      = (.ok (.accepted []), ⟨⟨w, target.drawn⟩, k.board.settled⟩) := by
    rw [importValue, Board.adopt_toJson hsound hnodup]
    apply hcommit
  refine ⟨t, bytes, saved, ⟨⟨w, target.drawn⟩, k.board.settled⟩, ht, hbytes,
    k.board.settled_alike, hsaved, hw, ?_, ?_⟩
  · rw [importText, decodeText?_text hsound.legible ht]
    apply himport
  · rw [importBytes, decodeBytes?_text hsound.legible ht hbytes]
    apply himport

/-- The sample board replaces a board with one task. -/
theorem transfer_sample :
  ∃ (k : Keeper Memory) (t : Text) (target' : Keeper Memory), k.board.tasks.length = 5
    ∧ k.board.text? (some 2) = some t ∧ target'.board.Alike k.board
    ∧ single.importText ⟨none, Uuid.supply 1⟩ t = (.ok (.accepted []), target')
  := by
  obtain ⟨b, hb, hstart⟩ := start_empty false
  have hnodup : b.taskIds.Nodup := by
    rw [Board.taskIds_sample hb]
    decide
  have hlength : b.tasks.length = 5 := by
    rw [← List.length_map, ← Board.taskIds, Board.taskIds_sample hb]
    rfl
  have hk : Reachable (Uuid.supply 0) ⟨holding b 1 Board.samples.length, b⟩ :=
    .started utc_january hstart
  have hsave : Backend.Writable single.backend := fun _ => ⟨_, rfl⟩
  have hwhole : b.Whole :=
    Board.whole_of_sample (proper_stamp (Uuid.isUuid_supply 0) utc_january 0) hb
  obtain ⟨t, -, -, target', ht, -, halike, -, -, himport, -⟩ :=
    transfer (Uuid.isUuid_supply 0) hk hnodup hwhole hsave ⟨none, Uuid.supply 1⟩ (some 2)
  exact ⟨_, t, target', hlength, ht, halike, himport⟩

end Keeper

end Kanban
