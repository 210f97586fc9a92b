import Kanban.Keeper
import Kanban.Proofs.Json.RoundTrip
import Kanban.Proofs.Task

/-!
# Sound boards

A board is sound when its tasks and entries are valid and legible.  The snapshot of a sound
board reads as the board with its estimates settled (`Board.boardOfBytes?_snapshot`), and every
board that was read from bytes is sound (`Board.sound_of_boardOfBytes?`).
-/

namespace Kanban

open Checked

theorem Members.legible_value {m : Members} (h : Json.Legible (.obj m)) (name : Text) :
  (m.value name).Legible
  := by
  replace h := (Json.legible_obj_iff.mp h).2
  rw [Members.value]
  induction m with
  | nil => trivial
  | cons p m ih =>
      obtain ⟨hp, hm⟩ := List.forall_mem_cons.mp h
      rw [Members.get?]
      split_ifs
      · apply hp
      · apply ih hm

/-! ### Tasks -/

/-- A valid task whose written form is legible. -/
structure Task.Sound (t : Task) : Prop where
  valid : t.Valid
  legible : t.toJson.Legible

theorem Task.Sound.settled {t : Task} (h : t.Sound) :
  t.settled.Sound
  := ⟨h.valid.settled, Task.legible_settled h.valid h.legible⟩

/-- What is accepted as a task is one, and a sound one if the value is legible. -/
theorem Task.sound_of_check {v : Json} {t : Task} (h : check v = ok t) (hv : v.Legible) :
  t.Sound
  := by
  obtain ⟨m, rfl, hvalue, hvalid⟩ := check_eq_ok_iff.mp h
  refine ⟨hvalid, Record.legible_toJson_iff.mpr fun f => ?_⟩
  rw [← hvalue f]
  apply Members.legible_value hv

theorem Task.valid_of_read {v : Json} {t : Task} (h : read v = ok t) :
  t.Valid
  := by
  obtain ⟨u, hu, rfl⟩ := Checked.map_eq_ok_iff.mp h
  obtain ⟨m, -, -, hvalid⟩ := check_eq_ok_iff.mp hu
  apply hvalid.settled

theorem Task.sound_of_read {v : Json} {t : Task} (h : read v = ok t) (hv : v.Legible) :
  t.Sound
  := by
  obtain ⟨u, hu, rfl⟩ := Checked.map_eq_ok_iff.mp h
  apply (sound_of_check hu hv).settled

/-! ### Entries -/

namespace Entry

/-- An entry that is read from its written form. -/
structure Valid (e : Entry) : Prop where
  id : Check.isUuid e.id = true
  timestamp : Check.Readable e.timestamp

/-- A valid entry whose written form is legible. -/
structure Sound (e : Entry) : Prop where
  valid : e.Valid
  legible : e.toJson.Legible

/-- The members from which an entry is read. -/
theorem ofMembers_eq_ok_iff {m : Members} {e : Entry} :
  ofMembers m = ok e
    ↔ m.value "id" = .str e.id ∧ m.value "timestamp" = .str e.timestamp
      ∧ m.value "action" = .str e.action.name ∧ m.value "taskId" = .str e.taskId
      ∧ Check.changes (m.get? "diff") = ok e.changes
      ∧ m.value "actorLabel" = .str actorLabel ∧ e.Valid
  := by
  simp only [ofMembers, seq_eq_ok_iff, Checked.fmap_eq_ok_iff, Members.check_eq_ok_iff,
    Check.uuid_eq_ok_iff, Check.time_eq_ok_iff, Check.action_eq_ok_iff, Check.text_eq_ok_iff,
    Check.actorLabel_eq_ok_iff]
  constructor
  · rintro ⟨_, ⟨_, ⟨_, ⟨_, ⟨_, ⟨id, ⟨hid, hid'⟩, rfl⟩, timestamp, ⟨htime, htime'⟩, rfl⟩,
      action, haction, rfl⟩, taskId, htask, rfl⟩, changes, hchanges, rfl⟩, _, hlabel, rfl⟩
    exact ⟨hid, htime, haction, htask, hchanges, hlabel, hid', htime'⟩
  · rintro ⟨hid, htime, haction, htask, hchanges, hlabel, hvalid⟩
    exact ⟨_, ⟨_, ⟨_, ⟨_, ⟨_, ⟨_, ⟨hid, hvalid.id⟩, rfl⟩, _, ⟨htime, hvalid.timestamp⟩, rfl⟩,
      _, haction, rfl⟩, _, htask, rfl⟩, _, hchanges, rfl⟩, (), hlabel, rfl⟩

/-- A valid entry is read from its written form. -/
theorem read_toJson {e : Entry} (h : e.Valid) :
  read e.toJson = ok e
  := by
  have hchanges (cs : List Change) :
      List.Forall₂ (fun x c => Check.change x.1 x.2 = ok c) (cs.map Change.toMember) cs := by
    rw [List.forall₂_map_left_iff, List.forall₂_same]
    intro c _
    simp [Change.toMember, Check.change, Members.value, Members.get?]
  apply ofMembers_eq_ok_iff.mpr
  refine ⟨rfl, rfl, rfl, rfl, ?_, rfl, h⟩
  apply Check.changes_eq_ok_iff.mpr
  exact ⟨_, rfl, hchanges e.changes⟩

theorem valid_of_read {v : Json} {e : Entry} (h : read v = ok e) :
  e.Valid
  := by
  cases v with
  | obj m =>
      obtain ⟨-, -, -, -, -, -, hvalid⟩ := ofMembers_eq_ok_iff.mp h
      apply hvalid
  | _ => cases h

theorem legible_toJson_iff {e : Entry} :
  e.toJson.Legible
    ↔ (e.changes.map Change.field).Nodup ∧ ∀ c ∈ e.changes, c.before.Legible ∧ c.after.Legible
  := by
  have hchange (c : Change) : c.toMember.2.Legible ↔ c.before.Legible ∧ c.after.Legible := by
    simp [Change.toMember, Json.legible_obj_iff]
  have hnames : (e.changes.map Change.toMember).map Prod.fst = e.changes.map Change.field := by
    rw [List.map_map]
    rfl
  have hdiff : Json.Legible (.obj (e.changes.map Change.toMember))
      ↔ (e.changes.map Change.field).Nodup
        ∧ ∀ c ∈ e.changes, c.before.Legible ∧ c.after.Legible := by
    rw [Json.legible_obj_iff, hnames, List.forall_mem_map]
    simp only [hchange]
  rw [← hdiff]
  constructor
  · intro h
    apply (Json.legible_obj_iff.mp h).2 ("diff", _)
    simp
  · intro h
    apply Json.legible_obj_iff.mpr
    constructor
    · change (["id", "timestamp", "action", "taskId", "diff", "actorLabel"] : List Text).Nodup
      decide
    · intro m hm
      simp only [List.mem_cons, List.not_mem_nil, or_false] at hm
      rcases hm with rfl | rfl | rfl | rfl | rfl | rfl
      all_goals first | exact h | trivial

/-- What is read as an entry is sound if the value is legible. -/
theorem sound_of_read {v : Json} {e : Entry} (h : read v = ok e) (hv : v.Legible) :
  e.Sound
  := by
  cases v with
  | obj m =>
      obtain ⟨-, -, -, -, hchanges, -, hvalid⟩ := ofMembers_eq_ok_iff.mp h
      obtain ⟨d, hd, hcs⟩ := Check.changes_eq_ok_iff.mp hchanges
      have hlegible : Json.Legible (.obj d) := by
        rw [← hd]
        apply Members.legible_value hv
      obtain ⟨hnodup, hvalues⟩ := Json.legible_obj_iff.mp hlegible
      have hnames : e.changes.map Change.field = d.map Prod.fst := by
        clear hd hlegible hnodup hvalues
        generalize e.changes = cs at hcs
        induction hcs with
        | nil => rfl
        | cons hc _ ih =>
            obtain ⟨w, -, rfl⟩ := Check.change_eq_ok_iff.mp hc
            rw [List.map_cons, List.map_cons, ih]
      refine ⟨hvalid, legible_toJson_iff.mpr ⟨hnames ▸ hnodup, ?_⟩⟩
      intro c hc
      obtain ⟨x, hx, hxc⟩ := exists_mem_left hcs hc
      obtain ⟨w, hw, rfl⟩ := Check.change_eq_ok_iff.mp hxc
      have hwl : Json.Legible (.obj w) := hw ▸ hvalues x hx
      exact ⟨Members.legible_value hwl _, Members.legible_value hwl _⟩
  | _ => cases h

end Entry

/-! ### Boards -/

namespace Board

/-- All tasks are valid. -/
def Valid (b : Board) : Prop := ∀ t ∈ b.tasks, t.Valid

/-- A board whose tasks and entries are sound. -/
structure Sound (b : Board) : Prop where
  tasks : ∀ t ∈ b.tasks, t.Sound
  audit : ∀ e ∈ b.audit, e.Sound

theorem Sound.valid {b : Board} (h : b.Sound) :
  b.Valid
  := by
  intro t ht
  apply (h.tasks t ht).valid

/-- A board as it is read from its snapshot. -/
def settled (b : Board) : Board := { b with tasks := b.tasks.map Task.settled }

theorem Sound.settled {b : Board} (h : b.Sound) :
  b.settled.Sound
  := by
  refine ⟨?_, h.audit⟩
  intro t ht
  obtain ⟨u, hu, rfl⟩ := List.mem_map.mp ht
  apply (h.tasks u hu).settled

/-- The estimates of a board are settled. -/
def IsSettled (b : Board) : Prop := ∀ t ∈ b.tasks, t.estimate.settled = t.estimate

theorem IsSettled.eq {b : Board} (h : b.IsSettled) :
  b.settled = b
  := by
  have htasks : b.tasks.map Task.settled = b.tasks := by
    apply Eq.trans (List.map_congr_left _) (List.map_id' _)
    intro t ht
    rw [Task.settled]
    rw [h t ht]
  rw [settled]
  rw [htasks]

theorem sound_empty :
  empty.Sound
  := ⟨by simp [empty], by simp [empty]⟩

/-- The members from which a board is read. -/
theorem read_eq_ok_iff {v : Json} {b : Board} :
  read v = ok b
    ↔ ∃ m : Members, v = .obj m
      ∧ (∃ items, m.value "tasks" = .arr items
        ∧ List.Forall₂ (fun x t => Task.read x = ok t) items b.tasks)
      ∧ (∃ items, m.value "audit" = .arr items
        ∧ List.Forall₂ (fun x e => Entry.read x = ok e) items b.audit)
      ∧ m.value "reviewMode" = .bool b.reviewMode
  := by
  cases v with
  | obj m =>
      simp only [read, ofMembers, seq_eq_ok_iff, Checked.fmap_eq_ok_iff, Members.check_eq_ok_iff,
        Check.list_eq_ok_iff, Check.flag_eq_ok_iff]
      constructor
      · rintro ⟨_, ⟨_, ⟨tasks, htasks, rfl⟩, audit, haudit, rfl⟩, mode, hmode, rfl⟩
        exact ⟨m, rfl, htasks, haudit, hmode⟩
      · rintro ⟨_, h, htasks, haudit, hmode⟩
        obtain rfl := Json.obj.inj h
        exact ⟨_, ⟨_, ⟨_, htasks, rfl⟩, _, haudit, rfl⟩, _, hmode, rfl⟩
  | _ => simp [read]

/-- A board of valid tasks and entries is read from its written form, in settled form. -/
theorem read_toJson_of_valid {b : Board} (hb : b.Valid) (haudit : ∀ e ∈ b.audit, e.Valid) :
  read b.toJson = ok b.settled
  := by
  apply read_eq_ok_iff.mpr
  refine ⟨_, rfl, ⟨_, rfl, ?_⟩, ⟨_, rfl, ?_⟩, rfl⟩
  · apply List.forall₂_map_left_iff.mpr
    apply List.forall₂_map_right_iff.mpr
    apply List.forall₂_same.mpr
    intro t ht
    apply Task.read_toJson (hb t ht)
  · apply List.forall₂_map_left_iff.mpr
    apply List.forall₂_same.mpr
    intro e he
    apply Entry.read_toJson (haudit e he)

theorem read_toJson {b : Board} (h : b.Sound) :
  read b.toJson = ok b.settled
  := read_toJson_of_valid h.valid fun e he => (h.audit e he).valid

/-- What is read as a board has valid tasks. -/
theorem valid_of_read {v : Json} {b : Board} (h : read v = ok b) :
  b.Valid
  := by
  obtain ⟨m, -, ⟨items, -, htasks⟩, -⟩ := read_eq_ok_iff.mp h
  intro t ht
  obtain ⟨x, -, hx⟩ := exists_mem_left htasks ht
  apply Task.valid_of_read hx

/-- What is read as a board has valid entries. -/
theorem valid_of_mem_audit {v : Json} {b : Board} (h : read v = ok b) {e : Entry}
    (he : e ∈ b.audit) :
  e.Valid
  := by
  obtain ⟨m, -, -, ⟨items, -, haudit⟩, -⟩ := read_eq_ok_iff.mp h
  obtain ⟨x, -, hx⟩ := exists_mem_left haudit he
  apply Entry.valid_of_read hx

/-- A board is legible when its tasks and entries are. -/
theorem legible_toJson_iff {b : Board} :
  b.toJson.Legible ↔ (∀ t ∈ b.tasks, t.toJson.Legible) ∧ ∀ e ∈ b.audit, e.toJson.Legible
  := by
  simp [toJson, Json.legible_obj_iff, Json.Legible, Json.legibleItems_iff]

theorem Sound.legible {b : Board} (h : b.Sound) :
  b.toJson.Legible
  := legible_toJson_iff.mpr ⟨fun t ht => (h.tasks t ht).legible, fun e he => (h.audit e he).legible⟩

/-- What is read as a board is sound if the value is legible. -/
theorem sound_of_read {v : Json} {b : Board} (h : read v = ok b) (hv : v.Legible) :
  b.Sound
  := by
  obtain ⟨m, rfl, ⟨ts, hts, htasks⟩, ⟨es, hes, haudit⟩, -⟩ := read_eq_ok_iff.mp h
  have hts : ∀ x ∈ ts, x.Legible := by
    rw [← Json.legible_arr_iff, ← hts]
    apply Members.legible_value hv
  have hes : ∀ x ∈ es, x.Legible := by
    rw [← Json.legible_arr_iff, ← hes]
    apply Members.legible_value hv
  constructor
  · intro t ht
    obtain ⟨x, hx, hxt⟩ := exists_mem_left htasks ht
    apply Task.sound_of_read hxt (hts x hx)
  · intro e he
    obtain ⟨x, hx, hxe⟩ := exists_mem_left haudit he
    apply Entry.sound_of_read hxe (hes x hx)

/-- What is read as a board has settled estimates. -/
theorem isSettled_of_read {v : Json} {b : Board} (h : read v = ok b) :
  b.IsSettled
  := by
  obtain ⟨m, -, ⟨ts, -, htasks⟩, -⟩ := read_eq_ok_iff.mp h
  intro t ht
  obtain ⟨x, -, hxt⟩ := exists_mem_left htasks ht
  obtain ⟨u, -, rfl⟩ := Checked.map_eq_ok_iff.mp hxt
  apply Number.settled_settled

/-- What was read as a board is read from its written form as the same board. -/
theorem read_toJson_of_read {v : Json} {b : Board} (h : read v = ok b) :
  read b.toJson = ok b
  := by
  rw [read_toJson_of_valid (valid_of_read h) fun _ he => valid_of_mem_audit h he]
  rw [(isSettled_of_read h).eq]

theorem snapshot_eq_ok_iff {b : Board} {bytes : ByteArray} :
  b.snapshot = .ok bytes ↔ ∃ t, b.text? none = some t ∧ t.encode? = some bytes
  := by
  rw [snapshot]
  cases b.text? none with
  | none => simp [throw, throwThe, MonadExceptOf.throw]
  | some t =>
      cases h : t.encode? <;> simp [h, pure, Except.pure, throw, throwThe, MonadExceptOf.throw]

/-- The snapshot of a board is decoded to its written form, as long as this is legible. -/
theorem decodeBytes?_snapshot {b : Board} {bytes : ByteArray} (hlegible : b.toJson.Legible)
    (h : b.snapshot = .ok bytes) :
  Keeper.decodeBytes? bytes = some b.toJson
  := by
  obtain ⟨t, ht, hbytes⟩ := snapshot_eq_ok_iff.mp h
  obtain ⟨s, rfl, hs⟩ := Json.exists_decodeUtf8?_of_encode? hbytes
  rw [Keeper.decodeBytes?, hs]
  apply Json.read?_write? hlegible ht

/-- The snapshot of a sound board is that board, settled. -/
theorem boardOfBytes?_snapshot {b : Board} {bytes : ByteArray} (hsound : b.Sound)
    (h : b.snapshot = .ok bytes) :
  Keeper.boardOfBytes? bytes = some b.settled
  := by
  rw [Keeper.boardOfBytes?, decodeBytes?_snapshot hsound.legible h, Option.bind_eq_bind,
    Option.bind_some, read_toJson hsound]
  rfl

theorem legible_of_decodeBytes? {bytes : ByteArray} {v : Json}
    (h : Keeper.decodeBytes? bytes = some v) :
  v.Legible
  := by
  obtain ⟨s, -, h⟩ := Option.bind_eq_some_iff.mp h
  apply Json.legible_of_read? h

theorem read_of_boardOfBytes? {bytes : ByteArray} {b : Board}
    (h : Keeper.boardOfBytes? bytes = some b) :
  ∃ v, Keeper.decodeBytes? bytes = some v ∧ read v = ok b
  := by
  obtain ⟨v, hv, h⟩ := Option.bind_eq_some_iff.mp h
  refine ⟨v, hv, ?_⟩
  cases hread : read v with
  | ok c =>
      rw [hread] at h
      obtain rfl := Option.some.inj h
      rfl
  | bad first more =>
      rw [hread] at h
      cases h

/-- A board that was read from bytes is sound. -/
theorem sound_of_boardOfBytes? {bytes : ByteArray} {b : Board}
    (h : Keeper.boardOfBytes? bytes = some b) :
  b.Sound
  := by
  obtain ⟨v, hv, hread⟩ := read_of_boardOfBytes? h
  apply sound_of_read hread (legible_of_decodeBytes? hv)

end Board

end Kanban
