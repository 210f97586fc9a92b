import Kanban.Proofs.Keeper.Ids
import Kanban.Proofs.Keeper.Reload

/-!
# What opening a board promises

A keeper that was started has distinct ids only if the snapshot that it found has
(`Keeper.nodup_iff_of_start`).  It can be started on whatever stands in its place, unless accents
are to be restored and a text has a disguised word, or the board that results is not whole and
cannot be saved (`Keeper.opens_iff`).  And starting it again changes nothing more, unless it has
made a sample board and accents are to be restored (`Keeper.start_again`).
-/

namespace Kanban

/-- The accents of the board cannot be restored, since a text has a disguised word, or the board
with its accents cannot be saved, since a text is not whole. -/
def Board.Unrestorable (b : Board) : Prop :=
  b.HasDisguise ∨ ((∃ b', b.restoreAccents = .ok (b', true)) ∧ ¬ b.Whole)

namespace Keeper

variable {β : Type} [Backend β] {src : Source} {accents : Bool} {w : Surroundings β}
  {k : Keeper β} {content : Option ByteArray} {ids : Nat → Text}

/-! ### Places in memory -/

/-- A place in memory with the snapshot of a board, after some saves and draws. -/
def holding (b : Board) (saves drawn : Nat) : Surroundings Memory :=
  ⟨⟨b.snapshot.toOption, saves, false⟩, drawn⟩

/-- A time from which the tasks of the sample board can be due. -/
def january : Moment := ⟨10 * Moment.day, some 0⟩

theorem utc_january :
  ∀ m ∈ some january, m.Utc
  := by
  intro m hm
  obtain rfl := Option.some.inj hm
  exact ⟨rfl, by decide⟩

theorem due_january :
  ∀ x ∈ Board.samples, (january.addDays? x.days).isSome = true
  := by
  decide

/-- A board of tasks with one id and some title. -/
def harvests (n : Nat) (title : Text) : Board :=
  ⟨List.replicate n { harvest with title }, [], false⟩

theorem sound_harvests {title : Text} (h : Check.leastTitle ≤ title.length) (n : Nat) :
  (harvests n title).Sound
  := by
  have hreadable : Check.Readable harvest.createdAt := by
    rw [Check.Readable]
    decide +kernel
  have hvalid : Task.Valid { harvest with title } :=
    ⟨Uuid.isUuid_supply 9 0, h, Board.isEstimate_int (by decide), hreadable, by simp [harvest],
      by simp [harvest]⟩
  have hlegible : Number.Legible harvest.estimate := Number.legible_of_small (by decide)
  constructor
  · intro t ht
    obtain rfl := List.eq_of_mem_replicate ht
    apply Task.sound_of_estimate hvalid rfl hlegible
  · simp [harvests]

theorem whole_harvests {title : Text} (h : title.isWhole = true) (n : Nat) :
  (harvests n title).Whole
  := by
  have hwhole : harvest.Whole := by
    apply Task.isWhole_toJson_iff.mp
    decide +kernel
  constructor
  · intro t ht
    obtain rfl := List.eq_of_mem_replicate ht
    apply hwhole.of_eq_except (u := { harvest with title }) (g := .title) h
    intro f hf
    cases f <;> first | rfl | exact absurd rfl hf
  · simp [harvests]

theorem isSettled_harvests (n : Nat) (title : Text) :
  (harvests n title).IsSettled
  := by
  intro t ht
  obtain rfl := List.eq_of_mem_replicate ht
  rfl

/-- A board with one entry, about a change from one value to another. -/
def noting (before after : Json) : Board :=
  ⟨[], [⟨Uuid.supply 9 0, "2020-01-01T00:00:00Z", .update, Uuid.supply 9 1,
    [⟨"score", before, after⟩]⟩], false⟩

theorem sound_noting {before after : Json} (hbefore : before.Legible) (hafter : after.Legible) :
  (noting before after).Sound
  := by
  have hreadable : Check.Readable "2020-01-01T00:00:00Z" := by
    rw [Check.Readable]
    decide +kernel
  constructor
  · simp [noting]
  · intro e he
    obtain rfl := List.mem_singleton.mp he
    refine ⟨⟨Uuid.isUuid_supply 9 0, hreadable⟩, Entry.legible_toJson_iff.mpr ⟨by simp, ?_⟩⟩
    simpa using ⟨hbefore, hafter⟩

theorem isSettled_noting (before after : Json) :
  (noting before after).IsSettled
  := by
  simp [noting, Board.IsSettled]

theorem whole_noting {before after : Json} (hbefore : before.isWhole = true)
    (hafter : after.isWhole = true) :
  (noting before after).Whole
  := by
  constructor
  · simp [noting]
  · intro e he
    obtain rfl := List.mem_singleton.mp he
    refine ⟨Check.isWhole_of_isUuid (Uuid.isUuid_supply 9 0), Text.isWhole_ofString _,
      Check.isWhole_of_isUuid (Uuid.isUuid_supply 9 1), ?_⟩
    rw [List.forall_mem_singleton]
    exact ⟨Text.isWhole_ofString _, hbefore, hafter⟩

theorem read_holding {b : Board} (hsound : b.Sound) (hsettled : b.IsSettled) (hwhole : b.Whole) :
  b.snapshot.toOption.bind boardOfBytes? = some b
  := by
  obtain ⟨bytes, hbytes⟩ := (Board.exists_snapshot_iff hsound).mpr hwhole
  rw [hbytes]
  change boardOfBytes? bytes = some b
  rw [Board.boardOfBytes?_snapshot hsound hbytes, hsettled.eq]

theorem load_holding (b : Board) (saves drawn : Nat) :
  Backend.load (holding b saves drawn).backend = .ok b.snapshot.toOption
  := rfl

theorem openSaving_eq_holding {b : Board} {bytes : ByteArray} (hbytes : b.snapshot = .ok bytes)
    (content : Option ByteArray) (saves drawn n : Nat) :
  (openSaving ⟨⟨content, saves, false⟩, drawn⟩ n b).1
    = .ok ⟨holding b (saves + 1) (drawn + n), b⟩
  := by
  apply openSaving_eq_ok_iff.mpr
  refine ⟨bytes, _, hbytes, rfl, ?_⟩
  rw [holding, hbytes]
  rfl

/-- On nothing a sample board is opened, and saved. -/
theorem start_empty (accents : Bool) :
  ∃ b, Board.sample (Source.stamp ⟨some january, Uuid.supply 0⟩ 0) = .ok b
    ∧ (start ⟨some january, Uuid.supply 0⟩ accents ⟨Memory.empty, 0⟩).1
      = .ok ⟨holding b 1 Board.samples.length, b⟩
  := by
  have hsample : ∃ b, Board.sample (Source.stamp ⟨some january, Uuid.supply 0⟩ 0) = .ok b :=
    Board.exists_sample_iff.mpr ⟨january, rfl, due_january⟩
  obtain ⟨b, hb⟩ := hsample
  obtain ⟨bytes, hbytes⟩ := Board.exists_snapshot_of_sample
    (proper_stamp (Uuid.isUuid_supply 0) utc_january 0) hb
  refine ⟨b, hb, ?_⟩
  rw [start_of_unread (w := ⟨Memory.empty, 0⟩) rfl rfl, openSample, hb]
  apply openSaving_eq_holding hbytes none 0 0

/-! ### Distinct ids -/

/-- A keeper that was started has distinct ids exactly when the board that it found, if any, has
them. -/
theorem nodup_iff_of_start (hload : Backend.load w.backend = .ok content)
    (hids : ((List.range Board.samples.length).map (src.stamp w.drawn).fresh).Nodup)
    (h : (start src accents w).1 = .ok k) :
  k.board.taskIds.Nodup ↔ ∀ b, content.bind boardOfBytes? = some b → b.taskIds.Nodup
  := by
  cases opens_of_start hload h with
  | loaded read _ => simp [read]
  | restored _ read restore => simp [read, Board.taskIds_restoreAccents restore]
  | sampled unread sample => simp [unread, Board.taskIds_sample sample, hids]

theorem nodup_start_empty :
  ∃ k, (start ⟨some january, Uuid.supply 0⟩ true ⟨Memory.empty, 0⟩).1 = .ok k
    ∧ k.board.taskIds.Nodup
  := by
  obtain ⟨b, -, hstart⟩ := start_empty true
  refine ⟨_, hstart, ?_⟩
  apply (nodup_iff_of_start rfl (by decide) hstart).mpr
  intro c hread
  cases hread

/-- A keeper that was started on a snapshot in which an id is repeated repeats it. -/
theorem repeats_harvests :
  ∃ k, (start ⟨none, Uuid.supply 0⟩ false (holding (harvests 2 "Harvest") 0 0)).1 = .ok k
    ∧ ¬ k.board.taskIds.Nodup
  := by
  have hsound : (harvests 2 "Harvest").Sound := sound_harvests (by decide) 2
  have hread := read_holding hsound (isSettled_harvests 2 _) (whole_harvests (by decide) 2)
  refine ⟨⟨holding (harvests 2 "Harvest") 0 0, harvests 2 "Harvest"⟩, ?_, by decide⟩
  rw [start_of_read (load_holding ..) hread (by simp)]

/-! ### Starting on whatever there is -/

/-- A board that is opened with its accents restored has no disguised words. -/
theorem not_hasDisguise_of_start {b : Board} (hload : Backend.load w.backend = .ok content)
    (hread : content.bind boardOfBytes? = some b) (h : (start src true w).1 = .ok k) :
  ¬ b.HasDisguise
  := by
  apply Board.exists_restoreAccents_iff.mp
  cases opens_of_start hload h with
  | loaded read plain =>
      obtain rfl := Option.some.inj (read.symm.trans hread)
      exact ⟨_, _, plain rfl⟩
  | restored _ read restore =>
      obtain rfl := Option.some.inj (read.symm.trans hread)
      exact ⟨_, _, restore⟩
  | sampled unread => cases unread.symm.trans hread

theorem exists_start_iff (hsrc : ∀ n, (src.stamp n).Proper)
    (hload : Backend.load w.backend = .ok content)
    (hsave : ∀ bytes, ∃ w', Backend.save bytes w.backend = (.ok (), w'))
    (hsample : ∃ b, Board.sample (src.stamp w.drawn) = .ok b) :
  (∃ k, (start src accents w).1 = .ok k)
    ↔ ¬ (accents = true ∧ ∃ b, content.bind boardOfBytes? = some b ∧ b.Unrestorable)
  := by
  cases hread : content.bind boardOfBytes? with
  | none =>
      obtain ⟨b, hb⟩ := hsample
      rw [start_of_unread hload hread, openSample, hb]
      apply iff_of_true
      · apply (exists_openSaving_iff hsave (Board.sound_of_sample (hsrc _) hb) _).mpr
        apply Board.whole_of_sample (hsrc _) hb
      · simp
  | some b =>
      by_cases haccents : accents = true
      · obtain rfl := haccents
        simp only [Option.some.injEq, exists_eq_left', true_and, Board.Unrestorable, not_or]
        by_cases hdisguise : b.HasDisguise
        · apply iff_of_false
          · rintro ⟨k, h⟩
            apply not_hasDisguise_of_start hload hread h hdisguise
          · exact fun h => h.1 hdisguise
        · obtain ⟨b', changed, hrestore⟩ := Board.exists_restoreAccents_iff.mpr hdisguise
          cases changed with
          | false =>
              obtain rfl := Board.eq_of_restoreAccents hrestore
              rw [start_of_read hload hread fun _ => hrestore]
              simp [hdisguise, hrestore]
          | true =>
              obtain ⟨bytes, -, hbytes⟩ := Option.bind_eq_some_iff.mp hread
              have hsound := (Board.sound_of_boardOfBytes? hbytes).restoreAccents hrestore
              rw [start_of_restored hload hread hrestore, exists_openSaving_iff hsave hsound,
                Board.whole_restoreAccents_iff hrestore]
              simp [hdisguise, hrestore]
      · rw [start_of_read hload hread fun h => absurd h haccents]
        simp [haccents]

/-- A keeper can be started, with a board that reads as itself, whatever bytes stand in its
place, unless accents are to be restored and a text has a disguised word, or there are accents to
be restored and a text is not whole. -/
theorem opens_iff (hids : ∀ i, Check.isUuid (ids i) = true) {now : Moment} (hnow : now.Utc)
    (hdue : ∀ x ∈ Board.samples, (now.addDays? x.days).isSome = true)
    (hload : Backend.load w.backend = .ok content)
    (hsave : ∀ bytes, ∃ w', Backend.save bytes w.backend = (.ok (), w')) :
  (∃ k, (start ⟨some now, ids⟩ accents w).1 = .ok k ∧ Board.read k.board.toJson = .ok k.board)
    ↔ ¬ (accents = true ∧ ∃ b, content.bind boardOfBytes? = some b ∧ b.Unrestorable)
  := by
  have hsample : ∃ b, Board.sample (Source.stamp ⟨some now, ids⟩ w.drawn) = .ok b :=
    Board.exists_sample_iff.mpr ⟨now, rfl, hdue⟩
  have hproper : ∀ m ∈ some now, m.Utc := by
    intro m hm
    rwa [← Option.some.inj hm]
  rw [← exists_start_iff (proper_stamp hids hproper) hload hsave hsample]
  apply exists_congr
  intro k
  rw [and_iff_left_of_imp]
  intro h
  obtain ⟨hsound, hsettled⟩ := (opens_of_start hload h).sound (proper_stamp hids hproper)
  rw [Board.read_toJson hsound, hsettled.eq]

/-- A sample board takes the place of nothing, also when accents are to be restored. -/
theorem opens_empty :
  ∃ k, (start ⟨some january, Uuid.supply 0⟩ true ⟨Memory.empty, 0⟩).1 = .ok k
    ∧ Board.read k.board.toJson = .ok k.board
  := by
  apply (opens_iff (Uuid.isUuid_supply 0) (utc_january _ rfl) due_january rfl fun _ => ⟨_, rfl⟩).mpr
  rintro ⟨-, b, hread, -⟩
  cases hread

theorem unrestorable_disguised :
  (harvests 1 "ſenal").Unrestorable
  := by
  left
  refine ⟨_, List.mem_singleton_self _, "ſenal", List.mem_cons_self, ?_⟩
  apply Text.hasDisguise_of_disguised
  exact ⟨⟨("senal", "señal"), by decide, by decide⟩, 'ſ', by decide, by decide⟩

/-- A task with a word without its accent, and half a pair in its description. -/
def severed : Task :=
  { harvest with title := "analisis", description := some (.ofList [.ofNat 0xD800]) }

/-- A snapshot of this task alone, where the half pair is escaped. -/
def severedSnapshot : ByteArray := String.toUTF8
  "\x7b\"tasks\":[\x7b\"id\":\"00000000-0000-0000-0000-000000000009\",\"title\":\"analisis\",
    \"description\":\"\\ud800\",\"priority\":\"low\",\"tags\":[],\"estimateMinutes\":5,
    \"createdAt\":\"2020-01-01T00:00:00Z\",\"state\":\"todo\"\x7d],
    \"audit\":[],\"reviewMode\":false\x7d"

/-- A place in memory with this snapshot. -/
def severedPlace : Surroundings Memory := ⟨⟨some severedSnapshot, 0, false⟩, 0⟩

theorem unrestorable_severed :
  ∃ b, (some severedSnapshot).bind boardOfBytes? = some b ∧ b.Unrestorable
  := by
  have htasks : (boardOfBytes? severedSnapshot).map (·.tasks) = some [severed] := by
    decide +kernel
  obtain ⟨b, hread, htasks⟩ := Option.map_eq_some_iff.mp htasks
  have hrestores : severed.Restores { severed with title := "análisis" } := by
    have hhalf : Text.restoreAccents (.ofList [.ofNat 0xD800])
        = .ok (.ofList [.ofNat 0xD800]) := by
      apply Text.restoreAccents_eq_ok_iff.mpr
      apply Text.restoreChars_of_not_listed
      decide +kernel
    refine ⟨?_, .some hhalf, .nil, .none, .none, rfl⟩
    apply Text.restoreAccents_word (p := ("analisis", "análisis"))
    decide
  have hrestore : b.restoreAccents
      = .ok ({ b with tasks := [{ severed with title := "análisis" }] }, true) := by
    have hchanged : [{ severed with title := "análisis" }] ≠ [severed] := by decide
    apply Board.restoreAccents_eq_ok_iff.mpr
    rw [htasks]
    exact ⟨.cons hrestores .nil, rfl, (decide_eq_true hchanged).symm⟩
  refine ⟨b, ?_, .inr ⟨⟨_, hrestore⟩, ?_⟩⟩
  · rw [Option.bind_some, hread]
  · intro h
    have hdescription := h.tasks severed (by rw [htasks]; exact List.mem_cons_self) .description
    cases hdescription

/-- A keeper cannot be started where a title has a long s in the place of the first letter of a
listed word, nor where a word lacks its accent and another text is not whole. -/
theorem not_start_unrestorable :
  (¬ ∃ k, (start ⟨some january, Uuid.supply 0⟩ true (holding (harvests 1 "ſenal") 0 0)).1 = .ok k)
    ∧ ¬ ∃ k, (start ⟨some january, Uuid.supply 0⟩ true severedPlace).1 = .ok k
  := by
  have hproper := proper_stamp (Uuid.isUuid_supply 0) utc_january
  obtain ⟨b, hb, -⟩ := start_empty true
  constructor
  · have hsound : (harvests 1 "ſenal").Sound := sound_harvests (by decide) 1
    have hread := read_holding hsound (isSettled_harvests 1 _) (whole_harvests (by decide) 1)
    rw [exists_start_iff hproper (load_holding ..) (fun _ => ⟨_, rfl⟩) ⟨b, hb⟩, not_not]
    exact ⟨rfl, _, hread, unrestorable_disguised⟩
  · have hload : Backend.load severedPlace.backend = .ok (some severedSnapshot) := rfl
    have hsave (bytes : ByteArray) :
        ∃ w, Backend.save bytes severedPlace.backend = (.ok (), w) :=
      ⟨_, rfl⟩
    rw [exists_start_iff hproper hload hsave ⟨b, hb⟩, not_not]
    exact ⟨rfl, unrestorable_severed⟩

/-! ### Starting again -/

/-- No board is loaded from a place. -/
def Vacant (w : β) : Prop :=
  ∃ content, Backend.load w = .ok content ∧ content.bind boardOfBytes? = none

/-- A keeper that is started again has the same board, and has changed nothing, unless it has
made a sample board and accents are to be restored; then it restores the accent of one tag, and
saves the board once more. -/
theorem start_again [Backend.Faithful β] (hids : ∀ i, Check.isUuid (ids i) = true)
    {now : Option Moment} (hnow : ∀ m ∈ now, m.Utc) (h : (start ⟨now, ids⟩ accents w).1 = .ok k)
    (hload : ∃ bytes, Backend.load k.backend = .ok (some bytes)) :
  (¬ (accents = true ∧ Vacant w.backend) →
      ∀ src, start src accents k.toSurroundings = (.ok k, k.toSurroundings))
    ∧ (accents = true ∧ Vacant w.backend →
      ∀ src, start src accents k.toSurroundings
        = openSaving k.toSurroundings 0 k.board.withAuditoria)
  := by
  obtain ⟨content, hcontent⟩ := load_of_start h
  have hopens := opens_of_start hcontent h
  obtain ⟨bytes, hload⟩ := hload
  -- However the board was come by the first time, the second time it is the one that is read.
  have hread : (some bytes).bind boardOfBytes? = some k.board :=
    hopens.reads (proper_stamp hids hnow) hcontent hload
  constructor
  · intro hexcept src
    apply start_of_read hload hread
    intro haccents
    cases hopens with
    | loaded _ plain => apply plain haccents
    | restored _ _ restore => apply Board.restoreAccents_restored restore
    | sampled unread => exact absurd ⟨haccents, _, hcontent, unread⟩ hexcept
  · rintro ⟨rfl, content, hvacant, hunread⟩ src
    obtain rfl := Except.ok.inj (hvacant.symm.trans hcontent)
    apply start_of_restored hload hread
    cases hopens with
    | loaded read _ => cases hunread.symm.trans read
    | restored _ read => cases hunread.symm.trans read
    | sampled _ sample => apply Board.restoreAccents_sample sample

/-- The second start finds all accents restored. -/
theorem start_again_gestion :
  ∃ k, (start ⟨some january, Uuid.supply 0⟩ true (holding (harvests 1 "gestion") 0 0)).1 = .ok k
    ∧ start ⟨none, Uuid.supply 0⟩ true k.toSurroundings = (.ok k, k.toSurroundings)
  := by
  have hsound : (harvests 1 "gestion").Sound := sound_harvests (by decide) 1
  have hwhole : (harvests 1 "gestion").Whole := whole_harvests (by decide) 1
  have hread := read_holding hsound (isSettled_harvests 1 _) hwhole
  have hplain : ¬ (harvests 1 "gestion").HasDisguise := by
    rintro ⟨t, ht, s, hs, hdisguise⟩
    obtain rfl := List.eq_of_mem_replicate ht
    obtain rfl := List.mem_singleton.mp hs
    apply Text.exists_restoreAccents_iff.mp _ hdisguise
    exact ⟨_, Text.restoreAccents_word (p := ("gestion", "gestión")) (by decide)⟩
  obtain ⟨b, hb, -⟩ := start_empty true
  obtain ⟨k, hk⟩ : ∃ k, (start ⟨some january, Uuid.supply 0⟩ true
      (holding (harvests 1 "gestion") 0 0)).1 = .ok k := by
    apply (exists_start_iff (proper_stamp (Uuid.isUuid_supply 0) utc_january) (load_holding ..)
      (fun _ => ⟨_, rfl⟩) ⟨b, hb⟩).mpr
    rintro ⟨-, c, hc, hdisguise | ⟨-, hnot⟩⟩
    · obtain rfl := Option.some.inj (hread.symm.trans hc)
      apply hplain hdisguise
    · obtain rfl := Option.some.inj (hread.symm.trans hc)
      apply hnot hwhole
  refine ⟨k, hk, ?_⟩
  have hload := load_holding (harvests 1 "gestion") 0 0
  apply (start_again (Uuid.isUuid_supply 0) utc_january hk
    ((opens_of_start hload hk).loads hload)).1
  rintro ⟨-, content, hcontent, hvacant⟩
  obtain rfl := Except.ok.inj (hload.symm.trans hcontent)
  cases hvacant.symm.trans hread

/-- After the first start on nothing, with accents to be restored, the second one saves the
board again, and it is another one. -/
theorem start_again_empty :
  ∃ k k', (start ⟨some january, Uuid.supply 0⟩ true ⟨Memory.empty, 0⟩).1 = .ok k
    ∧ (start ⟨some january, Uuid.supply 0⟩ true k.toSurroundings).1 = .ok k'
    ∧ k'.backend.saves = k.backend.saves + 1 ∧ k'.board.tasks ≠ k.board.tasks
  := by
  obtain ⟨b, hb, hstart⟩ := start_empty true
  have hproper := proper_stamp (Uuid.isUuid_supply 0) utc_january 0
  have hsound := Board.sound_of_sample hproper hb
  have hwhole := Board.whole_of_sample hproper hb
  have hread := read_holding hsound (Board.isSettled_of_sample hb) hwhole
  have hrestore := Board.restoreAccents_sample hb
  obtain ⟨bytes, hbytes⟩ :=
    (Board.exists_snapshot_iff (hsound.restoreAccents hrestore)).mpr hwhole.withAuditoria
  refine ⟨_, ⟨holding b.withAuditoria 2 Board.samples.length, b.withAuditoria⟩, hstart, ?_, rfl, ?_⟩
  · rw [start_of_restored (load_holding ..) hread hrestore]
    apply openSaving_eq_holding hbytes
  · obtain ⟨-, -, hchanged⟩ := Board.restoreAccents_eq_ok_iff.mp hrestore
    apply of_decide_eq_true hchanged.symm

end Keeper

end Kanban
