import Kanban.Proofs.Board.Chronicle
import Kanban.Proofs.Keeper.Boot

/-!
# The audit log is in the order of time

Whatever happens to a keeper that begins with nothing, by a clock that never goes back, its audit
log is in the order of time, and no entry about a task is earlier than the task
(`Keeper.log_in_order`).  Besides calls there are reopenings, at which the keeper is dropped and
another one is started on its place.  One event leads from a board to one to which it proceeds
(`Keeper.proceeds_next`), and by this what is known of a keeper is handed on.
-/

namespace Kanban

open Moment (NotLater)

/-- By the effect of a command a board proceeds. -/
theorem Operation.proceeds_of_effect {o : Operation} {b b' : Board} {s : Stamp} {n : Nat}
    {a : Answer} (ho : o.IsCommand) (h : o.effect b s = .ok (.change n b' a)) :
  b.Proceeds s n b'
  := by
  cases makes_of_effect ho h with
  | create made =>
      obtain ⟨_, -, hn⟩ := map_eq_ok_iff.mp h
      obtain ⟨rfl, -, -⟩ := Effect.change.inj hn
      apply Board.Proceeds.create (by decide) made
  | update made => apply Board.Proceeds.update made
  | delete made => apply Board.Proceeds.delete made
  | move made => apply Board.Proceeds.move made
  | review _ made =>
      rw [made]
      apply Board.Proceeds.setReviewMode

/-! ### Events -/

/-- A call by a clock that may go on meanwhile, or a keeper started anew on the place of the one
before. -/
inductive Event where
  | call (clock : Watch) (operation : Operation)
  | reopening (now : Option Moment) (accents : Bool)

namespace Event

/-- The clock by which something happens. -/
def clock : Event → Watch
  | call clock _ => clock
  | reopening now _ => now

/-- Calls are commands, with numbers that can be written. -/
def Plain : Event → Prop
  | call _ o => o.IsCommand ∧ o.Legible
  | reopening _ _ => True

/-- The moments at which things happen. -/
def readings (events : List Event) : Set Moment := {m | ∃ e ∈ events, m ∈ e.clock.readings}

end Event

open Event (readings)

namespace Keeper

variable {β : Type} [Backend β] {ids : Nat → Text} {k : Keeper β} {events : List Event}

/-- Carries out an operation by a clock that may go on meanwhile. -/
def act (ids : Nat → Text) (k : Keeper β) (clock : Watch) (o : Operation) :
    Except Failure Answer × Keeper β :=
  k.carryOut (o.effect k.board ⟨clock, fun i => ids (k.drawn + i)⟩)

/-- The keeper after an event.  Where no board can be opened, the one before is left. -/
def next (ids : Nat → Text) (k : Keeper β) : Event → Keeper β
  | .call clock o => (k.act ids clock o).2
  | .reopening now accents =>
    match start ⟨now, ids⟩ accents k.toSurroundings with
    | (.ok k', _) => k'
    | (.error _, w) => ⟨w, k.board⟩

/-- The keeper after a number of events. -/
def after (ids : Nat → Text) : Keeper β → List Event → Keeper β
  | k, [] => k
  | k, e :: events => after ids (k.next ids e) events

theorem after_append (ids : Nat → Text) (k : Keeper β) (past rest : List Event) :
  k.after ids (past ++ rest) = (k.after ids past).after ids rest
  := by
  induction past generalizing k with
  | nil => rfl
  | cons e past ih => apply ih

/-- The save that comes with an event does not fail, if there is one. -/
def Saved (ids : Nat → Text) (k : Keeper β) : Event → Prop
  | .call clock o => ∀ e, (k.act ids clock o).1 ≠ .error (.notSaved e)
  | .reopening now accents =>
    ∀ e, (start ⟨now, ids⟩ accents k.toSurroundings).1 = .error (.storage e) →
      Backend.load k.backend = .error e

/-- No save fails in the course of events. -/
def Unfailing (ids : Nat → Text) : Keeper β → List Event → Prop
  | _, [] => True
  | k, e :: events => k.Saved ids e ∧ Unfailing ids (k.next ids e) events

/-- Commands and reopenings by a clock in UTC that never goes back, with saves that succeed. -/
structure History (ids : Nat → Text) (k : Keeper β) (events : List Event) : Prop where
  plain : ∀ e ∈ events, e.Plain
  utc : ∀ e ∈ events, ∀ m ∈ e.clock.readings, m.Utc
  forward : ∀ e ∈ events, e.clock.Forward
  inOrder : events.Pairwise fun e f =>
    ∀ m ∈ e.clock.readings, ∀ n ∈ f.clock.readings, m.instant ≤ n.instant
  saved : k.Unfailing ids events

theorem History.tail {e : Event} (h : History ids k (e :: events)) :
  History ids (k.next ids e) events
  := by
  constructor
  · exact fun f hf => h.plain f (List.mem_cons_of_mem e hf)
  · exact fun f hf => h.utc f (List.mem_cons_of_mem e hf)
  · exact fun f hf => h.forward f (List.mem_cons_of_mem e hf)
  · exact (List.pairwise_cons.mp h.inOrder).2
  · exact h.saved.2

/-- What the first event is dated is not later than what those after it are. -/
theorem History.notLater {e : Event} (h : History ids k (e :: events)) :
  ∀ m ∈ e.clock.readings, ∀ n ∈ readings events, NotLater m.stamp n.stamp
  := by
  rintro m hm n ⟨f, hf, hn⟩
  apply Moment.notLater_stamp (h.utc e List.mem_cons_self m hm)
    (h.utc f (List.mem_cons_of_mem e hf) n hn)
  apply (List.pairwise_cons.mp h.inOrder).1 f hf m hm n hn

/-! ### One event -/

/-- Whatever board is read from a place is alike to `b`. -/
def Agrees (w : β) (b : Board) : Prop :=
  ∀ bytes c, Backend.load w = .ok (some bytes) → boardOfBytes? bytes = some c → c.Alike b

theorem Holds.agrees {w : β} {b : Board} (h : Holds w b) :
  Agrees w b
  := by
  intro bytes c hload hread
  obtain ⟨d, hd, halike⟩ := h bytes hload
  obtain rfl := Option.some.inj (hread.symm.trans hd)
  apply halike

/-- The boards with which a keeper may go on: its own, and the one that was saved last. -/
def boards (k : Keeper β) (d : Board) : List Board := [k.board, d]

/-- A sound board, and nothing which is read from its place disagrees with the board `d` that was
saved last. -/
structure Trusty (k : Keeper β) (d : Board) : Prop where
  sound : k.board.Sound
  agrees : Agrees k.backend d

/-- What comes of a keeper in one event by a clock: it has drawn some more ids, the boards with
which it may go on have proceeded from those before, and it is to be trusted. -/
structure Proceeds (ids : Nat → Text) (clock : Watch) (k : Keeper β) (d : Board) (k' : Keeper β)
    (d' : Board) : Prop where
  boards : ∃ n, k'.drawn = k.drawn + n
    ∧ ∀ b' ∈ k'.boards d', ∃ b ∈ k.boards d,
      b.Proceeds ⟨clock, fun i => ids (k.drawn + i)⟩ n b'
  trusty : k'.Trusty d'

variable {d : Board}

theorem Proceeds.refl {clock : Watch} (hk : k.Trusty d) :
  k.Proceeds ids clock d k d
  := ⟨⟨0, rfl, fun b hb => ⟨b, hb, .refl b⟩⟩, hk⟩

/-- A board that is saved is the one with which the keeper goes on. -/
theorem Proceeds.saved {clock : Watch} {k' : Keeper β} {n : Nat} {b : Board}
    (hk' : k'.Trusty k'.board) (hdrawn : k'.drawn = k.drawn + n) (hb : b ∈ k.boards d)
    (h : b.Proceeds ⟨clock, fun i => ids (k.drawn + i)⟩ n k'.board) :
  k.Proceeds ids clock d k' k'.board
  := by
  refine ⟨⟨n, hdrawn, ?_⟩, hk'⟩
  intro b' hb'
  obtain rfl : b' = k'.board := by simpa [Keeper.boards] using hb'
  exact ⟨b, hb, h⟩

theorem proceeds_call [Backend.Faithful β] (hids : ∀ i, Check.isUuid (ids i) = true)
    (hk : k.Trusty d) {clock : Watch} {o : Operation} (ho : o.IsCommand) (hlegible : o.Legible)
    (hutc : ∀ m ∈ clock.readings, m.Utc) (hsaved : k.Saved ids (.call clock o)) :
  ∃ d', k.Proceeds ids clock d (k.next ids (.call clock o)) d'
  := by
  have hstamp : Stamp.Proper ⟨clock, fun i => ids (k.drawn + i)⟩ :=
    ⟨fun i m hm => hutc m ⟨i, hm⟩, fun _ => hids _⟩
  rw [Saved] at hsaved
  rw [next]
  rw [act] at *
  rcases heffect : o.effect k.board ⟨clock, fun i => ids (k.drawn + i)⟩ with r | a | ⟨n, b, a⟩
  · exact ⟨d, .refl hk⟩
  · exact ⟨d, .refl hk⟩
  · have hsound := Operation.sound_of_effect hk.sound hstamp hlegible heffect
    have hproceeds := Operation.proceeds_of_effect ho heffect
    rw [heffect, carryOut] at hsaved
    rw [carryOut]
    cases hsnapshot : b.snapshot with
    | error e =>
        -- Nothing is saved, and the keeper may still go back to the board that was.
        rw [commit_of_unwritten k n hsnapshot]
        refine ⟨d, ⟨n, rfl, ?_⟩, hsound, hk.agrees⟩
        intro b' hb'
        rcases List.mem_pair.mp hb' with rfl | rfl
        · exact ⟨k.board, List.mem_cons_self, hproceeds⟩
        · exact ⟨b', List.mem_cons_of_mem _ List.mem_cons_self, .refl b'⟩
    | ok bytes =>
        simp only [commit, hsnapshot] at hsaved ⊢
        rcases hsave : Backend.save bytes k.backend with ⟨e | ⟨⟩, w⟩
        · rw [hsave] at hsaved
          exact absurd rfl (hsaved e)
        · have htrusty : Trusty ⟨⟨w, k.drawn + n⟩, b⟩ b :=
            ⟨hsound, (holds_of_save hsound hsnapshot hsave).agrees⟩
          exact ⟨b, .saved htrusty rfl List.mem_cons_self hproceeds⟩

theorem proceeds_reopening [Backend.Faithful β] (hids : ∀ i, Check.isUuid (ids i) = true)
    (hk : k.Trusty d) {now : Option Moment} {accents : Bool} (hutc : ∀ m ∈ now, m.Utc)
    (hsaved : k.Saved ids (.reopening now accents)) :
  ∃ d', k.Proceeds ids now d (k.next ids (.reopening now accents)) d'
  := by
  rw [Saved] at hsaved
  rw [next]
  have hproper := proper_stamp hids hutc
  rcases hstart : start ⟨now, ids⟩ accents k.toSurroundings with ⟨e | k', w⟩
  · have hfailed : (start ⟨now, ids⟩ accents k.toSurroundings).1 = .error e := by rw [hstart]
    have hw : (start ⟨now, ids⟩ accents k.toSurroundings).2 = k.toSurroundings := by
      apply surroundings_of_start hproper hfailed
      rintro e' rfl
      apply hsaved e' hfailed
    rw [hstart] at hw
    obtain rfl := hw
    exact ⟨d, .refl hk⟩
  · have hopened : (start ⟨now, ids⟩ accents k.toSurroundings).1 = .ok k' := by rw [hstart]
    obtain ⟨hsound, hholds⟩ := holds_of_start hproper hopened
    have htrusty : k'.Trusty k'.board := ⟨hsound, hholds.agrees⟩
    obtain ⟨content, hcontent⟩ := load_of_start hopened
    have halike {b : Board} (hread : content.bind boardOfBytes? = some b) : b.Alike d := by
      obtain ⟨bytes, rfl, hbytes⟩ := Option.bind_eq_some_iff.mp hread
      apply hk.agrees bytes b hcontent hbytes
    have hd : d ∈ k.boards d := List.mem_cons_of_mem _ List.mem_cons_self
    use k'.board
    cases opens_of_start hcontent hopened with
    | loaded read _ => exact .saved (n := 0) htrusty rfl hd (.of_alike (halike read))
    | restored _ read restore _ =>
        exact .saved (n := 0) htrusty rfl hd (.of_restores (halike read) restore)
    | sampled _ sample _ => exact .saved htrusty rfl hd (.of_sample sample)

/-- A keeper that is to be trusted proceeds in every event. -/
theorem proceeds_next [Backend.Faithful β] (hids : ∀ i, Check.isUuid (ids i) = true)
    (hk : k.Trusty d) {e : Event} (hplain : e.Plain) (hutc : ∀ m ∈ e.clock.readings, m.Utc)
    (hsaved : k.Saved ids e) :
  ∃ d', k.Proceeds ids e.clock d (k.next ids e) d'
  := by
  cases e with
  | call clock o => apply proceeds_call hids hk hplain.1 hplain.2 hutc hsaved
  | reopening now accents =>
      apply proceeds_reopening hids hk _ hsaved
      intro m hm
      exact hutc m ⟨0, hm⟩

/-! ### Along a history -/

/-- What holds of a keeper all along a history, where the rest of it happens in the future: the
boards with which it may go on are in order, and the tasks on each are respected by both. -/
structure Chronicle (ids : Nat → Text) (future : Set Moment) (k : Keeper β) (d : Board) : Prop
    where
  trusty : k.Trusty d
  inOrder : ∀ b ∈ k.boards d, b.InOrder (ids '' Set.Iio k.drawn) future
  dated : Set.InjOn ids (Set.Iio k.drawn) → ∀ b ∈ k.boards d, ∀ c ∈ k.boards d, b.Dates c

theorem image_Iio_add (ids : Nat → Text) (d n : Nat) :
  ids '' Set.Iio d ∪ (fun i => ids (d + i)) '' Set.Iio n = ids '' Set.Iio (d + n)
  := by
  ext id
  constructor
  · rintro (⟨i, hi, rfl⟩ | ⟨i, hi, rfl⟩)
    · exact ⟨i, Nat.lt_add_right n hi, rfl⟩
    · exact ⟨d + i, Nat.add_lt_add_left hi d, rfl⟩
  · rintro ⟨i, hi, rfl⟩
    rcases Nat.lt_or_ge i d with h | h
    · exact .inl ⟨i, h, rfl⟩
    · right
      refine ⟨i - d, Nat.sub_lt_left_of_lt_add h hi, ?_⟩
      dsimp only
      rw [Nat.add_sub_cancel' h]

theorem readings_subset {e : Event} :
  readings events ⊆ readings (e :: events)
  := fun _ ⟨f, hf, hm⟩ => ⟨f, List.mem_cons_of_mem e hf, hm⟩

theorem clock_subset {e : Event} :
  e.clock.readings ⊆ readings (e :: events)
  := fun _ hm => ⟨e, List.mem_cons_self, hm⟩

theorem Chronicle.next [Backend.Faithful β] (hids : ∀ i, Check.isUuid (ids i) = true) {e : Event}
    (hk : k.Chronicle ids (readings (e :: events)) d) (h : History ids k (e :: events)) :
  ∃ d', k.Proceeds ids e.clock d (k.next ids e) d'
    ∧ (k.next ids e).Chronicle ids (readings events) d'
  := by
  have hutc := h.utc e List.mem_cons_self
  obtain ⟨d', hnext⟩ := proceeds_next hids hk.trusty (h.plain e List.mem_cons_self) hutc h.saved.1
  refine ⟨d', hnext, ?_⟩
  obtain ⟨⟨n, hdrawn, hproceeds⟩, htrusty⟩ := hnext
  refine ⟨htrusty, ?_, ?_⟩
  · intro b' hb'
    obtain ⟨b, hb, hbb'⟩ := hproceeds b' hb'
    rw [hdrawn, ← image_Iio_add]
    apply (hk.inOrder b hb).proceeds hbb' clock_subset readings_subset h.notLater
  · intro hinj b' hb' c' hc'
    obtain ⟨b, hb, hbb'⟩ := hproceeds b' hb'
    obtain ⟨c, hc, hcc'⟩ := hproceeds c' hc'
    rw [hdrawn] at hinj
    have hold : Set.Iio k.drawn ⊆ Set.Iio (k.drawn + n) := Set.Iio_subset_Iio (Nat.le_add_right ..)
    apply (hk.dated (hinj.mono hold) b hb c hc).proceeds (hk.inOrder b hb) (hk.inOrder c hc)
      hbb' hcc' clock_subset
    · rintro m hm m' ⟨i, hm'⟩
      apply Moment.notLater_stamp (hutc m ⟨0, hm⟩) (hutc m' ⟨i, hm'⟩)
      apply h.forward e List.mem_cons_self 0 i (Nat.zero_le i) m hm m' hm'
    · -- A new id is none of those that were drawn before.
      rintro i hi ⟨j, hj, hij⟩
      have hji := hinj (hold hj) (Nat.add_lt_add_left hi k.drawn) hij
      simp only [Set.mem_Iio] at hj
      omega

/-- Part of a history leads from one chronicle to another. -/
theorem Chronicle.after [Backend.Faithful β] (hids : ∀ i, Check.isUuid (ids i) = true)
    {past rest : List Event} (hk : k.Chronicle ids (readings (past ++ rest)) d)
    (h : History ids k (past ++ rest)) :
  ∃ d', (k.after ids past).Chronicle ids (readings rest) d' ∧ History ids (k.after ids past) rest
  := by
  induction past generalizing k d with
  | nil => exact ⟨d, hk, h⟩
  | cons e past ih =>
      obtain ⟨d', -, hnext⟩ := hk.next hids h
      apply ih hnext h.tail

theorem Chronicle.le_drawn_after [Backend.Faithful β] (hids : ∀ i, Check.isUuid (ids i) = true)
    (hk : k.Chronicle ids (readings events) d) (h : History ids k events) :
  k.drawn ≤ (k.after ids events).drawn
  := by
  induction events generalizing k d with
  | nil => apply le_refl
  | cons e events ih =>
      obtain ⟨d', ⟨⟨n, hdrawn, -⟩, -⟩, hnext⟩ := hk.next hids h
      have := ih hnext h.tail
      rw [Keeper.after]
      omega

/-- A time before a history that is respected by the boards with which a keeper may go on is so at
its end. -/
theorem Chronicle.respects_after [Backend.Faithful β] (hids : ∀ i, Check.isUuid (ids i) = true)
    (hk : k.Chronicle ids (readings events) d) (h : History ids k events) {id time : Text}
    (htime : ∀ m ∈ readings events, NotLater time m.stamp)
    (hrespects : ∀ b ∈ k.boards d, b.Respects id time) :
  (k.after ids events).board.Respects id time
  := by
  induction events generalizing k d with
  | nil => apply hrespects k.board List.mem_cons_self
  | cons e events ih =>
      obtain ⟨d', ⟨⟨n, -, hproceeds⟩, -⟩, hnext⟩ := hk.next hids h
      apply ih hnext h.tail fun m hm => htime m (readings_subset hm)
      intro b' hb'
      obtain ⟨b, hb, hbb'⟩ := hproceeds b' hb'
      apply (hrespects b hb).proceeds hbb'
      exact fun m hm => htime m (clock_subset hm)

/-- A keeper with an empty board, over a place from which nothing else is read.  Where there is
no board at all in the place, a history that starts with the sample board starts by opening it. -/
structure Blank (k : Keeper β) : Prop where
  tasks : k.board.tasks = []
  audit : k.board.audit = []
  agrees : Agrees k.backend k.board

theorem Blank.chronicle (h : k.Blank) (ids : Nat → Text) (future : Set Moment) :
  k.Chronicle ids future k.board
  := by
  obtain ⟨htasks, haudit, hagrees⟩ := h
  have hboards {b : Board} (hb : b ∈ k.boards k.board) : b = k.board := by
    simpa [boards] using hb
  constructor
  · refine ⟨⟨?_, ?_⟩, hagrees⟩
    · simp [htasks]
    · simp [haudit]
  · intro b hb
    rw [hboards hb]
    constructor
    · simp [haudit]
    · simp [haudit]
    · simp [htasks]
  · intro _ b hb c _ t ht
    rw [hboards hb, htasks] at ht
    cases ht

/-- After any history that begins with a blank keeper the audit log, from the front, is in the
order of time, the latest entry first.  Where no id was drawn twice, no entry about a task that
has ever been on the board is earlier than the task's creation.  Both hold of the texts and of
the moments that they denote. -/
theorem log_in_order [Backend.Faithful β] (hids : ∀ i, Check.isUuid (ids i) = true)
    (hk : k.Blank) (h : History ids k events) :
  (k.after ids events).board.audit.Pairwise (fun x y => NotLater y.timestamp x.timestamp)
    ∧ (Set.InjOn ids (Set.Iio (k.after ids events).drawn) → ∀ past, past <+: events →
      ∀ t ∈ (k.after ids past).board.tasks, ∀ x ∈ (k.after ids events).board.audit,
        x.taskId = t.id → NotLater t.createdAt x.timestamp)
  := by
  constructor
  · have hwhole : History ids k (events ++ []) := by rwa [List.append_nil]
    obtain ⟨d, hchronicle, -⟩ := (hk.chronicle ids _).after hids hwhole
    apply (hchronicle.inOrder _ List.mem_cons_self).sorted
  · rintro hinj past ⟨rest, rfl⟩ t ht
    obtain ⟨d, hpast, hrest⟩ := (hk.chronicle ids _).after hids h
    rw [after_append] at *
    have hdrawn := hpast.le_drawn_after hids hrest
    have hboard : (k.after ids past).board ∈ (k.after ids past).boards d := List.mem_cons_self
    apply hpast.respects_after hids hrest ((hpast.inOrder _ hboard).tasks t ht).2
    intro b hb
    apply hpast.dated (hinj.mono (Set.Iio_subset_Iio hdrawn)) _ hboard b hb t ht

theorem saved_call {k : Keeper Memory} (h : k.backend.failing = false) (clock : Watch)
    (o : Operation) :
  k.Saved ids (.call clock o)
  := by
  intro e
  rw [act]
  rcases o.effect k.board ⟨clock, fun i => ids (k.drawn + i)⟩ with r | a | ⟨n, b, a⟩
  · simp [carryOut]
  · simp [carryOut]
  · rw [carryOut, commit]
    cases b.snapshot with
    | error e => rintro ⟨⟩
    | ok bytes => simp [Backend.save_memory, h, pure, Except.pure]

/-- A keeper of nothing, in memory. -/
def unopened : Keeper Memory := ⟨⟨Memory.empty, 0⟩, Board.empty⟩

/-- A day later in January. -/
def nextDay : Moment := ⟨january.wall + Moment.day, some 0⟩

/-- A clock that shows the day after when it is read again. -/
def overnight : Watch := ⟨fun i => some (if i = 0 then january else nextDay)⟩

/-- Opening the sample board, adding a task to it and removing that again. -/
def weeding : List Event := [
  .reopening (some january) false,
  .call overnight
    (.create ⟨.str "Weed", .str "low", .arr [], .num (.int 5), .null, .null, .null⟩),
  .call (some nextDay) (.delete (Uuid.supply 0 5))]

theorem instant_january_le :
  january.instant ≤ nextDay.instant
  := by
  decide

theorem mem_readings_overnight {m : Moment} (h : m ∈ overnight.readings) :
  m = january ∨ m = nextDay
  := by
  obtain ⟨i, hi⟩ := h
  rw [← Option.some.inj hi]
  split_ifs
  · exact .inl rfl
  · exact .inr rfl

theorem forward_overnight :
  overnight.Forward
  := by
  rintro i j hij m hm n hn
  rw [← Option.some.inj hm, ← Option.some.inj hn]
  split_ifs with hi hj
  · apply le_refl
  · apply instant_january_le
  · omega
  · apply le_refl

/-- What comes of it: at once, since each part evaluates the snapshots anew. -/
theorem after_weeding :
  (unopened.next (Uuid.supply 0) (.reopening (some january) false)).backend.failing = false
    ∧ (unopened.after (Uuid.supply 0) (weeding.take 2)).backend.failing = false
    ∧ (unopened.after (Uuid.supply 0) weeding).drawn = 8
    ∧ (∃ t ∈ (unopened.after (Uuid.supply 0) (weeding.take 2)).board.tasks,
      t.createdAt = "0001-01-11T00:00:00.000Z")
    ∧ (unopened.after (Uuid.supply 0) weeding).board.audit.map Entry.timestamp
      = ["0001-01-12T00:00:00.000Z", "0001-01-12T00:00:00.000Z"]
  := by
  decide +kernel

theorem history_weeding :
  History (Uuid.supply 0) unopened weeding
  := by
  have hjanuary : january.Utc := utc_january january rfl
  have hnextDay : nextDay.Utc := ⟨rfl, by decide⟩
  constructor
  · simp only [weeding, List.forall_mem_cons, Event.Plain, Operation.IsCommand, Operation.Legible,
      Json.Legible, Number.Legible]
    simp
    decide
  · simp only [weeding, List.forall_mem_cons, Event.clock, Watch.mem_readings_still]
    grind [mem_readings_overnight]
  · simp only [weeding, List.forall_mem_cons, Event.clock, Watch.forward_still, forward_overnight]
    simp
  · simp only [weeding, List.pairwise_cons, List.forall_mem_cons, Event.clock,
      Watch.mem_readings_still]
    grind [mem_readings_overnight, instant_january_le]
  · obtain ⟨hopened, hcreated, -⟩ := after_weeding
    refine ⟨?_, saved_call hopened _ _, saved_call hcreated _ _, trivial⟩
    obtain ⟨b, -, hstart⟩ := start_empty false
    intro e he
    cases hstart.symm.trans he

/-- The task is created in January, and the two entries are made a day later. -/
theorem log_in_order_weeding :
  (unopened.after (Uuid.supply 0) weeding).board.audit.map Entry.timestamp
      = ["0001-01-12T00:00:00.000Z", "0001-01-12T00:00:00.000Z"]
    ∧ (unopened.after (Uuid.supply 0) weeding).board.audit.Pairwise
      (fun x y => NotLater y.timestamp x.timestamp)
    ∧ ∃ t ∈ (unopened.after (Uuid.supply 0) (weeding.take 2)).board.tasks,
      t.createdAt = "0001-01-11T00:00:00.000Z"
      ∧ ∀ x ∈ (unopened.after (Uuid.supply 0) weeding).board.audit, x.taskId = t.id →
        NotLater t.createdAt x.timestamp
  := by
  have hblank : unopened.Blank := by
    refine ⟨rfl, rfl, ?_⟩
    intro bytes c hload
    cases hload
  obtain ⟨hsorted, habout⟩ := log_in_order (Uuid.isUuid_supply 0) hblank history_weeding
  obtain ⟨-, -, hdrawn, ⟨t, ht, hdate⟩, htimes⟩ := after_weeding
  have hdistinct : ((List.range 8).map (Uuid.supply 0)).Nodup := by decide +kernel
  refine ⟨htimes, hsorted, ?_⟩
  refine ⟨t, ht, hdate, ?_⟩
  apply habout _ (weeding.take 2) (List.take_prefix ..) t ht
  rw [hdrawn]
  intro i hi j hj
  apply List.inj_on_of_nodup_map hdistinct <;> rwa [List.mem_range]

end Keeper

end Kanban
