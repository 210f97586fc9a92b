import Kanban.Keeper
import Kanban.Proofs.Board.Whole
import Kanban.Proofs.Storage

/-!
# Opening a board

A keeper that was started has found its board in its place, has restored the accents of the one
that it found, or has made a sample board where it found none; in the last two cases it has
saved its board (`Keeper.opens_of_start`).  Its board is a sound one that reads as itself, and
in a faithful place nothing else is loaded from then on (`Keeper.Opens.reads`).
-/

namespace Kanban

namespace Keeper

variable {β : Type} [Backend β] {src : Source} {accents : Bool} {w : Surroundings β}
  {k : Keeper β} {content : Option ByteArray} {b : Board}

/-! ### What is opened -/

theorem openSaving_eq_ok_iff {n : Nat} :
  (openSaving w n b).1 = .ok k
    ↔ ∃ bytes w', b.snapshot = .ok bytes ∧ Backend.save bytes w.backend = (.ok (), w')
      ∧ k = ⟨⟨w', w.drawn + n⟩, b⟩
  := by
  rw [openSaving]
  cases b.snapshot with
  | error e => simp
  | ok bytes =>
      simp only [Except.ok.injEq, exists_and_left, exists_eq_left']
      rcases Backend.save bytes w.backend with ⟨e | ⟨⟩, w'⟩
      · simp
      · rw [pure_eq_ok_iff]
        simp [eq_comm]

/-- Where it can be saved, a sound board is opened with a save exactly when it is whole. -/
theorem exists_openSaving_iff (hsave : ∀ bytes, ∃ w', Backend.save bytes w.backend = (.ok (), w'))
    (hb : b.Sound) (n : Nat) :
  (∃ k, (openSaving w n b).1 = .ok k) ↔ b.Whole
  := by
  rw [← Board.exists_snapshot_iff hb]
  simp only [openSaving_eq_ok_iff]
  constructor
  · rintro ⟨_, bytes, _, hbytes, -⟩
    exact ⟨bytes, hbytes⟩
  · rintro ⟨bytes, hbytes⟩
    obtain ⟨w', hw'⟩ := hsave bytes
    exact ⟨_, bytes, w', hbytes, hw', rfl⟩

/-- A board with a snapshot that is not opened could not be saved. -/
theorem storage_of_openSaving {n : Nat} {bytes : ByteArray} (hb : b.snapshot = .ok bytes)
    {e : OpenError} (h : (openSaving w n b).1 = .error e) :
  ∃ e', e = .storage e'
  := by
  rw [openSaving, hb] at h
  dsimp only at h
  rcases hsave : Backend.save bytes w.backend with ⟨e' | ⟨⟩, w'⟩
  · rw [hsave] at h
    exact ⟨e', (Except.error.inj h).symm⟩
  · rw [hsave] at h
    cases h

/-- A board without a snapshot is not opened. -/
theorem openSaving_of_unwritten {n : Nat} {e : Board.Unwritten} (hb : b.snapshot = .error e) :
  openSaving w n b = (.error (.notWritten e), { w with drawn := w.drawn + n })
  := by
  rw [openSaving, hb]
  rfl

/-- Where no board is loaded the sample board is opened. -/
theorem start_of_unread (hload : Backend.load w.backend = .ok content)
    (hunread : content.bind boardOfBytes? = none) :
  start src accents w = openSample src w
  := by
  rw [start]
  simp only [hload, hunread]

/-- A board that has its accents, or needs none, is opened as it is. -/
theorem start_of_read (hload : Backend.load w.backend = .ok content)
    (hread : content.bind boardOfBytes? = some b)
    (haccents : accents = true → b.restoreAccents = .ok (b, false)) :
  start src accents w = (.ok ⟨w, b⟩, w)
  := by
  rw [start]
  simp only [hload, hread]
  split_ifs with h
  · rw [haccents h]
    rfl
  · rfl

/-- A board whose accents are restored is saved. -/
theorem start_of_restored {b' : Board} (hload : Backend.load w.backend = .ok content)
    (hread : content.bind boardOfBytes? = some b)
    (hrestore : b.restoreAccents = .ok (b', true)) :
  start src true w = openSaving w 0 b'
  := by
  rw [start]
  simp only [hload, hread, hrestore]
  rfl

/-- Where no board is opened, and no save has failed, everything is as it was. -/
theorem surroundings_of_start (hsrc : ∀ n, (src.stamp n).Proper) {e : OpenError}
    (h : (start src accents w).1 = .error e)
    (hsaved : ∀ e', e = .storage e' → Backend.load w.backend = .error e') :
  (start src accents w).2 = w
  := by
  cases hload : Backend.load w.backend with
  | error e => simp [start, hload]
  | ok content =>
      have hopened {n : Nat} {b : Board} {bytes : ByteArray} (hb : b.snapshot = .ok bytes) :
          (openSaving w n b).1 ≠ .error e := by
        intro h
        obtain ⟨e', rfl⟩ := storage_of_openSaving hb h
        cases hload.symm.trans (hsaved e' rfl)
      cases hread : content.bind boardOfBytes? with
      | none =>
          rw [start_of_unread hload hread, openSample] at *
          cases hsample : Board.sample (src.stamp w.drawn) with
          | error e => rfl
          | ok b =>
              rw [hsample] at h
              obtain ⟨bytes, hbytes⟩ := Board.exists_snapshot_of_sample (hsrc w.drawn) hsample
              exact absurd h (hopened hbytes)
      | some b =>
          unfold start at *
          simp only [hload, hread] at *
          split_ifs at * with haccents
          · rcases hrestore : b.restoreAccents with e | ⟨b', _ | _⟩
            · rfl
            · rfl
            · rw [hrestore] at h
              dsimp only at h
              rcases hbytes : b'.snapshot with e' | bytes
              · dsimp only
                rw [openSaving_of_unwritten hbytes]
                rfl
              · exact absurd h (hopened hbytes)
          · rfl

/-- The ways in which a keeper comes by its board, by what was loaded from its place. -/
inductive Opens (src : Source) (accents : Bool) (w : Surroundings β)
    (content : Option ByteArray) : Keeper β → Prop
  | loaded {b : Board} (read : content.bind boardOfBytes? = some b)
      (plain : accents = true → b.restoreAccents = .ok (b, false)) :
      Opens src accents w content ⟨w, b⟩
  | restored {b b' : Board} {bytes : ByteArray} {w' : β} (accented : accents = true)
      (read : content.bind boardOfBytes? = some b) (restore : b.restoreAccents = .ok (b', true))
      (snapshot : b'.snapshot = .ok bytes) (save : Backend.save bytes w.backend = (.ok (), w')) :
      Opens src accents w content ⟨⟨w', w.drawn⟩, b'⟩
  | sampled {b : Board} {bytes : ByteArray} {w' : β} (unread : content.bind boardOfBytes? = none)
      (sample : Board.sample (src.stamp w.drawn) = .ok b)
      (snapshot : b.snapshot = .ok bytes) (save : Backend.save bytes w.backend = (.ok (), w')) :
      Opens src accents w content ⟨⟨w', w.drawn + Board.samples.length⟩, b⟩

theorem load_of_start (h : (start src accents w).1 = .ok k) :
  ∃ content, Backend.load w.backend = .ok content
  := by
  cases hload : Backend.load w.backend with
  | error e => simp [start, hload] at h
  | ok content => exact ⟨content, rfl⟩

theorem opens_of_start (hload : Backend.load w.backend = .ok content)
    (h : (start src accents w).1 = .ok k) :
  Opens src accents w content k
  := by
  cases hread : content.bind boardOfBytes? with
  | none =>
      rw [start_of_unread hload hread, openSample] at h
      cases hsample : Board.sample (src.stamp w.drawn) with
      | error e => simp [hsample] at h
      | ok b =>
          simp only [hsample] at h
          obtain ⟨bytes, w', hbytes, hsave, rfl⟩ := openSaving_eq_ok_iff.mp h
          apply Opens.sampled hread hsample hbytes hsave
  | some b =>
      by_cases haccents : accents = true
      · obtain rfl := haccents
        rcases hrestore : b.restoreAccents with e | ⟨b', _ | _⟩
        · simp [start, hload, hread, hrestore] at h
        · obtain rfl := Board.eq_of_restoreAccents hrestore
          rw [start_of_read hload hread fun _ => hrestore] at h
          obtain rfl := Except.ok.inj h
          apply Opens.loaded hread fun _ => hrestore
        · rw [start_of_restored hload hread hrestore] at h
          obtain ⟨bytes, w', hbytes, hsave, rfl⟩ := openSaving_eq_ok_iff.mp h
          apply Opens.restored rfl hread hrestore hbytes hsave
      · rw [start_of_read hload hread fun h => absurd h haccents] at h
        obtain rfl := Except.ok.inj h
        apply Opens.loaded hread fun h => absurd h haccents

/-! ### What is known of it -/

/-- The board of a keeper that was started is sound and reads as itself. -/
theorem Opens.sound (hsrc : ∀ n, (src.stamp n).Proper) (h : Opens src accents w content k) :
  k.board.Sound ∧ k.board.IsSettled
  := by
  have hloaded {b : Board} (hread : content.bind boardOfBytes? = some b) :
      b.Sound ∧ b.IsSettled := by
    obtain ⟨bytes, -, hbytes⟩ := Option.bind_eq_some_iff.mp hread
    obtain ⟨v, -, hv⟩ := Board.read_of_boardOfBytes? hbytes
    exact ⟨Board.sound_of_boardOfBytes? hbytes, Board.isSettled_of_read hv⟩
  cases h with
  | loaded read _ => apply hloaded read
  | restored _ read restore =>
      obtain ⟨hsound, hsettled⟩ := hloaded read
      exact ⟨hsound.restoreAccents restore, hsettled.restoreAccents restore⟩
  | sampled _ sample =>
      exact ⟨Board.sound_of_sample (hsrc w.drawn) sample, Board.isSettled_of_sample sample⟩

/-- The place of a keeper that was started has something to load. -/
theorem Opens.loads [Backend.Atomic β] (hcontent : Backend.load w.backend = .ok content)
    (h : Opens src accents w content k) :
  ∃ bytes, Backend.load k.backend = .ok (some bytes)
  := by
  cases h with
  | loaded read _ =>
      obtain ⟨bytes, rfl, -⟩ := Option.bind_eq_some_iff.mp read
      exact ⟨bytes, hcontent⟩
  | restored _ _ _ _ save => exact ⟨_, Backend.Atomic.load_save save⟩
  | sampled _ _ _ save => exact ⟨_, Backend.Atomic.load_save save⟩

/-- Nothing else is loaded from the place of a keeper that was started than its board. -/
theorem Opens.reads [Backend.Faithful β] (hsrc : ∀ n, (src.stamp n).Proper)
    (hcontent : Backend.load w.backend = .ok content) (h : Opens src accents w content k)
    {bytes : ByteArray} (hload : Backend.load k.backend = .ok (some bytes)) :
  boardOfBytes? bytes = some k.board
  := by
  obtain ⟨hsound, hsettled⟩ := h.sound hsrc
  have hsaved {w : β} {snapshot : ByteArray} (hbytes : k.board.snapshot = .ok snapshot)
      (hsave : Backend.save snapshot w = (.ok (), k.backend)) :
      boardOfBytes? bytes = some k.board := by
    obtain rfl := Backend.Faithful.eq_of_load hsave hload
    rw [Board.boardOfBytes?_snapshot hsound hbytes, hsettled.eq]
  cases h with
  | loaded read _ =>
      obtain rfl := Except.ok.inj (hcontent.symm.trans hload)
      apply read
  | restored _ _ _ snapshot save => apply hsaved snapshot save
  | sampled _ _ snapshot save => apply hsaved snapshot save

end Keeper

end Kanban
