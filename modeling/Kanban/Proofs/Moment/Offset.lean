import Kanban.Proofs.Moment.Stamp

/-!
# Offsets in stamps

A stamp shows how far its clock is from UTC, down to the microsecond.  Two kinds of clocks are not
read back from their stamps.  One that is ahead by less than a minute is marked as a clock in UTC,
and what follows the mark cannot be read; one that is behind by less than a second is taken for a
clock in UTC.  All other moments are read back to the millisecond (`Moment.tells_iff`).
-/

namespace Kanban

namespace Moment

variable {m : Moment} {o : Int}

/-- The microseconds of a minute. -/
def minute : Nat := 60 * second

/-- A moment of the calendar, shown by a clock that is less than a day from UTC. -/
structure Local (m : Moment) : Prop where
  wall : m.wall < wallEnd
  offset : ∀ o ∈ m.offset, o.natAbs < day

/-- The moment cut off to the millisecond. -/
def cut (m : Moment) : Moment := { m with wall := m.wall - m.wall % 1000 }

/-- A clock that is ahead of UTC by less than a minute. -/
def Ahead (o : Int) : Prop := 0 < o ∧ o < minute

/-- A clock that is behind UTC by less than a second. -/
def Behind (o : Int) : Prop := -second < o ∧ o < 0

instance : Decidable (Ahead o) := inferInstanceAs (Decidable (_ ∧ _))

instance : Decidable (Behind o) := inferInstanceAs (Decidable (_ ∧ _))

/-- The clock of the moment, where its offset is known, is neither a little ahead of UTC nor a
little behind it. -/
def Tells (m : Moment) : Prop := ∀ o ∈ m.offset, ¬ Ahead o ∧ ¬ Behind o

/-! ### Written offsets -/

theorem two_eq_zeros_iff {v : Nat} :
  two v = [.char '0', .char '0'] ↔ v = 0
  := by
  constructor
  · intro h
    have hvalue := Json.numeralsValue_paddedDigits 2 v
    rw [← two, h] at hvalue
    rw [← hvalue]
    decide
  · rintro rfl
    decide

/-- Hours and minutes that are not behind UTC, and are none, are written like UTC. -/
theorem offsetHead_eq_iff (h : o.natAbs < day) :
  offsetHead o = ("+00:00" : Text).toList ↔ 0 ≤ o ∧ o < minute
  := by
  have hzeros : ("+00:00" : Text).toList
      = Point.char '+' :: ([.char '0', .char '0'] ++ .char ':' :: [.char '0', .char '0']) := rfl
  have hhours : (two (o.natAbs / second / 3600)).length = [Point.char '0', .char '0'].length := by
    apply length_two
    rw [day] at h
    simp only [second] at *
    omega
  have hzero : o.natAbs / second / 3600 = 0 ∧ o.natAbs / second / 60 % 60 = 0
      ↔ o.natAbs < minute := by
    rw [minute]
    simp only [second, day] at *
    omega
  have hdigits : two (o.natAbs / second / 3600)
      ++ Point.char ':' :: two (o.natAbs / second / 60 % 60)
      = [.char '0', .char '0'] ++ Point.char ':' :: [.char '0', .char '0'] ↔ o.natAbs < minute := by
    rw [← hzero, ← two_eq_zeros_iff, ← two_eq_zeros_iff]
    constructor
    · intro h
      obtain ⟨hhead, htail⟩ := List.append_inj h hhours
      exact ⟨hhead, (List.cons.inj htail).2⟩
    · rintro ⟨hhead, htail⟩
      rw [hhead, htail]
  have hsign : (if o < 0 then Point.char '-' else .char '+') = .char '+' ↔ 0 ≤ o := by
    split_ifs <;> simp <;> omega
  rw [offsetHead, hzeros, List.cons_append, List.cons_eq_cons, hsign]
  apply (and_congr_right fun _ => hdigits).trans
  omega

theorem offsetTail_eq_nil_iff {n : Nat} :
  offsetTail n = [] ↔ n % minute = 0
  := by
  have hparts : n / second % 60 = 0 ∧ n % second = 0 ↔ n % minute = 0 := by
    simp only [minute, second]
    omega
  rw [offsetTail, ← hparts]
  split_ifs with h <;> simp [h]

/-- The hours, minutes, seconds and microseconds of an offset. -/
def parts (n : Nat) : Clock :=
  ⟨n / second / 3600, n / second / 60 % 60, n / second % 60, n % second⟩

theorem toSeconds_parts (n : Nat) :
  (parts n).toSeconds = n / second
  := by
  rw [parts, Clock.toSeconds]
  dsimp only
  omega

/-- What is finer than a minute is read back. -/
theorem readParts?_offsetTail {h m n : Nat} (hm : m < 100) :
  Clock.readParts? 1 (some true) [h] (two m ++ offsetTail n)
    = some (⟨h, m, n / second % 60, n % second⟩, [])
  := by
  have hseconds : n / second % 60 < 100 := (Nat.mod_lt _ (by decide)).trans (by decide)
  have hfine : n % second < 10 ^ 6 := Nat.mod_lt _ (by decide)
  rw [offsetTail]
  split_ifs with hzero
  · rw [List.append_nil, Clock.readParts?_end hm, hzero.1, hzero.2]
    rfl
  · rw [List.cons_append, Clock.readParts?_colon hm (by simp [two_ne_nil]) (by simp), fractionChars]
    split_ifs with hmicros
    · rw [List.append_nil, Clock.readParts?_end hseconds, hmicros]
      rfl
    · rw [Clock.readParts?_point hseconds (Json.paddedDigits_ne_nil _ _),
        Clock.readFraction?_paddedDigits (by decide) (by decide) hfine]
      simp [Clock.ofParts]

/-- An offset is read back, unless it is less than a second. -/
theorem readOffset?_offsetChars (h : o.natAbs < day) :
  readOffset? (offsetChars o) = some (if o.natAbs < second then 0 else o)
  := by
  have hhours : o.natAbs / second / 3600 < 100 := by
    rw [day] at h
    simp only [second] at *
    omega
  have hminutes : o.natAbs / second / 60 % 60 < 100 :=
    (Nat.mod_lt _ (by decide)).trans (by decide)
  have hread : Clock.read? (two (o.natAbs / second / 3600)
      ++ Point.char ':' :: (two (o.natAbs / second / 60 % 60) ++ offsetTail o.natAbs))
      = some (parts o.natAbs, []) := by
    rw [Clock.read?, Clock.readParts?_colon hhours (by simp [two_ne_nil]) (by simp),
      readParts?_offsetTail hminutes]
    rfl
  have hmark : (if o < 0 then Point.char '-' else .char '+') ≠ .char 'Z' := by
    split_ifs <;> decide
  have hsign : (if o < 0 then Point.char '-' else .char '+') = .char '-' ↔ o < 0 := by
    split_ifs with hneg <;> simp [hneg]
  have hnone : o.natAbs / second = 0 ↔ o.natAbs < second := by
    simp only [second]
    omega
  have hwhole : ((o.natAbs / second : Nat) : Int) * second + (parts o.natAbs).micros
      = o.natAbs := by
    exact_mod_cast Nat.div_add_mod' o.natAbs second
  have hsize : (if o.natAbs < second then 0 else (o.natAbs : Int)) < day := by
    split_ifs
    · decide
    · exact_mod_cast h
  rw [offsetChars, offsetHead]
  rw [List.cons_append, List.cons_append, readOffset?, if_neg hmark]
  simp only [List.append_assoc, List.cons_append, hread, Option.bind_eq_bind, Option.bind_some,
    atEnd, toSeconds_parts, hnone, hwhole, hsize, guard, ↓reduceIte, Option.pure_def, hsign]
  congr 1
  split_ifs <;> omega

/-! ### Offsets of stamps -/

theorem atEnd_offsetTail {n : Nat} (h : offsetTail n ≠ []) :
  atEnd (offsetTail n) = false
  := by
  rw [offsetTail] at h ⊢
  split_ifs at h ⊢
  · exact absurd rfl h
  · rfl

/-- The end of the stamp of a clock that is a little ahead of UTC cannot be read. -/
theorem readZone?_of_ahead (ho : m.offset = some o) (h : Ahead o) :
  readZone? m.spelledZone = none
  := by
  obtain ⟨hpos, hsmall⟩ := h
  have hday : o.natAbs < day := by
    simp only [minute, second, day] at *
    omega
  have htail : offsetTail o.natAbs ≠ [] := by
    rw [ne_eq, offsetTail_eq_nil_iff, Nat.mod_eq_of_lt (by omega)]
    omega
  have hzone : m.zone = Point.char 'Z' :: offsetTail o.natAbs := by
    rw [zone, ho, zoneOf, stampOffset, if_pos ((offsetHead_eq_iff hday).mpr ⟨hpos.le, hsmall⟩)]
  have hne : m.zone ≠ [.char 'Z'] := by
    simpa [hzone] using htail
  rw [spelledZone, if_neg hne, hzone, readZone?, readOffset?]
  simp [atEnd_offsetTail htail]

theorem spelledZone_of_not_ahead (ho : m.offset = some o) (hday : o.natAbs < day)
    (h : ¬ Ahead o) :
  m.spelledZone = offsetChars o
  := by
  rw [spelledZone, zone, ho, zoneOf, stampOffset]
  by_cases hzero : o = 0
  · rw [hzero]
    decide
  · have hhead : offsetHead o ≠ ("+00:00" : Text).toList := by
      rw [ne_eq, offsetHead_eq_iff hday]
      rw [Ahead] at h
      omega
    have hmark : offsetChars o ≠ [.char 'Z'] := by
      intro hmark
      obtain ⟨c, hc, hnum⟩ := endsInDigit_offsetChars o
      rw [hmark] at hc
      obtain rfl := Option.some.inj hc
      cases hnum
    rw [if_neg hhead, if_neg hmark]

/-- The end of any other stamp is read as the offset, where less than a second does not count. -/
theorem readZone?_of_not_ahead (hm : m.Local) (h : ∀ o ∈ m.offset, ¬ Ahead o) :
  readZone? m.spelledZone = some (m.offset.map fun o => if o.natAbs < second then 0 else o)
  := by
  cases ho : m.offset with
  | none =>
      rw [spelledZone, zone, ho]
      rfl
  | some o =>
      have hday := hm.offset o ho
      rw [spelledZone_of_not_ahead ho hday (h o ho), readZone?, readOffset?_offsetChars hday]
      simp [offsetChars, offsetHead]

/-- A moment is read back from its stamp, to the millisecond, if its clock is neither a little
ahead of UTC nor a little behind it. -/
theorem ofText?_stamp_of_tells (hm : m.Local) (h : m.Tells) :
  ofText? m.stamp = some m.cut.settled
  := by
  have hsame : (m.offset.map fun o => if o.natAbs < second then 0 else o) = m.offset := by
    cases ho : m.offset with
    | none => rfl
    | some o =>
        obtain ⟨hahead, hbehind⟩ := h o ho
        rw [Option.map_some]
        congr 1
        simp only [Ahead, Behind, minute, second] at *
        split_ifs <;> omega
  rw [ofText?_stamp_eq hm.wall, readZone?_of_not_ahead hm fun o ho => (h o ho).1, hsame]
  rfl

/-- From the stamp of any other moment another time is read, or none. -/
theorem tells_iff (hm : m.Local) :
  m.Tells ↔ ∃ n, ofText? m.stamp = some n ∧ n.instant = m.cut.instant
  := by
  constructor
  · intro h
    exact ⟨_, ofText?_stamp_of_tells hm h, rfl⟩
  · rintro ⟨n, hn, hinstant⟩
    have hahead : ∀ o ∈ m.offset, ¬ Ahead o := by
      intro o ho hahead
      rw [ofText?_stamp_eq hm.wall, readZone?_of_ahead ho hahead] at hn
      cases hn
    intro o ho
    refine ⟨hahead o ho, ?_⟩
    rintro ⟨hlow, hhigh⟩
    rw [ofText?_stamp_eq hm.wall, readZone?_of_not_ahead hm hahead] at hn
    obtain rfl := Option.some.inj hn
    rw [Option.mem_def.mp ho, Option.map_some, if_pos (by omega)] at hinstant
    simp only [instant, settled, cut, Option.mem_def.mp ho, Option.getD_some] at hinstant
    omega

end Moment

end Kanban
