import Kanban.Proofs.Moment.Stamp

/-!
# Stamps in the order of time

Code points are ordered by number, and texts by their first code points that differ.
The stamps of moments in UTC are ordered as texts as the moments are in time, to the
millisecond (`Moment.stamp_le_stamp_iff`): their parts stand from the years down to the
milliseconds, and each part always has the same number of digits.  Texts that are also in the
order of the moments that they denote are put in relation by `Moment.NotLater`.
-/

namespace Kanban

open Json (Numerals isNumeral numeralsValue)

/-! ### The order of texts -/

instance : LinearOrder Point where
  le_refl _ := Nat.le_refl _
  le_trans _ _ _ := Nat.le_trans
  lt_iff_le_not_ge p q := lt_iff_le_not_ge (a := p.toNat) (b := q.toNat)
  le_antisymm _ _ h h' := Point.toNat_inj.mp (Nat.le_antisymm h h')
  le_total _ _ := Nat.le_total _ _
  toDecidableLE := inferInstance
  toDecidableLT := inferInstance

instance : LE Text := ⟨fun s t => s.toList ≤ t.toList⟩

instance : LinearOrder Text where
  le_refl s := le_refl s.toList
  le_trans s t u := le_trans (a := s.toList) (b := t.toList) (c := u.toList)
  lt_iff_le_not_ge s t := lt_iff_le_not_ge (a := s.toList) (b := t.toList)
  le_antisymm s t h h' := Text.toList_inj.mp (le_antisymm (a := s.toList) (b := t.toList) h h')
  le_total s t := le_total s.toList t.toList
  toDecidableLE s t := inferInstanceAs (Decidable (s.toList ≤ t.toList))
  toDecidableLT s t := inferInstanceAs (Decidable (s.toList < t.toList))

/-! ### Rows of digits -/

theorem lt_iff_digit_lt {c d : Point} (hc : isNumeral c = true) :
  c < d ↔ c.toNat - '0'.toNat < d.toNat - '0'.toNat
  := by
  have hc := (Json.bounds_of_isNumeral hc).1
  rw [Point.lt_def]
  omega

/-- Of two rows of digits of the same length the one with the smaller value comes first,
whatever follows. -/
theorem append_lt_of_numeralsValue_lt {ds es : List Point} (hd : Numerals ds) (he : Numerals es)
    (hlen : ds.length = es.length) (h : numeralsValue ds < numeralsValue es)
    (xs ys : List Point) :
  ds ++ xs < es ++ ys
  := by
  induction ds generalizing es with
  | nil =>
      obtain rfl := List.eq_nil_of_length_eq_zero hlen.symm
      exact absurd h (lt_irrefl _)
  | cons c ds ih =>
      obtain _ | ⟨d, es⟩ := es
      · cases hlen
      obtain ⟨hc, hds⟩ := List.forall_mem_cons.mp hd
      obtain ⟨hd, hes⟩ := List.forall_mem_cons.mp he
      have hlen : ds.length = es.length := Nat.succ.inj hlen
      have hsmall := Json.numeralsValue_lt hds
      have hsmall' := Json.numeralsValue_lt hes
      rw [Json.numeralsValue_cons, Json.numeralsValue_cons, hlen] at h
      rw [hlen] at hsmall
      rw [List.cons_append, List.cons_append, List.cons_lt_cons_iff]
      rcases lt_trichotomy (c.toNat - '0'.toNat) (d.toNat - '0'.toNat) with hlt | heq | hgt
      · left
        apply (lt_iff_digit_lt hc).mpr hlt
      · right
        have hcd : ¬ c < d ∧ ¬ d < c := by
          rw [lt_iff_digit_lt hc, lt_iff_digit_lt hd]
          omega
        refine ⟨le_antisymm (not_lt.mp hcd.2) (not_lt.mp hcd.1), ?_⟩
        apply ih hds hes hlen
        rw [heq] at h
        omega
      · -- The first digit alone makes the first row greater.
        have hgreater := Nat.mul_le_mul_left (10 ^ es.length) (Nat.succ_le_of_lt hgt)
        rw [Nat.mul_succ] at hgreater
        omega

/-- Of two numbers in `n` digits the smaller one comes first, and where they are equal, what
follows decides. -/
theorem paddedDigits_append_lt {n v w : Nat} (hn : n ≠ 0) (hv : v < 10 ^ n) (hw : w < 10 ^ n)
    {xs ys : List Point} (h : v < w ∨ v = w ∧ xs < ys) :
  Number.paddedDigits n v ++ xs < Number.paddedDigits n w ++ ys
  := by
  rcases h with h | ⟨rfl, h⟩
  · apply append_lt_of_numeralsValue_lt (Json.numerals_paddedDigits n v)
      (Json.numerals_paddedDigits n w)
    · rw [length_paddedDigits hn hv, length_paddedDigits hn hw]
    · simpa using h
  · apply List.append_left_lt h

theorem Moment.two_append_lt {v w : Nat} (hv : v < 100) (hw : w < 100) {c : Point}
    {xs ys : List Point} (h : v < w ∨ v = w ∧ xs < ys) :
  Moment.two v ++ c :: xs < Moment.two w ++ c :: ys
  := by
  apply paddedDigits_append_lt (by decide) hv hw
  rwa [List.cons_lt_cons_self]

/-! ### Dates -/

namespace Date

/-- An earlier day. -/
def Before (d e : Date) : Prop :=
  d.year < e.year
    ∨ d.year = e.year ∧ (d.month < e.month ∨ d.month = e.month ∧ d.day < e.day)

theorem yearStart_le {y z : Nat} (hy : 1 ≤ y) (h : y ≤ z) :
  yearStart y ≤ yearStart z
  := by
  induction z, h using Nat.le_induction with
  | base => apply le_refl
  | succ z hz ih =>
      rw [yearStart_succ (hy.trans hz)]
      omega

/-- The days of the first months, and those of one more. -/
theorem sum_take_succ (ls : List Nat) (p : Nat) :
  (ls.take (p + 1)).sum = (ls.take p).sum + (ls[p]?).getD 0
  := by
  rw [List.take_add_one, List.sum_append]
  cases ls[p]? <;> simp

theorem sum_take_le (ls : List Nat) {p q : Nat} (h : p ≤ q) :
  (ls.take p).sum ≤ (ls.take q).sum
  := by
  induction q, h using Nat.le_induction with
  | base => apply le_refl
  | succ q _ ih =>
      rw [sum_take_succ]
      omega

/-- A smaller number is that of an earlier day. -/
theorem before_ofDay {a b : Nat} (h : a < b) :
  (ofDay a).Before (ofDay b)
  := by
  obtain ⟨p, r, ha, -, hr, hsum⟩ := ofDay_spec a
  obtain ⟨q, s, hb, -, hs, hsum'⟩ := ofDay_spec b
  rw [ha, hb, Before]
  rcases lt_trichotomy (yearOf a) (yearOf b) with hlt | heq | hgt
  · exact .inl hlt
  · right
    refine ⟨heq, ?_⟩
    rw [heq] at hr hsum
    rcases lt_trichotomy p q with hlt | rfl | hgt
    · exact .inl (Nat.succ_lt_succ hlt)
    · right
      refine ⟨rfl, ?_⟩
      dsimp only
      omega
    · have hdays := sum_take_le (monthLengths (yearOf b)) hgt
      rw [Nat.succ_eq_add_one, sum_take_succ] at hdays
      omega
  · have hstart := yearStart_le (Nat.le_add_left 1 _) hgt
    have hbegun := (yearOf_spec a).2.1
    have hended := (yearOf_spec b).2.2
    omega

/-- The text of an earlier day comes first, and on the same day what follows decides. -/
theorem chars_append_lt {d e : Date} (hd : d.Valid) (he : e.Valid) {xs ys : List Point}
    (h : d.Before e ∨ d = e ∧ xs < ys) :
  d.chars ++ xs < e.chars ++ ys
  := by
  rcases h with h | ⟨rfl, h⟩
  · obtain ⟨hdyear, hdmonth, hdday⟩ := hd.bounds
    obtain ⟨heyear, hemonth, heday⟩ := he.bounds
    simp only [chars, List.append_assoc, List.cons_append]
    apply paddedDigits_append_lt (by decide) hdyear heyear
    rw [List.cons_lt_cons_self]
    apply h.imp_right (And.imp_right _)
    intro h
    apply Moment.two_append_lt hdmonth hemonth
    apply h.imp_right (And.imp_right _)
    intro h
    apply paddedDigits_append_lt (by decide) hdday heday (.inl h)
  · apply List.append_left_lt h

end Date

/-! ### Times of day -/

namespace Clock

/-- A time of day that is earlier by a millisecond at least. -/
def Before (c d : Clock) : Prop :=
  c.hours < d.hours ∨ c.hours = d.hours
    ∧ (c.minutes < d.minutes ∨ c.minutes = d.minutes
      ∧ (c.seconds < d.seconds ∨ c.seconds = d.seconds ∧ c.micros / 1000 < d.micros / 1000))

/-- The text of an earlier time of day comes first. -/
theorem chars_append_lt {c d : Clock} (hc : c.Valid) (hd : d.Valid)
    (hcmicros : c.micros < Moment.second) (hdmicros : d.micros < Moment.second)
    (h : c.Before d) (xs ys : List Point) :
  c.chars ++ xs < d.chars ++ ys
  := by
  obtain ⟨hch, hcm, hcs⟩ := hc
  obtain ⟨hdh, hdm, hds⟩ := hd
  rw [Moment.second] at hcmicros hdmicros
  simp only [chars, List.append_assoc, List.cons_append]
  apply Moment.two_append_lt (by omega) (by omega)
  apply h.imp_right (And.imp_right _)
  intro h
  apply Moment.two_append_lt (by omega) (by omega)
  apply h.imp_right (And.imp_right _)
  intro h
  apply Moment.two_append_lt (by omega) (by omega)
  apply h.imp_right (And.imp_right _)
  intro h
  apply paddedDigits_append_lt (by decide) (by omega) (by omega) (.inl h)

end Clock

/-! ### Stamps -/

namespace Moment

variable {m n : Moment}

/-- On one day, the clock that shows less is the earlier one. -/
theorem clock_before (hday : m.wall / day = n.wall / day)
    (h : m.wall / 1000 < n.wall / 1000) :
  m.clock.Before n.clock
  := by
  simp only [Clock.Before, clock, micros, day, second] at *
  omega

theorem stamp_lt_stamp (hm : m.Utc) (hn : n.Utc) (h : m.wall / 1000 < n.wall / 1000) :
  m.stamp < n.stamp
  := by
  rw [Text.lt_iff_toList_lt]
  rw [stamp, stamp, Text.toList_ofList, Text.toList_ofList, stampChars_utc hm.offset,
    stampChars_utc hn.offset]
  apply Date.chars_append_lt (date_valid hm.wall) (date_valid hn.wall)
  have hle : m.wall / day ≤ n.wall / day := by
    simp only [day, second]
    omega
  rcases hle.lt_or_eq with hlt | heq
  · exact .inl (Date.before_ofDay hlt)
  · right
    refine ⟨congrArg Date.ofDay heq, ?_⟩
    rw [List.cons_lt_cons_self]
    apply Clock.chars_append_lt m.clock_valid n.clock_valid (Nat.mod_lt _ (by decide))
      (Nat.mod_lt _ (by decide)) (clock_before heq h)

/-- The stamp does not show what is finer than a millisecond. -/
theorem stamp_eq_stamp (hoffset : m.offset = n.offset) (h : m.wall / 1000 = n.wall / 1000) :
  m.stamp = n.stamp
  := by
  have hday : m.wall / day = n.wall / day := by
    simp only [day, second]
    omega
  have hseconds : m.wall % day / second = n.wall % day / second := by
    simp only [day, second]
    omega
  have hmillis : m.micros / 1000 = n.micros / 1000 := by
    simp only [micros, second]
    omega
  rw [stamp, stamp, stampChars, stampChars, wallChars, wallChars]
  rw [hday, hseconds, hmillis, hoffset]

/-- Stamps are in the order of time, to the millisecond. -/
theorem stamp_le_stamp_iff (hm : m.Utc) (hn : n.Utc) :
  m.stamp ≤ n.stamp ↔ m.wall / 1000 ≤ n.wall / 1000
  := by
  constructor
  · intro h
    by_contra hlt
    apply not_lt.mpr h
    apply stamp_lt_stamp hn hm (not_le.mp hlt)
  · intro h
    rcases h.lt_or_eq with hlt | heq
    · apply le_of_lt
      apply stamp_lt_stamp hm hn hlt
    · apply le_of_eq
      apply stamp_eq_stamp _ heq
      rw [hm.offset, hn.offset]

/-- Two texts that are in order, and that denote moments in order. -/
structure NotLater (s t : Text) : Prop where
  texts : s ≤ t
  moments : ∃ m n, ofText? s = some m ∧ ofText? t = some n ∧ m.instant ≤ n.instant

/-- Cutting moments off to the millisecond keeps them in order, and their stamps are. -/
theorem notLater_stamp (hm : m.Utc) (hn : n.Utc) (h : m.instant ≤ n.instant) :
  NotLater m.stamp n.stamp
  := by
  have hwall : m.wall ≤ n.wall := by
    simpa [instant, hm.offset, hn.offset] using h
  constructor
  · rw [stamp_le_stamp_iff hm hn]
    omega
  · refine ⟨_, _, ofText?_stamp hm, ofText?_stamp hn, ?_⟩
    simp only [instant, Option.getD_some, Int.sub_zero, Int.ofNat_le]
    omega

end Moment

end Kanban
