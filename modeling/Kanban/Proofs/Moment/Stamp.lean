import Kanban.Moment.Reader
import Kanban.Proofs.Date
import Kanban.Proofs.Json.Numeral

/-!
# Stamps read back

The stamp of a moment in UTC is a text that denotes a moment: the same one, cut off to the
millisecond (`Moment.ofText?_stamp`).  `Date.chars`, `Clock.chars` and `Moment.zone` are the parts
of a stamp, each of which is read back on its own.
-/

namespace Kanban

open Json (Numerals isNumeral numeralsValue)

/-! ### Digits -/

theorem foldlM_asciiDigit? {ds : List Point} (h : Numerals ds) (v : Nat) :
  ds.foldlM (fun v c => (asciiDigit? c).map (10 * v + ·)) v
    = some (10 ^ ds.length * v + numeralsValue ds)
  := by
  induction ds generalizing v with
  | nil => simp [numeralsValue]
  | cons d ds ih =>
      obtain ⟨hd, hds⟩ := List.forall_mem_cons.mp h
      have hdigit : asciiDigit? d = some (d.toNat - '0'.toNat) := by
        simp only [isNumeral, Bool.and_eq_true, decide_eq_true_eq] at hd
        simp [asciiDigit?, hd]
      rw [List.foldlM_cons, hdigit, Option.map_some, Option.bind_eq_bind, Option.bind_some,
        ih hds, Json.numeralsValue_cons, List.length_cons]
      congr 1
      ring

theorem length_paddedDigits {n v : Nat} (hn : n ≠ 0) (h : v < 10 ^ n) :
  (Number.paddedDigits n v).length = n
  := by
  have : (Number.digits v).length ≤ n :=
    (Json.length_digits_le_iff (Nat.pos_of_ne_zero hn)).mpr h
  rw [Number.paddedDigits, List.length_append, List.length_replicate]
  omega

/-- A number that fills no more than `n` digits is read back from `n` digits. -/
theorem takeDigits?_paddedDigits {n v : Nat} (hn : n ≠ 0) (h : v < 10 ^ n) (rest : List Point) :
  takeDigits? n (Number.paddedDigits n v ++ rest) = some (v, rest)
  := by
  have hlen := length_paddedDigits hn h
  have hle : n ≤ (Number.paddedDigits n v ++ rest).length := by
    rw [List.length_append]
    omega
  unfold takeDigits?
  dsimp only
  rw [List.take_left' hlen, List.drop_left' hlen,
    foldlM_asciiDigit? (Json.numerals_paddedDigits n v), Json.numeralsValue_paddedDigits]
  simp only [guard, hle, ↓reduceIte, Nat.mul_zero, Nat.zero_add, Option.pure_def,
    Option.bind_eq_bind, Option.bind_some]

theorem takeDigits?_two {v : Nat} (h : v < 100) (rest : List Point) :
  takeDigits? 2 (Moment.two v ++ rest) = some (v, rest)
  := takeDigits?_paddedDigits (by decide) h rest

theorem Moment.length_two {v : Nat} (h : v < 100) :
  (Moment.two v).length = 2
  := length_paddedDigits (by decide) h

theorem Moment.two_ne_nil (v : Nat) :
  Moment.two v ≠ []
  := Json.paddedDigits_ne_nil 2 v

@[simp]
theorem all_isChar_paddedDigits (n v : Nat) :
  (Number.paddedDigits n v).all Point.isChar = true
  := by
  simp [Number.paddedDigits, Number.digits]

@[simp]
theorem Moment.all_isChar_two (v : Nat) :
  (Moment.two v).all Point.isChar = true
  := all_isChar_paddedDigits 2 v

/-! ### Dates -/

namespace Date

/-- A date written with hyphens. -/
def chars (d : Date) : List Point :=
  Number.paddedDigits 4 d.year
    ++ Point.char '-' :: (Moment.two d.month ++ Point.char '-' :: Moment.two d.day)

theorem length_chars {d : Date} (h : d.Valid) :
  d.chars.length = 10
  := by
  obtain ⟨hyear, hmonth, hday⟩ := h.bounds
  have hyear : (Number.paddedDigits 4 d.year).length = 4 := length_paddedDigits (by decide) hyear
  simp [chars, hyear, Moment.length_two hmonth, Moment.length_two hday]

/-- A written date is recognized where a time follows it. -/
theorem width_chars {d : Date} (h : d.Valid) (rest : List Point) :
  width (d.chars ++ rest) = 10
  := by
  obtain ⟨hyear, hmonth, -⟩ := h.bounds
  have hyear : (Number.paddedDigits 4 d.year).length = 4 := length_paddedDigits (by decide) hyear
  have hnum := Json.numerals_paddedDigits 2 d.month
  have hlen := length_chars h
  obtain ⟨a, b, hmonth⟩ := List.length_eq_two.mp (Moment.length_two hmonth)
  rw [← Moment.two, hmonth] at hnum
  have hweek : a ≠ .char 'W' := by
    rintro rfl
    exact absurd (hnum 'W' (by simp)) (by decide)
  have hhyphen : (d.chars ++ rest)[4]? = some (.char '-') := by
    simp [chars, hyear]
  have hdigit : (d.chars ++ rest)[5]? = some a := by
    simp [chars, hyear, hmonth, List.getElem?_append_right]
  have hlong : (d.chars ++ rest).length ≠ 7 := by
    rw [List.length_append]
    omega
  rw [width]
  rw [if_neg hlong]
  simp [hhyphen, hdigit, hweek]

theorem read?_chars {d : Date} (h : d.Valid) :
  read? d.chars = some d
  := by
  obtain ⟨hyear, hmonth, hday⟩ := h.bounds
  have hweek (rest : List Point) : ∀ cs, Moment.two d.month ++ rest ≠ Point.char 'W' :: cs := by
    intro cs hcs
    have hnum := Json.numerals_paddedDigits 2 d.month
    obtain ⟨a, b, hab⟩ := List.length_eq_two.mp (Moment.length_two hmonth)
    rw [hab] at hcs
    rw [← Moment.two, hab] at hnum
    obtain rfl := (List.cons.inj hcs).1
    exact absurd (hnum 'W' (by simp)) (by decide)
  have hyear := takeDigits?_paddedDigits (n := 4) (by decide) hyear
    (Point.char '-' :: (Moment.two d.month ++ Point.char '-' :: Moment.two d.day))
  have hmonth := takeDigits?_two hmonth (Point.char '-' :: Moment.two d.day)
  have hday := takeDigits?_two hday []
  rw [List.append_nil] at hday
  rw [read?, chars]
  rw [hyear]
  simp only [Option.bind_eq_bind, Option.bind_some, List.head?_cons, BEq.rfl, ↓reduceIte,
    List.drop_succ_cons, List.drop_zero]
  split
  · next cs hcs => exact absurd hcs (hweek _ cs)
  · simp only [readMonth?, skipHyphen?, hmonth, hday, h, Option.bind_eq_bind, Option.bind_some,
      ↓reduceIte, guard, decide_true, Option.pure_def]

end Date

/-! ### Times of day -/

namespace Clock

/-- A time of day written to the millisecond. -/
def chars (c : Clock) : List Point :=
  Moment.two c.hours ++ Point.char ':' :: (Moment.two c.minutes ++ Point.char ':' ::
    (Moment.two c.seconds ++ Point.char '.' :: Number.paddedDigits 3 (c.micros / 1000)))

theorem readParts?_colon
    {left v : Nat} {colons : Option Bool} {parts : List Nat} {rest : List Point} (hv : v < 100)
    (hrest : rest ≠ []) (hcolons : colons ≠ some false) :
  readParts? (left + 1) colons parts (Moment.two v ++ Point.char ':' :: rest)
    = readParts? left (some true) (v :: parts) rest
  := by
  obtain ⟨c, cs, rfl⟩ := List.exists_cons_of_ne_nil hrest
  have hon : colons.getD true = true := by
    rcases colons with _ | _ | _
    · rfl
    · contradiction
    · rfl
  rw [readParts?, takeDigits?_two hv]
  simp [hon]

theorem readParts?_point
    {left v : Nat} {parts : List Nat} {rest : List Point} (hv : v < 100) (hrest : rest ≠ []) :
  readParts? left (some true) parts (Moment.two v ++ Point.char '.' :: rest)
    = readFraction? (v :: parts) rest
  := by
  obtain ⟨c, cs, rfl⟩ := List.exists_cons_of_ne_nil hrest
  rw [readParts?.eq_def]
  simp [takeDigits?_two hv]

/-- Where no more than two digits are left, they are the last part. -/
theorem readParts?_end
    {left v : Nat} {colons : Option Bool} {parts : List Nat} (hv : v < 100) :
  readParts? left colons parts (Moment.two v) = some (ofParts (v :: parts) 0, [])
  := by
  have htake := takeDigits?_two hv []
  rw [List.append_nil] at htake
  rw [readParts?.eq_def]
  simp [htake]

theorem readFraction?_paddedDigits
    {parts : List Nat} {n v : Nat} (hn : n ≠ 0) (hle : n ≤ 6) (hv : v < 10 ^ n) :
  readFraction? parts (Number.paddedDigits n v)
    = some (ofParts parts (v * Nat.pow 10 (6 - n)), [])
  := by
  have htake := takeDigits?_paddedDigits hn hv []
  rw [List.append_nil] at htake
  rw [readFraction?]
  rw [length_paddedDigits hn hv, Nat.min_eq_right hle]
  dsimp only
  rw [htake]
  rfl

/-- A written time reads back to the millisecond. -/
theorem read?_chars {c : Clock} (h : c.Valid) (hmicros : c.micros < Moment.second) :
  read? c.chars = some ({ c with micros := c.micros / 1000 * 1000 }, [])
  := by
  obtain ⟨hh, hm, hs⟩ := h
  have hmillis : c.micros / 1000 < 1000 := by
    rw [Moment.second] at hmicros
    omega
  rw [read?, chars]
  rw [readParts?_colon (by omega) (by simp [Moment.two_ne_nil]) (by simp),
    readParts?_colon (by omega) (by simp [Moment.two_ne_nil]) (by simp),
    readParts?_point (by omega) (Json.paddedDigits_ne_nil _ _),
    readFraction?_paddedDigits (by decide) (by decide) hmillis]
  rfl

theorem startsOffset_of_isNumeral {c : Point} (h : isNumeral c = true) :
  Moment.startsOffset c = false
  := by
  have hne (d : Point) (hd : isNumeral d = false) : c ≠ d := by
    rintro rfl
    rw [h] at hd
    contradiction
  simp [Moment.startsOffset, hne '+' rfl, hne '-' rfl, hne 'Z' rfl]

theorem startsOffset_of_mem_chars {c : Clock} {x : Point} (h : x ∈ c.chars) :
  Moment.startsOffset x = false
  := by
  simp only [chars, Moment.two, List.mem_append, List.mem_cons] at h
  rcases h with h | rfl | h | rfl | h | rfl | h
  · apply startsOffset_of_isNumeral (Json.numerals_paddedDigits _ _ x h)
  · rfl
  · apply startsOffset_of_isNumeral (Json.numerals_paddedDigits _ _ x h)
  · rfl
  · apply startsOffset_of_isNumeral (Json.numerals_paddedDigits _ _ x h)
  · rfl
  · apply startsOffset_of_isNumeral (Json.numerals_paddedDigits _ _ x h)

end Clock

/-! ### Stamps -/

theorem Text.isBlank_of_isNumeral {c : Point} (h : isNumeral c = true) :
  Text.isBlank c = false
  := by
  have h : 48 ≤ c.toNat ∧ c.toNat ≤ 57 := Json.bounds_of_isNumeral h
  simp only [Text.isBlank, Text.inRanges, Text.blankRanges, List.any_cons, List.any_nil]
  simp
  omega

theorem Text.trim_eq_self {cs : List Point} (hhead : ∀ c ∈ cs.head?, Text.isBlank c = false)
    (hlast : ∀ c ∈ cs.getLast?, Text.isBlank c = false) :
  Text.trim cs = cs
  := by
  have hdrop {l : List Point} (h : ∀ c ∈ l.head?, Text.isBlank c = false) :
      l.dropWhile Text.isBlank = l := by
    cases l with
    | nil => rfl
    | cons c l => simp [h c rfl]
  rw [Text.trim]
  rw [hdrop hhead, hdrop (by rwa [List.head?_reverse]), List.reverse_reverse]

namespace Moment

/-- A moment of the calendar, shown by a clock in UTC. -/
structure Utc (m : Moment) : Prop where
  offset : m.offset = some 0
  wall : m.wall < wallEnd

/-- Some days later the calendar has not ended, and the clock is as far from UTC. -/
theorem addDays?_spec {m n : Moment} {days : Int} (h : m.addDays? days = some n) :
  n.wall < wallEnd ∧ n.offset = m.offset
  := by
  unfold addDays? at h
  dsimp only at h
  split_ifs at h with hwall
  obtain rfl := Option.some.inj h
  refine ⟨?_, rfl⟩
  dsimp only
  omega

/-- The day of a moment. -/
def date (m : Moment) : Date := Date.ofDay (m.wall / day)

/-- The time of day of a moment. -/
def clock (m : Moment) : Clock :=
  let s := m.wall % day / second
  ⟨s / 3600, s / 60 % 60, s % 60, m.micros⟩

theorem date_valid {m : Moment} (h : m.wall < wallEnd) :
  m.date.Valid
  := Date.ofDay_valid (Nat.div_lt_of_lt_mul (by rwa [Nat.mul_comm]))

theorem clock_valid (m : Moment) :
  m.clock.Valid
  := by
  have : m.wall % day < 86400 * second := Nat.mod_lt _ (by decide)
  rw [second] at this
  refine ⟨?_, Nat.mod_lt _ (by decide), Nat.mod_lt _ (by decide)⟩
  simp only [clock, second]
  omega

/-- What a stamp has for an offset. -/
def zoneOf : Option Int → List Point
  | some o => stampOffset o
  | none => []

/-- What the stamp of a moment has for the offset. -/
def zone (m : Moment) : List Point := zoneOf m.offset

theorem stampChars_eq (m : Moment) :
  m.stampChars = m.date.chars ++ Point.char 'T' :: (m.clock.chars ++ m.zone)
  := by
  rw [stampChars, wallChars, Date.chars, Clock.chars, zone]
  cases m.offset <;> simp [zoneOf, date, clock]

theorem zone_utc {m : Moment} (h : m.offset = some 0) :
  m.zone = [.char 'Z']
  := by
  rw [zone]
  rw [h]
  decide

theorem stampChars_utc {m : Moment} (h : m.offset = some 0) :
  m.stampChars = m.date.chars ++ Point.char 'T' :: (m.clock.chars ++ [.char 'Z'])
  := by
  rw [stampChars_eq, zone_utc h]

/-! ### The ends of a stamp -/

/-- The last character is a digit. -/
def EndsInDigit (cs : List Point) : Prop := ∃ c, cs.getLast? = some c ∧ isNumeral c = true

theorem EndsInDigit.append {cs : List Point} (h : EndsInDigit cs) (l : List Point) :
  EndsInDigit (l ++ cs)
  := by
  obtain ⟨c, hc, hnum⟩ := h
  refine ⟨c, ?_, hnum⟩
  rw [List.getLast?_append, hc, Option.some_or]

theorem EndsInDigit.cons {cs : List Point} (h : EndsInDigit cs) (c : Point) :
  EndsInDigit (c :: cs)
  := h.append [c]

theorem endsInDigit_paddedDigits (n v : Nat) :
  EndsInDigit (Number.paddedDigits n v)
  := by
  have hne := Json.paddedDigits_ne_nil n v
  refine ⟨_, List.getLast?_eq_some_getLast hne, ?_⟩
  apply Json.numerals_paddedDigits n v _ (List.getLast_mem hne)

theorem endsInDigit_offsetTail {n : Nat} (h : offsetTail n ≠ []) :
  EndsInDigit (offsetTail n)
  := by
  rw [offsetTail] at h ⊢
  split_ifs at h ⊢
  · exact absurd rfl h
  · rw [fractionChars]
    split_ifs
    · rw [List.append_nil]
      apply (endsInDigit_paddedDigits _ _).cons
    · apply ((endsInDigit_paddedDigits _ _).cons _).append

theorem endsInDigit_offsetChars (o : Int) :
  EndsInDigit (offsetChars o)
  := by
  rw [offsetChars]
  by_cases h : offsetTail o.natAbs = []
  · rw [h, List.append_nil, offsetHead]
    apply ((endsInDigit_paddedDigits _ _).cons _).append
  · apply (endsInDigit_offsetTail h).append

/-- A stamp ends in a digit, or in the mark of UTC. -/
theorem endsInDigit_stampChars {m : Moment} (h : m.zone ≠ [.char 'Z']) :
  EndsInDigit m.stampChars
  := by
  rw [stampChars_eq]
  apply (EndsInDigit.cons _ _).append
  rw [zone] at h ⊢
  cases hoffset : m.offset with
  | none =>
      rw [zoneOf, List.append_nil, Clock.chars]
      apply ((((((endsInDigit_paddedDigits _ _).cons _).append _).cons _).append _).cons _).append
  | some o =>
      rw [hoffset, zoneOf, stampOffset] at h
      rw [zoneOf, stampOffset]
      apply EndsInDigit.append
      split_ifs at h ⊢
      · apply EndsInDigit.cons
        apply endsInDigit_offsetTail
        rintro htail
        rw [htail] at h
        exact h rfl
      · apply endsInDigit_offsetChars

theorem trim_stampChars (m : Moment) :
  Text.trim m.stampChars = m.stampChars
  := by
  apply Text.trim_eq_self
  · intro c hc
    obtain ⟨y, ys, hy⟩ := List.exists_cons_of_ne_nil (Json.paddedDigits_ne_nil 4 m.date.year)
    have hnum := Json.numerals_paddedDigits 4 m.date.year
    rw [hy] at hnum
    simp only [stampChars_eq, Date.chars, hy, List.cons_append, List.head?_cons,
      Option.mem_some_iff] at hc
    obtain rfl := hc
    apply Text.isBlank_of_isNumeral (hnum y (by simp))
  · intro c hc
    by_cases hzone : m.zone = [.char 'Z']
    · rw [stampChars_eq, hzone, ← List.cons_append, ← List.append_assoc, List.getLast?_concat]
        at hc
      obtain rfl := Option.some.inj hc
      decide
    · obtain ⟨d, hd, hnum⟩ := endsInDigit_stampChars hzone
      obtain rfl := Option.some.inj (hd.symm.trans hc)
      apply Text.isBlank_of_isNumeral hnum

/-! ### Reading a stamp -/

/-- What the stamp of a moment has for the offset, with the mark of UTC spelled out. -/
def spelledZone (m : Moment) : List Point :=
  if m.zone = [.char 'Z'] then ("+00:00" : Text).toList else m.zone

theorem spellUtc_stampChars (m : Moment) :
  spellUtc m.stampChars = m.date.chars ++ Point.char 'T' :: (m.clock.chars ++ m.spelledZone)
  := by
  rw [spelledZone, spellUtc]
  split_ifs with hzone
  · have hsplit :
        m.stampChars = (m.date.chars ++ Point.char 'T' :: m.clock.chars) ++ [.char 'Z'] := by
      rw [stampChars_eq, hzone, List.append_assoc, List.cons_append]
    rw [hsplit, List.getLast?_concat, List.dropLast_concat, List.append_assoc, List.cons_append]
    rfl
  · obtain ⟨c, hc, hnum⟩ := endsInDigit_stampChars hzone
    rw [← stampChars_eq]
    split
    · next hlast =>
        obtain rfl := Option.some.inj (hlast.symm.trans hc)
        cases hnum
    · next hlast =>
        obtain rfl := Option.some.inj (hlast.symm.trans hc)
        cases hnum
    · rfl

/-- The offset that a text is, where no text is no offset. -/
def readZone? (cs : List Point) : Option (Option Int) :=
  if cs.isEmpty then some none else (readOffset? cs).map some

theorem readTime?_clock (m : Moment) {zone : List Point}
    (hzone : ∀ c ∈ zone.head?, startsOffset c = true) :
  readTime? (m.clock.chars ++ zone)
    = (readZone? zone).map fun o => (m.clock.toSeconds * second + m.micros / 1000 * 1000, o)
  := by
  have hmicros : m.clock.micros < second := Nat.mod_lt _ (by decide)
  have hall : ∀ x ∈ m.clock.chars, (!startsOffset x) = true := by
    intro x hx
    rw [Clock.startsOffset_of_mem_chars hx]
    rfl
  have hspan : (m.clock.chars ++ zone).span (!startsOffset ·) = (m.clock.chars, zone) := by
    rw [List.span_eq_takeWhile_dropWhile, List.takeWhile_append_of_pos hall,
      List.dropWhile_append_of_pos hall]
    cases zone with
    | nil => simp
    | cons c cs => simp [hzone c rfl]
  have hvalid : Clock.Valid { m.clock with micros := m.clock.micros / 1000 * 1000 } :=
    m.clock_valid
  rw [readTime?, readZone?]
  rw [hspan]
  simp only [Clock.read?_chars m.clock_valid hmicros, hvalid, Option.bind_eq_bind,
    Option.bind_some, decide_true, guard, ↓reduceIte, Option.pure_def, atEnd]
  split_ifs
  · rfl
  · cases readOffset? zone <;> rfl

theorem wall_eq (m : Moment) :
  m.date.toDay * day + (m.clock.toSeconds * second + m.micros / 1000 * 1000)
    = m.wall - m.wall % 1000
  := by
  have hdate : m.date.toDay = m.wall / day := Date.toDay_ofDay _
  rw [hdate]
  simp only [clock, Clock.toSeconds, micros, day, second]
  omega

theorem startsOffset_of_head?_spelledZone {m : Moment} {c : Point}
    (h : c ∈ m.spelledZone.head?) :
  startsOffset c = true
  := by
  rw [spelledZone, zone] at h
  split_ifs at h with hzone
  · obtain rfl := Option.some.inj h
    decide
  · cases hoffset : m.offset with
    | none => simp [hoffset, zoneOf] at h
    | some o =>
        rw [hoffset, zoneOf, stampOffset, offsetChars, offsetHead] at h
        split_ifs at h <;> obtain rfl := Option.some.inj h <;> decide

theorem all_isChar_offsetTail (n : Nat) :
  (offsetTail n).all Point.isChar = true
  := by
  simp only [offsetTail, fractionChars]
  split_ifs <;> simp

theorem all_isChar_spelledZone (m : Moment) :
  m.spelledZone.all Point.isChar = true
  := by
  rw [spelledZone, zone]
  split_ifs
  · rfl
  · cases m.offset with
    | none => rfl
    | some o =>
        simp only [zoneOf, stampOffset, offsetChars, offsetHead]
        split_ifs <;> simp [all_isChar_offsetTail]

/-- The stamp of a moment reads as the moment, to the millisecond and with the offset as which the
end of the stamp is read. -/
theorem ofText?_stamp_eq {m : Moment} (hwall : m.wall < wallEnd) :
  ofText? m.stamp
    = (readZone? m.spelledZone).map fun o => settled ⟨m.wall - m.wall % 1000, o⟩
  := by
  have hvalid := date_valid hwall
  have hlen := Date.length_chars hvalid
  have hlong :
      7 ≤ (m.date.chars ++ Point.char 'T' :: (m.clock.chars ++ m.spelledZone)).length := by
    rw [List.length_append]
    omega
  have hchars : (m.clock.chars ++ m.spelledZone).all Point.isChar = true := by
    rw [List.all_append, all_isChar_spelledZone]
    simp [Clock.chars]
  rw [ofText?, stamp]
  rw [Text.toList_ofList, trim_stampChars, spellUtc_stampChars]
  rw [ofIso?]
  rw [Date.width_chars hvalid]
  dsimp only
  rw [List.take_left' hlen, List.drop_left' hlen, Date.read?_chars hvalid]
  simp only [hlong, hchars, guard, ↓reduceIte, Option.pure_def, Option.bind_eq_bind,
    Option.bind_some, readTime?_clock m fun _ => startsOffset_of_head?_spelledZone]
  cases readZone? m.spelledZone with
  | none => rfl
  | some o => simp only [Option.map_some, Option.bind_some, wall_eq]

/-- The stamp of a moment in UTC reads as the moment, to the millisecond. -/
theorem ofText?_stamp {m : Moment} (hm : m.Utc) :
  ofText? m.stamp = some ⟨m.wall - m.wall % 1000, some 0⟩
  := by
  have hzone : readZone? ("+00:00" : Text).toList = some (some 0) := by cbv
  rw [ofText?_stamp_eq hm.wall, spelledZone, if_pos (zone_utc hm.offset), hzone]
  rfl

end Moment

end Kanban
