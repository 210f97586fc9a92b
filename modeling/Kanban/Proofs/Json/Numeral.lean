import Kanban.Json.Token
import Kanban.Json.Writer
import Kanban.Proofs.Number.Shortest

/-!
# Numbers read back

The text of a number in the layout of JSON is a word whose value is the number
(`Json.ofWord?_chars`), as long as an integer keeps to the number of digits that a reader
takes.  A double comes back whichever way its digits are laid out: every layout writes a
decimal of the same value (`Json.unsigned?_decimalChars`).
-/

namespace Kanban

/-! ### Rows of digits -/

namespace Json

theorem bounds_of_isNumeral {c : Point} (h : isNumeral c = true) :
  '0'.toNat ≤ c.toNat ∧ c.toNat ≤ '9'.toNat
  := by
  simpa [isNumeral, Point.le_def, UInt32.le_iff_toNat_le] using h

/-- A row of ASCII digits. -/
def Numerals (ds : List Point) : Prop := ∀ c ∈ ds, isNumeral c = true

theorem Numerals.append {xs ys : List Point} (hx : Numerals xs) (hy : Numerals ys) :
  Numerals (xs ++ ys)
  := by
  intro c hc
  rcases List.mem_append.mp hc with hc | hc
  · apply hx c hc
  · apply hy c hc

theorem Numerals.take {ds : List Point} (h : Numerals ds) (n : Nat) :
  Numerals (ds.take n)
  := fun c hc => h c (List.mem_of_mem_take hc)

theorem Numerals.drop {ds : List Point} (h : Numerals ds) (n : Nat) :
  Numerals (ds.drop n)
  := fun c hc => h c (List.mem_of_mem_drop hc)

theorem numerals_replicate_zero (n : Nat) :
  Numerals (List.replicate n '0')
  := by
  intro c hc
  rw [List.eq_of_mem_replicate hc]
  rfl

theorem isNumeral_of_isDigit {c : Char} (h : c.isDigit = true) :
  isNumeral c = true
  := by
  simp only [Char.isDigit, Bool.and_eq_true, decide_eq_true_eq, UInt32.le_iff_toNat_le] at h
  simpa [isNumeral, Point.le_def] using h

theorem numerals_digits (n : Nat) :
  Numerals (Number.digits n)
  := by
  intro c hc
  obtain ⟨d, hd, rfl⟩ := List.mem_map.mp hc
  exact isNumeral_of_isDigit (Nat.isDigit_of_mem_toDigits (by decide) (by decide) hd)

theorem numerals_paddedDigits (width n : Nat) :
  Numerals (Number.paddedDigits width n)
  := (numerals_replicate_zero _).append (numerals_digits n)

theorem numeralsValue_map_char (cs : List Char) :
  numeralsValue (cs.map .char) = Nat.ofDigitChars 10 cs 0
  := by
  simp [numeralsValue, Nat.ofDigitChars, List.foldl_map]

theorem numeralsValue_concat (ds : List Point) (d : Point) :
  numeralsValue (ds ++ [d]) = 10 * numeralsValue ds + (d.toNat - '0'.toNat)
  := by
  simp [numeralsValue]

theorem numeralsValue_append (xs ys : List Point) :
  numeralsValue (xs ++ ys) = 10 ^ ys.length * numeralsValue xs + numeralsValue ys
  := by
  induction ys using List.reverseRecOn with
  | nil => simp [numeralsValue]
  | append_singleton ys y ih =>
      rw [← List.append_assoc, numeralsValue_concat, numeralsValue_concat, ih,
        List.length_append, List.length_singleton, pow_succ]
      ring

theorem numeralsValue_cons (d : Point) (ds : List Point) :
  numeralsValue (d :: ds) = 10 ^ ds.length * (d.toNat - '0'.toNat) + numeralsValue ds
  := by
  simpa [numeralsValue] using numeralsValue_append [d] ds

theorem numeralsValue_lt {ds : List Point} (h : Numerals ds) :
  numeralsValue ds < 10 ^ ds.length
  := by
  induction ds with
  | nil => simp [numeralsValue]
  | cons d ds ih =>
      obtain ⟨hd, hds⟩ := List.forall_mem_cons.mp h
      have hdigit : d.toNat - '0'.toNat ≤ 9 := Nat.sub_le_sub_right (bounds_of_isNumeral hd).2 _
      have hfront := Nat.mul_le_mul_left (10 ^ ds.length) hdigit
      have hrest := ih hds
      rw [numeralsValue_cons, List.length_cons, pow_succ]
      omega

@[simp]
theorem numeralsValue_replicate_zero (n : Nat) :
  numeralsValue (List.replicate n '0') = 0
  := by
  rw [← List.map_replicate, numeralsValue_map_char, Nat.ofDigitChars_replicate_zero, mul_zero]

@[simp]
theorem numeralsValue_digits (n : Nat) :
  numeralsValue (Number.digits n) = n
  := by
  rw [Number.digits, numeralsValue_map_char, Nat.ofDigitChars_ten_toDigits]

@[simp]
theorem numeralsValue_paddedDigits (width n : Nat) :
  numeralsValue (Number.paddedDigits width n) = n
  := by
  simp [Number.paddedDigits, numeralsValue_append]

theorem length_digits_le_iff {k n : Nat} (hk : 0 < k) :
  (Number.digits n).length ≤ k ↔ n < 10 ^ k
  := by
  rw [Number.digits, List.length_map, Nat.length_toDigits_le_iff (by decide) hk]

theorem digits_ne_nil (n : Nat) :
  Number.digits n ≠ []
  := by
  simp [Number.digits, Nat.toDigits_ne_nil]

theorem paddedDigits_ne_nil (width n : Nat) :
  Number.paddedDigits width n ≠ []
  := by
  simp [Number.paddedDigits, digits_ne_nil]

/-- The digits of a number other than zero do not start with a zero. -/
theorem head?_digits {n : Nat} (hn : n ≠ 0) :
  (Number.digits n).head? ≠ some (.char '0')
  := by
  induction n using Nat.strongRecOn with
  | _ n ih =>
      rcases Nat.lt_or_ge n 10 with h | h
      · rw [Number.digits, Nat.toDigits_of_lt_base h]
        simpa using hn
      · rw [Number.digits, Nat.toDigits_of_base_le (by decide) h, List.map_append,
          List.head?_append_of_ne_nil _ (by simp [Nat.toDigits_ne_nil])]
        apply ih (n / 10) (by omega) (by omega)

theorem isIntegerPart_of_head? {ds : List Point} (hne : ds ≠ []) (h : ds.head? ≠ some (.char '0')) :
  isIntegerPart ds = true
  := by
  unfold isIntegerPart
  split
  · contradiction
  · rfl
  · simp at h
  · rfl

theorem isIntegerPart_digits (n : Nat) :
  isIntegerPart (Number.digits n) = true
  := by
  rcases Nat.eq_zero_or_pos n with rfl | hn
  · rfl
  · apply isIntegerPart_of_head? (digits_ne_nil n) (head?_digits hn.ne')

/-! ### The parts of a number -/

/-- Digits end where something else follows. -/
theorem span_isNumeral
    {ds rest : List Point} (hds : Numerals ds) (hrest : ∀ c ∈ rest.head?, isNumeral c = false) :
  (ds ++ rest).span isNumeral = (ds, rest)
  := by
  rw [List.span_eq_takeWhile_dropWhile, List.takeWhile_append_of_pos hds,
    List.dropWhile_append_of_pos hds]
  cases rest with
  | nil => simp
  | cons c rest => simp [hrest c rfl]

theorem fraction?_point
    {fs rest : List Point} (hfs : Numerals fs) (hne : fs ≠ [])
    (hrest : ∀ c ∈ rest.head?, isNumeral c = false) :
  fraction? ('.' :: (fs ++ rest)) = some (fs, rest)
  := by
  obtain ⟨f, fs, rfl⟩ := List.exists_cons_of_ne_nil hne
  simp only [fraction?, span_isNumeral hfs hrest]

/-- The text of an exponent reads as the exponent. -/
theorem exponent?_written (width : Nat) (e : Int) :
  exponent? ('e' :: (if e < 0 then '-' else '+') :: Number.paddedDigits width e.natAbs)
    = some (some e)
  := by
  have hall : (Number.paddedDigits width e.natAbs).all isNumeral = true :=
    List.all_eq_true.mpr (numerals_paddedDigits width _)
  unfold exponent?
  split_ifs with hneg <;>
    simp only [↓reduceIte, true_or, hall, ne_eq, paddedDigits_ne_nil, not_false_eq_true,
      and_self, numeralsValue_paddedDigits, Bool.false_eq_true, Option.some.injEq] <;>
    omega

/-- A row of digits reads as the integer. -/
theorem unsigned?_digits
    (negative : Bool) {n : Nat} (h : (Number.digits n).length ≤ Number.maxDigits) :
  unsigned? negative (Number.digits n) = some (.int (if negative then -n else n))
  := by
  have hspan : (Number.digits n ++ []).span isNumeral = (Number.digits n, []) :=
    span_isNumeral (numerals_digits n) (by simp)
  rw [List.append_nil] at hspan
  simp only [unsigned?, hspan, isIntegerPart_digits, fraction?, exponent?, guard, h,
    ↓reduceIte, numeralsValue_digits, Option.pure_def, Option.bind_eq_bind, Option.bind_some]

/-- Digits with a fraction read as a double, whatever exponent follows. -/
theorem unsigned?_fraction
    (negative : Bool) (ds fs es : List Point) {e : Option Int} (hds : Numerals ds)
    (hint : isIntegerPart ds = true) (hfs : Numerals fs) (hne : fs ≠ [])
    (hes : exponent? es = some e) (hhead : ∀ c ∈ es.head?, isNumeral c = false) :
  unsigned? negative (ds ++ Point.char '.' :: (fs ++ es))
    = some (.float (Double.ofDecimal negative (numeralsValue (ds ++ fs)) (e.getD 0 - fs.length)))
  := by
  have hspan :
      (ds ++ Point.char '.' :: (fs ++ es)).span isNumeral = (ds, Point.char '.' :: (fs ++ es)) :=
    span_isNumeral hds (by simp [isNumeral, Point.le_def])
  obtain ⟨f, fs, rfl⟩ := List.exists_cons_of_ne_nil hne
  simp only [unsigned?, hspan, hint, fraction?_point hfs hne hhead, hes, guard, ↓reduceIte,
    Option.pure_def, Option.bind_eq_bind, Option.bind_some]

/-- Digits with an exponent and no fraction read as a double. -/
theorem unsigned?_exponent
    (negative : Bool) {ds es : List Point} {e : Int} (hds : Numerals ds)
    (hint : isIntegerPart ds = true) (hes : exponent? ('e' :: es) = some (some e)) :
  unsigned? negative (ds ++ Point.char 'e' :: es)
    = some (.float (Double.ofDecimal negative (numeralsValue ds) e))
  := by
  have hspan : (ds ++ Point.char 'e' :: es).span isNumeral = (ds, Point.char 'e' :: es) :=
    span_isNumeral hds (by simp [isNumeral, Point.le_def])
  have hfrac : fraction? ('e' :: es) = some ([], Point.char 'e' :: es) := rfl
  simp only [unsigned?, hspan, hint, hfrac, hes, guard, ↓reduceIte, List.append_nil,
    Option.pure_def, Option.bind_eq_bind, Option.bind_some, Option.getD_some, List.length_nil,
    Nat.cast_zero, sub_zero]

/-! ### Decimals -/

/-- Digits around a point read as a decimal of the same value, whatever the place of the point
is. -/
theorem unsigned?_positional (negative : Bool) {n : Nat} (hn : n ≠ 0) (place : Int) :
  ∃ (k : Nat) (e : Int),
    unsigned? negative (Number.positional (Number.digits n) place)
        = some (.float (Double.ofDecimal negative k e))
      ∧ Decimal.value ⟨k, e⟩ = Decimal.value ⟨n, place - (Number.digits n).length⟩
  := by
  have hnum := numerals_digits n
  have hhead := head?_digits hn
  have hvalue := numeralsValue_digits n
  have hne := digits_ne_nil n
  rw [Number.positional]
  generalize Number.digits n = ds at *
  split_ifs with hle hlen
  · -- zeros between the point and the digits
    have h := unsigned?_fraction negative [.char '0']
      (List.replicate (-place).toNat (.char '0') ++ ds) []
      (by simp [Numerals, isNumeral, Point.le_def]) rfl ((numerals_replicate_zero _).append hnum)
      (by simp [hne]) rfl (by simp)
    rw [List.append_nil] at h
    refine ⟨_, _, h, ?_⟩
    rw [numeralsValue_append, numeralsValue_append, numeralsValue_replicate_zero, hvalue]
    simp only [Decimal.value, Option.getD_none, List.length_append, List.length_replicate]
    congr 2
    · simp [numeralsValue]
    · omega
  · -- zeros between the digits and the point
    obtain ⟨k, hk⟩ : ∃ k : Nat, place = ds.length + k := ⟨place.toNat - ds.length, by omega⟩
    have hzeros : place.toNat - ds.length = k := by omega
    have hint : isIntegerPart (ds ++ List.replicate k (.char '0')) = true := by
      apply isIntegerPart_of_head? (by simp [hne])
      rwa [List.head?_append_of_ne_nil _ hne]
    have h := unsigned?_fraction negative (ds ++ List.replicate k (.char '0')) [.char '0'] []
      (hnum.append (numerals_replicate_zero _)) hint (by simp [Numerals, isNumeral, Point.le_def])
      (by simp) rfl (by simp)
    rw [hzeros]
    refine ⟨_, _, h, ?_⟩
    rw [numeralsValue_append, numeralsValue_append, numeralsValue_replicate_zero, hvalue]
    simp only [Decimal.value, Option.getD_none, List.length_replicate, List.length_cons,
      List.length_nil, hk, add_sub_cancel_left, zpow_natCast]
    push_cast
    norm_num [numeralsValue]
    ring
  · -- the point among the digits
    have hdrop : ds.drop place.toNat ≠ [] := by
      rw [Ne, List.drop_eq_nil_iff]
      omega
    have htake : ds.take place.toNat ≠ [] := by
      rw [Ne, List.take_eq_nil_iff]
      rintro (h | h)
      · omega
      · apply hne h
    have hint : isIntegerPart (ds.take place.toNat) = true := by
      apply isIntegerPart_of_head? htake
      rw [List.head?_take, if_neg (by omega)]
      apply hhead
    have h := unsigned?_fraction negative _ _ [] (hnum.take place.toNat) hint
      (hnum.drop place.toNat) hdrop rfl (by simp)
    rw [List.append_nil, List.take_append_drop, hvalue] at h
    refine ⟨_, _, h, ?_⟩
    simp only [Decimal.value, Option.getD_none, List.length_drop]
    congr 2
    omega

/-- Digits with an exponent read as the decimal. -/
theorem unsigned?_scientific (negative : Bool) (width : Nat) {n : Nat} (hn : n ≠ 0) (e : Int) :
  unsigned? negative (Number.scientific width (Number.digits n) e)
    = some (.float (Double.ofDecimal negative n (e - ((Number.digits n).length - 1))))
  := by
  have hnum := numerals_digits n
  have hhead := head?_digits hn
  have hvalue := numeralsValue_digits n
  have hne := digits_ne_nil n
  have hes := exponent?_written width e
  unfold Number.scientific
  generalize Number.digits n = ds at *
  match ds with
  | [] => contradiction
  | [d] =>
    have hint : isIntegerPart [d] = true := isIntegerPart_of_head? (by simp) hhead
    have h := unsigned?_exponent negative hnum hint hes
    rw [hvalue] at h
    simpa using h
  | d :: f :: fs =>
    have hint : isIntegerPart [d] = true := isIntegerPart_of_head? (by simp) hhead
    have h := unsigned?_fraction negative [d] (f :: fs) _
      (fun c hc => hnum c (by simp_all)) hint (fun c hc => hnum c (by simp_all)) (by simp) hes
      (by simp [isNumeral, Point.le_def])
    have hcons : [d] ++ (f :: fs) = d :: f :: fs := rfl
    rw [hcons, hvalue] at h
    simpa using h

/-- The text of a decimal reads as a decimal of the same value. -/
theorem unsigned?_decimalChars
    (negative : Bool) (layout : Number.Layout) {d : Decimal} (hd : d.digits ≠ 0) :
  ∃ (k : Nat) (e : Int),
    unsigned? negative (Number.decimalChars layout d)
        = some (.float (Double.ofDecimal negative k e))
      ∧ Decimal.value ⟨k, e⟩ = d.value
  := by
  unfold Number.decimalChars
  dsimp only
  split_ifs
  · obtain ⟨k, e, h, hvalue⟩ := unsigned?_positional negative hd
      ((Number.digits d.digits).length + d.exponent - 1 + 1)
    use k, e, h
    rw [hvalue]
    simp only [Decimal.value]
    congr 2
    omega
  · refine ⟨_, _, unsigned?_scientific negative _ hd _, ?_⟩
    simp only [Decimal.value]
    congr 2
    omega

/-! ### Words -/

/-- What reads as a number starts with a digit. -/
theorem exists_cons_of_unsigned?
    {negative : Bool} {cs : List Point} {n : Number} (h : unsigned? negative cs = some n) :
  ∃ c rest, cs = c :: rest ∧ isNumeral c = true
  := by
  cases cs with
  | nil => simp [unsigned?, isIntegerPart, guard] at h
  | cons c rest =>
      refine ⟨c, rest, rfl, ?_⟩
      by_contra hc
      simp [unsigned?, hc, isIntegerPart, guard] at h

/-- No fixed name starts with a digit, be it after a sign. -/
theorem lookup_fixedNames
    (negative : Bool) {c : Point} {cs : List Point} (hc : isNumeral c = true) :
  fixedNames.lookup (Text.ofList ((if negative then [.char '-'] else []) ++ c :: cs)) = none
  := by
  rw [List.lookup_eq_none_iff]
  intro p hp
  rw [bne_iff_ne, Ne, ← Text.toList_inj]
  simp only [fixedNames, List.mem_cons, List.not_mem_nil, or_false] at hp
  cases negative <;> rcases hp with rfl | rfl | rfl | rfl | rfl | rfl <;>
    simp [Text.toList_ofString] <;> rintro rfl <;> contradiction

/-- A word that starts with a digit, after its sign, is none of the fixed names. -/
theorem ofWord?_eq_unsigned?
    (negative : Bool) {c : Point} {cs : List Point} (hc : isNumeral c = true) :
  ofWord? ((if negative then [.char '-'] else []) ++ c :: cs)
    = (unsigned? negative (c :: cs)).map .num
  := by
  unfold ofWord?
  rw [lookup_fixedNames negative hc]
  cases negative with
  | true => rfl
  | false =>
      simp only [Bool.false_eq_true, ↓reduceIte, List.nil_append]
      split
      next h =>
        obtain ⟨rfl, -⟩ := List.cons.inj h
        contradiction
      next => rfl

/-- What reads as a number is, after its sign, the word of the number. -/
theorem ofWord?_of_unsigned?
    {negative : Bool} {cs : List Point} {n : Number} (h : unsigned? negative cs = some n) :
  ofWord? ((if negative then [.char '-'] else []) ++ cs) = some (.num n)
  := by
  obtain ⟨c, rest, rfl, hc⟩ := exists_cons_of_unsigned? h
  rw [ofWord?_eq_unsigned? negative hc, h]
  rfl

end Json

/-- A number that readers take: they take any double, and integers of a limited length. -/
def Number.Legible : Number → Prop
  | .int n => (Number.digits n.natAbs).length ≤ Number.maxDigits
  | .float _ => True

namespace Json

theorem ofWord?_intChars {n : Int} (h : Number.Legible (.int n)) :
  ofWord? (Number.intChars n) = some (.num (.int n))
  := by
  rw [Number.intChars]
  split_ifs with hneg
  · apply Eq.trans (ofWord?_of_unsigned? (unsigned?_digits true h))
    simp only [↓reduceIte]
    congr 3
    omega
  · apply Eq.trans (ofWord?_of_unsigned? (unsigned?_digits false h))
    simp only [Bool.false_eq_true, ↓reduceIte]
    congr 3
    omega

theorem ofWord?_doubleChars (x : Double) :
  ofWord? (Number.doubleChars Number.jsonLayout x) = some (.num (.float x))
  := by
  cases x with
  | nan => rfl
  | infinite negative => cases negative <;> rfl
  | finite negative m q hc =>
      rw [Number.doubleChars]
      apply ofWord?_of_unsigned?
      split_ifs with hm
      · subst hm
        have hq : q = -1074 := by
          obtain ⟨-, -, -, h | h⟩ := id hc
          · simp at h
          · apply h
        subst hq
        rfl
      · obtain ⟨k, e, h, hvalue⟩ := unsigned?_decimalChars negative Number.jsonLayout
          (d := Decimal.shortest m q) (fun hzero => by
            have := (Decimal.shortest_nearest q hm).pos hm
            simp [Decimal.value, hzero] at this)
        rw [h, Double.ofDecimal_eq negative (d := ⟨k, e⟩) hm hc]
        rw [hvalue]
        apply Decimal.shortest_nearest q hm

/-- A legible number reads back from its text. -/
theorem ofWord?_chars {n : Number} (h : n.Legible) :
  ofWord? (n.chars Number.jsonLayout) = some (.num n)
  := by
  cases n with
  | int n => apply ofWord?_intChars h
  | float x => apply ofWord?_doubleChars x

/-! ### The characters of numbers -/

/-- A character that finite numbers are made of. -/
def isFigure (c : Point) : Bool := isNumeral c || c == '.' || c == 'e' || c == '-' || c == '+'

/-- A row of characters that finite numbers are made of. -/
def Figures (cs : List Point) : Prop := ∀ c ∈ cs, isFigure c = true

instance (cs : List Point) : Decidable (Figures cs) :=
  List.decidableBAll _ _

theorem Numerals.figures {ds : List Point} (h : Numerals ds) :
  Figures ds
  := by
  intro c hc
  simp [isFigure, h c hc]

theorem Figures.append {xs ys : List Point} (hx : Figures xs) (hy : Figures ys) :
  Figures (xs ++ ys)
  := List.forall_mem_append.mpr ⟨hx, hy⟩

theorem Figures.cons {c : Point} {cs : List Point} (hc : isFigure c = true) (h : Figures cs) :
  Figures (c :: cs)
  := List.forall_mem_cons.mpr ⟨hc, h⟩

theorem figures_positional {ds : List Point} (h : Numerals ds) (place : Int) :
  Figures (Number.positional ds place)
  := by
  rw [Number.positional]
  split_ifs
  · apply Figures.cons (by decide) (Figures.cons (by decide) _)
    apply (numerals_replicate_zero _).figures.append h.figures
  · apply (h.figures.append (numerals_replicate_zero _).figures).append
    decide
  · apply (h.take _).figures.append
    apply Figures.cons (by decide) (h.drop _).figures

theorem figures_scientific {ds : List Point} (h : Numerals ds) (width : Nat) (e : Int) :
  Figures (Number.scientific width ds e)
  := by
  have hexp :
      Figures ('e' :: (if e < 0 then '-' else '+') :: Number.paddedDigits width e.natAbs) := by
    apply Figures.cons (by decide)
    apply Figures.cons _ (numerals_paddedDigits _ _).figures
    split_ifs <;> decide
  unfold Number.scientific
  apply Figures.append _ hexp
  split
  · obtain ⟨hd, hds⟩ := List.forall_mem_cons.mp h.figures
    apply Figures.cons hd (Figures.cons (by decide) hds)
  · apply h.figures

/-- Finite numbers are written in figures. -/
theorem figures_chars {n : Number} (hn : n.isFinite = true) :
  Figures (n.chars Number.jsonLayout)
  := by
  match n with
  | .int n =>
    change Figures (Number.intChars n)
    rw [Number.intChars]
    split_ifs
    · apply Figures.cons (by decide) (numerals_digits _).figures
    · apply (numerals_digits _).figures
  | .float (.finite negative m q hc) =>
    change Figures (Number.doubleChars Number.jsonLayout (.finite negative m q hc))
    rw [Number.doubleChars]
    apply Figures.append
    · split_ifs <;> decide
    · split_ifs
      · decide
      · unfold Number.decimalChars
        dsimp only
        split_ifs
        · apply figures_positional (numerals_digits _)
        · apply figures_scientific (numerals_digits _)

/-- A row of characters that numbers and fixed names are made of. -/
def WordChars (cs : List Point) : Prop := ∀ c ∈ cs, isWordChar c = true

instance (cs : List Point) : Decidable (WordChars cs) :=
  List.decidableBAll _ _

theorem isWordChar_of_isFigure {c : Point} (h : isFigure c = true) :
  isWordChar c = true
  := by
  simp only [isFigure, Bool.or_eq_true, beq_iff_eq] at h
  rcases h with (((h | rfl) | rfl) | rfl) | rfl
  · cases c with
    | char c =>
        have hdigit : c.isDigit = true := by
          simpa [isNumeral, Char.isDigit, Point.le_def, UInt32.le_iff_toNat_le] using h
        simp [isWordChar, Char.isAlphanum, hdigit]
    | half n =>
        have hn := Point.toNat_half_bounds n
        simp only [isNumeral, Point.le_def, Point.toNat_char, Bool.and_eq_true,
          decide_eq_true_eq] at h
        have hnine : '9'.toNat < 0xD800 := by decide
        omega
  all_goals decide

theorem wordChars_chars (n : Number) :
  WordChars (n.chars Number.jsonLayout)
  := by
  by_cases hn : n.isFinite = true
  · intro c hc
    apply isWordChar_of_isFigure (figures_chars hn c hc)
  · match n, hn with
    | .float .nan, _ => decide
    | .float (.infinite false), _ => decide
    | .float (.infinite true), _ => decide
    | .int _, hn => exact absurd rfl hn
    | .float (.finite ..), hn => exact absurd rfl hn

end Json

end Kanban
