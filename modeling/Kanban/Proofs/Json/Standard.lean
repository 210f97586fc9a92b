import Kanban.Proofs.Json.Scan

/-!
# Standard texts

A standard text has no token `NaN`, `Infinity` or `-Infinity`.  These are words, so they can be
looked for in what stands outside the strings of a text (`Json.bare`), where they are no part of
anything else.  The text of a value is standard exactly when all numbers in it, at any depth,
are finite (`Json.isStandard_iff_of_write?`).
-/

namespace Kanban.Json

/-- Where a character stands: outside of strings, inside of one, or after a backslash in one. -/
inductive Spot where
  | outside
  | inside
  | escaped
  deriving DecidableEq

namespace Spot

/-- Where the next character stands. -/
def next (c : Point) : Spot → Spot
  | outside => if c = .char '"' then inside else outside
  | inside => if c = .char '"' then outside else if c = .char '\\' then escaped else inside
  | escaped => inside

end Spot

/-- The characters that stand outside of strings, and the quotes that open these. -/
def bare : Spot → List Point → List Point
  | _, [] => []
  | spot, c :: cs =>
    if spot = .outside then c :: bare (spot.next c) cs else bare (spot.next c) cs

/-- A text without the tokens `NaN`, `Infinity` and `-Infinity`. -/
def IsStandard (text : Text) : Prop :=
  ¬ ("NaN" : Text).toList <:+: bare .outside text.toList
    ∧ ¬ ("Infinity" : Text).toList <:+: bare .outside text.toList

mutual

/-- A value in which every number is finite. -/
def Finite : Json → Prop
  | .num n => n.isFinite = true
  | .arr items => FiniteItems items
  | .obj members => FiniteMembers members
  | .null | .bool _ | .str _ => True

/-- All items are finite. -/
def FiniteItems : List Json → Prop
  | [] => True
  | x :: xs => Finite x ∧ FiniteItems xs

/-- The values of all members are finite. -/
def FiniteMembers : List (Text × Json) → Prop
  | [] => True
  | (_, v) :: ms => Finite v ∧ FiniteMembers ms

end

@[simp]
theorem finite_null :
  null.Finite
  := trivial

@[simp]
theorem finite_bool (b : Bool) :
  (bool b).Finite
  := trivial

@[simp]
theorem finite_num_iff {n : Number} :
  (num n).Finite ↔ n.isFinite = true
  := .rfl

@[simp]
theorem finite_str (s : Text) :
  (str s).Finite
  := trivial

@[simp]
theorem finite_arr_iff {items : List Json} :
  Finite (.arr items) ↔ ∀ x ∈ items, x.Finite
  := by
  rw [Finite]
  induction items with
  | nil => simp [FiniteItems]
  | cons x xs ih => simp [FiniteItems, ih]

@[simp]
theorem finite_obj_iff {members : Members} :
  Finite (.obj members) ↔ ∀ m ∈ members, m.2.Finite
  := by
  rw [Finite]
  induction members with
  | nil => simp [FiniteMembers]
  | cons m ms ih => simp [FiniteMembers, ih]

/-! ### What a text shows outside its strings -/

/-- None of the characters is the first one of a name that is not standard. -/
def Plain (cs : List Point) : Prop := ∀ c ∈ cs, c ≠ .char 'N' ∧ c ≠ .char 'I'

instance (cs : List Point) : Decidable (Plain cs) := List.decidableBAll _ _

/-- A name that is not standard stands among the characters. -/
def Odd (cs : List Point) : Prop :=
  ("NaN" : Text).toList <:+: cs ∨ ("Infinity" : Text).toList <:+: cs

theorem Plain.not_odd {cs : List Point} (h : Plain cs) :
  ¬ Odd cs
  := by
  rintro (hodd | hodd)
  · apply (h (.char 'N') (hodd.subset (by decide))).1 rfl
  · apply (h (.char 'I') (hodd.subset (by decide))).2 rfl

theorem Odd.mono {xs ys : List Point} (h : Odd xs) (hpart : xs <:+: ys) :
  Odd ys
  := h.imp (·.trans hpart) (·.trans hpart)

/-- Wherever it stands, the text `cs` shows some characters outside its strings, before those of
what follows it.  They are plain or odd, according to whether `p` holds. -/
def Shows (cs : List Point) (p : Prop) : Prop :=
  ∃ shown, (∀ rest, bare .outside (cs ++ rest) = shown ++ bare .outside rest)
    ∧ (p → Plain shown) ∧ (¬ p → Odd shown)

variable {xs ys : List Point} {p q : Prop}

theorem Shows.append (hx : Shows xs p) (hy : Shows ys q) :
  Shows (xs ++ ys) (p ∧ q)
  := by
  obtain ⟨shown, hshown, hplain, hodd⟩ := hx
  obtain ⟨shown', hshown', hplain', hodd'⟩ := hy
  refine ⟨shown ++ shown', ?_, ?_, ?_⟩
  · intro rest
    rw [List.append_assoc, hshown, hshown', List.append_assoc]
  · rintro ⟨hp, hq⟩
    apply List.forall_mem_append.mpr ⟨hplain hp, hplain' hq⟩
  · intro h
    rcases not_and_or.mp h with hp | hq
    · apply (hodd hp).mono (List.prefix_append shown shown').isInfix
    · apply (hodd' hq).mono (List.suffix_append shown shown').isInfix

/-- In a text that shows nothing odd itself, what is odd comes from the rest. -/
theorem Shows.around (hx : Shows xs True) (hy : Shows ys p) {zs : List Point} (hz : Shows zs True) :
  Shows (xs ++ ys ++ zs) p
  := by
  have h := (hx.append hy).append hz
  simpa using h

/-- Characters that are no quotes are shown. -/
theorem shows_of_not_mem {cs : List Point} (hquote : Point.char '"' ∉ cs) (hplain : p → Plain cs)
    (hodd : ¬ p → Odd cs) :
  Shows cs p
  := by
  refine ⟨cs, ?_, hplain, hodd⟩
  intro rest
  clear hplain hodd
  induction cs with
  | nil => rfl
  | cons c cs ih =>
      obtain ⟨hc, hcs⟩ := not_or.mp (fun h => hquote (List.mem_cons.mpr h))
      rw [List.cons_append, bare, if_pos rfl, Spot.next, if_neg (Ne.symm hc), ih hcs]
      rfl

theorem shows_plain (cs : List Point) (hquote : Point.char '"' ∉ cs) (hplain : Plain cs) :
  Shows cs True
  := shows_of_not_mem hquote (fun _ => hplain) (fun h => absurd trivial h)

theorem shows_lineBreak (indent : Option Nat) (level : Nat) :
  Shows (lineBreak indent level) True
  := by
  cases indent with
  | none => exact shows_plain [] (by decide) (by decide)
  | some n =>
      have hchars : ∀ c ∈ lineBreak (some n) level, c = .char '\n' ∨ c = .char ' ' := by
        intro c hc
        apply (List.mem_cons.mp hc).imp_right List.eq_of_mem_replicate
      apply shows_plain
      · intro hquote
        rcases hchars _ hquote with h | h <;> cases h
      · intro c hc
        rcases hchars c hc with rfl | rfl <;> decide

theorem shows_separator (indent : Option Nat) (level : Nat) :
  Shows (separator indent level) True
  := by
  cases indent with
  | none => exact shows_plain [.char ',', .char ' '] (by decide) (by decide)
  | some n =>
      have hcomma : Shows [.char ','] True := shows_plain _ (by decide) (by decide)
      have h := hcomma.append (shows_lineBreak (some n) level)
      simpa [separator] using h

/-! ### Strings show their opening quote -/

/-- The escape of a control character ends inside of the string. -/
theorem bare_control {n : Nat} (h : n < 0x20) (rest : List Point) :
  bare .inside (Point.char '\\' :: 'u' :: Text.hexDigits 4 n ++ rest) = bare .inside rest
  := by
  interval_cases n <;> rfl

theorem bare_escaped (c : Point) (rest : List Point) :
  bare .inside (escaped c ++ rest) = bare .inside rest
  := by
  rw [escaped]
  split_ifs with hquote hback hn hr ht hb hf hcontrol
  iterate 7 rfl
  · apply bare_control hcontrol
  · change bare (Spot.next c .inside) rest = _
    rw [Spot.next, if_neg hquote, if_neg hback]

theorem shows_stringChars (s : Text) :
  Shows (stringChars s) True
  := by
  have hbody (cs rest : List Point) :
      bare .inside (cs.flatMap escaped ++ Point.char '"' :: rest) = bare .outside rest := by
    induction cs with
    | nil => rfl
    | cons c cs ih => rw [List.flatMap_cons, List.append_assoc, bare_escaped, ih]
  refine ⟨[.char '"'], ?_, fun _ => by decide, fun h => absurd trivial h⟩
  intro rest
  rw [stringChars, List.append_assoc]
  change Point.char '"' :: bare .inside (s.toList.flatMap escaped ++ Point.char '"' :: rest) = _
  rw [hbody]
  rfl

/-! ### Numbers -/

theorem shows_number (n : Number) :
  Shows (n.chars Number.jsonLayout) (n.isFinite = true)
  := by
  apply shows_of_not_mem
  · intro hquote
    exact absurd (wordChars_chars n _ hquote) (by decide)
  · intro hn c hc
    have hfigure := figures_chars hn c hc
    constructor <;> rintro rfl <;> exact absurd hfigure (by decide)
  · intro hn
    match n, hn with
    | .float .nan, _ => exact .inl (List.infix_refl _)
    | .float (.infinite false), _ => exact .inr (List.infix_refl _)
    | .float (.infinite true), _ => exact .inr (List.suffix_cons (Point.char '-') _).isInfix
    | .int _, hn => exact absurd rfl hn
    | .float (.finite ..), hn => exact absurd rfl hn

/-! ### Values -/

theorem shows_char {c : Point} (hc : c ≠ .char '"' ∧ c ≠ .char 'N' ∧ c ≠ .char 'I') :
  Shows [c] True
  := by
  apply shows_plain
  · simpa using hc.1.symm
  · simpa [Plain] using hc.2

/-- What stands in front of a value in an object. -/
theorem shows_name (k : Text) :
  Shows (stringChars k ++ [.char ':', .char ' ']) True
  := by
  have hcolon : Shows [.char ':', .char ' '] True := shows_plain _ (by decide) (by decide)
  simpa using (shows_stringChars k).append hcolon

mutual

/-- Outside its strings, the text of a value shows no odd name but those of its numbers. -/
theorem shows_writeChars (indent : Option Nat) (level : Nat) :
    ∀ v : Json, Shows (writeChars indent level v) v.Finite
  | .null => shows_plain ("null" : Text).toList (by decide) (by decide)
  | .bool true => shows_plain ("true" : Text).toList (by decide) (by decide)
  | .bool false => shows_plain ("false" : Text).toList (by decide) (by decide)
  | .num n => shows_number n
  | .str s => shows_stringChars s
  | .arr [] => shows_plain [.char '[', .char ']'] (by decide) (by decide)
  | .obj [] => shows_plain [.char '{', .char '}'] (by decide) (by decide)
  | .arr (x :: xs) => by
      have hopen :=
        (shows_char (c := .char '[') (by decide)).append (shows_lineBreak indent (level + 1))
      have hclose := (shows_lineBreak indent level).append (shows_char (c := .char ']') (by decide))
      rw [and_true] at hopen hclose
      have h := hopen.around (shows_writeItems indent (level + 1) (x :: xs)) hclose
      simpa [writeChars, Finite] using h
  | .obj (m :: ms) => by
      have hopen :=
        (shows_char (c := .char '{') (by decide)).append (shows_lineBreak indent (level + 1))
      have hclose := (shows_lineBreak indent level).append (shows_char (c := .char '}') (by decide))
      rw [and_true] at hopen hclose
      have h := hopen.around (shows_writeMembers indent (level + 1) (m :: ms)) hclose
      simpa [writeChars, Finite] using h

theorem shows_writeItems (indent : Option Nat) (level : Nat) :
    ∀ items : List Json, Shows (writeItems indent level items) (FiniteItems items)
  | [] => shows_plain [] (by decide) (by decide)
  | [x] => by
      have h := shows_writeChars indent level x
      simpa [writeItems, FiniteItems] using h
  | x :: y :: rest => by
      have h := ((shows_writeChars indent level x).append (shows_separator indent level)).append
        (shows_writeItems indent level (y :: rest))
      simpa [writeItems, FiniteItems] using h

theorem shows_writeMembers (indent : Option Nat) (level : Nat) :
    ∀ members : List (Text × Json),
      Shows (writeMembers indent level members) (FiniteMembers members)
  | [] => shows_plain [] (by decide) (by decide)
  | [(k, v)] => by
      have h := (shows_name k).append (shows_writeChars indent level v)
      simpa [writeMembers, FiniteMembers] using h
  | (k, v) :: m :: rest => by
      have h := (((shows_name k).append (shows_writeChars indent level v)).append
        (shows_separator indent level)).append (shows_writeMembers indent level (m :: rest))
      simpa [writeMembers, FiniteMembers] using h

end

/-- The text of a value is standard exactly when all of its numbers are finite. -/
theorem isStandard_iff_of_write? {indent : Option Nat} {v : Json} {t : Text}
    (ht : v.write? indent = some t) :
  IsStandard t ↔ v.Finite
  := by
  obtain ⟨shown, hshown, hplain, hodd⟩ := shows_writeChars indent 0 v
  have hbare : bare .outside t.toList = shown := by
    have h := hshown []
    rw [write?] at ht
    split_ifs at ht
    obtain rfl := Option.some.inj ht
    rw [Text.toList_ofList]
    rwa [List.append_nil, bare, List.append_nil] at h
  have hstandard : IsStandard t ↔ ¬ Odd shown := by
    rw [IsStandard, hbare, Odd, not_or]
  rw [hstandard]
  constructor
  · intro h
    by_contra hv
    apply h (hodd hv)
  · intro hv
    apply (hplain hv).not_odd

end Kanban.Json
