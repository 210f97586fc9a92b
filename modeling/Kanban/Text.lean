/-!
# Texts

A text is a row of code points.  Besides the characters these are the halves of surrogate pairs:
a text may hold one of them alone, as JSON text can ask for, although alone it stands for no
character.  Such a text can be compared, cut and searched like any other, but no bytes encode it
(`Text.encode?`).
-/

namespace Kanban

/-- A code point: a character, or half of a surrogate pair by its place among the halves. -/
inductive Point where
  | char (c : Char)
  | half (n : Fin 0x800)
deriving DecidableEq

namespace Point

instance : Coe Char Point := ⟨char⟩

/-- The number of a code point. -/
def toNat : Point → Nat
  | char c => c.toNat
  | half n => 0xD800 + n

@[simp]
theorem toNat_char (c : Char) :
  (char c).toNat = c.toNat
  := rfl

/-- The code point with a number. -/
def ofNat (n : Nat) : Point :=
  if h : 0xD800 ≤ n ∧ n < 0xE000 then half ⟨n - 0xD800, by omega⟩ else char (Char.ofNat n)

theorem toNat_half_bounds (n : Fin 0x800) :
  0xD800 ≤ (half n).toNat ∧ (half n).toNat < 0xE000
  := by
  simp only [toNat]
  omega

/-- No character has the number of a half. -/
theorem toNat_char_bounds (c : Char) :
  c.toNat < 0xD800 ∨ 0xE000 ≤ c.toNat ∧ c.toNat < 0x110000
  := by
  have h := c.valid
  simp only [UInt32.isValidChar, Nat.isValidChar] at h
  change c.val.toNat < 0xD800 ∨ 0xE000 ≤ c.val.toNat ∧ c.val.toNat < 0x110000
  omega

theorem toNat_inj {p q : Point} :
  p.toNat = q.toNat ↔ p = q
  := by
  constructor
  · intro h
    cases p with
    | char c =>
        cases q with
        | char d => rw [Char.toNat_inj.mp h]
        | half n =>
            have hc := toNat_char_bounds c
            have hn := toNat_half_bounds n
            rw [toNat_char] at h
            omega
    | half m =>
        cases q with
        | char d =>
            have hd := toNat_char_bounds d
            have hm := toNat_half_bounds m
            rw [toNat_char] at h
            omega
        | half n =>
            simp only [toNat] at h
            rw [Fin.ext (by omega : (m : Nat) = n)]
  · rintro rfl
    rfl

@[simp]
theorem ofNat_toNat (p : Point) :
  ofNat p.toNat = p
  := by
  rw [← toNat_inj, ofNat]
  cases p with
  | char c =>
      have hc := toNat_char_bounds c
      rw [toNat_char, dif_neg (by omega), toNat_char, Char.ofNat_toNat]
  | half n =>
      rw [dif_pos (toNat_half_bounds n)]
      simp [toNat]

/-- The character of a code point. -/
def char? : Point → Option Char
  | char c => some c
  | half _ => none

/-- Code points are ordered by number. -/
instance : LE Point := ⟨fun p q => p.toNat ≤ q.toNat⟩

instance : LT Point := ⟨fun p q => p.toNat < q.toNat⟩

instance (p q : Point) : Decidable (p ≤ q) := Nat.decLe _ _

instance (p q : Point) : Decidable (p < q) := Nat.decLt _ _

theorem le_def {p q : Point} :
  p ≤ q ↔ p.toNat ≤ q.toNat
  := Iff.rfl

theorem lt_def {p q : Point} :
  p < q ↔ p.toNat < q.toNat
  := Iff.rfl

/-- The code point is a character. -/
def isChar : Point → Bool
  | char _ => true
  | half _ => false

@[simp]
theorem isChar_char (c : Char) :
  (char c).isChar = true
  := rfl

/-- The code point is a character of a class. -/
def is (class' : Char → Bool) : Point → Bool
  | char c => class' c
  | half _ => false

@[simp]
theorem is_char (class' : Char → Bool) (c : Char) :
  (char c).is class' = class' c
  := rfl

/-- The code point with its character exchanged. -/
def map (f : Char → Char) : Point → Point
  | char c => char (f c)
  | half n => half n

@[simp]
theorem map_char (f : Char → Char) (c : Char) :
  (char c).map f = char (f c)
  := rfl

end Point

/-- A row of code points. -/
@[ext]
structure Text where
  ofList ::
  toList : List Point
deriving DecidableEq

namespace Text

/-- The text of a row of characters. -/
def ofString (s : String) : Text := ofList (s.toList.map .char)

instance : Coe String Text := ⟨ofString⟩

instance : Inhabited Text := ⟨""⟩

@[simp]
theorem toList_ofList (ps : List Point) :
  (ofList ps).toList = ps
  := rfl

@[simp]
theorem ofList_toList (t : Text) :
  ofList t.toList = t
  := rfl

theorem toList_inj {s t : Text} :
  s.toList = t.toList ↔ s = t
  := Text.ext_iff.symm

theorem toList_ofString (s : String) :
  (ofString s).toList = s.toList.map .char
  := rfl

@[simp]
theorem ofString_inj {s t : String} :
  ofString s = ofString t ↔ s = t
  := by
  rw [← toList_inj, toList_ofString, toList_ofString,
    List.map_inj_right fun _ _ => Point.char.inj, String.toList_inj]

/-- The number of code points. -/
def length (t : Text) : Nat := t.toList.length

@[simp]
theorem length_toList (t : Text) :
  t.toList.length = t.length
  := rfl

instance : Append Text := ⟨fun s t => ofList (s.toList ++ t.toList)⟩

@[simp]
theorem toList_append (s t : Text) :
  (s ++ t).toList = s.toList ++ t.toList
  := rfl

theorem append_assoc (s t u : Text) :
  s ++ t ++ u = s ++ (t ++ u)
  := by
  simp [← toList_inj]

@[simp]
theorem append_empty (t : Text) :
  t ++ ("" : Text) = t
  := by
  simp [← toList_inj, toList_ofString]

@[simp]
theorem empty_append (t : Text) :
  ("" : Text) ++ t = t
  := by
  simp [← toList_inj, toList_ofString]

@[simp]
theorem append_eq_empty_iff {s t : Text} :
  s ++ t = "" ↔ s = "" ∧ t = ""
  := by
  simp [← toList_inj, toList_ofString]

/-- The texts in a list, with another one between them. -/
def intercalate (between : Text) (texts : List Text) : Text :=
  ofList (between.toList.intercalate (texts.map toList))

theorem toList_intercalate (between : Text) (texts : List Text) :
  (between.intercalate texts).toList = between.toList.intercalate (texts.map toList)
  := rfl

@[simp]
theorem intercalate_nil (between : Text) :
  between.intercalate [] = ""
  := rfl

@[simp]
theorem intercalate_singleton (between t : Text) :
  between.intercalate [t] = t
  := by
  simp [← toList_inj, toList_intercalate]

theorem intercalate_cons_cons (between s t : Text) (texts : List Text) :
  between.intercalate (s :: t :: texts) = s ++ between ++ between.intercalate (t :: texts)
  := by
  simp [← toList_inj, toList_intercalate, List.intercalate]

/-- Texts are ordered by their code points, the first of them first. -/
instance : LT Text := ⟨fun s t => s.toList < t.toList⟩

theorem lt_iff_toList_lt {s t : Text} :
  s < t ↔ s.toList < t.toList
  := Iff.rfl

/-! ### Encoding -/

/-- The characters of a text that has no lone halves. -/
def string? (t : Text) : Option String := (t.toList.mapM Point.char?).map String.ofList

theorem mapM_char?_eq_some_iff {ps : List Point} {cs : List Char} :
  ps.mapM Point.char? = some cs ↔ ps = cs.map .char
  := by
  induction ps generalizing cs with
  | nil => cases cs <;> simp
  | cons p ps ih =>
      cases p with
      | half n => cases cs <;> simp [Point.char?]
      | char c =>
          cases cs with
          | nil => simp [Point.char?, Option.bind_eq_some_iff]
          | cons d cs =>
              simp only [List.mapM_cons, Point.char?, Option.bind_eq_bind, Option.bind_some,
                Option.pure_def, Option.bind_eq_some_iff, ih]
              grind

theorem string?_eq_some_iff {t : Text} {s : String} :
  t.string? = some s ↔ t = s
  := by
  rw [string?, Option.map_eq_some_iff, ← toList_inj, toList_ofString]
  constructor
  · rintro ⟨cs, hcs, rfl⟩
    rw [mapM_char?_eq_some_iff.mp hcs, String.toList_ofList]
  · intro h
    exact ⟨s.toList, mapM_char?_eq_some_iff.mpr h, String.ofList_toList⟩

@[simp]
theorem string?_ofString (s : String) :
  (ofString s).string? = some s
  := string?_eq_some_iff.mpr rfl

/-- The bytes that encode a text in UTF-8. -/
def encode? (t : Text) : Option ByteArray := t.string?.map String.toUTF8

end Text

end Kanban
