import Kanban.Proofs.Json.RoundTrip
import Kanban.Text.Blank

/-!
# Values that bytes encode

A text is whole when no lone half of a surrogate pair stands in it, which is when bytes encode it
(`Text.exists_encode?_iff`).  Half pairs are written as they are, so that the text of a value is
whole exactly when all texts in the value are (`Json.exists_encode?_write?_iff`).
-/

namespace Kanban

/-! ### Whole texts -/

namespace Text

/-- No lone half of a surrogate pair stands in the text. -/
def isWhole (t : Text) : Bool := t.toList.all Point.isChar

theorem exists_map_char_iff {ps : List Point} :
  (∃ cs : List Char, ps = cs.map .char) ↔ ps.all Point.isChar = true
  := by
  constructor
  · rintro ⟨cs, rfl⟩
    simp
  · intro h
    induction ps with
    | nil => exact ⟨[], rfl⟩
    | cons p ps ih =>
        rw [List.all_cons, Bool.and_eq_true] at h
        obtain ⟨hp, hps⟩ := h
        obtain ⟨cs, rfl⟩ := ih hps
        cases p with
        | char c => exact ⟨c :: cs, rfl⟩
        | half n => cases hp

theorem exists_string?_iff {t : Text} :
  (∃ s, t.string? = some s) ↔ t.isWhole = true
  := by
  rw [isWhole, ← exists_map_char_iff]
  simp only [string?_eq_some_iff, ← toList_inj, toList_ofString]
  constructor
  · rintro ⟨s, hs⟩
    exact ⟨s.toList, hs⟩
  · rintro ⟨cs, hcs⟩
    exact ⟨String.ofList cs, by rw [hcs, String.toList_ofList]⟩

/-- Exactly the whole texts are encoded by bytes. -/
theorem exists_encode?_iff {t : Text} :
  (∃ bytes, t.encode? = some bytes) ↔ t.isWhole = true
  := by
  rw [← exists_string?_iff, encode?]
  cases t.string? <;> simp

@[simp]
theorem isWhole_ofString (s : String) :
  (ofString s).isWhole = true
  := by
  simp [isWhole, toList_ofString]

@[simp]
theorem isWhole_append (s t : Text) :
  (s ++ t).isWhole = (s.isWhole && t.isWhole)
  := List.all_append

/-- A part of a whole text is whole. -/
theorem isWhole_of_subset {t : Text} (h : t.isWhole = true) {ps : List Point}
    (hps : ps ⊆ t.toList) :
  (ofList ps).isWhole = true
  := List.all_eq_true.mpr fun p hp => List.all_eq_true.mp h p (hps hp)

theorem trim_subset (cs : List Point) :
  trim cs ⊆ cs
  := by
  rw [trim]
  intro c hc
  have hc := List.dropWhile_subset _ (List.mem_reverse.mp hc)
  apply List.dropWhile_subset _ (List.mem_reverse.mp hc)

end Text

/-! ### Whole values -/

namespace Json

mutual

/-- All texts in a value are whole. -/
def isWhole : Json → Bool
  | .str s => s.isWhole
  | .arr items => areWhole items
  | .obj members => areWholeMembers members
  | .null => true
  | .bool _ => true
  | .num _ => true

/-- All texts in the items of an array are whole. -/
def areWhole : List Json → Bool
  | [] => true
  | v :: vs => v.isWhole && areWhole vs

/-- All texts in the members of an object, names included, are whole. -/
def areWholeMembers : List (Text × Json) → Bool
  | [] => true
  | (k, v) :: rest => k.isWhole && v.isWhole && areWholeMembers rest

end

theorem areWhole_eq_all (items : List Json) :
  areWhole items = items.all isWhole
  := by
  induction items with
  | nil => rfl
  | cons v vs ih => rw [areWhole, ih, List.all_cons]

theorem areWholeMembers_eq_all (members : Members) :
  areWholeMembers members = members.all fun m => m.1.isWhole && m.2.isWhole
  := by
  induction members with
  | nil => rfl
  | cons m ms ih => rw [areWholeMembers, ih, List.all_cons]

/-! ### Their texts -/

theorem all_isChar_of_wordChars {cs : List Point} (h : WordChars cs) :
  cs.all Point.isChar = true
  := by
  rw [List.all_eq_true]
  intro c hc
  have hword := h c hc
  cases c with
  | char c => rfl
  | half n => cases hword

theorem all_isChar_hexDigits (width n : Nat) :
  (Text.hexDigits width n).all Point.isChar = true
  := by
  simp [Text.hexDigits]

theorem all_isChar_escaped (c : Point) :
  (escaped c).all Point.isChar = c.isChar
  := by
  have hcontrol (h : c.toNat < 0x20) : c.isChar = true := by
    cases c with
    | char c => rfl
    | half n =>
        have hn := Point.toNat_half_bounds n
        omega
  rw [escaped]
  split_ifs <;> simp_all [all_isChar_hexDigits]

theorem all_isChar_stringChars (s : Text) :
  (stringChars s).all Point.isChar = s.isWhole
  := by
  simp [stringChars, Text.isWhole, List.all_flatMap, all_isChar_escaped]

theorem all_isChar_lineBreak (indent : Option Nat) (level : Nat) :
  (lineBreak indent level).all Point.isChar = true
  := by
  cases indent <;> simp [lineBreak]

theorem all_isChar_separator (indent : Option Nat) (level : Nat) :
  (separator indent level).all Point.isChar = true
  := by
  cases indent <;> simp [separator, all_isChar_lineBreak]

mutual

/-- The characters of a value are all characters exactly when the value is whole. -/
theorem all_isChar_writeChars (indent : Option Nat) (level : Nat) :
    ∀ v : Json, (writeChars indent level v).all Point.isChar = v.isWhole
  | .null => rfl
  | .bool true => rfl
  | .bool false => rfl
  | .num n => all_isChar_of_wordChars (wordChars_chars n)
  | .str s => all_isChar_stringChars s
  | .arr [] => rfl
  | .obj [] => rfl
  | .arr (x :: xs) => by
      have h := all_isChar_writeItems indent (level + 1) (x :: xs)
      simp [writeChars, isWhole, all_isChar_lineBreak, h]
  | .obj (m :: ms) => by
      have h := all_isChar_writeMembers indent (level + 1) (m :: ms)
      simp [writeChars, isWhole, all_isChar_lineBreak, h]

theorem all_isChar_writeItems (indent : Option Nat) (level : Nat) :
    ∀ items : List Json, (writeItems indent level items).all Point.isChar = areWhole items
  | [] => rfl
  | [x] => by
      have h := all_isChar_writeChars indent level x
      simp [writeItems, areWhole, h]
  | x :: y :: rest => by
      have hx := all_isChar_writeChars indent level x
      have hrest := all_isChar_writeItems indent level (y :: rest)
      simp [writeItems, areWhole, all_isChar_separator, hx] at hrest ⊢
      rw [hrest]

theorem all_isChar_writeMembers (indent : Option Nat) (level : Nat) :
    ∀ members : List (Text × Json),
      (writeMembers indent level members).all Point.isChar = areWholeMembers members
  | [] => rfl
  | [(k, v)] => by
      have h := all_isChar_writeChars indent level v
      simp [writeMembers, areWholeMembers, all_isChar_stringChars, h]
  | (k, v) :: m :: rest => by
      have hv := all_isChar_writeChars indent level v
      have hrest := all_isChar_writeMembers indent level (m :: rest)
      rw [writeMembers, areWholeMembers, ← hrest, ← hv, ← all_isChar_stringChars]
      simp [all_isChar_separator, Bool.and_assoc]

end

/-- A value has a text that bytes encode exactly when it is short and whole. -/
theorem exists_encode?_write?_iff {indent : Option Nat} {v : Json} :
  (∃ s bytes, v.write? indent = some s ∧ s.encode? = some bytes)
    ↔ v.isShort = true ∧ v.isWhole = true
  := by
  have hwhole : (∃ bytes, (Text.ofList (writeChars indent 0 v)).encode? = some bytes)
      ↔ v.isWhole = true := by
    rw [Text.exists_encode?_iff, Text.isWhole, Text.toList_ofList, all_isChar_writeChars]
  rw [← hwhole, write?]
  split_ifs with hshort <;> simp [hshort]

end Json

end Kanban
