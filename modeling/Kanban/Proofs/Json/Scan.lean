import Kanban.Proofs.Json.Numeral

/-!
# The tokens of written values

The text of a value, on one line or indented, is cut into the tokens of the value
(`Json.scans_writeChars`).  The text of a number or a fixed name is a word that ends only
where something else follows, so a text is related to what it leaves behind in two ways:
`Closes` when the reading stands between two tokens after it, and `Scans` when a word may be
left that ends there.
-/

namespace Kanban.Json

/-! ### Tokens and legible values -/

mutual

/-- The tokens of a value. -/
def tokens : Json → List Token
  | .arr items => .openArray :: itemTokens items ++ [.closeArray]
  | .obj members => .openObject :: memberTokens members ++ [.closeObject]
  | .null => [.value .null]
  | .bool b => [.value (.bool b)]
  | .num n => [.value (.num n)]
  | .str s => [.value (.str s)]

/-- The tokens of the items of an array. -/
def itemTokens : List Json → List Token
  | [] => []
  | [x] => tokens x
  | x :: y :: rest => tokens x ++ .comma :: itemTokens (y :: rest)

/-- The tokens of the members of an object. -/
def memberTokens : List (Text × Json) → List Token
  | [] => []
  | [(k, v)] => .value (.str k) :: .colon :: tokens v
  | (k, v) :: m :: rest =>
    .value (.str k) :: .colon :: (tokens v ++ .comma :: memberTokens (m :: rest))

end

mutual

/-- A value that readers take as it is written: its numbers are legible and no object in it
has two members of a name. -/
def Legible : Json → Prop
  | .num n => n.Legible
  | .arr items => LegibleItems items
  | .obj members => (members.map Prod.fst).Nodup ∧ LegibleMembers members
  | .null | .bool _ | .str _ => True

/-- All items are legible. -/
def LegibleItems : List Json → Prop
  | [] => True
  | x :: xs => Legible x ∧ LegibleItems xs

/-- The values of all members are legible. -/
def LegibleMembers : List (Text × Json) → Prop
  | [] => True
  | (_, v) :: ms => Legible v ∧ LegibleMembers ms

end

theorem legibleItems_iff {items : List Json} :
  LegibleItems items ↔ ∀ x ∈ items, x.Legible
  := by
  induction items with
  | nil => simp [LegibleItems]
  | cons x xs ih => simp [LegibleItems, ih]

theorem legibleMembers_iff {members : Members} :
  LegibleMembers members ↔ ∀ m ∈ members, m.2.Legible
  := by
  induction members with
  | nil => simp [LegibleMembers]
  | cons m ms ih => simp [LegibleMembers, ih]

theorem legible_arr_iff {items : List Json} :
  Legible (.arr items) ↔ ∀ x ∈ items, x.Legible
  := by
  rw [Legible, legibleItems_iff]

theorem legible_obj_iff {members : Members} :
  Legible (.obj members) ↔ (members.map Prod.fst).Nodup ∧ ∀ m ∈ members, m.2.Legible
  := by
  rw [Legible, legibleMembers_iff]

/-! ### What a text leaves behind -/

/-- Reading `cs` between two tokens, the reading stands between two tokens again, and the
tokens `old` have become `new`, last first. -/
def Closes (cs : List Point) (old new : List Token) : Prop :=
  cs.foldlM Scan.step ⟨.gap, old⟩ = some ⟨.gap, new⟩

/-- Reading `cs` between two tokens, the tokens `old` would become `new` if the text ended,
last first. -/
def Scans (cs : List Point) (old new : List Token) : Prop :=
  ∃ s, cs.foldlM Scan.step ⟨.gap, old⟩ = some s ∧ s.finish = some new

variable {old mid new : List Token} {xs ys : List Point}

theorem Closes.scans (h : Closes xs old new) :
  Scans xs old new
  := ⟨_, h, rfl⟩

theorem Closes.append (hx : Closes xs old mid) (hy : Closes ys mid new) :
  Closes (xs ++ ys) old new
  := by
  rw [Closes] at *
  rw [List.foldlM_append, hx]
  apply hy

theorem Closes.append_scans (hx : Closes xs old mid) (hy : Scans ys mid new) :
  Scans (xs ++ ys) old new
  := by
  obtain ⟨s, hs, hfin⟩ := hy
  refine ⟨s, ?_, hfin⟩
  rw [List.foldlM_append, hx]
  apply hs

/-- A character that no word goes on with is read as between two tokens. -/
theorem Scan.step_of_finish {s : Scan} (h : s.finish = some new) {c : Point}
    (hc : isWordChar c = false) :
  s.step c = gapStep new c
  := by
  obtain ⟨reading, tokens⟩ := s
  cases reading with
  | gap =>
      obtain rfl := Option.some.inj h
      rfl
  | word cs =>
      change endWord tokens cs = some new at h
      simp [Scan.step, hc, h]
  | string place cs => cases h

/-- A word ends where a text follows that starts with something else. -/
theorem Scans.append (hx : Scans xs old mid) (hc : ∀ c ∈ ys.head?, isWordChar c = false)
    (hy : Scans ys mid new) :
  Scans (xs ++ ys) old new
  := by
  obtain ⟨s, hs, hfin⟩ := hx
  obtain ⟨t, ht, hfin'⟩ := hy
  cases ys with
  | nil =>
      obtain rfl := Option.some.inj ht
      obtain rfl := Option.some.inj hfin'
      use s
      rw [List.append_nil]
      apply And.intro hs hfin
  | cons c ys =>
      refine ⟨t, ?_, hfin'⟩
      rw [List.foldlM_append, hs]
      change (c :: ys).foldlM Scan.step s = some t
      rw [List.foldlM_cons, Scan.step_of_finish hfin (hc c rfl)]
      apply ht

/-! ### Single tokens -/

theorem closes_nil (ts : List Token) :
  Closes [] ts ts
  := rfl

theorem closes_lineBreak (indent : Option Nat) (level : Nat) (ts : List Token) :
  Closes (lineBreak indent level) ts ts
  := by
  cases indent with
  | none => rfl
  | some n =>
      change Closes (List.replicate (n * level) (.char ' ')) ts ts
      generalize n * level = k
      induction k with
      | zero => rfl
      | succ k ih => apply ih

theorem closes_separator (indent : Option Nat) (level : Nat) (ts : List Token) :
  Closes (separator indent level) ts (.comma :: ts)
  := by
  cases indent with
  | none => rfl
  | some n => apply closes_lineBreak (some n) level (.comma :: ts)

theorem not_isGap_of_isWordChar {c : Point} (h : isWordChar c = true) :
  isGap c = false ∧ c ≠ '"'
  := by
  have hne {d : Point} (hd : isWordChar d = false) : c ≠ d := by
    rintro rfl
    simp [h] at hd
  constructor
  · simp [isGap, hne (show isWordChar ' ' = false by decide),
      hne (show isWordChar '\t' = false by decide), hne (show isWordChar '\n' = false by decide),
      hne (show isWordChar '\r' = false by decide)]
  · apply hne (by decide)

theorem foldlM_step_word {cs : List Point} (h : WordChars cs) (w : List Point) (ts : List Token) :
  cs.foldlM Scan.step ⟨.word w, ts⟩ = some ⟨.word (cs.reverse ++ w), ts⟩
  := by
  induction cs generalizing w with
  | nil => rfl
  | cons c cs ih =>
      have hc := h c (by simp)
      have hcs : WordChars cs := fun d hd => h d (List.mem_cons_of_mem c hd)
      rw [List.foldlM_cons]
      simp only [Scan.step, hc, ↓reduceIte, Option.bind_eq_bind, Option.bind_some]
      rw [ih hcs]
      simp

/-- A word is cut off as the token of its value. -/
theorem scans_word
    (cs : List Point) (h : WordChars cs) {v : Json} (hv : ofWord? cs = some v) (ts : List Token) :
  Scans cs ts (.value v :: ts)
  := by
  cases cs with
  | nil =>
      rw [show ofWord? [] = none from rfl] at hv
      contradiction
  | cons c cs =>
      have hc := h c (by simp)
      have hcs : WordChars cs := fun d hd => h d (List.mem_cons_of_mem c hd)
      obtain ⟨hgap, hquote⟩ := not_isGap_of_isWordChar hc
      refine ⟨⟨.word (cs.reverse ++ [c]), ts⟩, ?_, ?_⟩
      · rw [List.foldlM_cons]
        simp only [Scan.step, Scan.gapStep, hgap, hquote, hc, Bool.false_eq_true, ↓reduceIte,
          Option.bind_eq_bind, Option.bind_some]
        apply foldlM_step_word hcs
      · simp [Scan.finish, Scan.endWord, hv]

/-! ### Strings -/

theorem foldlM_step_escape
    {c d : Point} (hc : c ≠ 'u') (h : escape? c = some d) (cs : List Point) (ts : List Token) :
  [.char '\\', c].foldlM Scan.step ⟨.string .plain cs, ts⟩ = some ⟨.string .plain (d :: cs), ts⟩
  := by
  simp [Scan.step, InString.step, InString.close?, InString.plainStep, InString.escapeStep, hc, h]

/-- The numeric escape of a control character. -/
theorem foldlM_step_control {n : Nat} (h : n < 0x20) (cs : List Point) (ts : List Token) :
  (Point.char '\\' :: 'u' :: Text.hexDigits 4 n).foldlM Scan.step ⟨.string .plain cs, ts⟩
    = some ⟨.string .plain (Point.ofNat n :: cs), ts⟩
  := by
  interval_cases n <;> rfl

/-- An escaped character comes back as the character. -/
theorem foldlM_step_escaped (c : Point) (cs : List Point) (ts : List Token) :
  (escaped c).foldlM Scan.step ⟨.string .plain cs, ts⟩ = some ⟨.string .plain (c :: cs), ts⟩
  := by
  rw [escaped]
  split_ifs with hquote hback hn hr ht hb hf hcontrol
  · apply foldlM_step_escape (by decide)
    rw [hquote]
    rfl
  · apply foldlM_step_escape (by decide)
    rw [hback]
    rfl
  · apply foldlM_step_escape (by decide)
    rw [hn]
    rfl
  · apply foldlM_step_escape (by decide)
    rw [hr]
    rfl
  · apply foldlM_step_escape (by decide)
    rw [ht]
    rfl
  · apply foldlM_step_escape (by decide)
    rw [hb]
    rfl
  · apply foldlM_step_escape (by decide)
    rw [hf]
    rfl
  · apply Eq.trans (foldlM_step_control hcontrol cs ts)
    rw [Point.ofNat_toNat]
  · simp [Scan.step, InString.step, InString.plainStep, hquote, hback, hcontrol]

theorem foldlM_step_flatMap_escaped (s cs : List Point) (ts : List Token) :
  (s.flatMap escaped).foldlM Scan.step ⟨.string .plain cs, ts⟩
    = some ⟨.string .plain (s.reverse ++ cs), ts⟩
  := by
  induction s generalizing cs with
  | nil => rfl
  | cons c s ih =>
      rw [List.flatMap_cons, List.foldlM_append, foldlM_step_escaped]
      apply Eq.trans (ih (c :: cs))
      simp

theorem closes_stringChars (s : Text) (ts : List Token) :
  Closes (stringChars s) ts (.value (.str s) :: ts)
  := by
  rw [Closes, stringChars]
  rw [List.cons_append, List.foldlM_cons]
  change List.foldlM Scan.step ⟨.string .plain [], ts⟩ _ = _
  rw [List.foldlM_append, foldlM_step_flatMap_escaped]
  simp [Scan.step, InString.close?]

/-! ### Values -/

theorem head?_separator_append (indent : Option Nat) (level : Nat) (cs : List Point) :
  ∀ c ∈ (separator indent level ++ cs).head?, isWordChar c = false
  := by
  cases indent <;> simp [separator, isWordChar]

theorem head?_lineBreak_append
    (indent : Option Nat) (level : Nat) {d : Point} (hd : isWordChar d = false) :
  ∀ c ∈ (lineBreak indent level ++ [d]).head?, isWordChar c = false
  := by
  cases indent with
  | none => simpa [lineBreak] using hd
  | some n => simp [lineBreak, isWordChar]

mutual

/-- The text of a legible value is cut into the tokens of the value. -/
theorem scans_writeChars
    (indent : Option Nat) (level : Nat) :
    ∀ (v : Json) (_ : v.Legible) (ts : List Token),
      Scans (writeChars indent level v) ts (v.tokens.reverse ++ ts)
  | .null, _, ts => scans_word ("null" : Text).toList (by decide) rfl ts
  | .bool true, _, ts => scans_word ("true" : Text).toList (by decide) rfl ts
  | .bool false, _, ts => scans_word ("false" : Text).toList (by decide) rfl ts
  | .num n, hv, ts => scans_word _ (wordChars_chars n) (ofWord?_chars hv) ts
  | .str s, _, ts => (closes_stringChars s ts).scans
  | .arr [], _, ts => ⟨_, rfl, rfl⟩
  | .obj [], _, ts => ⟨_, rfl, rfl⟩
  | .arr (x :: xs), hv, ts => by
      have hopen : Closes (Point.char '[' :: lineBreak indent (level + 1)) ts (.openArray :: ts) :=
        closes_lineBreak indent (level + 1) (.openArray :: ts)
      have hitems := scans_writeItems indent (level + 1) (x :: xs) hv (.openArray :: ts)
      have hclose : Closes (lineBreak indent level ++ [.char ']'])
          ((itemTokens (x :: xs)).reverse ++ .openArray :: ts)
          (.closeArray :: ((itemTokens (x :: xs)).reverse ++ .openArray :: ts)) :=
        (closes_lineBreak indent level _).append rfl
      have h := (hopen.append_scans hitems).append
        (head?_lineBreak_append indent level (by decide)) hclose.scans
      simpa [writeChars, tokens] using h
  | .obj (m :: ms), hv, ts => by
      have hopen : Closes (Point.char '{' :: lineBreak indent (level + 1)) ts (.openObject :: ts) :=
        closes_lineBreak indent (level + 1) (.openObject :: ts)
      have hmembers := scans_writeMembers indent (level + 1) (m :: ms) hv.2 (.openObject :: ts)
      have hclose : Closes (lineBreak indent level ++ [.char '}'])
          ((memberTokens (m :: ms)).reverse ++ .openObject :: ts)
          (.closeObject :: ((memberTokens (m :: ms)).reverse ++ .openObject :: ts)) :=
        (closes_lineBreak indent level _).append rfl
      have h := (hopen.append_scans hmembers).append
        (head?_lineBreak_append indent level (by decide)) hclose.scans
      simpa [writeChars, tokens] using h

theorem scans_writeItems
    (indent : Option Nat) (level : Nat) :
    ∀ (items : List Json) (_ : LegibleItems items) (ts : List Token),
      Scans (writeItems indent level items) ts ((itemTokens items).reverse ++ ts)
  | [], _, ts => (closes_nil ts).scans
  | [x], hv, ts => scans_writeChars indent level x hv.1 ts
  | x :: y :: rest, hv, ts => by
      have hx := scans_writeChars indent level x hv.1 ts
      have hrest := scans_writeItems indent level (y :: rest) hv.2
        (.comma :: (x.tokens.reverse ++ ts))
      have h := hx.append (head?_separator_append indent level _)
        ((closes_separator indent level _).append_scans hrest)
      simpa [writeItems, itemTokens] using h

theorem scans_writeMembers
    (indent : Option Nat) (level : Nat) :
    ∀ (members : List (Text × Json)) (_ : LegibleMembers members) (ts : List Token),
      Scans (writeMembers indent level members) ts ((memberTokens members).reverse ++ ts)
  | [], _, ts => (closes_nil ts).scans
  | [(k, v)], hv, ts => by
      have hname : Closes (stringChars k ++ [.char ':', .char ' ']) ts
          (.colon :: .value (.str k) :: ts) :=
        (closes_stringChars k ts).append rfl
      have h := hname.append_scans (scans_writeChars indent level v hv.1 _)
      simpa [writeMembers, memberTokens] using h
  | (k, v) :: m :: rest, hv, ts => by
      have hname : Closes (stringChars k ++ [.char ':', .char ' ']) ts
          (.colon :: .value (.str k) :: ts) :=
        (closes_stringChars k ts).append rfl
      have hvalue := scans_writeChars indent level v hv.1 (.colon :: .value (.str k) :: ts)
      have hrest := scans_writeMembers indent level (m :: rest) hv.2
        (.comma :: (v.tokens.reverse ++ .colon :: .value (.str k) :: ts))
      have h := (hname.append_scans hvalue).append (head?_separator_append indent level _)
        ((closes_separator indent level _).append_scans hrest)
      simpa [writeMembers, memberTokens] using h

end

/-- The tokens of a legible value are what its text is cut into. -/
theorem tokenOfChars?_writeChars (indent : Option Nat) {v : Json} (hv : v.Legible) :
  Token.ofChars? (writeChars indent 0 v) = some v.tokens
  := by
  obtain ⟨s, hs, hfin⟩ := scans_writeChars indent 0 v hv []
  simp [Token.ofChars?, hs, hfin]

end Kanban.Json
