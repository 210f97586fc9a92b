import Kanban.Json.Reader
import Kanban.Proofs.Json.Scan
import Kanban.Text.Encoding

/-!
# Values read back

The tokens of a legible value are put together to the value, so that reading what was written
gives the value back, whatever the indent is (`Json.read?_write?`).  Conversely every value that
was read is legible (`Json.legible_of_read?`): it was made of legible numbers, and a repeated
name takes the place of its first member.
-/

namespace Kanban

/-! ### Members -/

namespace Members

theorem names_put (name : Text) (value : Json) (members : Members) :
  (members.put name value).map Prod.fst
    = if name ∈ members.map Prod.fst then members.map Prod.fst
      else members.map Prod.fst ++ [name]
  := by
  induction members with
  | nil => rfl
  | cons m ms ih =>
      obtain ⟨k, v⟩ := m
      by_cases hk : k = name
      · simp [put, hk]
      · have hk' : name ≠ k := fun h => hk h.symm
        simp only [put, hk, ↓reduceIte, List.map_cons, ih, List.mem_cons, hk', false_or]
        split_ifs <;> rfl

/-- A new name comes last. -/
theorem put_of_not_mem {name : Text} {members : Members} (h : name ∉ members.map Prod.fst)
    (value : Json) :
  members.put name value = members ++ [(name, value)]
  := by
  induction members with
  | nil => rfl
  | cons m ms ih =>
      obtain ⟨k, v⟩ := m
      simp only [List.map_cons, List.mem_cons, not_or] at h
      simp [put, Ne.symm h.1, ih h.2]

theorem nodup_names_put {members : Members} (h : (members.map Prod.fst).Nodup) (name : Text)
    (value : Json) :
  ((members.put name value).map Prod.fst).Nodup
  := by
  rw [names_put]
  split_ifs with hmem
  · apply h
  · apply h.append (List.nodup_singleton name)
    simpa using hmem

theorem mem_put {members : Members} {name : Text} {value : Json} {m : Text × Json}
    (h : m ∈ members.put name value) :
  m ∈ members ∨ m.2 = value
  := by
  induction members with
  | nil =>
      obtain rfl := List.mem_singleton.mp h
      right
      rfl
  | cons m' ms ih =>
      obtain ⟨k, v⟩ := m'
      rw [put] at h
      split_ifs at h
      · rcases List.mem_cons.mp h with rfl | h
        · right
          rfl
        · left
          apply List.mem_cons_of_mem _ h
      · rcases List.mem_cons.mp h with rfl | h
        · left
          apply List.mem_cons_self
        · rcases ih h with h | h
          · left
            apply List.mem_cons_of_mem _ h
          · right
            apply h

theorem legible_put {members : Members} (h : Json.Legible (.obj members)) (name : Text)
    {value : Json} (hv : value.Legible) :
  Json.Legible (.obj (members.put name value))
  := by
  rw [Json.legible_obj_iff] at h ⊢
  apply And.intro (nodup_names_put h.1 name value)
  intro m hm
  rcases mem_put hm with hm | hm
  · apply h.2 m hm
  · rwa [hm]

end Members

namespace Json

/-! ### Putting tokens together -/

namespace Assembly

/-- A value starts in an array as it does elsewhere. -/
theorem step_firstItem (stack : List Frame) {t : Token} (h : t ≠ .closeArray) :
  step (.firstItem stack) t = step (.value (.array [] :: stack)) t
  := by
  cases t <;> first | rfl | contradiction

theorem exists_cons_tokens (v : Json) :
  ∃ t ts, v.tokens = t :: ts ∧ t ≠ .closeArray
  := by
  cases v <;> exact ⟨_, _, rfl, nofun⟩

mutual

/-- The tokens of a legible value are put together to the value. -/
theorem foldlM_step_tokens :
    ∀ (v : Json) (_ : v.Legible) (stack : List Frame),
      v.tokens.foldlM step (.value stack) = some (complete v stack)
  | .null, _, _ => rfl
  | .bool _, _, _ => rfl
  | .num _, _, _ => rfl
  | .str _, _, _ => rfl
  | .arr [], _, _ => rfl
  | .obj [], _, _ => rfl
  | .arr (x :: xs), hv, stack => by
      have h := foldlM_step_itemTokens (x :: xs) hv (by simp) [] stack
      obtain ⟨t, ts, ht, hne⟩ := exists_cons_tokens x
      have hfirst : (itemTokens (x :: xs)).foldlM step (.firstItem stack)
          = (itemTokens (x :: xs)).foldlM step (.value (.array [] :: stack)) := by
        obtain ⟨ts', hts⟩ : ∃ ts', itemTokens (x :: xs) = t :: ts' := by
          cases xs <;> simp [itemTokens, ht]
        rw [hts, List.foldlM_cons, List.foldlM_cons, step_firstItem stack hne]
      rw [tokens, List.cons_append, List.foldlM_cons]
      change List.foldlM step (.firstItem stack) _ = _
      rw [List.foldlM_append, hfirst, h]
      simp [step]
  | .obj (m :: ms), hv, stack => by
      have hname : (memberTokens (m :: ms)).foldlM step (.firstName stack)
          = (memberTokens (m :: ms)).foldlM step (.name stack []) := by
        cases ms <;> rfl
      have h := foldlM_step_memberTokens (m :: ms) hv.2 (by simp) [] stack hv.1
      rw [tokens, List.cons_append, List.foldlM_cons]
      change List.foldlM step (.firstName stack) _ = _
      rw [List.foldlM_append, hname, h]
      simp [step]

theorem foldlM_step_itemTokens :
    ∀ (xs : List Json) (_ : LegibleItems xs) (_ : xs ≠ []) (items : List Json)
      (stack : List Frame),
      (itemTokens xs).foldlM step (.value (.array items :: stack))
        = some (.afterItem stack (xs.reverse ++ items))
  | [x], hv, _, items, stack => foldlM_step_tokens x hv.1 (.array items :: stack)
  | x :: y :: ys, hv, _, items, stack => by
      have hx := foldlM_step_tokens x hv.1 (.array items :: stack)
      have hys := foldlM_step_itemTokens (y :: ys) hv.2 (by simp) (x :: items) stack
      rw [itemTokens, List.foldlM_append, hx, Option.bind_eq_bind, Option.bind_some,
        List.foldlM_cons]
      change List.foldlM step (.value (.array (x :: items) :: stack)) _ = _
      rw [hys]
      simp

theorem foldlM_step_memberTokens :
    ∀ (ms : List (Text × Json)) (_ : LegibleMembers ms) (_ : ms ≠ []) (members : Members)
      (stack : List Frame), ((members ++ ms).map Prod.fst).Nodup →
      (memberTokens ms).foldlM step (.name stack members)
        = some (.afterMember stack (members ++ ms))
  | [(k, v)], hv, _, members, stack, hnodup => by
      have hk : k ∉ members.map Prod.fst := by
        simp [List.nodup_append] at hnodup
        grind
      have h := foldlM_step_tokens v hv.1 (.object members k :: stack)
      rw [memberTokens, List.foldlM_cons]
      change List.foldlM step (.colon stack members k) _ = _
      rw [List.foldlM_cons]
      change List.foldlM step (.value (.object members k :: stack)) _ = _
      rw [h, complete, Members.put_of_not_mem hk]
  | (k, v) :: m :: ms, hv, _, members, stack, hnodup => by
      have hk : k ∉ members.map Prod.fst := by
        simp [List.nodup_append] at hnodup
        grind
      have h := foldlM_step_tokens v hv.1 (.object members k :: stack)
      have hms := foldlM_step_memberTokens (m :: ms) hv.2 (by simp) (members ++ [(k, v)]) stack
        (by simpa using hnodup)
      rw [memberTokens, List.foldlM_cons]
      change List.foldlM step (.colon stack members k) _ = _
      rw [List.foldlM_cons]
      change List.foldlM step (.value (.object members k :: stack)) _ = _
      rw [List.foldlM_append, h, complete, Members.put_of_not_mem hk, Option.bind_eq_bind,
        Option.bind_some, List.foldlM_cons]
      change List.foldlM step (.name stack (members ++ [(k, v)])) _ = _
      rw [hms, List.append_assoc, List.singleton_append]

end

end Assembly

mutual

/-- A legible value is short. -/
theorem Legible.isShort : ∀ {v : Json}, v.Legible → v.isShort = true
  | .null, _ => rfl
  | .bool _, _ => rfl
  | .num (.int _), h => decide_eq_true h
  | .num (.float _), _ => rfl
  | .str _, _ => rfl
  | .arr _, h => LegibleItems.areShort h
  | .obj _, h => LegibleMembers.areShortMembers h.2

theorem LegibleItems.areShort : ∀ {items : List Json}, LegibleItems items → areShort items = true
  | [], _ => rfl
  | _ :: _, h => by
      rw [Json.areShort, h.1.isShort, LegibleItems.areShort h.2]
      rfl

theorem LegibleMembers.areShortMembers :
    ∀ {members : List (Text × Json)}, LegibleMembers members → areShortMembers members = true
  | [], _ => rfl
  | (_, _) :: _, h => by
      rw [Json.areShortMembers, h.1.isShort, LegibleMembers.areShortMembers h.2]
      rfl

end

/-- A legible value has a text. -/
theorem write?_of_legible (indent : Option Nat) {v : Json} (hv : v.Legible) :
  v.write? indent = some (Text.ofList (writeChars indent 0 v))
  := by
  rw [write?, if_pos hv.isShort]

/-- A legible value reads back from its text. -/
theorem read?_write? {indent : Option Nat} {v : Json} (hv : v.Legible) {s : Text}
    (h : v.write? indent = some s) :
  read? s = some v
  := by
  rw [write?_of_legible indent hv] at h
  obtain rfl := Option.some.inj h
  unfold read? ofChars? ofTokens?
  rw [Text.toList_ofList, tokenOfChars?_writeChars indent hv]
  simp [Assembly.foldlM_step_tokens v hv [], Assembly.complete, Assembly.finish]

/-! ### What is read is legible -/

/-- What every step keeps is kept by all steps in turn. -/
theorem foldlM_invariant
    {α σ : Type} {f : σ → α → Option σ} {P : σ → Prop} {Q : α → Prop}
    (hstep : ∀ s a s', P s → Q a → f s a = some s' → P s') {l : List α} {s s' : σ}
    (h : l.foldlM f s = some s') (hs : P s) (hl : ∀ a ∈ l, Q a) :
  P s'
  := by
  induction l generalizing s with
  | nil =>
      obtain rfl := Option.some.inj h
      apply hs
  | cons a l ih =>
      obtain ⟨t, ht, h⟩ := Option.bind_eq_some_iff.mp h
      apply ih h
      · apply hstep s a t hs (hl a (by simp)) ht
      · intro b hb
        apply hl b (List.mem_cons_of_mem a hb)

theorem length_digits_numeralsValue_le {ds : List Point} (h : Numerals ds) (hne : ds ≠ []) :
  (Number.digits (numeralsValue ds)).length ≤ ds.length
  := by
  rw [length_digits_le_iff (List.length_pos_iff.mpr hne)]
  apply numeralsValue_lt h

theorem legible_of_unsigned? {negative : Bool} {cs : List Point} {n : Number}
    (h : unsigned? negative cs = some n) :
  n.Legible
  := by
  rw [unsigned?] at h
  rw [List.span_eq_takeWhile_dropWhile] at h
  have hds : Numerals (cs.takeWhile isNumeral) := fun c hc => List.mem_takeWhile_imp hc
  generalize cs.takeWhile isNumeral = ds at h hds
  generalize cs.dropWhile isNumeral = rest at h
  obtain ⟨⟨⟩, hint, h⟩ := Option.bind_eq_some_iff.mp h
  obtain ⟨⟨fs, es⟩, -, h⟩ := Option.bind_eq_some_iff.mp h
  obtain ⟨e, -, h⟩ := Option.bind_eq_some_iff.mp h
  split at h
  · obtain ⟨⟨⟩, hlen, h⟩ := Option.bind_eq_some_iff.mp h
    obtain rfl := Option.some.inj h
    have hlen : ds.length ≤ Number.maxDigits := by
      by_contra hlong
      simp [guard, hlong] at hlen
    have hne : ds ≠ [] := by
      rintro rfl
      simp [isIntegerPart, guard] at hint
    have := length_digits_numeralsValue_le hds hne
    cases negative <;> simp [Number.Legible] <;> omega
  · obtain rfl := Option.some.inj h
    trivial

theorem legible_of_ofWord? {cs : List Point} {v : Json} (h : ofWord? cs = some v) :
  v.Legible
  := by
  have hnum {negative : Bool} {cs : List Point}
      (h : (unsigned? negative cs).map num = some v) : v.Legible := by
    obtain ⟨n, hn, rfl⟩ := Option.map_eq_some_iff.mp h
    apply legible_of_unsigned? hn
  unfold ofWord? at h
  split at h
  · next w hw =>
      obtain rfl : w = v := Option.some.inj h
      obtain ⟨xs, ys, hsplit, -⟩ := List.lookup_eq_some_iff.mp hw
      have hmem : (Text.ofList cs, w) ∈ fixedNames := by
        rw [hsplit]
        apply List.mem_append_cons_self
      simp only [fixedNames, List.mem_cons, Prod.mk.injEq, List.not_mem_nil, or_false] at hmem
      rcases hmem with ⟨-, rfl⟩ | ⟨-, rfl⟩ | ⟨-, rfl⟩ | ⟨-, rfl⟩ | ⟨-, rfl⟩ | ⟨-, rfl⟩ <;> trivial
  · split at h <;> apply hnum h

/-- A token whose value is legible. -/
def Token.Legible : Token → Prop
  | .value v => v.Legible
  | _ => True

/-- The tokens found so far are legible. -/
def Scan.Legible (s : Scan) : Prop := ∀ t ∈ s.tokens, t.Legible

theorem Scan.legible_gapStep {ts : List Token} {c : Point} {s : Scan} (hts : ∀ t ∈ ts, t.Legible)
    (h : gapStep ts c = some s) :
  s.Legible
  := by
  rw [gapStep] at h
  split_ifs at h
  iterate 3
    obtain rfl := Option.some.inj h
    apply hts
  obtain ⟨t, ht, rfl⟩ := Option.map_eq_some_iff.mp h
  apply List.forall_mem_cons.mpr ⟨_, hts⟩
  unfold Token.ofChar? at ht
  split at ht <;> cases ht <;> trivial

theorem Scan.legible_endWord {ts new : List Token} {cs : List Point} (hts : ∀ t ∈ ts, t.Legible)
    (h : endWord ts cs = some new) :
  ∀ t ∈ new, t.Legible
  := by
  obtain ⟨v, hv, rfl⟩ := Option.map_eq_some_iff.mp h
  intro t ht
  rcases List.mem_cons.mp ht with rfl | ht
  · apply legible_of_ofWord? hv
  · apply hts t ht

theorem Scan.legible_step {s s' : Scan} {c : Point} (hs : s.Legible) (h : s.step c = some s') :
  s'.Legible
  := by
  obtain ⟨reading, ts⟩ := s
  rw [step] at h
  dsimp only at h
  split at h
  · apply legible_gapStep hs h
  · split_ifs at h
    · obtain rfl := Option.some.inj h
      apply hs
    · obtain ⟨new, hnew, h⟩ := Option.bind_eq_some_iff.mp h
      apply legible_gapStep (legible_endWord hs hnew) h
  · split at h
    · obtain rfl := Option.some.inj h
      apply List.forall_mem_cons.mpr ⟨trivial, hs⟩
    · obtain ⟨_, -, rfl⟩ := Option.map_eq_some_iff.mp h
      apply hs

theorem legible_of_tokenOfChars? {cs : List Point} {ts : List Token}
    (h : Token.ofChars? cs = some ts) :
  ∀ t ∈ ts, t.Legible
  := by
  obtain ⟨s, hs, h⟩ := Option.bind_eq_some_iff.mp h
  obtain ⟨new, hnew, h⟩ := Option.bind_eq_some_iff.mp h
  obtain rfl := Option.some.inj h
  have hlegible : s.Legible :=
    foldlM_invariant (Q := fun _ => True) (fun _ _ _ hs _ h => Scan.legible_step hs h) hs
      (by simp [Scan.Legible]) (fun _ _ => trivial)
  intro t ht
  rw [List.mem_reverse] at ht
  rw [Scan.finish] at hnew
  split at hnew
  · obtain rfl := Option.some.inj hnew
    apply hlegible t ht
  · apply Scan.legible_endWord hlegible hnew t ht
  · cases hnew

/-- An open array or object whose parts so far are legible. -/
def Frame.Legible : Frame → Prop
  | .array items => ∀ x ∈ items, x.Legible
  | .object members _ => Json.Legible (.obj members)

/-- What has been read is legible. -/
def Assembly.Legible : Assembly → Prop
  | .value stack | .firstItem stack | .firstName stack => ∀ f ∈ stack, f.Legible
  | .afterItem stack items => (∀ f ∈ stack, f.Legible) ∧ ∀ x ∈ items, x.Legible
  | .name stack members | .colon stack members _ | .afterMember stack members =>
    (∀ f ∈ stack, f.Legible) ∧ Json.Legible (.obj members)
  | .done v => v.Legible

namespace Assembly

theorem legible_complete {v : Json} {stack : List Frame} (hv : v.Legible)
    (h : ∀ f ∈ stack, f.Legible) :
  (complete v stack).Legible
  := by
  cases stack with
  | nil => apply hv
  | cons f stack =>
      obtain ⟨hf, hstack⟩ := List.forall_mem_cons.mp h
      cases f with
      | array items => apply And.intro hstack (List.forall_mem_cons.mpr ⟨hv, hf⟩)
      | object members k => apply And.intro hstack (Members.legible_put hf k hv)

theorem legible_startValue {a : Assembly} {stack : List Frame} {t : Token}
    (hs : ∀ f ∈ stack, f.Legible) (ht : t.Legible) (h : startValue stack t = some a) :
  a.Legible
  := by
  cases t <;> cases h
  · apply hs
  · apply hs
  · apply legible_complete ht hs

theorem legible_step {a a' : Assembly} {t : Token} (ha : a.Legible) (ht : t.Legible)
    (h : a.step t = some a') :
  a'.Legible
  := by
  unfold step at h
  split at h
  · apply legible_startValue ha ht h
  · cases h
    apply legible_complete _ ha
    apply legible_arr_iff.mpr (by simp)
  · apply legible_startValue _ ht h
    apply List.forall_mem_cons.mpr ⟨by simp [Frame.Legible], ha⟩
  · cases h
    apply List.forall_mem_cons.mpr ⟨ha.2, ha.1⟩
  · cases h
    apply legible_complete _ ha.1
    apply legible_arr_iff.mpr
    simpa using ha.2
  · cases h
    apply legible_complete _ ha
    apply legible_obj_iff.mpr (by simp)
  · cases h
    apply And.intro ha
    apply legible_obj_iff.mpr (by simp)
  · cases h
    apply ha
  · cases h
    apply List.forall_mem_cons.mpr (And.intro (a := Frame.Legible (.object _ _)) ha.2 ha.1)
  · cases h
    apply ha
  · cases h
    apply legible_complete ha.2 ha.1
  · cases h

end Assembly

/-- A value that was read is legible. -/
theorem legible_of_read? {text : Text} {v : Json} (h : read? text = some v) :
  v.Legible
  := by
  obtain ⟨ts, hts, h⟩ := Option.bind_eq_some_iff.mp h
  obtain ⟨a, ha, h⟩ := Option.bind_eq_some_iff.mp h
  have hlegible : a.Legible :=
    foldlM_invariant (Q := Token.Legible) (fun _ _ _ hs ht h => Assembly.legible_step hs ht h) ha
      (by simp [Assembly.Legible]) (legible_of_tokenOfChars? hts)
  cases a <;> cases h
  apply hlegible

/-! ### Bytes -/

theorem decodeUtf8?_toUTF8 (s : String) :
  Text.decodeUtf8? s.toUTF8 = some s
  := by
  rw [Text.decodeUtf8?, String.fromUTF8?]
  rw [dif_pos]
  rfl

/-- The bytes of a text are decoded to the text. -/
theorem exists_decodeUtf8?_of_encode? {t : Text} {bytes : ByteArray}
    (h : t.encode? = some bytes) :
  ∃ s : String, t = s ∧ Text.decodeUtf8? bytes = some s
  := by
  obtain ⟨s, hs, rfl⟩ := Option.map_eq_some_iff.mp h
  exact ⟨s, Text.string?_eq_some_iff.mp hs, decodeUtf8?_toUTF8 s⟩

end Json

end Kanban
