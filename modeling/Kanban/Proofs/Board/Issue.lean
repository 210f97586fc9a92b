import Kanban.Board.Snapshot
import Kanban.Proofs.Board.Check

/-!
# Where issues are found

The issues of a snapshot are shown as lines, each a path and a message.  A path is read from
outside to inside (`Issue.pathText_under`), and the checks that make up another one leave their
issues one after the other.  So the issues of a board are those of its tasks, its entries and its
review flag, and each task and entry has the issues that it has on its own, under its place in
the list.

A message that shows the value it complains about cannot be written where an integer in the value
is too long, and then there are no lines at all (`Checked.exists_lines?_iff`).  Only a value that
should be one of several names is shown; any other check finds at most one issue, which has words
(`Checked.Lone`).
-/

namespace Kanban

namespace Issue

/-- What is shown of an issue: its path in one text, and the fault in words, if it has any. -/
def shown (i : Issue) : Text × Option Text := (i.pathText, i.fault.message?)

/-- The text of a path inside of another one. -/
def within (outer inner : Text) : Text := if inner = "" then outer else outer ++ "." ++ inner

/-- What an inner path adds to an outer one does not depend on the outer one. -/
theorem exists_within (inner : Text) :
  ∃ rest, ∀ outer, within outer inner = outer ++ rest
  := by
  by_cases h : inner = ""
  · use ""
    simp [within, h]
  · use "." ++ inner
    simp [within, h, Text.append_assoc]

theorem within_within {b : Text} (hb : b ≠ "") (a c : Text) :
  within a (within b c) = within (a ++ "." ++ b) c
  := by
  have hin : within b c ≠ "" := by
    rw [within]
    split_ifs <;> simp [hb]
  rw [within, if_neg hin, within, within]
  split_ifs <;> simp [Text.append_assoc]

/-- A path that starts with a part leads from that part to where the rest leads. -/
theorem pathText_under {part : Text} (hpart : part ≠ "") (i : Issue) :
  (i.under part).pathText = within part i.pathText
  := by
  have hfilter : (i.under part).path.filter (fun p : Text => p ≠ "")
      = part :: i.path.filter (fun p : Text => p ≠ "") :=
    List.filter_cons_of_pos (decide_eq_true hpart)
  rw [pathText, hfilter, pathText, within]
  cases hrest : i.path.filter (fun p : Text => p ≠ "") with
  | nil => simp
  | cons p ps =>
      have hp : p ≠ "" := by
        have hmem : p ∈ i.path.filter (fun p : Text => p ≠ "") := by
          rw [hrest]
          apply List.mem_cons_self
        simpa using (List.mem_filter.mp hmem).2
      have hne : Text.intercalate "." (p :: ps) ≠ "" := by
        cases ps with
        | nil => simpa using hp
        | cons q qs => simp [Text.intercalate_cons_cons, hp]
      rw [if_neg hne, Text.intercalate_cons_cons]

theorem shown_under {part : Text} (hpart : part ≠ "") (i : Issue) :
  (i.under part).shown = i.shown.map (within part) id
  := by
  rw [shown, pathText_under hpart]
  rfl

theorem toString_ne_empty (n : ℕ) :
  (toString n : Text) ≠ ""
  := by
  intro h
  have hdigits : (toString n).toList = Nat.toDigits 10 n := String.toList_ofList
  rw [Text.ofString_inj.mp h] at hdigits
  apply Nat.toDigits_ne_nil hdigits.symm

end Issue

/-! ### Lines -/

namespace Checked

variable {α β : Type} {c : Checked α}

/-- What is shown of the issues of a check. -/
def shown (c : Checked α) : List (Text × Option Text) := c.issues.map Issue.shown

/-- The lines of a check, if all its issues have words. -/
def lines? (c : Checked α) : Option (List (Text × Text)) :=
  c.shown.mapM fun (path, message?) => message?.map fun message => (path, message)

theorem shown_under {part : Text} (hpart : part ≠ "") (c : Checked α) :
  (c.under part).shown = c.shown.map (·.map (Issue.within part) id)
  := by
  rw [shown, issues_under, shown, List.map_map, List.map_map]
  apply List.map_congr_left
  intro i _
  apply Issue.shown_under hpart

/-- The lines are what is shown, with a message each. -/
theorem lines?_eq_some_iff {lines : List (Text × Text)} :
  c.lines? = some lines ↔ c.shown = lines.map (Prod.map id some)
  := by
  rw [lines?]
  generalize c.shown = xs
  induction xs generalizing lines with
  | nil => cases lines <;> simp
  | cons x xs ih =>
      obtain ⟨path, message?⟩ := x
      simp only [List.mapM_cons, Option.bind_eq_bind, Option.bind_eq_some_iff,
        Option.map_eq_some_iff, Option.pure_def, Option.some.injEq, ih]
      constructor
      · rintro ⟨line, ⟨message, rfl, rfl⟩, rest, hrest, rfl⟩
        rw [hrest]
        rfl
      · intro h
        cases lines with
        | nil => cases h
        | cons line rest =>
            obtain ⟨hline, hrest⟩ := List.cons.inj h
            obtain ⟨rfl, rfl⟩ := Prod.mk.inj hline
            exact ⟨line, ⟨line.2, rfl, rfl⟩, rest, hrest, rfl⟩

/-- Each issue has words. -/
def Told (c : Checked α) : Prop := ∀ i ∈ c.issues, i.fault.message?.isSome = true

theorem exists_lines?_iff :
  (∃ lines, c.lines? = some lines) ↔ c.Told
  := by
  simp only [lines?_eq_some_iff, shown, Told]
  constructor
  · rintro ⟨lines, h⟩ i hi
    have hmem : i.shown ∈ lines.map (Prod.map id some) := by
      rw [← h]
      apply List.mem_map_of_mem hi
    obtain ⟨line, -, hline⟩ := List.mem_map.mp hmem
    have hmessage : some line.2 = i.fault.message? := congrArg Prod.snd hline
    rw [← hmessage]
    rfl
  · intro h
    refine ⟨c.issues.map fun i => (i.pathText, i.fault.message?.getD ""), ?_⟩
    rw [List.map_map]
    apply List.map_congr_left
    intro i hi
    obtain ⟨message, hmessage⟩ := Option.isSome_iff_exists.mp (h i hi)
    simp [Issue.shown, hmessage]

/-- A check fails exactly where an issue has no words. -/
theorem exists_shown?_iff :
  (∃ d, c.shown? = some d) ↔ c.Told
  := by
  rw [shown?, Told, ← List.all_eq_true]
  split_ifs with h <;> simp [h]

/-- Whether a check fails does not depend on what becomes of its value. -/
theorem shown?_map (f : α → β) (c : Checked α) :
  (c.map f).shown? = c.shown?.map (map f)
  := by
  rw [shown?, shown?, issues_map]
  split_ifs <;> rfl

@[simp]
theorem told_ok (a : α) :
  Told (.ok a)
  := nofun

@[simp]
theorem told_map {f : α → β} :
  (c.map f).Told ↔ c.Told
  := by
  rw [Told, issues_map, Told]

@[simp]
theorem told_fmap {f : α → β} :
  (f <$> c).Told ↔ c.Told
  := told_map

@[simp]
theorem told_seq {f : Checked (α → β)} :
  (f <*> c).Told ↔ f.Told ∧ c.Told
  := by
  rw [Told, issues_seq, List.forall_mem_append]
  rfl

@[simp]
theorem told_under {part : Text} :
  (c.under part).Told ↔ c.Told
  := by
  rw [Told, issues_under, List.forall_mem_map]
  rfl

@[simp]
theorem told_all {cs : List (Checked α)} :
  (all cs).Told ↔ ∀ c ∈ cs, c.Told
  := by
  simp only [Told, issues_all, List.mem_flatMap]
  grind

theorem shown_eq_nil_iff :
  c.shown = [] ↔ ∃ a, c = .ok a
  := by
  cases c <;> simp [shown, issues]

/-- At most one issue is found, at the value itself, and it has words. -/
def Lone (c : Checked α) : Prop :=
  c.issues = [] ∨ ∃ fault, fault.message?.isSome = true ∧ c.issues = [⟨[], fault⟩]

namespace Lone

theorem ok (a : α) :
  Lone (.ok a)
  := .inl rfl

theorem fault {f : Fault} (h : f.message?.isSome = true) :
  Lone (.fault f : Checked α)
  := .inr ⟨f, h, rfl⟩

theorem map {f : α → β} (hc : Lone c) :
  Lone (c.map f)
  := by
  rwa [Lone, issues_map]

/-- The second of two checks is made only if the first finds nothing. -/
theorem andThen {f : α → Checked β} (hc : Lone c) (hf : ∀ a, Lone (f a)) :
  Lone (c.andThen f)
  := by
  cases c with
  | ok a => apply hf
  | bad first more => exact hc

theorem ite {p : Prop} [Decidable p] {c d : Checked α} (hc : Lone c) (hd : Lone d) :
  Lone (if p then c else d)
  := by
  split_ifs
  · exact hc
  · exact hd

end Lone

theorem Lone.told (hc : Lone c) :
  c.Told
  := by
  rcases hc with hc | ⟨fault, hfault, hc⟩
  · simp [Told, hc]
  · simpa [Told, hc] using hfault

/-- What is shown of a lone issue of a member is shown at that member. -/
theorem Lone.shown_under {name : Text} (hname : name ≠ "") (hc : Lone c) :
  (c.under name).shown = [] ∨ ∃ message, (c.under name).shown = [(name, some message)]
  := by
  rw [Checked.shown_under hname, shown]
  rcases hc with hc | ⟨fault, hfault, hc⟩
  · left
    rw [hc]
    rfl
  · right
    obtain ⟨message, hmessage⟩ := Option.isSome_iff_exists.mp hfault
    use message
    simp [hc, Issue.shown, hmessage, Issue.pathText, Issue.within]

end Checked

open Checked

namespace Check

/-! ### Checks of single values -/

variable {v : Json} {o : Option Json}

theorem lone_item :
  Lone (item v)
  := by
  cases v with
  | str s => apply Lone.ok
  | _ => apply Lone.fault rfl

theorem lone_text :
  Lone (text o)
  := by
  unfold text
  split
  · apply Lone.fault rfl
  · apply Lone.fault rfl
  · apply lone_item

theorem lone_optionalText :
  Lone (optionalText o)
  := by
  unfold optionalText
  split
  · apply Lone.ok
  · apply Lone.ok
  · apply lone_item.map

theorem lone_uuid :
  Lone (uuid o)
  := by
  cases o with
  | none => apply Lone.fault rfl
  | some v =>
      apply lone_item.andThen
      intro s
      apply Lone.ite (Lone.ok s) (Lone.fault rfl)

theorem lone_title :
  Lone (title o)
  := by
  apply lone_text.andThen
  intro s
  apply Lone.ite (Lone.fault rfl) (Lone.ok s)

theorem lone_moment {name s : Text} :
  Lone (moment name s)
  := by
  apply Lone.ite (Lone.ok s) (Lone.fault rfl)

theorem lone_time {name : Text} :
  Lone (time name o)
  := by
  apply lone_text.andThen
  intro s
  apply lone_moment

theorem lone_optionalTime {name : Text} :
  Lone (optionalTime name o)
  := by
  apply lone_optionalText.andThen
  intro s
  cases s with
  | none => apply Lone.ok
  | some s => apply lone_moment.map

theorem isSome_message?_notOneOf (names : List Text) :
  (Fault.notOneOf names v).message?.isSome = v.isShort
  := by
  rw [Fault.message?, Json.display?]
  split_ifs with h <;> simp [h]

/-- A value of another kind than a text is shown, and has to be one that can be. -/
theorem lone_oneOf {α : Type} {names : List Text} {ofName? : Text → Option α}
    (ho : ∀ v ∈ o, v.isShort = true) :
  Lone (oneOf names ofName? o)
  := by
  cases o with
  | none => apply Lone.fault rfl
  | some v =>
      have hv : (Fault.notOneOf names v).message?.isSome = true := by
        rw [isSome_message?_notOneOf]
        apply ho v rfl
      cases v with
      | str s =>
          rw [oneOf]
          cases ofName? s with
          | none => apply Lone.fault hv
          | some a => apply Lone.ok
      | _ => apply Lone.fault hv

theorem told_oneOf_iff {α : Type} {names : List Text} {ofName? : Text → Option α} :
  Told (oneOf names ofName? o) ↔ ∀ v ∈ o, v.isShort = true
  := by
  constructor
  · rintro h v rfl
    cases v with
    | str s => rfl
    | _ =>
        rw [← isSome_message?_notOneOf names]
        apply h ⟨[], .notOneOf names _⟩ List.mem_cons_self
  · intro h
    apply (lone_oneOf h).told

theorem lone_number :
  Lone (number v)
  := by
  cases v with
  | num n => apply Lone.ite (Lone.ok n) (Lone.fault rfl)
  | _ => apply Lone.fault rfl

theorem lone_notNegative {n : Number} :
  Lone (notNegative n)
  := by
  apply Lone.ite (Lone.fault rfl) (Lone.ok n)

theorem lone_estimate :
  Lone (estimate o)
  := by
  cases o with
  | none => apply Lone.fault rfl
  | some v =>
      apply lone_number.andThen
      intro n
      apply Lone.ite lone_notNegative (Lone.fault rfl)

theorem lone_score :
  Lone (score o)
  := by
  unfold score
  split
  · apply Lone.ok
  · apply Lone.ok
  · apply lone_number.andThen
    intro n
    apply lone_notNegative.andThen
    intro n
    apply Lone.ite (Lone.fault rfl) (Lone.ok _)

/-- A list that is missing, or of another kind, is one issue. -/
theorem lone_list {α : Type} {read : Json → Checked α} (h : ∀ items, o ≠ some (.arr items)) :
  Lone (list read o)
  := by
  cases o with
  | none => apply Lone.fault rfl
  | some v =>
      cases v with
      | arr items => cases h items rfl
      | _ => apply Lone.fault rfl

theorem lone_flag :
  Lone (flag o)
  := by
  unfold flag
  split
  · apply Lone.fault rfl
  · apply Lone.ok
  · apply Lone.fault rfl

theorem lone_actorLabel :
  Lone (actorLabel o)
  := by
  unfold actorLabel
  split
  · apply Lone.ite (Lone.ok _) (Lone.fault rfl)
  · apply Lone.fault rfl

/-! ### Lists -/

theorem told_list_iff {α : Type} {read : Json → Checked α} :
  Told (list read o) ↔ ∀ items, o = some (.arr items) → ∀ v ∈ items, (read v).Told
  := by
  by_cases harr : ∃ items, o = some (.arr items)
  · obtain ⟨items, rfl⟩ := harr
    have hplaces : Told (list read (some (.arr items)))
        ↔ ∀ p ∈ items.zipIdx, (read p.1).Told := by
      rw [list, told_all, List.forall_mem_map]
      simp only [told_under]
    have hitems : (∀ p ∈ items.zipIdx, (read p.1).Told) ↔ ∀ v ∈ items, (read v).Told := by
      rw [← List.forall_mem_map (f := Prod.fst) (P := fun v => (read v).Told),
        List.zipIdx_map_fst]
    rw [hplaces, hitems]
    simp
  · apply iff_of_true
    · apply (lone_list fun items h => harr ⟨items, h⟩).told
    · exact fun items h => absurd ⟨items, h⟩ harr

theorem told_changes :
  Told (changes o)
  := by
  unfold changes
  split
  · apply (Lone.fault rfl).told
  · rw [told_all, List.forall_mem_map]
    rintro ⟨name, v⟩ -
    rw [told_under]
    cases v with
    | obj m => apply told_ok
    | _ => apply (Lone.fault rfl).told
  · apply (Lone.fault rfl).told

end Check

open Issue

/-- A list shows what its items show, each under its place. -/
theorem Check.shown_list {α : Type} {read : Json → Checked α} (items : List Json) :
  (list read (some (.arr items))).shown
    = items.zipIdx.flatMap fun (v, i) => (read v).shown.map (·.map (within (toString i)) id)
  := by
  rw [list, Checked.shown, Checked.issues_all, List.flatMap_map, List.map_flatMap]
  apply List.flatMap_congr
  rintro ⟨v, i⟩ -
  apply Checked.shown_under (toString_ne_empty i)

/-- A list under a name shows what its items show, each under the name and its place. -/
theorem Check.shown_list_under {α : Type} {read : Json → Checked α} {name : Text}
    (hname : name ≠ "") (items : List Json) :
  ((list read (some (.arr items))).under name).shown
    = items.zipIdx.flatMap fun (v, i) =>
      (read v).shown.map (Prod.map (within (name ++ "." ++ toString i)) id)
  := by
  rw [Checked.shown_under hname, Check.shown_list, List.map_flatMap]
  apply List.flatMap_congr
  rintro ⟨v, i⟩ -
  rw [List.map_map]
  apply List.map_congr_left
  rintro ⟨path, message⟩ -
  exact Prod.ext (within_within (toString_ne_empty i) name path) rfl

end Kanban
