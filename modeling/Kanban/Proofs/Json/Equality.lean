import Kanban.Proofs.Json.Edit

/-!
# Equality of values

A value is definite when every number in it has a value and no object in it has two members of
a name.  On such values `Json.same` is an equivalence (`Json.Definite.same_self`,
`Json.Definite.same_symm`, `Json.same_trans`), since two numbers are the same when they have the
same place in the order, and two objects when the same names lead to the same values
(`Json.same_obj_iff`).
-/

namespace Kanban

theorem forall₂_flip_of_mem {α β : Type} {R : α → β → Prop} {S : β → α → Prop} {as : List α}
    {bs : List β} (h : List.Forall₂ R as bs) (hrel : ∀ a ∈ as, ∀ b ∈ bs, R a b → S b a) :
  List.Forall₂ S bs as
  := by
  induction h with
  | nil => constructor
  | cons hab _ ih =>
      constructor
      · apply hrel _ List.mem_cons_self _ List.mem_cons_self hab
      · apply ih
        intro a ha b hb
        apply hrel a (List.mem_cons_of_mem _ ha) b (List.mem_cons_of_mem _ hb)

theorem forall₂_trans_of_mem {α β γ : Type} {R : α → β → Prop} {S : β → γ → Prop}
    {T : α → γ → Prop} {as : List α} {bs : List β} {cs : List γ} (h : List.Forall₂ R as bs)
    (h' : List.Forall₂ S bs cs) (hrel : ∀ a ∈ as, ∀ b c, R a b → S b c → T a c) :
  List.Forall₂ T as cs
  := by
  induction h generalizing cs with
  | nil =>
      cases h'
      constructor
  | cons hab _ ih =>
      cases h' with
      | cons hbc hrest =>
          constructor
          · apply hrel _ List.mem_cons_self _ _ hab hbc
          · apply ih hrest
            intro a ha
            apply hrel a (List.mem_cons_of_mem _ ha)

namespace Json

/-- What holds of the simple values, and of a list or an object as soon as it holds of everything
in it, holds of all values. -/
@[elab_as_elim]
theorem inductionOn {P : Json → Prop} (v : Json) (null : P .null) (bool : ∀ b, P (.bool b))
    (num : ∀ n, P (.num n)) (str : ∀ s, P (.str s))
    (arr : ∀ items : List Json, (∀ x ∈ items, P x) → P (.arr items))
    (obj : ∀ members : Members, (∀ m ∈ members, P m.2) → P (.obj members)) :
  P v
  := @Json.rec P (fun items => ∀ x ∈ items, P x) (fun members => ∀ m ∈ members, P m.2)
    (fun m => P m.2) null bool num str arr obj (by simp)
    (fun _ _ hx hxs => List.forall_mem_cons.mpr ⟨hx, hxs⟩) (by simp)
    (fun _ _ hm hms => List.forall_mem_cons.mpr ⟨hm, hms⟩) (fun _ _ hv => hv) v

/-! ### Definite values -/

mutual

/-- A value in which every number has a value and no object has two members of a name. -/
def Definite : Json → Prop
  | .num n => n.IsValue
  | .arr items => DefiniteItems items
  | .obj members => (members.map Prod.fst).Nodup ∧ DefiniteMembers members
  | .null | .bool _ | .str _ => True

/-- All items are definite. -/
def DefiniteItems : List Json → Prop
  | [] => True
  | x :: xs => Definite x ∧ DefiniteItems xs

/-- The values of all members are definite. -/
def DefiniteMembers : List (Text × Json) → Prop
  | [] => True
  | (_, v) :: ms => Definite v ∧ DefiniteMembers ms

end

theorem definite_arr_iff {items : List Json} :
  Definite (.arr items) ↔ ∀ x ∈ items, x.Definite
  := by
  rw [Definite]
  induction items with
  | nil => simp [DefiniteItems]
  | cons x xs ih => simp [DefiniteItems, ih]

theorem definite_obj_iff {members : Members} :
  Definite (.obj members) ↔ (members.map Prod.fst).Nodup ∧ ∀ m ∈ members, m.2.Definite
  := by
  have hvalues : DefiniteMembers members ↔ ∀ m ∈ members, m.2.Definite := by
    induction members with
    | nil => simp [DefiniteMembers]
    | cons m ms ih => simp [DefiniteMembers, ih]
  rw [Definite, hvalues]

/-! ### Texts, numbers, lists and objects -/

theorem null_same_iff {v : Json} :
  null.same v = true ↔ v = .null
  := by
  rw [← agree_same, null_agree_iff]

theorem str_same_iff {s : Text} {v : Json} :
  (str s).same v = true ↔ v = .str s
  := by
  cases v with
  | str t => rw [same, beq_iff_eq, str.injEq, eq_comm]
  | _ => simp [same]

/-- Two values of which one counts as a number are the same when both do and the numbers are. -/
theorem same_number_iff {v w : Json} (h : v.number?.isSome = true ∨ w.number?.isSome = true) :
  v.same w = true ↔ ∃ m n, v.number? = some m ∧ w.number? = some n ∧ m.same n = true
  := by
  cases v <;> cases w <;> simp_all [same, number?]

theorem same_arr_iff {xs ys : List Json} :
  same (.arr xs) (.arr ys) = true ↔ List.Forall₂ (fun x y => x.same y = true) xs ys
  := by
  rw [← agree_same, agree_arr_iff]
  simp only [agree_same]

/-- Objects without two members of a name are the same when they have the same names, and the
same values under each of them. -/
theorem same_obj_iff {xs ys : Members} (hxs : (xs.map Prod.fst).Nodup)
    (hys : (ys.map Prod.fst).Nodup) :
  same (.obj xs) (.obj ys) = true
    ↔ ∀ name, Option.Rel (fun v w => v.same w = true) (xs.get? name) (ys.get? name)
  := by
  rw [← agree_same, agree_obj_iff]
  simp only [agree_same]
  constructor
  · rintro ⟨hlength, hsame⟩ name
    have hsubset : xs.map Prod.fst ⊆ ys.map Prod.fst := by
      intro name hname
      obtain ⟨m, hm, rfl⟩ := List.mem_map.mp hname
      obtain ⟨w, hw, -⟩ := hsame m hm
      apply List.mem_map.mpr ⟨_, Members.mem_of_get? hw, rfl⟩
    cases hx : xs.get? name with
    | some v =>
        obtain ⟨w, hw, hvw⟩ := hsame _ (Members.mem_of_get? hx)
        rw [hw]
        exact .some hvw
    | none =>
        -- There are as many names on the left as on the right, so the right has no others.
        have hperm := (hxs.subperm hsubset).perm_of_length_le (by simp [hlength])
        have hy : ys.get? name = none := by
          rw [Members.get?_eq_none_iff] at hx ⊢
          rwa [← hperm.mem_iff]
        rw [hy]
        exact .none
  · intro h
    have hnames : ∀ name, name ∈ xs.map Prod.fst ↔ name ∈ ys.map Prod.fst := by
      intro name
      rw [← not_iff_not, ← Members.get?_eq_none_iff, ← Members.get?_eq_none_iff]
      have hrel := h name
      generalize xs.get? name = x, ys.get? name = y at hrel
      cases hrel <;> simp
    constructor
    · have hperm := (List.perm_ext_iff_of_nodup hxs hys).mpr hnames
      simpa using hperm.length_eq
    · intro m hm
      have hrel := h m.1
      rw [Members.get?_of_mem hxs hm] at hrel
      generalize ys.get? m.1 = found at hrel ⊢
      cases hrel with
      | some hvw => exact ⟨_, rfl, hvw⟩

/-! ### The laws of an equivalence -/

theorem Definite.same_self {v : Json} (h : v.Definite) :
  v.same v = true
  := by
  induction v using inductionOn with
  | null => rfl
  | bool b =>
      have hvalue : Number.IsValue (.int (if b then 1 else 0)) := rfl
      exact (same_number_iff (.inl rfl)).mpr ⟨_, _, rfl, rfl, Number.same_self_iff.mpr hvalue⟩
  | num n =>
      exact (same_number_iff (.inl rfl)).mpr ⟨_, _, rfl, rfl, Number.same_self_iff.mpr h⟩
  | str s => apply str_same_iff.mpr rfl
  | arr items ih =>
      apply same_arr_iff.mpr
      apply List.forall₂_same.mpr
      intro x hx
      apply ih x hx (definite_arr_iff.mp h x hx)
  | obj members ih =>
      obtain ⟨hnodup, hvalues⟩ := definite_obj_iff.mp h
      apply (same_obj_iff hnodup hnodup).mpr
      intro name
      cases hget : members.get? name with
      | none => exact .none
      | some v =>
          have hmem := Members.mem_of_get? hget
          exact .some (ih _ hmem (hvalues _ hmem))

theorem Definite.same_symm {v w : Json} (hv : v.Definite) (hw : w.Definite)
    (h : v.same w = true) :
  w.same v = true
  := by
  have hnumber {v w : Json} (hv : v.number?.isSome = true) (h : v.same w = true) :
      w.same v = true := by
    obtain ⟨m, n, hm, hn, hmn⟩ := (same_number_iff (.inl hv)).mp h
    apply (same_number_iff (.inr hv)).mpr ⟨n, m, hn, hm, Number.same_symm hmn⟩
  induction v using inductionOn generalizing w with
  | null =>
      obtain rfl := null_same_iff.mp h
      rfl
  | bool b => apply hnumber rfl h
  | num n => apply hnumber rfl h
  | str s =>
      obtain rfl := str_same_iff.mp h
      apply h
  | arr xs ih =>
      cases w with
      | arr ys =>
          apply same_arr_iff.mpr
          apply forall₂_flip_of_mem (same_arr_iff.mp h)
          intro x hx y hy
          apply ih x hx (definite_arr_iff.mp hv x hx) (definite_arr_iff.mp hw y hy)
      | _ => simp [same] at h
  | obj xs ih =>
      cases w with
      | obj ys =>
          obtain ⟨hxs, hv⟩ := definite_obj_iff.mp hv
          obtain ⟨hys, hw⟩ := definite_obj_iff.mp hw
          rw [same_obj_iff hxs hys] at h
          apply (same_obj_iff hys hxs).mpr
          intro name
          have hrel := h name
          cases hx : Members.get? name xs <;> cases hy : Members.get? name ys <;>
            rw [hx, hy] at hrel
          · exact .none
          · cases hrel
          · cases hrel
          · cases hrel with
            | some hvw =>
                have hmem := Members.mem_of_get? hx
                exact .some (ih _ hmem (hv _ hmem) (hw _ (Members.mem_of_get? hy)) hvw)
      | _ => simp [same] at h

theorem same_trans {u v w : Json} (huv : u.same v = true) (hvw : v.same w = true) :
  u.same w = true
  := by
  have hnumber {u v w : Json} (hu : u.number?.isSome = true) (huv : u.same v = true)
      (hvw : v.same w = true) : u.same w = true := by
    obtain ⟨l, m, hl, hm, hlm⟩ := (same_number_iff (.inl hu)).mp huv
    obtain ⟨m', n, hm', hn, hmn⟩ := (same_number_iff (.inl (by simp [hm]))).mp hvw
    obtain rfl := Option.some.inj (hm.symm.trans hm')
    apply (same_number_iff (.inl hu)).mpr ⟨l, n, hl, hn, Number.same_trans hlm hmn⟩
  induction u using inductionOn generalizing v w with
  | null =>
      obtain rfl := null_same_iff.mp huv
      apply hvw
  | bool b => apply hnumber rfl huv hvw
  | num n => apply hnumber rfl huv hvw
  | str s =>
      obtain rfl := str_same_iff.mp huv
      apply hvw
  | arr xs ih =>
      cases v with
      | arr ys =>
          cases w with
          | arr zs =>
              apply same_arr_iff.mpr
              apply forall₂_trans_of_mem (same_arr_iff.mp huv) (same_arr_iff.mp hvw)
              intro x hx _ _
              apply ih x hx
          | _ => simp [same] at hvw
      | _ => simp [same] at huv
  | obj xs ih =>
      cases v with
      | obj ys =>
          cases w with
          | obj zs =>
              rw [← agree_same, agree_obj_iff] at huv hvw ⊢
              obtain ⟨hlength, huv⟩ := huv
              obtain ⟨hlength', hvw⟩ := hvw
              apply And.intro (hlength.trans hlength')
              intro m hm
              obtain ⟨y, hy, hmy⟩ := huv m hm
              obtain ⟨z, hz, hyz⟩ := hvw _ (Members.mem_of_get? hy)
              rw [agree_same] at hmy hyz
              refine ⟨z, hz, ?_⟩
              rw [agree_same]
              apply ih m hm hmy hyz
          | _ => simp [same] at hvw
      | _ => simp [same] at huv

end Json

end Kanban
