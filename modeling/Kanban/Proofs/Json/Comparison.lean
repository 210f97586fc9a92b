import Kanban.Proofs.Number.Value

/-!
# Comparing values

`Json.agree` compares values as `Json.same` does, with the comparison of numbers left open.
With `Number.same` it is `Json.same` itself (`Json.agree_same`), and with `Number.alike` it is
`Json.alike`, which differs from that only in that not-a-number is alike to itself.
-/

namespace Kanban.Json

mutual

/-- Equality of values, numbers compared by `eq`. -/
def agree (eq : Number → Number → Bool) : Json → Json → Bool
  | .null, .null => true
  | .str s, .str t => s == t
  | .arr xs, .arr ys => agreeItems eq xs ys
  | .obj xs, .obj ys => xs.length == ys.length && agreeMembers eq xs ys
  | .bool b, y => (y.number?.map (eq (.int (if b then 1 else 0)))).getD false
  | .num n, y => (y.number?.map (eq n)).getD false
  | _, _ => false

/-- Equality of items, place by place. -/
def agreeItems (eq : Number → Number → Bool) : List Json → List Json → Bool
  | [], [] => true
  | x :: xs, y :: ys => agree eq x y && agreeItems eq xs ys
  | _, _ => false

/-- Every member on the left is a member on the right. -/
def agreeMembers (eq : Number → Number → Bool) :
    List (Text × Json) → List (Text × Json) → Bool
  | [], _ => true
  | (k, v) :: rest, ys =>
    (match Members.get? k ys with
      | some w => agree eq v w
      | none => false)
    && agreeMembers eq rest ys

end

/-- Equality of values, not-a-number being alike to itself. -/
def alike : Json → Json → Bool := agree Number.alike

mutual

theorem agree_same :
    ∀ v w : Json, agree Number.same v w = same v w
  | .null, w => by cases w <;> rfl
  | .bool b, w => by cases w <;> rfl
  | .num n, w => by cases w <;> rfl
  | .str s, w => by cases w <;> rfl
  | .arr xs, .arr ys => agreeItems_same xs ys
  | .obj xs, .obj ys => by rw [agree, same, agreeMembers_same xs ys]
  | .arr _, .null | .arr _, .bool _ | .arr _, .num _ | .arr _, .str _ | .arr _, .obj _ => rfl
  | .obj _, .null | .obj _, .bool _ | .obj _, .num _ | .obj _, .str _ | .obj _, .arr _ => rfl

theorem agreeItems_same :
    ∀ xs ys : List Json, agreeItems Number.same xs ys = sameItems xs ys
  | [], [] | [], _ :: _ | _ :: _, [] => rfl
  | x :: xs, y :: ys => by rw [agreeItems, sameItems, agree_same x y, agreeItems_same xs ys]

theorem agreeMembers_same :
    ∀ xs ys : List (Text × Json), agreeMembers Number.same xs ys = sameMembers xs ys
  | [], _ => rfl
  | (k, v) :: rest, ys => by
      rw [agreeMembers, sameMembers, agreeMembers_same rest ys]
      cases Members.get? k ys with
      | none => rfl
      | some w =>
          dsimp only
          rw [agree_same v w]

end

variable {eq : Number → Number → Bool}

theorem agreeItems_iff {xs ys : List Json} :
  agreeItems eq xs ys = true ↔ List.Forall₂ (fun x y => agree eq x y = true) xs ys
  := by
  induction xs generalizing ys with
  | nil => cases ys <;> simp [agreeItems]
  | cons x xs ih => cases ys <;> simp [agreeItems, ih]

theorem agreeMembers_iff {xs ys : Members} :
  agreeMembers eq xs ys = true
    ↔ ∀ m ∈ xs, ∃ w, Members.get? m.1 ys = some w ∧ agree eq m.2 w = true
  := by
  induction xs with
  | nil => simp [agreeMembers]
  | cons m xs ih =>
      obtain ⟨k, v⟩ := m
      rw [agreeMembers, Bool.and_eq_true, ih, List.forall_mem_cons]
      cases Members.get? k ys <;> simp

theorem agree_arr_iff {xs ys : List Json} :
  agree eq (.arr xs) (.arr ys) = true ↔ List.Forall₂ (fun x y => agree eq x y = true) xs ys
  := agreeItems_iff

theorem agree_obj_iff {xs ys : Members} :
  agree eq (.obj xs) (.obj ys) = true
    ↔ xs.length = ys.length
      ∧ ∀ m ∈ xs, ∃ w, Members.get? m.1 ys = some w ∧ agree eq m.2 w = true
  := by
  rw [agree, Bool.and_eq_true, beq_iff_eq, agreeMembers_iff]

@[simp]
theorem agree_null_iff {v : Json} :
  agree eq v .null = true ↔ v = .null
  := by
  cases v <;> simp [agree, number?]

@[simp]
theorem null_agree_iff {v : Json} :
  agree eq .null v = true ↔ v = .null
  := by
  cases v <;> simp [agree]

@[simp]
theorem agree_str_iff {v : Json} {s : Text} :
  agree eq v (.str s) = true ↔ v = .str s
  := by
  cases v <;> simp [agree, number?]

theorem alike_bool_iff {a b : Bool} :
  alike (.bool a) (.bool b) = true ↔ a = b
  := by
  have hunit : Double.unit ≠ 0 := by
    exact_mod_cast Number.unit_pos.ne'
  have hunit' : (0 : Int) ≠ Double.unit := Number.unit_pos.ne
  cases a <;> cases b <;> simp [alike, agree, number?, Number.place?, hunit, hunit']

end Kanban.Json
