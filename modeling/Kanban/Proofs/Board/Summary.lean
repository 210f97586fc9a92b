import Kanban.Board.Report
import Kanban.Proofs.Board.Normal
import Kanban.Proofs.Text.Words
import Kanban.Text.Pieces

/-!
# Lines of a summary

A text is cut into lines at its line feeds.  The summary of a log is a text of its own lines, and
each line about an entry is one line of the text as long as the texts it shows have no line feed
(`Board.lines_summary`).  A title may well have one.
-/

namespace Kanban

/-! ### Lines -/

namespace Text

/-- The texts between the line feeds of a text. -/
def lines (s : Text) : List Text := (pieces (· == .char '\n') s.toList).map Text.ofList

variable {s : Text} {ss : List Text}

theorem lines_of_not_mem (h : Point.char '\n' ∉ s.toList) :
  lines s = [s]
  := by
  rw [lines, pieces_of_forall_not]
  · simp
  · intro c hc
    apply beq_false_of_ne
    rintro rfl
    exact h hc

theorem lines_append_newline (s t : Text) :
  lines (s ++ "\n" ++ t) = lines s ++ lines t
  := by
  have htext : (s ++ "\n" ++ t).toList = s.toList ++ Point.char '\n' :: t.toList := by
    simp [Text.toList_ofString]
  rw [lines, htext, pieces_append_cons _ _ _ (by decide), List.map_append]
  rfl

/-- The lines of texts with line feeds between them are the lines of the texts. -/
theorem lines_intercalate (hne : ss ≠ []) :
  lines (("\n" : Text).intercalate ss) = ss.flatMap lines
  := by
  induction ss with
  | nil => exact absurd rfl hne
  | cons s ss ih =>
      by_cases hnil : ss = []
      · rw [hnil, Text.intercalate_singleton, List.flatMap_singleton]
      · rw [Text.intercalate_cons_of_ne_nil hnil, lines_append_newline, ih hnil,
          List.flatMap_cons]

theorem lines_ne_nil (s : Text) :
  lines s ≠ []
  := by
  rw [lines, ne_eq, List.map_eq_nil_iff]
  apply pieces_ne_nil

/-- A text of one line has no line feed. -/
theorem length_lines_eq_one_iff :
  (lines s).length = 1 ↔ Point.char '\n' ∉ s.toList
  := by
  constructor
  · intro h hmem
    obtain ⟨l, r, hs⟩ := List.append_of_mem hmem
    have hpieces := pieces_append_cons (· == .char '\n') l r (beq_self_eq_true _)
    have hl := List.length_pos_iff.mpr (pieces_ne_nil (· == .char '\n') l)
    have hr := List.length_pos_iff.mpr (pieces_ne_nil (· == .char '\n') r)
    rw [lines, hs, hpieces, List.length_map, List.length_append] at h
    omega
  · intro h
    rw [lines_of_not_mem h, List.length_singleton]

theorem flatMap_lines_of_not_mem (h : ∀ s ∈ ss, Point.char '\n' ∉ s.toList) :
  ss.flatMap lines = ss
  := by
  rw [List.flatMap_congr fun s hs => lines_of_not_mem (h s hs)]
  simp

/-- Texts have at least as many lines as there are texts, and no more exactly if none has a line
feed. -/
theorem length_flatMap_lines (ss : List Text) :
  ss.length ≤ (ss.flatMap lines).length
    ∧ ((ss.flatMap lines).length = ss.length ↔ ∀ s ∈ ss, Point.char '\n' ∉ s.toList)
  := by
  induction ss with
  | nil => simp
  | cons s ss ih =>
      obtain ⟨hle, hiff⟩ := ih
      have hpos := List.length_pos_iff.mpr (lines_ne_nil s)
      rw [List.flatMap_cons, List.length_append, List.length_cons, List.forall_mem_cons, ← hiff,
        ← length_lines_eq_one_iff]
      omega

theorem newline_not_mem_intercalate {sep : Text} (hsep : Point.char '\n' ∉ sep.toList)
    (h : ∀ s ∈ ss, Point.char '\n' ∉ s.toList) :
  Point.char '\n' ∉ (sep.intercalate ss).toList
  := by
  induction ss with
  | nil => simp [Text.toList_ofString]
  | cons s ss ih =>
      obtain ⟨hs, hss⟩ := List.forall_mem_cons.mp h
      by_cases hnil : ss = []
      · rwa [hnil, Text.intercalate_singleton]
      · rw [Text.intercalate_cons_of_ne_nil hnil]
        simp only [Text.toList_append, List.mem_append, not_or]
        exact ⟨⟨hs, hsep⟩, ih hss⟩

theorem newline_not_mem_toString (n : ℕ) :
  Point.char '\n' ∉ (ofString (toString n)).toList
  := by
  have hdigits : (toString n).toList = Nat.toDigits 10 n := String.toList_ofList
  rw [toList_ofString, hdigits]
  intro h
  obtain ⟨c, hc, hnewline⟩ := List.mem_map.mp h
  obtain rfl := Point.char.inj hnewline
  exact absurd (Nat.isDigit_of_mem_toDigits (by decide) (by decide) hc) (by decide)

end Text

/-! ### Counts -/

namespace Entry

variable {tasks : List Task} {entries : List Entry} {e : Entry}

theorem newline_not_mem_name (a : Action) :
  Point.char '\n' ∉ a.name.toList
  := by
  cases a <;> decide

/-- Asked for an action, a log gives the entries that are counted. -/
theorem length_select_name (a : Action) (entries : List Entry) :
  (select (some a.name) none entries).length = count a entries
  := by
  have hasked : a.name ≠ "" ∧ a.name ≠ "all" := by
    cases a <;> decide
  have hmentions (e : Entry) : e.mentions none = true := by
    rw [mentions, Text.occursIn_iff]
    apply List.nil_infix
  have hsame (e : Entry) : e.action.name = a.name ↔ e.action = a := by
    constructor
    · intro h
      have hname := Action.ofName?_name e.action
      rw [h, Action.ofName?_name] at hname
      exact (Option.some.inj hname).symm
    · exact congrArg _
  rw [select, count, List.countP_eq_length_filter]
  congr 1
  apply List.filter_congr
  intro e _
  rw [hasAction, hmentions, Bool.and_true, Bool.eq_iff_iff, beq_iff_eq, ← hsame]
  simp [hasked]

/-- Every entry is about one of the actions. -/
theorem sum_count (entries : List Entry) :
  (Action.all.map fun a => count a entries).sum = entries.length
  := by
  induction entries with
  | nil => rfl
  | cons e entries ih =>
      simp only [Action.all, List.map_cons, List.map_nil, List.sum_cons, List.sum_nil, count,
        List.countP_cons, List.length_cons] at ih ⊢
      cases e.action <;> simp <;> omega

theorem newline_not_mem_countLine (entries : List Entry) :
  Point.char '\n' ∉ (countLine entries).toList
  := by
  have hcount (a : Action) :
      Point.char '\n' ∉ (a.name ++ ": " ++ toString (count a entries) : Text).toList := by
    simp only [Text.toList_append, List.mem_append, not_or]
    exact ⟨⟨newline_not_mem_name a, by decide⟩, Text.newline_not_mem_toString _⟩
  apply Text.newline_not_mem_intercalate (by decide)
  intro s hs
  obtain ⟨a, -, rfl⟩ := List.mem_map.mp hs
  apply hcount

/-! ### The summary -/

/-- None of the texts that the line about an entry shows has a line feed. -/
def OneLine (tasks : List Task) (e : Entry) : Prop :=
  ∀ s ∈ [e.timestamp, e.taskId, titleOf tasks e.taskId], Point.char '\n' ∉ s.toList

theorem newline_not_mem_line_iff :
  Point.char '\n' ∉ (line tasks e).toList ↔ e.OneLine tasks
  := by
  change Point.char '\n' ∉ (e.timestamp ++ " - " ++ e.action.name ++ " - " ++ e.taskId ++ " - "
    ++ titleOf tasks e.taskId).toList ↔ _
  simp [OneLine, newline_not_mem_name, Text.toList_ofString]

theorem firsts_natCast (n : ℕ) (entries : List Entry) :
  firsts n entries = entries.take n
  := by
  rw [firsts, if_pos n.cast_nonneg, Int.toNat_natCast]

/-- The lines of a summary: four lines, and those of the texts about the entries it shows. -/
theorem lines_summary_eq (tasks : List Task) (recent : ℕ) (entries : List Entry) :
  Text.lines (summary tasks recent entries)
    = (["Resumen de auditoría", "Total eventos: " ++ toString entries.length, countLine entries,
        "Últimos eventos:"] : List Text)
      ++ ((entries.take recent).map (line tasks)).flatMap Text.lines
  := by
  have hhead : ∀ s ∈ (["Resumen de auditoría", "Total eventos: " ++ toString entries.length,
      countLine entries, "Últimos eventos:"] : List Text), Point.char '\n' ∉ s.toList := by
    have htotal :
        Point.char '\n' ∉ ("Total eventos: " ++ toString entries.length : Text).toList := by
      simp only [Text.toList_append, List.mem_append, not_or]
      exact ⟨by decide, Text.newline_not_mem_toString _⟩
    simp only [List.forall_mem_cons]
    exact ⟨by decide, htotal, newline_not_mem_countLine entries, by decide, by simp⟩
  rw [summary, Text.lines_intercalate (by simp [summaryLines]), summaryLines, firsts_natCast,
    List.flatMap_append]
  congr 1
  rw [Text.flatMap_lines_of_not_mem hhead]

theorem forall_oneLine_iff :
  (∀ e ∈ entries, e.OneLine tasks) ↔ ∀ s ∈ entries.map (line tasks), Point.char '\n' ∉ s.toList
  := by
  simp only [List.forall_mem_map, newline_not_mem_line_iff]

/-- There is one line for each entry that is shown exactly when none of them shows a line feed. -/
theorem length_lines_summary (tasks : List Task) (recent : ℕ) (entries : List Entry) :
  (Text.lines (summary tasks recent entries)).length = 4 + min recent entries.length
    ↔ ∀ e ∈ entries.take recent, e.OneLine tasks
  := by
  have hiff := (Text.length_flatMap_lines ((entries.take recent).map (line tasks))).2
  rw [List.length_map, List.length_take] at hiff
  rw [forall_oneLine_iff, ← hiff, lines_summary_eq, List.length_append]
  simp only [List.length_cons, List.length_nil]
  omega

end Entry

namespace Board

open Entry

/-- A summary of the entries about an action and a task starts with the number of entries and the
numbers of those about each action, which add up to it.  Then come the lines of the texts about the
entries it shows, and these are one line each exactly when no text they show has a line feed. -/
theorem lines_summary (b : Board) (action task : Option Text) (recent : ℕ) :
  let selected := select action task b.audit
  let shown := selected.take recent
  let lines := Text.lines (summary b.tasks recent selected)
  let number (a : Action) := (select (some a.name) none selected).length
  lines = (["Resumen de auditoría", "Total eventos: " ++ toString selected.length,
      Text.intercalate " | " (Action.all.map fun a => a.name ++ ": " ++ toString (number a)),
      "Últimos eventos:"] : List Text)
    ++ (shown.map (line b.tasks)).flatMap Text.lines
  ∧ (Action.all.map number).sum = selected.length
  ∧ (lines.length = 4 + min recent selected.length ↔ ∀ e ∈ shown, e.OneLine b.tasks)
  ∧ ((∀ e ∈ shown, e.OneLine b.tasks) → lines.drop 4 = shown.map (line b.tasks))
  := by
  intro selected shown lines number
  have hnumber : number = fun a => count a selected :=
    funext fun a => length_select_name a selected
  have hlines : lines = _ := lines_summary_eq b.tasks recent selected
  refine ⟨?_, ?_, length_lines_summary b.tasks recent selected, ?_⟩
  · rw [hnumber]
    apply hlines
  · rw [hnumber]
    apply sum_count
  · intro h
    rw [hlines, Text.flatMap_lines_of_not_mem (forall_oneLine_iff.mp h)]
    rfl

/-- A board with a task whose title has two lines, and an entry about it. -/
def torn : Board where
  tasks := pruned.tasks.map fun t => { t with title := "Prune\nand sow" }
  audit := [⟨"aaaaaaaa-bbbb-4ccc-8ddd-ffffffffffff", "2024-03-01T00:00:00Z", .create,
    "aaaaaaaa-bbbb-4ccc-8ddd-eeeeeeeeeeee", []⟩]
  reviewMode := false

theorem read_torn :
  read torn.toJson = .ok torn
  := by
  apply read_toJson_of_valid
  · intro t ht
    obtain ⟨u, hu, rfl⟩ := List.mem_map.mp ht
    obtain ⟨hid, -, hestimate, hcreated, hdue, hscore⟩ := valid_pruned u hu
    have htitle : Check.leastTitle ≤ ("Prune\nand sow" : Text).length := by decide
    exact ⟨hid, htitle, hestimate, hcreated, hdue, hscore⟩
  · intro e he
    obtain rfl := List.mem_singleton.mp he
    exact ⟨by decide, readable_pruned⟩

/-- The summary of an accepted board has two lines about one entry. -/
theorem not_lines_torn :
  ¬ ∀ (v : Json) (b : Board) (action task : Option Text) (recent : ℕ), read v = .ok b →
    (Text.lines (summary b.tasks recent (select action task b.audit))).length
      = 4 + min recent (select action task b.audit).length
  := by
  intro h
  have hone := (length_lines_summary _ _ _).mp (h torn.toJson torn none none 5 read_torn)
  have hshown : (select none none torn.audit).take 5 = torn.audit := rfl
  rw [hshown] at hone
  have hentry := hone _ (List.mem_singleton_self _)
  rw [OneLine, List.forall_mem_cons, List.forall_mem_cons, List.forall_mem_cons] at hentry
  obtain ⟨-, -, htitle, -⟩ := hentry
  exact htitle (by decide)

end Board

end Kanban
