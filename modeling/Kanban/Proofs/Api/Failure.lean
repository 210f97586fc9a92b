import Kanban.Api.Route
import Kanban.Proofs.Api.Handler
import Kanban.Proofs.Board.Report
import Kanban.Proofs.Board.Whole
import Kanban.Proofs.Keeper.Boot
import Kanban.Proofs.Keeper.Reachable
import Kanban.Proofs.Search

/-!
# Requests that cannot be served

`Breaks` lists all requests to which the reply is that of a server at fault: bodies that are no
objects, columns that are no texts, numbers that are too long, times and sums that are too large,
and boards that would have to be saved, or told of, with half of a surrogate pair on them.  Any
other request is either at fault itself or gets what it asks for (`Api.serve_status_lt_iff`),
whatever the framework is, as long as the clock shows a time and the board can be saved.
-/

namespace Kanban

namespace Board

variable {s : Stamp} {v : Json}

/-- With a time the board of a snapshot is taken over. -/
theorem exists_adopt_of_read (hs : ∀ i, (s.now.shows i).isSome = true) {c : Board}
    (h : read v = .ok c) :
  ∃ b rs, adopt s v = .ok (.ok (b, rs))
  := by
  have hentry (i : Nat) (r : Replacement) : ∃ e, replacementEntry s i r = .ok e := by
    obtain ⟨now, hnow⟩ := Option.isSome_iff_exists.mp (hs i)
    simp only [replacementEntry, Stamp.entry, Stamp.time, hnow]
    exact ⟨_, rfl⟩
  obtain ⟨entries, hentries⟩ := exists_mapM_iff.mpr fun (x : Replacement × Nat) _ =>
    hentry ((distinguish s.fresh [] 0 c.tasks).2.length + x.2) x.1
  exact ⟨_, _, adopt_eq_ok_ok_iff.mpr ⟨c, entries, h, rfl, hentries, rfl⟩⟩

/-- With a time no short snapshot is refused. -/
theorem exists_adopt (hs : ∀ i, (s.now.shows i).isSome = true) (hv : v.isShort = true) :
  ∃ c, adopt s v = .ok c
  := by
  cases hread : read v with
  | ok c =>
      obtain ⟨b, rs, h⟩ := exists_adopt_of_read hs hread
      exact ⟨_, h⟩
  | bad first more =>
      have htold : (Checked.bad (α := Board × List Replacement) first more).Told := by
        have htold := told_of_isShort hv
        rwa [hread] at htold
      obtain ⟨c, hc⟩ := Checked.exists_shown?_iff.mpr htold
      obtain rfl := Checked.eq_of_shown? hc
      simp only [adopt, intake, hread, Checked.map, hc]
      exact ⟨_, rfl⟩

end Board

namespace Api

/-- What is posted to the endpoint has to be an object. -/
def Endpoint.TakesObject : Endpoint → Prop
  | createTask | moveTask _ | setReviewMode => True
  | _ => False

/-- The search that a request asks for. -/
def Request.search (r : Request) : Text := (r.parameter? "q").getD ""

/-- The summary that a request asks for. -/
def Request.summary (r : Request) (b : Board) : Text :=
  Entry.summary b.tasks Entry.usualRecent (selected b r)

/-- Why a request to an endpoint cannot be served. -/
inductive Fails (b : Board) (now : Moment) (r : Request) : Endpoint → Prop
  /-- What is posted counts as no object. -/
  | posted {e : Endpoint} (takes : e.TakesObject) (body : r.members? = none) : Fails b now r e
  /-- There is a task to be edited, and the edit counts as no object. -/
  | edited {id : Text} (found : ∃ t, b.task? id = some t) (body : r.members? = none) :
      Fails b now r (.updateTask id)
  /-- The column of a move counts for something, and is no text. -/
  | moved {id : Text} {m : Members} (body : r.members? = some m)
      (column : columnName? (m.value "state") = none) : Fails b now r (.moveTask id)
  /-- A word of the search bounds the estimate by a number of too many digits. -/
  | searched {word : List Point} (among : word ∈ Text.words r.search.toList)
      (overlong : Search.Overlong word) : Fails b now r .searchTasks
  /-- A task would have to be compared with a time after the end of the calendar. -/
  | dated {q : Query} {t : Task} (query : Query.ofText r.search = .ok q) (task : t ∈ b.tasks)
      (outlasts : q.Outlasts now t) : Fails b now r .searchTasks
  /-- The sum of the scores is too large for a double. -/
  | scored (overflows : Number.Overflows 0 (b.tasks.filterMap Task.score)) : Fails b now r .stats
  /-- The summary has no bytes. -/
  | summarized (torn : (r.summary b).isWhole = false) : Fails b now r .summary
  /-- The board that is left has no bytes, or the task that is removed has none. -/
  | deleted {id : Text} {t : Task} (found : b.task? id = some t)
      (torn : ¬ (t.Whole ∧ Board.Whole { b with tasks := b.tasks.filter (·.id ≠ id) })) :
      Fails b now r (.deleteTask id)
  /-- The board whose review flag is to be changed has no bytes. -/
  | reviewed {m : Members} {value : Bool} (body : r.members? = some m)
      (flag : m.value "reviewMode" = .bool value) (changes : b.reviewMode ≠ value)
      (torn : ¬ b.Whole) : Fails b now r .setReviewMode
  /-- The board that is to be imported has no bytes. -/
  | imported {v : Json} {c : Board} (decoded : Keeper.decodeBytes? r.body = some v)
      (read : Board.read v = .ok c) (torn : ¬ c.Whole) : Fails b now r .importBoard

/-! ### Asking for parts of the board -/

section

variable {b : Board} {now : Moment} {r : Request}

theorem Reply.ok_status_lt {v : Json} :
  (Reply.ok v).status < 500
  := Nat.le_add_left 201 299

theorem showing_status_lt {shown : List Json} {reply : Reply}
    (hshown : ∀ v ∈ shown, v.isShort = true) (hreply : reply.status < 500) :
  (reply.showing shown).status < 500
  := by
  rwa [Reply.showing_of_isShort hshown]

theorem searchTasks_status_lt_iff (hb : Shows b) {search : Text} :
  (searchTasks b (some now) search).status < 500
    ↔ (∀ w ∈ Text.words search.toList, ¬ Search.Overlong w)
      ∧ ∀ q, Query.ofText search = .ok q → ∀ t ∈ b.tasks, ¬ q.Outlasts now t
  := by
  rw [← Query.exists_ofText_iff, searchTasks]
  cases hq : Query.ofText search with
  | error e => simp [Reply.failed, Reply.page]
  | ok q =>
      simp only [Except.ok.injEq, exists_eq', true_and, forall_eq', ← Query.exists_filterBy_iff]
      cases hfilter : q.filterBy (some now) b.tasks with
      | error e => simp [Reply.failed, Reply.page]
      | ok tasks =>
          apply iff_of_true _ ⟨_, rfl⟩
          apply showing_status_lt _ Reply.ok_status_lt
          intro v hv
          obtain ⟨t, ht, rfl⟩ := List.mem_map.mp hv
          rw [(filterM_eq_ok_iff.mp hfilter).2] at ht
          apply hb t (List.mem_of_mem_filter ht)

theorem statsReply_status_lt_iff (hb : ∀ t ∈ b.tasks, t.Valid) :
  (statsReply b).status < 500 ↔ ¬ Number.Overflows 0 (b.tasks.filterMap Task.score)
  := by
  rw [← Review.exists_ofTasks_iff hb, statsReply]
  cases Review.ofTasks b.tasks <;> simp [Reply.failed, Reply.page, Reply.ok, Reply.json]

theorem ofText_status_lt_iff {s : Text} :
  (Reply.ofText s).status < 500 ↔ s.isWhole = true
  := by
  rw [← Text.exists_encode?_iff, ← Option.isSome_iff_exists, Reply.ofText]
  split_ifs with h <;> simp [h, Reply.failed, Reply.page]

theorem not_fails_searchTasks_iff :
  ¬ Fails b now r .searchTasks
    ↔ (∀ w ∈ Text.words r.search.toList, ¬ Search.Overlong w)
      ∧ ∀ q, Query.ofText r.search = .ok q → ∀ t ∈ b.tasks, ¬ q.Outlasts now t
  := by
  constructor
  · intro hfits
    constructor
    · intro w hw hlong
      apply hfits (.searched hw hlong)
    · intro q hq t ht houtlasts
      apply hfits (.dated hq ht houtlasts)
  · rintro ⟨hwords, htasks⟩ hfails
    cases hfails with
    | posted takes => exact takes
    | searched among overlong => exact hwords _ among overlong
    | dated query task outlasts => exact htasks _ query _ task outlasts

theorem not_fails_stats_iff :
  ¬ Fails b now r .stats ↔ ¬ Number.Overflows 0 (b.tasks.filterMap Task.score)
  := by
  constructor
  · intro hfits hoverflows
    apply hfits (.scored hoverflows)
  · intro hsum hfails
    cases hfails with
    | posted takes => exact takes
    | scored overflows => exact hsum overflows

theorem not_fails_summary_iff :
  ¬ Fails b now r .summary ↔ (r.summary b).isWhole = true
  := by
  constructor
  · intro hfits
    by_contra htorn
    apply hfits (.summarized (Bool.eq_false_iff.mpr htorn))
  · intro hwhole hfails
    cases hfails with
    | posted takes => exact takes
    | summarized torn => exact absurd hwhole (Bool.eq_false_iff.mp torn)

end

variable {β : Type} [Backend β] {k : Keeper β} {ids : Nat → Text} {now : Moment} {r : Request}
  {e : Endpoint}

/-- What is asked for can be shown exactly unless the request fails. -/
theorem getting_status_lt_iff (hb : k.board.Sound) (he : e.method = .get) :
  (handle k ⟨some now, ids⟩ r e).1.status < 500 ↔ ¬ Fails k.board now r e
  := by
  have hboard := hb.legible.isShort
  have hshows : Shows k.board := fun t => Board.isShort_task hboard
  have haudit : ∀ x ∈ k.board.audit, x.toJson.isShort = true :=
    fun x hx => (hb.audit x hx).legible.isShort
  cases e with
  | searchTasks => exact (searchTasks_status_lt_iff hshows).trans not_fails_searchTasks_iff.symm
  | stats =>
      apply Iff.trans _ not_fails_stats_iff.symm
      apply statsReply_status_lt_iff fun t ht => (hb.tasks t ht).valid
  | summary => exact ofText_status_lt_iff.trans not_fails_summary_iff.symm
  | board =>
      apply iff_of_true (showing_status_lt (by simpa using hboard) Reply.ok_status_lt)
      rintro ⟨takes⟩
      exact takes
  | audit =>
      have hshown : ∀ v ∈ (selected k.board r).map Entry.toJson, v.isShort = true := by
        intro v hv
        obtain ⟨x, hx, rfl⟩ := List.mem_map.mp hv
        apply haudit x (List.mem_of_mem_filter hx)
      apply iff_of_true (showing_status_lt hshown Reply.ok_status_lt)
      rintro ⟨takes⟩
      exact takes
  | reviewMode | health =>
      apply iff_of_true Reply.ok_status_lt
      rintro ⟨takes⟩
      exact takes
  | _ => cases he

/-! ### Doing something with the board -/

/-- A request that does not fail is fit to be served. -/
theorem fits_of_not_fails (hids : ∀ i, Check.isUuid (ids i) = true) (hnow : now.Utc)
    (hb : k.board.Sound) (h : ¬ Fails k.board now r e) :
  Fits k ⟨some now, ids⟩ r e
  := by
  have hshows : Shows k.board := fun t => Board.isShort_task hb.legible.isShort
  have hutc : ∀ m ∈ some now, m.Utc := by simpa using hnow
  have hs := Keeper.proper_stamp hids hutc k.drawn
  cases e with
  | createTask => exact ⟨rfl, fun hbody => h (.posted trivial hbody)⟩
  | updateTask id =>
      refine ⟨rfl, hshows, fun hfound => ?_⟩
      by_contra hbody
      apply h (.edited hfound (Option.not_isSome_iff_eq_none.mp hbody))
  | deleteTask id =>
      apply FitsDelete.mk rfl
      intro b x hx
      obtain ⟨t, ht, -⟩ := Board.delete_eq_ok_some_iff.mp hx
      rw [Board.exists_snapshot_iff (hb.delete hs hx), Board.whole_delete_iff hs ht hx]
      by_contra htorn
      apply h (.deleted ht htorn)
  | moveTask id =>
      cases hm : r.members? with
      | none => exact absurd (.posted trivial hm) h
      | some m =>
          refine ⟨m, hm, rfl, hshows, ?_⟩
          by_contra hcolumn
          apply h (.moved hm (Option.not_isSome_iff_eq_none.mp hcolumn))
  | setReviewMode =>
      cases hm : r.members? with
      | none => exact absurd (.posted trivial hm) h
      | some m =>
          refine ⟨m, hm, ?_⟩
          intro value hvalue hchanges
          rw [Board.exists_snapshot_iff (hb.setReviewMode value)]
          by_contra htorn
          apply h (.reviewed hm hvalue hchanges fun hwhole => htorn (hwhole.setReviewMode value))
  | importBoard =>
      intro v hv
      obtain ⟨s, -, hread⟩ := Option.bind_eq_some_iff.mp hv
      have hlegible := Json.legible_of_read? hread
      apply FitsImport.mk (Board.exists_adopt (fun _ => rfl) hlegible.isShort)
      intro b rs hadopt
      obtain ⟨c, _, hc, -⟩ := Board.adopt_eq_ok_ok_iff.mp hadopt
      rw [Board.exists_snapshot_iff (Board.sound_of_adopt hlegible hs hadopt),
        Board.whole_adopt_iff hs hc hadopt]
      by_contra htorn
      apply h (.imported hv hc htorn)
  | _ => apply (getting_status_lt_iff hb rfl).mpr h

/-- A request that fails is answered as one. -/
theorem status_of_fails (hids : ∀ i, Check.isUuid (ids i) = true) (hnow : now.Utc)
    (hb : k.board.Sound) (h : Fails k.board now r e) :
  ¬ (handle k ⟨some now, ids⟩ r e).1.status < 500
  := by
  have hutc : ∀ m ∈ some now, m.Utc := by simpa using hnow
  have hs := Keeper.proper_stamp hids hutc k.drawn
  have hfailed {reply : Reply} (h : reply = .failed) : ¬ reply.status < 500 := by
    rw [h]
    decide
  cases h with
  | posted takes body =>
      apply hfailed
      cases e with
      | createTask | moveTask | setReviewMode => simp only [handle, withMembers, body]
      | _ => exact absurd takes id
  | edited found body =>
      obtain ⟨t, ht⟩ := found
      apply hfailed
      simp only [handle, body, updateTask, ht]
  | moved body column =>
      apply hfailed
      simp only [handle, withMembers, body, moveTask, column]
  | searched among overlong =>
      exact (getting_status_lt_iff hb rfl).not.mpr (not_not_intro (.searched among overlong))
  | dated query task outlasts =>
      exact (getting_status_lt_iff hb rfl).not.mpr (not_not_intro (.dated query task outlasts))
  | scored overflows =>
      exact (getting_status_lt_iff hb rfl).not.mpr (not_not_intro (.scored overflows))
  | summarized torn =>
      exact (getting_status_lt_iff hb rfl).not.mpr (not_not_intro (.summarized torn))
  | @deleted id t found torn =>
      obtain ⟨b, x, hx⟩ :=
        exists_delete_of_found (s := Source.stamp ⟨some now, ids⟩ k.drawn) rfl found
      rw [← Board.whole_delete_iff hs found hx] at torn
      obtain ⟨e, he⟩ := Board.exists_unwritten (hb.delete hs hx) torn
      apply hfailed
      simp only [handle, deleteTask, Keeper.delete, hx, Keeper.commitEntry,
        Keeper.commit_of_unwritten _ _ he]
  | @reviewed m value body flag changes torn =>
      obtain ⟨e, he⟩ := Board.exists_unwritten (hb.setReviewMode value) fun h =>
        torn ⟨h.tasks, h.audit⟩
      apply hfailed
      simp only [handle, withMembers, body, setReviewMode, flag, Keeper.setReviewMode, changes,
        if_false, Keeper.commit_of_unwritten _ _ he]
  | @imported v c decoded read torn =>
      obtain ⟨s, -, hread⟩ := Option.bind_eq_some_iff.mp decoded
      obtain ⟨b, rs, hadopt⟩ := Board.exists_adopt_of_read
        (s := Source.stamp ⟨some now, ids⟩ k.drawn) (fun _ => rfl) read
      rw [← Board.whole_adopt_iff hs read hadopt] at torn
      obtain ⟨e, he⟩ := Board.exists_unwritten
        (Board.sound_of_adopt (Json.legible_of_read? hread) hs hadopt) torn
      apply hfailed
      simp only [handle, importBoard, Keeper.importBytes, decoded, Keeper.importDecoded,
        Keeper.importValue, hadopt, Keeper.commit_of_unwritten _ _ he]

/-! ### Serving -/

variable {ρ : Type} {F : Framework ρ}

/-- The request leads to an endpoint where it cannot be served. -/
def Breaks (F : Framework ρ) (b : Board) (now : Moment) (x : ρ) : Prop :=
  ∃ e r, F.dispatch x = .call e r ∧ Fails b now r e

theorem serve_of_call (k : Keeper β) (src : Source) {x : ρ}
    (h : F.dispatch x = .call e r) :
  (serve F k src x).1.status = (handle k src r e).1.status
    ∧ (serve F k src x).2 = (handle k src r e).2
  := by
  rw [serve, h]
  dsimp only
  split_ifs <;> exact ⟨rfl, rfl⟩

/-- The reply to a request is that of a server at fault exactly if the request breaks: whatever it
asks for and whatever has become of the board, as long as the board can be saved. -/
theorem serve_status_lt_iff (hF : F.Documented) (hids : ∀ i, Check.isUuid (ids i) = true)
    (hk : Keeper.Reachable ids k) (hsave : Backend.Writable k.backend) (hnow : now.Utc) (x : ρ) :
  (serve F k ⟨some now, ids⟩ x).1.status < 500 ↔ ¬ Breaks F k.board now x
  := by
  have hb := hk.sound hids
  cases hx : F.dispatch x with
  | page status =>
      have hserve : serve F k ⟨some now, ids⟩ x = (.page status, k) := by
        rw [serve, hx]
      rw [hserve]
      apply iff_of_true (hF.page x status hx)
      rintro ⟨e, r, hcall, -⟩
      cases hx.symm.trans hcall
  | call e r =>
      rw [(serve_of_call _ _ hx).1]
      constructor
      · rintro hlt ⟨e', r', hcall, hfails⟩
        cases hx.symm.trans hcall
        apply status_of_fails hids hnow hb hfails hlt
      · intro hfits
        have hfit : Fits k ⟨some now, ids⟩ r e :=
          fits_of_not_fails hids hnow hb fun hfails => hfits ⟨e, r, hx, hfails⟩
        rcases settles_handle hsave ⟨some now, ids⟩ r e with herrs | hsucceeds
        · apply herrs.fault hfit
        · apply hsucceeds.status.trans
          decide

/-- What is asked for at a route is asked for by its method. -/
theorem method_of_endpoint? {route : Route} {m : Method} (h : route.endpoint? m = some e) :
  m = e.method ∨ m = .head ∧ e.method = .get
  := by
  cases route <;> cases m <;> cases h <;> first | exact .inl rfl | exact .inr ⟨rfl, rfl⟩

theorem documented_usual :
  Framework.usual.Documented
  := by
  have hcall {x : Message} {e : Endpoint} {r : Request}
      (h : Framework.usual.dispatch x = .call e r) :
      r = x.request ∧ ∃ route : Route, route.endpoint? x.method = some e := by
    unfold Framework.usual at h
    dsimp only at h
    split at h
    next route _ =>
      split at h
      next e' he' =>
        cases h
        exact ⟨rfl, route, he'⟩
      · cases h
    · cases h
    · cases h
    · cases h
  constructor
  · intro x e r h
    obtain ⟨-, route, hroute⟩ := hcall h
    apply method_of_endpoint? hroute
  · intro x status h
    unfold Framework.usual at h
    dsimp only at h
    split at h
    · split at h
      · cases h
      · cases h
        cases x.method <;> decide
    · cases h
      decide
    · cases h
      decide
    · cases h
      decide
  · intro x e r h
    obtain ⟨rfl, -⟩ := hcall h
    cases hread : (Text.decodeAny? x.body).bind Json.read? with
    | none =>
        left
        simp only [Message.request, hread, Option.getD_none]
    | some v =>
        right
        obtain ⟨s, -, hs⟩ := Option.bind_eq_some_iff.mp hread
        use s
        simp only [Message.request, hread, Option.getD_some, hs]

/-- A request to create a task, with a body. -/
def creating (body : String) : Message where
  path := "/api/tasks"
  query := []
  method := .post
  body := body.toUTF8

/-- A keeper in memory of the empty board. -/
def idle : Keeper Memory := ⟨⟨.empty, 0⟩, .empty⟩

/-- A request to create a task from nothing is at fault itself. -/
theorem serve_status_lt_creating :
  (serve .usual idle ⟨some Keeper.january, Uuid.supply 0⟩ (creating "\x7b\x7d")).1.status < 500
  := by
  have hbody : ((creating "\x7b\x7d").request.members?).isSome = true := by decide +kernel
  apply (serve_status_lt_iff documented_usual (Uuid.isUuid_supply 0) (.empty _)
    (fun _ => ⟨_, rfl⟩) (Keeper.utc_january _ rfl) _).mpr
  rintro ⟨e, r, hcall, hfails⟩
  obtain ⟨rfl, rfl⟩ : e = .createTask ∧ r = (creating "\x7b\x7d").request := by
    have htasks : Framework.usual.dispatch (creating "\x7b\x7d")
        = .call .createTask (creating "\x7b\x7d").request := rfl
    cases htasks.symm.trans hcall
    exact ⟨rfl, rfl⟩
  obtain ⟨-, hnone⟩ := hfails
  rw [hnone] at hbody
  cases hbody

/-- A request to create a task from a list is one that breaks. -/
theorem not_serve_status_lt_list :
  Keeper.Reachable (Uuid.supply 0) idle ∧ Backend.Writable idle.backend
    ∧ ¬ (serve .usual idle ⟨some Keeper.january, Uuid.supply 0⟩ (creating "[1]")).1.status < 500
  := by
  refine ⟨.empty _, fun _ => ⟨_, rfl⟩, ?_⟩
  decide +kernel

end Api

end Kanban
