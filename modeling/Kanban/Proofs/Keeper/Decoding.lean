import Kanban.Proofs.Keeper.Boot
import Kanban.Proofs.Keeper.Contents

/-!
# Texts of boards are read back

The decoder with which a keeper reads what is imported or loaded gives back the written form of a
board from its text, whatever the indent, and from the bytes of this text; there are such bytes
if the board is whole.  This holds for every legible board, and all boards are legible that are
read from legible values or kept by a keeper in the course of any run with legible values
(`Keeper.decode_text`).
-/

namespace Kanban

/-- The snapshot of an operation with legible values is legible. -/
theorem Operation.legible_of_snapshot? {o : Operation} (ho : o.Legible) {v : Json}
    (hv : v ∈ o.snapshot?) :
  v.Legible
  := by
  cases o with
  | importValue snapshot =>
      obtain rfl := Option.some.inj hv
      apply ho
  | importText text => apply Json.legible_of_read? hv
  | importBytes bytes => apply Board.legible_of_decodeBytes? hv
  | _ => cases hv

namespace Board

variable {b : Board}

/-- The tasks fit, with legible estimates, and the entries are legible. -/
structure Clear (b : Board) : Prop where
  fits : b.Fits Number.Legible
  audit : ∀ e ∈ b.audit, e.toJson.Legible

theorem Sound.clear (h : b.Sound) :
  b.Clear
  := by
  constructor
  · intro t ht
    obtain ⟨hvalid, hlegible⟩ := h.tasks t ht
    apply Task.Fits.of_valid hvalid ((Task.legible_toJson_iff hvalid).mp hlegible)
  · intro e he
    apply (h.audit e he).legible

theorem Clear.legible (h : b.Clear) :
  b.toJson.Legible
  := legible_toJson_iff.mpr ⟨fun t ht => (h.fits t ht).toJson_legible, h.audit⟩

end Board

/-- Every operation with legible values leaves the board clear. -/
theorem Operation.clear_of_effect {o : Operation} {b b' : Board} {s : Stamp} {n : Nat} {a : Answer}
    (hb : b.Clear) (ho : o.Legible) (h : o.effect b s = .ok (.change n b' a)) :
  b'.Clear
  := by
  have hread {v : Json} {c : Board} (hv : v ∈ o.snapshot?) (hc : Board.read v = .ok c) : c.Clear :=
    (Board.sound_of_read hc (legible_of_snapshot? ho hv)).clear
  have hoffers : o.Offers Number.Legible := by
    cases o with
    | create d =>
        intro n hn
        rwa [Legible, hn] at ho
    | update id e =>
        intro n hn
        rwa [Legible, hn] at ho
    | _ =>
        intro v hv c hc t ht
        apply ((hread hv hc).fits t ht).allowed
  by_cases hcommand : o.IsCommand
  · obtain ⟨hfits, es, haudit, hes⟩ := fits_of_command hcommand hb.fits hoffers h
    refine ⟨hfits, ?_⟩
    rw [haudit]
    apply List.forall_mem_append.mpr ⟨fun e he => (hes e he).legible, hb.audit⟩
  · obtain ⟨hfits, v, hv, c, es, hc, haudit, hes⟩ := fits_of_import hcommand hoffers h
    refine ⟨hfits, ?_⟩
    rw [haudit]
    apply List.forall_mem_append.mpr ⟨fun e he => (hes e he).legible, (hread hv hc).audit⟩

namespace Keeper

variable {β : Type} [Backend β] {ids : Nat → Text} {k : Keeper β} {b : Board}

theorem clear_step (hk : k.board.Clear) {s : Step} (hs : s.operation.Legible) :
  (k.step ids s).2.board.Clear
  := by
  apply board_step hk
  intro n b a heffect
  apply Operation.clear_of_effect hk hs heffect

theorem clear_run (hk : k.board.Clear) {steps : List Step}
    (hsteps : ∀ s ∈ steps, s.operation.Legible) :
  (k.run ids steps).board.Clear
  := by
  induction steps generalizing k with
  | nil => apply hk
  | cons s steps ih =>
      obtain ⟨hs, hsteps⟩ := List.forall_mem_cons.mp hsteps
      apply ih (clear_step hk hs) hsteps

/-- The board of a keeper that was opened is clear: it was read from bytes, it is a sample board,
or it is empty. -/
theorem Opened.clear (h : Opened ids k) :
  k.board.Clear
  := by
  have hread {content : Option ByteArray} {b : Board}
      (hb : content.bind boardOfBytes? = some b) : b.Clear := by
    obtain ⟨bytes, -, hbytes⟩ := Option.bind_eq_some_iff.mp hb
    apply (Board.sound_of_boardOfBytes? hbytes).clear
  cases h with
  | started start =>
      obtain ⟨content, hcontent⟩ := load_of_start start
      have hopens := opens_of_start hcontent start
      constructor
      · apply hopens.fits fun b hb => (hread hb).fits
        intro x hx
        apply Number.legible_of_small (Board.samples_spec x hx).2.2
      · rcases hopens.audit with haudit | ⟨b, hb, haudit⟩
        · simp [haudit]
        · rw [haudit]
          apply (hread hb).audit
  | empty w => exact Board.sound_empty.clear

/-! ### Decoding -/

variable {indent : Option Nat} {t : Text} {bytes : ByteArray}

theorem decodeText?_text (hb : b.toJson.Legible) (ht : b.text? indent = some t) :
  decodeText? t = some b.toJson
  := Json.read?_write? hb ht

theorem decodeBytes?_text (hb : b.toJson.Legible) (ht : b.text? indent = some t)
    (hbytes : t.encode? = some bytes) :
  decodeBytes? bytes = some b.toJson
  := by
  obtain ⟨s, rfl, hs⟩ := Json.exists_decodeUtf8?_of_encode? hbytes
  rw [decodeBytes?, hs]
  apply decodeText?_text hb ht

/-- A board that was read from a legible value, or one that is kept by an opened keeper after some
steps with legible values. -/
inductive Produced (β : Type) [Backend β] (ids : Nat → Text) : Board → Prop
  | read {v : Json} {b : Board} (legible : v.Legible) (read : Board.read v = .ok b) :
      Produced β ids b
  | kept {k : Keeper β} {steps : List Step} (opened : Opened ids k)
      (legible : ∀ s ∈ steps, s.operation.Legible) : Produced β ids (k.run ids steps).board

/-- The board has a text with any indent, from which the written form of the board is read back,
and so it is from the bytes of this text, which has some if the board is whole. -/
theorem decode_text (h : Produced β ids b) (indent : Option Nat) :
  ∃ t, b.text? indent = some t ∧ decodeText? t = some b.toJson
    ∧ (∀ bytes, t.encode? = some bytes → decodeBytes? bytes = some b.toJson)
    ∧ (b.Whole → ∃ bytes, t.encode? = some bytes)
  := by
  have hb : b.toJson.Legible := by
    cases h with
    | read legible read => apply (Board.sound_of_read read legible).legible
    | kept opened legible => apply (clear_run opened.clear legible).legible
  have ht := Json.write?_of_legible indent hb
  refine ⟨_, ht, decodeText?_text hb ht, fun bytes => decodeBytes?_text hb ht, ?_⟩
  intro hwhole
  obtain ⟨t, bytes, ht', hbytes⟩ := (Board.exists_encode?_text?_iff hb indent).mpr hwhole
  obtain rfl := Option.some.inj (ht.symm.trans ht')
  exact ⟨bytes, hbytes⟩

/-- Numbers of both kinds and a text with characters to be escaped, nested. -/
def mixture : Json :=
  .arr [.int 0, .num (.float (Double.zero true)), .num (.float .nan), .obj [("\n", .str "\"\\á")]]

/-- A mixture that was noted is read back, also from bytes. -/
theorem decode_text_mixture :
  ∃ t bytes, (noting mixture .null).text? (some 2) = some t ∧ t.encode? = some bytes
    ∧ decodeText? t = some (noting mixture .null).toJson
    ∧ decodeBytes? bytes = some (noting mixture .null).toJson
  := by
  have hzero : Number.Legible (.int 0) := Number.legible_of_small (by decide)
  have hlegible : mixture.Legible := by
    simp only [mixture, Json.int, Json.Legible, Json.LegibleItems, Json.LegibleMembers]
    exact ⟨hzero, trivial, trivial, ⟨by simp, trivial, trivial⟩, trivial⟩
  have hsound : (noting mixture .null).Sound := sound_noting hlegible trivial
  have hread : Board.read (noting mixture .null).toJson = .ok (noting mixture .null) := by
    rw [Board.read_toJson hsound, (isSettled_noting _ _).eq]
  obtain ⟨t, ht, htext, hbytes, hwhole⟩ :=
    decode_text (.read hsound.legible hread : Produced Memory (Uuid.supply 0) _) (some 2)
  obtain ⟨bytes, hencode⟩ := hwhole (whole_noting (by decide) rfl)
  exact ⟨t, bytes, ht, hencode, htext, hbytes bytes hencode⟩

end Keeper

end Kanban
