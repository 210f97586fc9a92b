import Kanban.Proofs.Except
import Kanban.Proofs.Json.RoundTrip
import Kanban.Settings
import Kanban.Yaml.Reader

/-!
# Settings files that are wrong

A settings file that is wrong is answered with a complaint: its text is malformed, its value is no
mapping, or no kind of storage has the name that is given.  A path that is no text is not
complained about, and neither are a value that counts for nothing and a name of a storage in which
an integer is too long to be shown.  So a file is answered as it should be exactly when it is in
order (`Settings.answers_inTree_iff`).  This does not depend on what reads YAML, as long as it
refuses no texts but malformed ones (`Settings.Documented`).
-/

namespace Kanban

/-! ### Complaints -/

/-- The refusals which say that the settings are wrong. -/
def SettingsError.isComplaint : SettingsError → Bool
  | .noValue .malformed => true
  | .notMapping => true
  | .unknownStorage _ => true
  | _ => false

theorem StorageKind.ofValue?_eq_some_iff {v : Yaml.Value} {k : StorageKind} :
  ofValue? v = some k ↔ v = .str k.name
  := by
  constructor
  · intro h
    cases v with
    | str s =>
        have hname := List.find?_some (by exact h)
        rw [beq_iff_eq.mp hname]
    | _ => cases h
  · rintro rfl
    apply ofValue?_name

namespace Yaml.Value

/-- The value is a mapping. -/
def IsMapping (v : Value) : Prop := ∃ members, v = .map members

/-- The values other than `null` and mappings that are taken for none. -/
inductive Naught : Value → Prop
  | no : Naught (.bool false)
  | zero {n : Number} (zero : n.isZero = true) : Naught (.num n)
  | noText : Naught (.str "")
  | noBytes : Naught (.bytes [])
  | noItems : Naught (.list [])
  | noMembers : Naught (.set [])

theorem naught_iff {v : Value} :
  v.Naught
    ↔ v = .bool false ∨ (∃ n, v = .num n ∧ n.isZero = true) ∨ v = .str "" ∨ v = .bytes []
      ∨ v = .list [] ∨ v = .set []
  := by
  constructor
  · rintro (_ | hzero) <;> simp_all
  · rintro (rfl | ⟨n, rfl, hzero⟩ | rfl | rfl | rfl | rfl)
    · exact .no
    · exact .zero hzero
    · exact .noText
    · exact .noBytes
    · exact .noItems
    · exact .noMembers

/-- Beside the mappings the values that count for nothing are `null` and naught. -/
theorem truthy_iff {v : Value} (h : ¬ v.IsMapping) :
  v.truthy = true ↔ v ≠ .null ∧ ¬ v.Naught
  := by
  cases v with
  | map members => exact absurd ⟨members, rfl⟩ h
  | bool b => cases b <;> simp [truthy, naught_iff]
  | _ => simp [truthy, naught_iff]

/-- A value is shown in a message unless an integer in it is too long. -/
theorem isSome_plain?_iff {v : Value} :
  v.plain?.isSome = true ↔ v.isShort = true
  := by
  cases v with
  | str s => simp [plain?, isShort]
  | date d => simp [plain?, isShort]
  | moment m => simp [plain?, isShort]
  | _ =>
      rw [plain?]
      split_ifs with hshort
      · simp [hshort]
      · simp [hshort]
      all_goals simp

end Yaml.Value

namespace Settings

variable {homes : Homes} {m : Entries} {name : Text}

/-! ### Paths -/

/-- The settings that are paths. -/
def pathNames : List Text := ["state_path", "db_path"]

/-- If the path starts in a home folder, then in that of somebody known. -/
def Known (homes : Homes) (s : Text) : Prop :=
  rootOf s.toList = "" → ∀ first ∈ (partsOf s.toList).head?,
    first.head? = some (.char '~') → (home? homes first).isSome = true

/-- What is set under a name, if anything is, is a text that leads from a folder which is known. -/
def Leads (homes : Homes) (m : Entries) (name : Text) : Prop :=
  ∀ v ∈ m.lookup name, ∃ s, v = .str s ∧ Known homes s

theorem expand_cases (homes : Homes) (s : Text) :
  Known homes s ∧ (∃ p, expand homes s = .ok p)
    ∨ ¬ Known homes s ∧ expand homes s = .error .unknownHome
  := by
  rw [expand, Known]
  cases partsOf s.toList with
  | nil => simp
  | cons first rest =>
      simp only [List.head?_cons, Option.mem_some_iff, forall_eq']
      by_cases hfolder : rootOf s.toList = "" ∧ first.head? = some (.char '~')
      · rw [if_pos hfolder]
        cases hhome : home? homes first with
        | none => exact .inr ⟨by simp [hfolder], rfl⟩
        | some home => simp
      · rw [if_neg hfolder]
        left
        constructor
        · intro hroot hfirst
          exact absurd ⟨hroot, hfirst⟩ hfolder
        · exact ⟨_, rfl⟩

/-- The usual paths lead from the home folder. -/
theorem exists_path_usual (h : name ∈ pathNames) (homes : Homes) :
  ∃ s, setting [] name = .str s ∧ Known homes s
  := by
  have hhome : (home? homes [.char '~']).isSome = true := by
    simp [home?, Text.string?, Point.char?, Path.home?]
  have hknown (s : Text) (hs : (partsOf s.toList).head? = some [.char '~']) : Known homes s := by
    intro _ first hfirst _
    obtain rfl := Option.some.inj (hs.symm.trans hfirst)
    exact hhome
  simp only [pathNames, List.mem_cons, List.not_mem_nil, or_false] at h
  rcases h with rfl | rfl
  · exact ⟨_, rfl, hknown _ (by decide)⟩
  · exact ⟨_, rfl, hknown _ (by decide)⟩

theorem exists_path_iff (h : name ∈ pathNames) :
  (∃ p, path homes m name = .ok p) ↔ Leads homes m name
  := by
  have hexpand {s : Text} : (∃ p, expand homes s = .ok p) ↔ Known homes s := by
    rcases expand_cases homes s with ⟨hknown, hp⟩ | ⟨hknown, herror⟩
    · exact iff_of_true hp hknown
    · simp [hknown, herror]
  rw [path, Leads]
  cases hm : m.lookup name with
  | none =>
      obtain ⟨s, hs, hknown⟩ := exists_path_usual h homes
      have hsetting : setting m name = .str s := by
        rw [setting, hm]
        exact hs
      rw [hsetting]
      simpa using hexpand.mpr hknown
  | some v =>
      have hsetting : setting m name = v := by
        rw [setting, hm]
        rfl
      rw [hsetting]
      cases v with
      | str s => simp [hexpand]
      | _ => simp

/-- Nothing is said about a path that is wrong. -/
theorem isComplaint_of_path {e : SettingsError} (h : path homes m name = .error e) :
  e.isComplaint = false
  := by
  rw [path] at h
  split at h
  next s _ =>
    rcases expand_cases homes s with ⟨-, p, hp⟩ | ⟨-, herror⟩
    · cases h.symm.trans hp
    · cases h.symm.trans herror
      rfl
  · cases h
    rfl

theorem forall_leads_iff :
  (∀ name ∈ pathNames, Leads homes m name)
    ↔ (∃ p, path homes m "state_path" = .ok p) ∧ ∃ p, path homes m "db_path" = .ok p
  := by
  rw [exists_path_iff (by decide), exists_path_iff (by decide)]
  simp [pathNames]

/-! ### Settings -/

/-- If loading fails, then with a complaint. -/
def Conclusive (r : Except SettingsError Settings) : Prop :=
  ∀ e, r = .error e → e.isComplaint = true

theorem conclusive_ok (c : Settings) :
  Conclusive (.ok c)
  := by
  rintro _ ⟨⟩

theorem conclusive_error_iff {e : SettingsError} :
  Conclusive (.error e) ↔ e.isComplaint = true
  := by
  simp [Conclusive]

instance : DecidablePred Conclusive
  | .ok c => .isTrue (conclusive_ok c)
  | .error _ => decidable_of_iff _ conclusive_error_iff.symm

theorem ofEntries_of_unknown (h : StorageKind.ofValue? (setting m "storage") = none) :
  ofEntries homes m = .error (unknownStorage (setting m "storage"))
  := by
  rw [ofEntries, h]
  rfl

/-- It is complained about an unknown kind of storage if its name can be shown. -/
theorem isComplaint_unknownStorage_iff {v : Yaml.Value} :
  (unknownStorage v).isComplaint = true ↔ v.isShort = true
  := by
  rw [← Yaml.Value.isSome_plain?_iff, unknownStorage]
  cases v.plain? <;> simp [SettingsError.isComplaint]

/-- The settings name no kind of storage by a value in which an integer is too long, and if they
name one that is known their paths are texts that lead from known folders. -/
structure Fair (homes : Homes) (m : Entries) : Prop where
  storage : (StorageKind.ofValue? (setting m "storage")).isSome = true
    ∨ (setting m "storage").isShort = true
  paths : (StorageKind.ofValue? (setting m "storage")).isSome = true →
    ∀ name ∈ pathNames, Leads homes m name

/-- With a kind of storage that is known, it is a matter of the paths whether loading ends as it
should; any other is complained about if it can be shown. -/
theorem conclusive_ofEntries_iff :
  Conclusive (ofEntries homes m) ↔ Fair homes m
  := by
  cases hstorage : StorageKind.ofValue? (setting m "storage") with
  | none =>
      rw [ofEntries_of_unknown hstorage, conclusive_error_iff, isComplaint_unknownStorage_iff]
      constructor
      · intro hshort
        refine ⟨.inr hshort, ?_⟩
        rw [hstorage]
        rintro ⟨⟩
      · intro hfair
        apply hfair.storage.resolve_left
        simp [hstorage]
  | some k =>
      have hfair : Fair homes m
          ↔ (∃ p, path homes m "state_path" = .ok p) ∧ ∃ p, path homes m "db_path" = .ok p := by
        rw [← forall_leads_iff]
        constructor
        · intro h
          apply h.paths (by rw [hstorage]; rfl)
        · intro h
          exact ⟨.inl (by rw [hstorage]; rfl), fun _ => h⟩
      rw [hfair, ofEntries, hstorage]
      cases hstate : path homes m "state_path" with
      | error e =>
          change Conclusive (.error e) ↔ _
          simp [conclusive_error_iff, isComplaint_of_path hstate]
      | ok p =>
          cases htable : path homes m "db_path" with
          | error e =>
              change Conclusive (.error e) ↔ _
              simp [conclusive_error_iff, isComplaint_of_path htable]
          | ok q =>
              change Conclusive (.ok _) ↔ _
              simp [conclusive_ok]

/-- The storage of settings that are loaded is of the kind that they name. -/
theorem setting_of_ofEntries {c : Settings} (h : ofEntries homes m = .ok c) :
  setting m "storage" = .str c.storage.name
  := by
  cases hstorage : StorageKind.ofValue? (setting m "storage") with
  | none =>
      rw [ofEntries_of_unknown hstorage] at h
      cases h
  | some k =>
      simp only [ofEntries, hstorage, bind_eq_ok_iff, pure_eq_ok_iff] at h
      obtain ⟨_, rfl, _, -, _, -, rfl⟩ := h
      exact StorageKind.ofValue?_eq_some_iff.mp hstorage

theorem exists_usualFor (homes : Homes) :
  ∃ c, usualFor homes = .ok c
  := by
  have hleads (name : Text) : Leads homes [] name := by
    intro v hv
    cases hv
  obtain ⟨⟨p, hp⟩, q, hq⟩ := forall_leads_iff.mp fun name _ => hleads name
  have hstorage : StorageKind.ofValue? (setting [] "storage") = some .file := by decide
  rw [usualFor, ofEntries, hstorage, hp, hq]
  exact ⟨_, rfl⟩

/-! ### The value of a file -/

/-- The settings that the value of a file holds. -/
def held : Yaml.Value → Entries
  | .map members => entries members
  | _ => []

/-- What a settings file should be answered with, by the value of its text: with settings whose kind
of storage is the known one that is named, or with a complaint; and with a complaint where the value
is neither `null` nor a mapping. -/
structure Answers (value : Except Yaml.Fault Yaml.Value) (r : Except SettingsError Settings) :
    Prop where
  storage : ∀ c, r = .ok c → ∃ v, value = .ok v ∧ setting (held v) "storage" = .str c.storage.name
  conclusive : Conclusive r
  mapping : ∀ v, value = .ok v → v ≠ .null → ¬ v.IsMapping →
    ∃ e, r = .error e ∧ e.isComplaint = true

/-- A settings file is in order, by the value of its text, if it has none, if its value is neither a
mapping nor naught, or if it is a mapping of fair settings. -/
inductive InOrder (homes : Homes) : Except Yaml.Fault Yaml.Value → Prop
  | malformed (f : Yaml.Fault) : InOrder homes (.error f)
  | other {v : Yaml.Value} (mapping : ¬ v.IsMapping) (naught : ¬ v.Naught) : InOrder homes (.ok v)
  | mapping {members : List (Yaml.Value × Yaml.Value)} (fair : Fair homes (entries members)) :
      InOrder homes (.ok (.map members))

variable {v : Yaml.Value}

theorem held_of_not_isMapping (h : ¬ v.IsMapping) :
  held v = []
  := by
  cases v with
  | map members => exact absurd ⟨_, rfl⟩ h
  | _ => rfl

theorem ofValue_of_not_isMapping (h : ¬ v.IsMapping) :
  ofValue homes v = if v.truthy then .error .notMapping else ofEntries homes (held v)
  := by
  cases v with
  | map members => exact absurd ⟨_, rfl⟩ h
  | _ => rfl

/-- A value that counts has to be a mapping; one that does not leaves everything as usual. -/
theorem ofValue_cases (homes : Homes) (h : ¬ v.IsMapping) :
  ((v ≠ .null ∧ ¬ v.Naught) ∧ ofValue homes v = .error .notMapping)
    ∨ ((v = .null ∨ v.Naught) ∧ ∃ c, ofValue homes v = .ok c)
  := by
  have hcounts := Yaml.Value.truthy_iff h
  rw [ofValue_of_not_isMapping h]
  split_ifs with htruthy
  · left
    exact ⟨hcounts.mp htruthy, rfl⟩
  · right
    rw [hcounts] at htruthy
    rw [held_of_not_isMapping h]
    exact ⟨by tauto, exists_usualFor homes⟩

theorem setting_of_ofValue {c : Settings} (h : ofValue homes v = .ok c) :
  setting (held v) "storage" = .str c.storage.name
  := by
  have hentries : ofEntries homes (held v) = .ok c := by
    by_cases hmapping : v.IsMapping
    · obtain ⟨members, rfl⟩ := hmapping
      exact h
    · rw [ofValue_of_not_isMapping hmapping] at h
      split_ifs at h
      exact h
  exact setting_of_ofEntries hentries

theorem inOrder_map_iff {members : List (Yaml.Value × Yaml.Value)} :
  InOrder homes (.ok (.map members)) ↔ Conclusive (ofValue homes (.map members))
  := by
  rw [ofValue, conclusive_ofEntries_iff]
  constructor
  · rintro (_ | ⟨hother⟩ | hfair)
    · exact absurd ⟨_, rfl⟩ hother
    · exact hfair
  · exact .mapping

theorem inOrder_ok_iff (h : ¬ v.IsMapping) :
  InOrder homes (.ok v) ↔ ¬ v.Naught
  := by
  constructor
  · rintro (_ | ⟨-, hnaught⟩ | _)
    · exact hnaught
    · exact absurd ⟨_, rfl⟩ h
  · exact .other h

/-- Whether a file is answered as it should be is seen from the value of its text. -/
theorem answers_ofValue_iff :
  Answers (.ok v) (ofValue homes v) ↔ InOrder homes (.ok v)
  := by
  have hstorage (c : Settings) (hc : ofValue homes v = .ok c) :
      ∃ w, (.ok v : Except Yaml.Fault Yaml.Value) = .ok w
        ∧ setting (held w) "storage" = .str c.storage.name :=
    ⟨v, rfl, setting_of_ofValue hc⟩
  by_cases hmapping : v.IsMapping
  · obtain ⟨members, rfl⟩ := hmapping
    rw [inOrder_map_iff]
    constructor
    · exact Answers.conclusive
    · intro h
      refine ⟨hstorage, h, ?_⟩
      rintro _ ⟨⟩ _ hnot
      exact absurd ⟨_, rfl⟩ hnot
  · rw [inOrder_ok_iff hmapping]
    rcases ofValue_cases homes hmapping with ⟨⟨hnull, hnaught⟩, hv⟩ | ⟨h, c, hv⟩
    · refine iff_of_true ⟨hstorage, ?_, fun _ _ _ _ => ⟨_, hv, rfl⟩⟩ hnaught
      rw [hv, conclusive_error_iff]
      rfl
    · constructor
      · intro hanswers hnaught
        have hnull : v ≠ .null := by
          rintro rfl
          cases hnaught
        obtain ⟨e, he, -⟩ := hanswers.mapping v rfl hnull hmapping
        rw [hv] at he
        cases he
      · intro hnaught
        refine ⟨hstorage, hv ▸ conclusive_ok c, ?_⟩
        rintro _ ⟨⟩ hnull _
        exact absurd (h.resolve_right hnaught) hnull

/-! ### Files -/

/-- What reads YAML gives the value of a text or says that the text is malformed. -/
def Documented (load : Loader) : Prop := ∀ s f, load s = .error f → f = .malformed

variable {load : Loader}

/-- A settings file that is there and holds a text is answered as it should be, with settings or a
complaint, exactly when it is in order. -/
theorem answers_inTree_iff {t : FileTree} {file : Path} {bytes : ByteArray} {s : String}
    (hload : Documented load) (hfile : t.find file = .ok (some (.file bytes)))
    (htext : Text.decodeUtf8? bytes = some s) :
  Answers (valueOf load s) (inTree load homes t file) ↔ InOrder homes (valueOf load s)
  := by
  have hread : inTree load homes t file = ofText load homes s := by
    rw [inTree, hfile]
    dsimp only
    rw [ofBytes, htext]
  rw [hread, ofText]
  cases hvalue : valueOf load s with
  | ok v => apply answers_ofValue_iff
  | error f =>
      obtain rfl := hload _ f hvalue
      refine iff_of_true ⟨?_, conclusive_error_iff.mpr rfl, ?_⟩ (.malformed _)
      · rintro _ ⟨⟩
      · rintro _ ⟨⟩

/-- Reads YAML and takes all texts without a value for malformed ones. -/
def reader : Loader := fun s => (Yaml.read s).mapError fun _ => .malformed

theorem documented_reader :
  Documented reader
  := by
  intro s f h
  rw [reader] at h
  cases hread : Yaml.read s with
  | ok v =>
      rw [hread] at h
      cases h
  | error g =>
      rw [hread] at h
      exact (Except.error.inj h).symm

/-- The home folder of somebody who knows of no others. -/
def hut : Homes := ⟨⟨"/", ["hut"]⟩, []⟩

/-- A tree with one file, which holds a text. -/
def noting (s : String) : FileTree := ⟨[(["notice"], .file s.toUTF8)], []⟩

/-- The path of that file. -/
def notice : Path := ⟨"", ["notice"]⟩

theorem find_noting (s : String) :
  (noting s).find notice = .ok (some (.file s.toUTF8))
  := by cbv

/-- A kind of storage that is not known is complained about. -/
theorem answers_inTree_redis :
  Documented reader
    ∧ (noting "storage: redis").find notice = .ok (some (.file "storage: redis".toUTF8))
    ∧ Text.decodeUtf8? "storage: redis".toUTF8 = some "storage: redis"
    ∧ Answers (valueOf reader "storage: redis")
        (inTree reader hut (noting "storage: redis") notice)
  := by
  have hfile := find_noting "storage: redis"
  have htext := Json.decodeUtf8?_toUTF8 "storage: redis"
  have hunknown : ((valueOf reader "storage: redis").toOption.map fun v =>
      ((StorageKind.ofValue? (setting (held v) "storage")).isSome,
        (setting (held v) "storage").isShort)) = some (false, true) := by
    decide +kernel
  refine ⟨documented_reader, hfile, htext,
    (answers_inTree_iff documented_reader hfile htext).mpr ?_⟩
  obtain ⟨v, hv, hsetting⟩ := Option.map_eq_some_iff.mp hunknown
  obtain ⟨hstorage, hshort⟩ := Prod.mk.inj hsetting
  rw [toOption_eq_some_iff.mp hv]
  by_cases hmapping : v.IsMapping
  · obtain ⟨members, rfl⟩ := hmapping
    refine .mapping ⟨.inr hshort, ?_⟩
    intro hknown
    exact absurd (hstorage.symm.trans hknown) Bool.false_ne_true
  · rw [held_of_not_isMapping hmapping] at hstorage
    cases hstorage

/-- A path that is a number is not complained about, and an empty list is taken for no settings. -/
theorem not_answers_numbered :
  ¬ Answers (valueOf reader "state_path: 5") (inTree reader hut (noting "state_path: 5") notice)
    ∧ ¬ Answers (valueOf reader "[]") (inTree reader hut (noting "[]") notice)
  := by
  have hload (s : String) : inTree reader hut (noting s) notice = ofText reader hut s := by
    rw [inTree, find_noting]
    dsimp only
    rw [ofBytes, Json.decodeUtf8?_toUTF8]
  constructor
  · intro h
    have hsilent : ¬ Conclusive (ofText reader hut "state_path: 5") := by decide +kernel
    apply hsilent
    rw [← hload]
    exact h.conclusive
  · intro h
    have hlist : ((valueOf reader "[]").toOption.map fun v => v.displayChars)
        = some ("[]" : Text).toList := by
      decide +kernel
    obtain ⟨v, hv, hshown⟩ := Option.map_eq_some_iff.mp hlist
    have hnull : v ≠ .null := by
      rintro rfl
      exact absurd hshown (by decide)
    have hmapping : ¬ v.IsMapping := by
      rintro ⟨members, rfl⟩
      cases hshown
    obtain ⟨e, he, -⟩ := h.mapping v (toOption_eq_some_iff.mp hv) hnull hmapping
    have hloaded : (ofText reader hut "[]").toOption.isSome = true := by decide +kernel
    rw [← hload, he] at hloaded
    cases hloaded

end Settings

end Kanban
