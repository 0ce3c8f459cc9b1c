import FuzzIntake.Proofs.Configuration.SourceList
import FuzzIntake.Proofs.Configuration.Variables
import Mathlib.Data.List.Nodup

/-!
# Where sources come from

A process has its sources from the environment, from its configuration file or from the
standard configuration.  The first and the last kind can be told apart by their labels and have
no blank ones.  A file may list what it likes: its sources are accepted if there are any and no
label and no URL is the empty text, so exactly the sources of a file can repeat a label or
have a blank one.
-/

namespace FuzzIntake

/-- Some sources that reports can tell apart: their labels are distinct, and nothing is blank. -/
structure LabelledSource.AreSound (sources : List LabelledSource) : Prop where
  present : sources ≠ []
  distinct : (sources.map label).Nodup
  written : ∀ source ∈ sources,
    Text.isBlankText source.label = false ∧ Text.isBlankText source.url = false

namespace Configuration

/-- The configuration that overrides start from: that of a file, or the standard one. -/
def load : Option String → Except ConfigurationError Configuration
  | none => .ok standard
  | some text => ofToml text

/-- The sources that a file lists. -/
def fileSources? (file : Option String) : Option (List LabelledSource) := do
  let entries ← Toml.read? (← file)
  Document.sources? (← entries.lookup "sources")

/-- A configuration that a file and an environment come to and that no check refuses. -/
def Settles (file : Option String) (environment : Environment) (config : Configuration) : Prop :=
  ∃ loaded, load file = .ok loaded ∧ overrideAll environment loaded = (.ok (), config) ∧
    config.validate = .ok ()

variable {file : Option String} {environment : Environment} {config : Configuration}

/-- The overrides and then the checks of a configuration that was loaded. -/
def settle (environment : Environment) (loaded : Configuration) :
    Except ConfigurationError Configuration :=
  match overrideAll environment loaded with
  | (.error fault, _) => .error fault
  | (.ok (), config) => do
      config.validate
      return config

theorem settle_eq_ok_iff {loaded : Configuration} :
    settle environment loaded = .ok config ↔
      overrideAll environment loaded = (.ok (), config) ∧ config.validate = .ok () := by
  unfold settle
  obtain ⟨outcome, overridden⟩ := overrideAll environment loaded
  cases outcome with
  | error fault => simp
  | ok done =>
      change (overridden.validate >>= fun _ => Except.ok overridden) = .ok config ↔ _
      rw [Except.bind_eq_ok_iff]
      constructor
      · rintro ⟨checked, accepted, same⟩
        cases same
        exact ⟨rfl, accepted⟩
      · rintro ⟨same, accepted⟩
        cases same
        exact ⟨(), accepted, rfl⟩

/-- A process is configured by the file that it names, or by none, and by its environment. -/
theorem ofEnvironment_eq_ok_iff {fileText : String → Option String} :
    ofEnvironment fileText environment = .ok config ↔
      (environment.present? pathVariable = none ∧ Settles none environment config) ∨
        ∃ path text, environment.present? pathVariable = some path ∧
          fileText (Text.trim path) = some text ∧ Settles (some text) environment config := by
  unfold ofEnvironment Settles
  simp only [← settle_eq_ok_iff]
  cases named : environment.present? pathVariable with
  | none =>
      change (load none >>= settle environment) = .ok config ↔ _
      rw [Except.bind_eq_ok_iff]
      simp
  | some path =>
      dsimp only
      cases found : fileText (Text.trim path) with
      | none =>
          refine iff_of_false (fun read => by cases read) ?_
          simp [found]
      | some text =>
          change (load (some text) >>= settle environment) = .ok config ↔ _
          rw [Except.bind_eq_ok_iff]
          simp [found]

/-! ## Sources of a file -/

/-- Leaving out the entries of other keys does not change what a key names: a look-up passes them
whether they are left out or not. -/
theorem lookup_of_named?
    {names : List String}
    {name : String}
    {entries known : Toml.Entries}
    (listed : name ∈ names)
    (kept : Document.named? names entries = some known) :
    known.lookup name = entries.lookup name := by
  have filtered : known = entries.filter fun entry => names.contains entry.1 := by
    rw [Document.named?, List.partition_eq_filter_filter] at kept
    exact (Option.some.inj (Option.ite_none_right_eq_some.mp kept).2).symm
  rw [filtered]
  clear kept filtered
  induction entries with
  | nil => rfl
  | cons entry rest inductionHypothesis =>
      obtain ⟨key, value⟩ := entry
      by_cases same : name = key
      · rw [List.filter_cons_of_pos (by simpa [← same] using listed), ← same,
          List.lookup_cons_self, List.lookup_cons_self]
      · have passed : ∀ later : Toml.Entries, ((key, value) :: later).lookup name =
            later.lookup name := fun later => by
          rw [List.lookup_cons, beq_false_of_ne same]
        rw [passed, ← inductionHypothesis, List.filter_cons]
        split
        · exact passed _
        · rfl

/-- After the overrides the sources are those from before, or those of their variable. -/
theorem sources_of_overrideAll
    {loaded : Configuration}
    (done : overrideAll environment loaded = (.ok (), config)) :
    (environment.present? "STREAMS" = none ∧ config.sources = loaded.sources) ∨
      ∃ raw, environment.present? "STREAMS" = some raw ∧
        LabelledSource.ofSetting raw = .ok config.sources :=
  get_of_overrideAll .sources done

/-- A configuration file that is read has the sources it lists, or the standard ones. -/
theorem sources_of_load
    {loaded : Configuration}
    (read : load file = .ok loaded) :
    loaded.sources = (fileSources? file).getD standard.sources := by
  cases file with
  | none =>
      cases read
      rfl
  | some text =>
      rw [load, ofToml] at read
      cases decoded : (Toml.read? text).bind Document.config? with
      | none =>
          rw [decoded] at read
          cases read
      | some found =>
          rw [decoded] at read
          cases read
          obtain ⟨entries, parsed, configured⟩ := Option.bind_eq_some_iff.mp decoded
          simp only [Document.config?, Option.bind_eq_bind, Option.bind_eq_some_iff,
            Option.pure_def, Option.some.injEq] at configured
          obtain ⟨known, kept, group, -, consumer, -, stream, -, sources, listed, capacity, -,
            database, -, batch, -, rfl⟩ := configured
          have named : fileSources? (some text) =
              (entries.lookup "sources").bind Document.sources? := by
            simp only [fileSources?, parsed, Option.bind_eq_bind, Option.bind_some]
          rw [Document.setting?, lookup_of_named? (by decide) kept] at listed
          rw [named]
          cases entry : entries.lookup "sources" with
          | none =>
              rw [entry] at listed
              exact (Option.some.inj listed).symm
          | some value =>
              rw [entry] at listed
              dsimp only at listed ⊢
              rw [Option.bind_some, listed, Option.getD_some]

/-! ## Sources of the environment -/

/-- What is read from a list of sources is sound, unless the list is empty. -/
theorem areSound_of_ofSetting
    {text : String}
    {sources : List LabelledSource}
    (present : sources ≠ [])
    (read : LabelledSource.ofSetting text = .ok sources) :
    LabelledSource.AreSound sources := by
  obtain ⟨all, rfl⟩ := LabelledSource.ofSetting_eq_ok_iff.mp read
  refine ⟨present, ?_, List.forall_mem_map.mpr fun piece within => ?_⟩
  · have labels : ((LabelledSource.listed text).map LabelledSource.named).map
        LabelledSource.label =
          ((LabelledSource.listed text).map LabelledSource.labelOf).map String.ofList := by
      rw [List.map_map, List.map_map]
      rfl
    rw [labels]
    exact all.distinct.map fun first second same => String.ofList_inj.mp same
  · have source := all.named piece within
    exact ⟨Text.isBlankText_ofList_trimChars source.label,
      Text.isBlankText_ofList_trimChars source.url⟩

theorem areSound_standard : LabelledSource.AreSound standard.sources :=
  ⟨by decide, by decide, by decide⟩

/-! ## Sources of a process -/

/--
An accepted configuration has sources, and no label and no URL of them is the empty text.  They
are sound exactly if the environment names them, or the file names none, or names sound ones.
-/
theorem sources_areSound_iff
    (settles : Settles file environment config) :
    config.sources ≠ [] ∧
    (∀ source ∈ config.sources, source.label ≠ "" ∧ source.url ≠ "") ∧
    (LabelledSource.AreSound config.sources ↔
      environment.present? "STREAMS" ≠ none ∨
        ∀ sources, fileSources? file = some sources → LabelledSource.AreSound sources) := by
  obtain ⟨loaded, read, overridden, accepted⟩ := settles
  have valid := validate_eq_ok_iff.mp accepted
  refine ⟨valid.sources, valid.labelled, ?_⟩
  obtain ⟨absent, kept⟩ | ⟨raw, named, set⟩ := sources_of_overrideAll overridden
  · have origin := kept.trans (sources_of_load read)
    cases listed : fileSources? file with
    | none =>
        rw [origin, listed, Option.getD_none]
        exact iff_of_true areSound_standard (.inr fun sources found => by cases found)
    | some sources =>
        rw [origin, listed, Option.getD_some, absent]
        simp
  · refine iff_of_true (areSound_of_ofSetting valid.sources set) (.inl ?_)
    rw [named]
    exact Option.some_ne_none raw

/-- An environment in which no variable is set. -/
def Environment.unset : Environment := fun _ => none

/-- An environment that names two sources. -/
def Environment.naming : Environment := fun key =>
  if key = "STREAMS" then some " a = redis://h1 , b=redis://h2" else none

/-- A file with two sources of one label. -/
def repeatedLabels : String :=
  "[[sources]]\nlabel = \"a\"\nurl = \"redis://h1\"\n\n" ++
    "[[sources]]\nlabel = \"a\"\nurl = \"redis://h2\"\n"

/-- A file with a source whose label is blank. -/
def blankLabel : String :=
  "[[sources]]\nlabel = \" \"\nurl = \"redis://h1\"\n"

/-- The standard configuration with other sources. -/
def withSources (sources : List LabelledSource) : Configuration :=
  { standard with sources := sources }

/-- Sources of the environment are sound also where those of the file are not. -/
theorem sources_areSound_iff_of_naming :
    Settles (some repeatedLabels) .naming
        (withSources [⟨"a", "redis://h1"⟩, ⟨"b", "redis://h2"⟩]) ∧
      LabelledSource.AreSound
        (withSources [⟨"a", "redis://h1"⟩, ⟨"b", "redis://h2"⟩]).sources := by
  have settles : Settles (some repeatedLabels) .naming
      (withSources [⟨"a", "redis://h1"⟩, ⟨"b", "redis://h2"⟩]) :=
    ⟨withSources [⟨"a", "redis://h1"⟩, ⟨"a", "redis://h2"⟩],
      Except.eq_ok_of_toOption (by decide +kernel), rfl,
      Except.eq_ok_of_toOption (by decide +kernel)⟩
  exact ⟨settles, (sources_areSound_iff settles).2.2.mpr (.inl (by decide))⟩

/-- Two files are accepted whose sources are not sound, each for a reason of its own. -/
theorem accepts_unsound_sources :
    (Settles (some repeatedLabels) .unset
        (withSources [⟨"a", "redis://h1"⟩, ⟨"a", "redis://h2"⟩]) ∧
      ¬ LabelledSource.AreSound
        (withSources [⟨"a", "redis://h1"⟩, ⟨"a", "redis://h2"⟩]).sources) ∧
    (Settles (some blankLabel) .unset (withSources [⟨" ", "redis://h1"⟩]) ∧
      ¬ LabelledSource.AreSound (withSources [⟨" ", "redis://h1"⟩]).sources) := by
  refine ⟨⟨⟨_, Except.eq_ok_of_toOption (by decide +kernel), rfl,
      Except.eq_ok_of_toOption (by decide +kernel)⟩, fun sound => ?_⟩,
    ⟨_, Except.eq_ok_of_toOption (by decide +kernel), rfl,
      Except.eq_ok_of_toOption (by decide +kernel)⟩, fun sound => ?_⟩
  · have distinct := sound.distinct
    revert distinct
    decide
  · have written := (sound.written _ List.mem_cons_self).1
    revert written
    decide

end Configuration
end FuzzIntake
