import Mathlib
import CqlWriter.Command.Run
import CqlWriter.Proofs.FileValues
import CqlWriter.Proofs.Printing
import CqlWriter.Proofs.StoredSettings

/-!
# The settings that are printed

The settings in effect are printed from the table of all settings, where they are converted in
another way than where the program reads one of them. Both ways agree, but for a truth value where a
text is wanted: it is printed as a digit and read as a word.
-/

namespace CqlWriter

namespace Settings

/-! ### Flags keep their names -/

namespace FlagSet

def names (fs : FlagSet) : List Text :=
  fs.map Flag.name

lemma names_set (fs : FlagSet) (f : Flag) (t : Text) : (fs.set f t).1.names = fs.names := by
  unfold set names
  rw [List.map_map]
  refine List.map_congr_left fun g _ => ?_
  by_cases hg : g.name = f.name
  · simp [hg]
  · simp [hg]

lemma names_setLong (fs : FlagSet) (argument body : Text) (next : Option Text) :
    (fs.setLong argument body next).1.names = fs.names := by
  unfold setLong
  dsimp only
  split_ifs
  · rfl
  · split
    · rfl
    · split
      · exact names_set ..
      · exact names_set ..
      · rfl

lemma names_setLetters (fs : FlagSet) (next : Option Text) (letters : Text) :
    (fs.setLetters next letters).1.names = fs.names := by
  fun_induction setLetters fs next letters with
  | case1 => rfl
  | case2 => rfl
  | case3 => rfl
  | case4 fs => exact names_set fs ..
  | case5 fs l rest _ f _ v _ fs' hset _ ih => rw [ih, ← names_set fs f v, hset]
  | case6 fs l rest _ f _ v _ fs' failure _ hset => rw [← names_set fs f v, hset]
  | case7 fs l rest _ f _ giving _ hrest =>
    rw [if_pos hrest]
    exact names_set fs ..
  | case8 fs l rest _ f _ giving _ hrest =>
    rw [if_neg hrest]
    exact names_set fs ..
  | case9 fs l rest _ f _ giving _ hrest =>
    rw [if_neg hrest]

/-- Parsing a command line adds no flag and takes none away. -/
lemma names_parse (fs : FlagSet) (args : List Text) : (fs.parse args).flags.names = fs.names := by
  have hlong : ∀ {fs fs' : FlagSet} {argument body : Text} {next : Option Text} {r},
      fs.setLong argument body next = (fs', r) → fs'.names = fs.names := by
    intro fs fs' argument body next r hset
    rw [← names_setLong fs argument body next, hset]
  have hletters : ∀ {fs fs' : FlagSet} {next : Option Text} {letters : Text} {r},
      fs.setLetters next letters = (fs', r) → fs'.names = fs.names := by
    intro fs fs' next letters r hset
    rw [← names_setLetters fs next letters, hset]
  fun_induction parse fs args with
  | case1 => rfl
  | case2 => rfl
  | case3 _ _ _ _ _ _ _ hset =>
    rw [hset]
    exact hlong hset
  | case4 _ _ _ _ _ _ hset ih =>
    rw [hset]
    exact ih.trans (hlong hset)
  | case5 fs body _ fs' taken others hnot hset ih =>
    rw [hset]
    cases taken with
    | false => exact ih.trans (hlong hset)
    | true =>
      cases others with
      | nil => exact ih.trans (hlong hset)
      | cons a others => exact (hnot a others rfl rfl).elim
  | case6 _ _ _ _ _ _ _ _ hset =>
    rw [hset]
    exact hletters hset
  | case7 _ _ _ _ _ _ _ hset ih =>
    rw [hset]
    exact ih.trans (hletters hset)
  | case8 fs l letters _ fs' taken others hnot hset ih =>
    rw [hset]
    cases taken with
    | false => exact ih.trans (hletters hset)
    | true =>
      cases others with
      | nil => exact ih.trans (hletters hset)
      | cons a others => exact (hnot a others rfl rfl).elim
  | case9 _ _ _ _ _ ih => exact ih

end FlagSet

/-! ### Flags of settings -/

/-- A flag that is there gives the value of its setting. -/
lemma Setting.exists_bind {α : Type} (x : Setting α) {fs : FlagSet} (hx : x.flag ∈ fs.names)
    (hne : x.flag ≠ []) : ∃ f, ∀ s h, x.bind fs s h = (s.addFlag x.key f, h) := by
  obtain ⟨g, hg, hname⟩ := List.mem_map.mp hx
  cases hnamed : fs.named? x.flag with
  | none =>
    rw [FlagSet.named?, List.find?_eq_none] at hnamed
    exact absurd hname (by simpa using hnamed g hg)
  | some f =>
    refine ⟨f, fun s h => ?_⟩
    rw [Setting.bind, if_neg (by simpa using hne), hnamed]

/-! ### The configuration file -/

lemma ConfigFile.exists_prepare?_eq {s s' : Store} {h : Host} (hprepare : prepare? s h = some s') :
    ∃ search, s' = { s with search } := by
  unfold prepare? at hprepare
  dsimp only at hprepare
  split_ifs at hprepare
  · exact ⟨_, (Option.some.inj hprepare).symm⟩
  · exact ⟨_, (Option.some.inj hprepare).symm⟩
  · exact ⟨_, (Option.some.inj hprepare).symm⟩

/-- Loading the configuration file changes nothing in a store but the search and the entries of the
file. -/
lemma ConfigFile.exists_load_eq (s : Store) (h : Host) : ∃ search config,
    (load s h).1 = { s with search, config } ∧
      (config = s.config ∨ ∃ search' : FileSearch, search'.read h.folder = .ok config) := by
  unfold load
  cases hprepare : prepare? s h with
  | none => exact ⟨s.search, s.config, rfl, .inl rfl⟩
  | some s' =>
    obtain ⟨search, rfl⟩ := exists_prepare?_eq hprepare
    dsimp only [Store.readFile]
    cases search.locate h.folder with
    | error f =>
      dsimp only
      split_ifs
      · exact ⟨search, s.config, rfl, .inl rfl⟩
      · exact ⟨search, s.config, rfl, .inl rfl⟩
    | ok search' =>
      dsimp only
      cases hread : search'.read h.folder with
      | ok config => exact ⟨search', config, rfl, .inr ⟨search', hread⟩⟩
      | error f =>
        dsimp only
        split_ifs
        · exact ⟨search', s.config, rfl, .inl rfl⟩
        · exact ⟨search', s.config, rfl, .inl rfl⟩

/-! ### Conversions -/

namespace Effective

variable {key : Text} {v : Option Value}

/-- A text is printed as it is read, unless it is a truth value. -/
lemma textOf_eq_read_iff {t : Text} (hv : ∀ w ∈ v, w.IsPlain) (h : textOf key v = .ok t) :
    t = Kind.text.read v ↔ ∀ b, v ≠ some (.flag b) := by
  have hdigit : ∀ b : Bool, ((if b then "1" else "0" : Text)) ≠ truthText b := by decide
  cases v with
  | none =>
    cases h
    exact ⟨fun _ _ => nofun, fun _ => rfl⟩
  | some w =>
    cases w with
    | flag b =>
      cases h
      exact ⟨fun heq => absurd heq (hdigit b), fun hne => absurd rfl (hne b)⟩
    | handling x => exact absurd rfl (hv _ rfl x)
    | null | text _ | int _ | wide _ | word _ | float _ =>
      cases h
      exact ⟨fun _ _ => nofun, fun _ => rfl⟩
    | timestamp _ | texts _ | list _ | map _ | mixed _ => cases h

/-- A plain value that can be read as a flag is read so everywhere. -/
lemma flagOf_eq_read {b : Bool} (hv : ∀ w ∈ v, w.IsPlain) (h : flagOf key v = .ok b) :
    b = Kind.flag.read v := by
  cases v with
  | none =>
    cases h
    rfl
  | some w =>
    cases w with
    | handling x => exact absurd rfl (hv _ rfl x)
    | text t =>
      rw [flagOf] at h
      simp only [Kind.flag, Option.map_some, Option.getD_some, Value.toFlag]
      cases htruth : truth? t with
      | some c =>
        rw [htruth] at h
        cases h
        rfl
      | none =>
        rw [htruth] at h
        dsimp only at h
        split_ifs at h
        cases h
        rfl
    | null | flag _ | int _ | wide _ | word _ | float _ =>
      cases h
      rfl
    | timestamp _ | texts _ | list _ | map _ | mixed _ => cases h

end Effective

end Settings

/-! ### What a setup leaves as it is -/

namespace Log

lemma Journal.env_log (j : Journal) (r : Record) (h : Host) : (j.log r h).env = h.env :=
  Logger.env_log { journal := some j } r h

lemma Logger.env_call (j : Journal) (s : Logger × Host) (hook : Hook) :
    (call j s hook).2.env = s.2.env := by
  have hact : ∀ (s : Logger × Host) (a : HookAction), (act j s a).2.env = s.2.env := by
    intro s a
    cases a with
    | log r => exact j.env_log r s.2
    | logThrough r => exact s.1.env_log r s.2
    | register name actions => rfl
  have hacts : ∀ (actions : List HookAction) (s : Logger × Host),
      (actions.foldl (act j) s).2.env = s.2.env := by
    intro actions
    induction actions with
    | nil => exact fun s => rfl
    | cons a actions ih =>
      intro s
      rw [List.foldl_cons, ih, hact]
  exact hacts hook.actions _

lemma Logger.env_calls (j : Journal) (hooks : List Hook) (s : Logger × Host) :
    (hooks.foldl (call j) s).2.env = s.2.env := by
  induction hooks generalizing s with
  | nil => rfl
  | cons hook hooks ih => rw [List.foldl_cons, ih, env_call]

/-- Setting a log up does not touch the environment. -/
lemma Logger.env_setup (l : Logger) (o : Options) (h : Host) : (l.setup o h).2.env = h.env := by
  have hopen : (Journal.ofOptions o h).2.env = h.env := by
    unfold Journal.ofOptions Journal.openDestination
    dsimp only
    split_ifs
    · rfl
    · rfl
    · split <;> rfl
  unfold setup
  split
  · rfl
  · rw [Journal.env_log, env_calls]
    exact hopen

end Log

lemma Settings.Logging.options_congr {h h' : Host} (henv : h'.env = h.env) (s : Store) :
    options s h' = options s h := by
  simp only [options, Setting.get, Store.find?_congr henv]

namespace Command

open Settings

/-! ### Stores of a run -/

/-- The keys of the settings that are printed. -/
def shownKeys : List Text :=
  [outputFormat.key, watch.key, Logging.level.key, Logging.format.key, Logging.output.key]

/-- Flags, variables, plain entries of a file and the defaults give the values of the settings that
are printed. -/
structure Ready (s : Store) : Prop where
  direct : ∀ key ∈ shownKeys, s.Direct key
  config : s.config.IsPlain
  defaults : s.defaults = settings.defaults

/-- None of the printed settings tells about a missing file. -/
lemma Ready.isPlain {s : Store} (hs : Ready s) {key : Text} (hkey : key ∈ shownKeys) (h : Host) :
    ∀ v ∈ s.find? h key, v.IsPlain := by
  intro v hv
  rcases (hs.direct key hkey).find?_cases h hv with ⟨f, rfl⟩ | ⟨t, rfl⟩ | hconfig | hdefault
  · unfold Flag.setting
    split <;> exact nofun
  · exact nofun
  · obtain ⟨front, back, hsplit, -⟩ := List.lookup_eq_some_iff.mp hconfig
    exact hs.config (key, v) (by simp [hsplit])
  · rw [hs.defaults] at hdefault
    have hkind : ∀ k ∈ shownKeys,
        (settings.defaults.lookup k).map Value.typeName ≠ some Handling.typeName := by
      decide
    rintro x rfl
    exact hkind key hkey (by rw [hdefault]; rfl)

/-- Loading a configuration file leaves everything ready. -/
lemma Ready.load {s : Store} (hs : Ready s) (h : Host) : Ready (ConfigFile.load s h).1 := by
  obtain ⟨search, config, hload, hconfig⟩ := ConfigFile.exists_load_eq s h
  rw [hload]
  refine ⟨fun key hkey => ?_, ?_, hs.defaults⟩
  · have hdirect := hs.direct key hkey
    exact ⟨hdirect.isName, hdirect.aliases, hdirect.overrides, hdirect.mem, hdirect.apart⟩
  · rcases hconfig with hconfig | ⟨search', hread⟩
    · exact hconfig ▸ hs.config
    · exact FileSearch.isPlain_of_read hread

def boundKeys : List Text :=
  [watch.key, Logging.output.key, Logging.format.key, Logging.level.key, ConfigFile.handling.key,
    ConfigFile.file.key, ConfigFile.name.key, ConfigFile.type.key, ConfigFile.folders.key,
    outputFormat.key]

/-- With all flags bound, the printed settings are found without a detour. -/
lemma direct_of_flagKeys {s : Store} (haliases : s.aliases = []) (hoverrides : s.overrides = [])
    (hkeys : s.flagKeys = boundKeys) : ∀ key ∈ shownKeys, s.Direct key := by
  have hshown : ∀ key ∈ shownKeys, key.IsSmall ∧ Text.byte '.' ∉ key ∧ key ∈ boundKeys ∧
      ∀ other ∈ boundKeys, ¬ key ++ [Text.byte '.'] <+: other := by
    decide
  intro key hkey
  obtain ⟨hsmall, hdot, hmem, hapart⟩ := hshown key hkey
  exact ⟨⟨hsmall, hdot⟩, haliases, hoverrides, hkeys ▸ hmem, hkeys ▸ hapart⟩

/-- The flags that all commands share give the values of their settings. -/
lemma ready_bindFlags {fs : FlagSet} (hfs : ∀ name ∈ sharedFlags.names, name ∈ fs.names)
    (h : Host) : Ready (bindFlags fs settings h).1 ∧ (bindFlags fs settings h).2 = h := by
  obtain ⟨f₁, h₁⟩ := outputFormat.exists_bind (hfs _ (by decide)) (by decide)
  obtain ⟨f₂, h₂⟩ := ConfigFile.folders.exists_bind (hfs _ (by decide)) (by decide)
  obtain ⟨f₃, h₃⟩ := ConfigFile.type.exists_bind (hfs _ (by decide)) (by decide)
  obtain ⟨f₄, h₄⟩ := ConfigFile.name.exists_bind (hfs _ (by decide)) (by decide)
  obtain ⟨f₅, h₅⟩ := ConfigFile.file.exists_bind (hfs _ (by decide)) (by decide)
  obtain ⟨f₆, h₆⟩ := ConfigFile.handling.exists_bind (hfs _ (by decide)) (by decide)
  obtain ⟨f₇, h₇⟩ := Logging.level.exists_bind (hfs _ (by decide)) (by decide)
  obtain ⟨f₈, h₈⟩ := Logging.format.exists_bind (hfs _ (by decide)) (by decide)
  obtain ⟨f₉, h₉⟩ := Logging.output.exists_bind (hfs _ (by decide)) (by decide)
  have hwatch : watch.flag ∈ FlagSet.names (fs ++ [watchFlag]) := by
    simp [FlagSet.names, watchFlag]
  obtain ⟨f, hf⟩ := watch.exists_bind hwatch (by decide)
  simp only [bindFlags, ConfigFile.bind, Logging.bind, h₁, h₂, h₃, h₄, h₅, h₆, h₇, h₈, h₉, hf]
  refine ⟨⟨direct_of_flagKeys rfl rfl ?_, ?_, rfl⟩, trivial⟩
  · simp only [Store.flagKeys_addFlag]
    decide
  · exact Table.isPlain_nil

/-! ### Printing -/

variable {s s' : Session} {e : Effective}

/-- A setting whose value is a text, with a text that is printed for it. -/
def shownTexts (e : Effective) : List (Setting Text × Text) :=
  [(outputFormat, e.outputFormat), (Logging.level, e.logLevel), (Logging.format, e.logFormat),
    (Logging.output, e.logOutput)]

lemma mem_shownKeys {p : Setting Text × Text} (hp : p ∈ shownTexts e) :
    p.1.key ∈ shownKeys ∧ p.1.kind = .text := by
  simp only [shownTexts, List.mem_cons, List.not_mem_nil, or_false] at hp
  rcases hp with rfl | rfl | rfl | rfl <;> exact ⟨by simp [shownKeys], rfl⟩

/-- The settings in a table are its entries, all of which can be converted. -/
lemma converted_of_ofTable {t : Table} (h : Effective.ofTable t = .ok e) :
    Effective.flagOf watch.key (t.lookup watch.key) = .ok e.watch ∧
      ∀ p ∈ shownTexts e, Effective.textOf p.1.key (t.lookup p.1.key) = .ok p.2 := by
  unfold Effective.ofTable at h
  dsimp only at h
  split at h
  · rename_i houtput hwatch hlevel hformat hlog
    cases h
    simp only [shownTexts, List.forall_mem_cons]
    exact ⟨hwatch, houtput, hlevel, hformat, hlog, nofun⟩
  · cases h

/-- What is printed is what the settings give, but for a flag that is printed for a text. -/
lemma Session.effective_eq (hs : Ready s.store) (he : s.effective = .ok e) :
    e.watch = watch.get s.store s.host ∧ ∀ p ∈ shownTexts e, p.2 = p.1.get s.store s.host ↔
      ∀ b, s.store.find? s.host p.1.key ≠ some (.flag b) := by
  have htable : Effective.ofTable (s.store.all s.host) = .ok e := by
    unfold Session.effective at he
    cases htable : Effective.ofTable (s.store.all s.host) with
    | error ms =>
      rw [htable] at he
      cases he
    | ok e' =>
      rw [htable] at he
      cases he
      rfl
  have hlookup : ∀ key ∈ shownKeys, (s.store.all s.host).lookup key = s.store.find? s.host key :=
    fun key hkey => (hs.direct key hkey).lookup_all s.host
  obtain ⟨hwatch, htexts⟩ := converted_of_ofTable htable
  constructor
  · have hkey : watch.key ∈ shownKeys := by decide
    rw [hlookup _ hkey] at hwatch
    exact Effective.flagOf_eq_read (hs.isPlain hkey _) hwatch
  · intro p hp
    obtain ⟨hkey, hkind⟩ := mem_shownKeys hp
    have htext := htexts p hp
    rw [hlookup _ hkey] at htext
    rw [Setting.get, hkind]
    exact Effective.textOf_eq_read_iff (hs.isPlain hkey _) htext

/-! ### Runs -/

def Session.withFlags (s : Session) (l : Line) : Session :=
  { s with
    store := (bindFlags l.parsed.flags s.store s.host).1
    host := (bindFlags l.parsed.flags s.store s.host).2 }

/-- The session after the configuration file is loaded. -/
def Session.withConfig (s : Session) : Session :=
  { s with
    store := (ConfigFile.load s.store s.host).1
    host := (ConfigFile.load s.store s.host).2.1 }

def Session.withLog (s : Session) : Session :=
  { s with
    logger := (s.logger.setup (Logging.options s.store s.host) s.host).1
    host := (s.logger.setup (Logging.options s.store s.host) s.host).2 }

namespace Job

variable {α β : Type} {j : Job α}

/-- A job that ends well has ended well in each of its parts. -/
lemma exists_of_run_bind {k : α → Job β} {b : β} (h : (j >>= k).run.run s = (.ok b, s')) :
    ∃ a s₁, j.run.run s = (.ok a, s₁) ∧ (k a).run.run s₁ = (.ok b, s') := by
  cases hj : j.run.run s with
  | mk r s₁ =>
    cases r with
    | error stop =>
      rw [run_bind_of_error hj] at h
      cases h
    | ok a =>
      rw [run_bind_of_ok hj] at h
      exact ⟨a, s₁, rfl, h⟩

/-- Loading the configuration file changes the settings, and notes what it has to tell. -/
lemma eq_of_loadConfig (h : loadConfig.run.run s = (.ok (), s')) : s' = s.withConfig := by
  unfold loadConfig at h
  rw [run_get_bind] at h
  dsimp only at h
  cases hstop : (ConfigFile.load s.store s.host).2.2 with
  | some stop =>
    rw [hstop] at h
    cases h
  | none =>
    rw [hstop] at h
    cases h
    rfl

lemma eq_of_closeLog (h : closeLog.run.run s = (.ok (), s')) :
    s' = { s with logger := s.logger.close.1 } := by
  unfold closeLog at h
  rw [run_get_bind] at h
  dsimp only at h
  cases hfault : s.logger.close.2 with
  | some f =>
    rw [hfault] at h
    cases h
  | none =>
    rw [hfault] at h
    cases h
    rfl

end Job

lemma eq_of_chosenFormat {format : OutputFormat} (h : chosenFormat.run.run s = (.ok format, s')) :
    s' = s ∧ s.format? = some format := by
  have hsetting : (Job.setting outputFormat).run.run s
      = (.ok (outputFormat.get s.store s.host), s) := rfl
  rw [chosenFormat, Job.run_bind_of_ok hsetting] at h
  unfold Session.format?
  cases hname : OutputFormat.ofName? (outputFormat.get s.store s.host) with
  | none =>
    rw [hname] at h
    cases h
  | some format' =>
    rw [hname] at h
    cases h
    exact ⟨rfl, rfl⟩

/-- The printed settings are the effective ones. -/
lemma eq_of_printConfig (h : printConfig.run.run s = (.ok (), s')) :
    ∃ e, s.effective = .ok e ∧ s' = s.printed (effectiveYaml e) := by
  rw [printConfig, Job.run_get_bind] at h
  cases he : s.effective with
  | error f =>
    rw [he] at h
    cases h
  | ok e =>
    rw [he] at h
    cases h
    exact ⟨e, rfl, rfl⟩

/-- The shared flags belong to every command line. -/
lemma names_ofArguments (args : List Text) :
    ∀ name ∈ sharedFlags.names, name ∈ (Line.ofArguments args).parsed.flags.names := by
  have hflags : ∀ action, ∀ name ∈ sharedFlags.names, name ∈ (flagsOf action).names := by
    intro action name hname
    rw [flagsOf, FlagSet.names, List.map_append]
    exact List.mem_append_left _ hname
  intro name hname
  unfold Line.ofArguments
  split
  · rw [FlagSet.names_parse]
    exact hflags _ name hname
  · rw [FlagSet.names_parse]
    exact hflags _ name hname

/-- The steps of a run that prints the settings: the flags are bound and the configuration file is
loaded, the log is set up, the form of the output is checked, the settings are printed and the log
is closed. -/
lemma exists_of_run_config {args : List Text}
    (haction : (Line.ofArguments args).action = some .config)
    (hhelp : (Line.ofArguments args).wantsHelp = false)
    (hrun : (run args).run.run s = (.ok (), s')) :
    ∃ s₁ format e, s₁ = (s.withFlags (Line.ofArguments args)).withConfig ∧
      s₁.withLog.format? = some format ∧ s₁.withLog.effective = .ok e ∧
      s' = { s₁.withLog.printed (effectiveYaml e) with logger := s₁.withLog.logger.close.1 } := by
  obtain ⟨progress, s₃, hstart, hfinish⟩ := Job.exists_of_run_bind hrun
  unfold start at hstart
  dsimp only at hstart
  obtain ⟨_, s₀, hbind, hline⟩ := Job.exists_of_run_bind hstart
  cases hbind
  cases hfailure : (Line.ofArguments args).parsed.failure with
  | some failure =>
    rw [hfailure] at hline
    cases hline
  | none =>
    simp only [hfailure, haction, hhelp] at hline
    cases hfault : argumentFault? .config (Line.ofArguments args).parsed.arguments with
    | some f =>
      rw [hfault] at hline
      cases hline
    | none =>
      rw [hfault] at hline
      obtain ⟨_, s₁, hload, hlog⟩ := Job.exists_of_run_bind hline
      obtain ⟨_, s₂, hsetup, hchoice⟩ := Job.exists_of_run_bind hlog
      obtain ⟨format, s₄, hformat, hperform⟩ := Job.exists_of_run_bind hchoice
      obtain ⟨hs₄, hformat⟩ := eq_of_chosenFormat hformat
      obtain ⟨_, s₅, hprint, hdone⟩ := Job.exists_of_run_bind hperform
      obtain ⟨e, he, hs₅⟩ := eq_of_printConfig hprint
      cases hdone
      have hs₁ : s₁ = (s.withFlags (Line.ofArguments args)).withConfig := Job.eq_of_loadConfig hload
      have hs₂ : s₂ = s₁.withLog := (congrArg Prod.snd hsetup).symm
      have hclose := Job.eq_of_closeLog hfinish
      rw [hs₅, hs₄, hs₂] at hclose
      rw [hs₄, hs₂] at he
      rw [hs₂] at hformat
      exact ⟨s₁, format, e, hs₁, hformat, he, hclose⟩

/-- A form of the output is never given by a truth value. -/
lemma find?_outputFormat_ne_flag {format : OutputFormat} (h : s.format? = some format) (b : Bool) :
    s.store.find? s.host outputFormat.key ≠ some (.flag b) := by
  have hword : ∀ b : Bool, OutputFormat.ofName? (truthText b) = none := by decide
  intro hfind
  have hget : outputFormat.get s.store s.host = truthText b := by
    rw [Setting.get, hfind]
    rfl
  rw [Session.format?, hget, hword] at h
  cases h

/-- Where the settings are printed, what is printed is what the program goes by: the form of the
output and whether files are watched always, and a setting about the log if and only if its value is
no truth value. The log is set up with the values that the program goes by. -/
theorem printed_settings {args : List Text} {documents : Documents} {host : Host}
    (haction : (Line.ofArguments args).action = some .config)
    (hhelp : (Line.ofArguments args).wantsHelp = false)
    (hrun : (run args).run.run { documents, host } = (.ok (), s')) :
    ∃ e, s'.output = effectiveYaml e ∧
      (∃ h, s'.logger = (Log.Logger.setup {} (Logging.options s'.store s'.host) h).1.close.1) ∧
      e.outputFormat = outputFormat.get s'.store s'.host ∧
      e.watch = watch.get s'.store s'.host ∧
      ∀ p ∈ [(Logging.level, e.logLevel), (Logging.format, e.logFormat),
          (Logging.output, e.logOutput)],
        p.2 = p.1.get s'.store s'.host ↔ ∀ b, s'.store.find? s'.host p.1.key ≠ some (.flag b) := by
  obtain ⟨s₁, format, e, hs₁, hformat, he, rfl⟩ := exists_of_run_config haction hhelp hrun
  have hready : Ready s₁.withLog.store := by
    rw [hs₁]
    exact (ready_bindFlags (names_ofArguments args) host).1.load _
  obtain ⟨hwatch, htexts⟩ := Session.effective_eq hready he
  have hfirst : (outputFormat, e.outputFormat) ∈ shownTexts e := by simp [shownTexts]
  refine ⟨e, ?_, ⟨s₁.host, ?_⟩, ?_, hwatch, fun p hp => htexts p (List.mem_cons_of_mem _ hp)⟩
  · have houtput : s₁.output = [] := by
      rw [hs₁]
      rfl
    exact (congrArg (· ++ effectiveYaml e) houtput).trans (List.nil_append _)
  · have hlogger : s₁.logger = {} := by
      rw [hs₁]
      rfl
    have hoptions : Logging.options s₁.store s₁.withLog.host = Logging.options s₁.store s₁.host :=
      Logging.options_congr (s₁.logger.env_setup _ _) _
    show (s₁.logger.setup (Logging.options s₁.store s₁.host) s₁.host).1.close.1
      = (Log.Logger.setup {} (Logging.options s₁.store s₁.withLog.host) s₁.host).1.close.1
    rw [hoptions, hlogger]
  · exact (htexts _ hfirst).mpr (find?_outputFormat_ne_flag hformat)

/-- A session with a configuration file. -/
def withFile (env : List (Text × Text)) (content : Text) : Session where
  documents := .memory []
  host := { env, folder := .ofFiles "/d" [("cqlrender.yaml", content)] }

lemma exists_run_eq_ok {args : List Text} {β : Type} {f : Session → β} {b : β}
    (h : ((run args).run.run s).1.toOption.map (fun _ => f ((run args).run.run s).2) = some b) :
    ∃ s', (run args).run.run s = (.ok (), s') ∧ f s' = b := by
  cases hrun : (run args).run.run s with
  | mk r s' =>
    rw [hrun] at h
    cases r with
    | error stop => cases h
    | ok u => exact ⟨s', rfl, Option.some.inj h⟩

/-- The values that the program goes by, and the kind of the value for the level of the log. -/
def Session.goesBy (s : Session) : Text × Bool × Text × Option Text :=
  (outputFormat.get s.store s.host, watch.get s.store s.host, Logging.level.get s.store s.host,
    (s.store.find? s.host Logging.level.key).map Value.typeName)

/-- A number is printed as the text that it is read as. -/
theorem printed_settings_number : ∃ e s',
    (run ["config", "-o", "json"]).run.run (withFile [("CQL_WATCH", "t")] "log-level: 7\n")
      = (.ok (), s') ∧
    s'.output = effectiveYaml e ∧ e.outputFormat = "json" ∧ e.watch = true ∧ e.logLevel = "7" := by
  obtain ⟨s', hrun, hgoes⟩ := @exists_run_eq_ok
    (withFile [("CQL_WATCH", "t")] "log-level: 7\n") ["config", "-o", "json"] _ Session.goesBy
    ("json", true, "7", some "int") (by decide +kernel)
  simp only [Session.goesBy, Prod.mk.injEq] at hgoes
  obtain ⟨hformat, hwatch, hlevel, hkind⟩ := hgoes
  obtain ⟨e, houtput, -, hformat', hwatch', htexts⟩ :=
    printed_settings (by decide +kernel) (by decide +kernel) hrun
  have hlevel' := htexts (Logging.level, e.logLevel) (by simp)
  have hbool : ∀ b, s'.store.find? s'.host Logging.level.key ≠ some (.flag b) := by
    intro b hflag
    rw [hflag] at hkind
    have hname : ("bool" : Text) = "int" := Option.some.inj hkind
    exact absurd hname (by decide)
  exact ⟨e, s', hrun, houtput, hformat'.trans hformat, hwatch'.trans hwatch,
    (hlevel'.mpr hbool).trans hlevel⟩

def digitOutput : Text :=
  "output-format: text\nwatch: false\nlog-level: info\nlog-format: text\nlog-output: \"1\"\n"

/-- The name of a log file that is a truth value is printed as a digit, but the file is named by a
word. -/
theorem printed_digit_for_truth : ∃ s',
    (run ["config"]).run.run (withFile [] "log-output: true\n") = (.ok (), s') ∧
    s'.output = digitOutput ∧ Logging.output.get s'.store s'.host = "true" ∧
    s'.host.folder.hasFile "true" := by
  obtain ⟨s', hrun, hs'⟩ := @exists_run_eq_ok (withFile [] "log-output: true\n") ["config"] _
    (fun s' => (s'.output, Logging.output.get s'.store s'.host, s'.host.folder.hasFile "true"))
    (digitOutput, "true", true) (by decide +kernel)
  simp only [Prod.mk.injEq] at hs'
  exact ⟨s', hrun, hs'⟩

end Command

end CqlWriter
