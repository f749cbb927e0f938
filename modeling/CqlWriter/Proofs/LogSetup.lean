import Mathlib
import CqlWriter.Command.Session

/-!
# Setting a log up

Hooks are registered with a logger, the log is set up, others ask where records go, and settings
change, in any order. The first setup decides: the log is made from the settings of that moment and
given to the hooks that are registered by then, and nothing that comes later changes it. What the
names of a level, a format and an output stand for is said here once more, as relations.
-/

namespace CqlWriter

namespace Log

/-- The record that an action of a hook logs. -/
def HookAction.record? : HookAction → Option Record
  | log r | logThrough r => some r
  | register _ _ => none

def Hook.records (hook : Hook) : List Record :=
  hook.actions.filterMap HookAction.record?

namespace Journal

def logAll (j : Journal) (rs : List Record) (h : Host) : Host :=
  rs.foldl (fun h r => j.log r h) h

lemma logAll_append (j : Journal) (rs rs' : List Record) (h : Host) :
    j.logAll (rs ++ rs') h = j.logAll rs' (j.logAll rs h) :=
  List.foldl_append

end Journal

/-! ### What the settings ask for -/

/-- The level that a name in any case stands for, which is `info` for every name but three. -/
inductive Level.IsNamed (name : Text) : Level → Prop
  | debug (h : name.lower = "debug") : IsNamed name .debug
  | warn (h : name.lower = "warn") : IsNamed name .warn
  | error (h : name.lower = "error") : IsNamed name .error
  | info (h : name.lower ∉ (["debug", "warn", "error"] : List Text)) : IsNamed name .info

/-- The level that is set up is the one that the name stands for. -/
lemma Level.isNamed_iff {name : Text} {l : Level} : l.IsNamed name ↔ l = .ofName name := by
  constructor
  · intro hl
    cases hl with
    | debug h | warn h | error h =>
      rw [Level.ofName, h]
      rfl
    | info h =>
      simp only [List.mem_cons, List.not_mem_nil, or_false, not_or] at h
      simp [Level.ofName, h]
  · rintro rfl
    unfold Level.ofName
    dsimp only
    split_ifs with hdebug hwarn herror
    · exact .debug hdebug
    · exact .warn hwarn
    · exact .error herror
    · exact .info (by simp [hdebug, hwarn, herror])

lemma Format.ofName_eq_text_iff {name : Text} :
    Format.ofName name = .text ↔ name.lower = "text" := by
  unfold Format.ofName
  split <;> simpa

lemma ofString_empty : Text.ofString "" = [] := rfl

/-- A name that is no word for a stream. -/
def IsPath (output : Text) : Prop :=
  output.lower ∉ (["stdout", "", "stderr"] : List Text)

/-- The words for streams in so many inequalities. -/
lemma isPath_iff {output : Text} : IsPath output ↔
    output.lower ≠ "stdout" ∧ output.lower ≠ [] ∧ output.lower ≠ "stderr" := by
  simp [IsPath, ofString_empty]

/-- Opening the output with a given name on the host `h`: where lines go from then on, and the host
once it is open. A name in any case is a word for one of the streams, and otherwise it is a path. -/
inductive Opens (h : Host) (output : Text) : Destination → Host → Prop
  | out (hname : output.lower = "stdout") : Opens h output .out h
  | err (hname : output.lower ∈ (["", "stderr"] : List Text)) : Opens h output .err h
  /-- A file that is there keeps its content. -/
  | present {key : List Text} {content : Text} (hpath : IsPath output)
      (hfind : h.folder.find output = .file key content) :
      Opens h output (.file output) { h with folder := h.folder.put key content }
  /-- A file that is not there is made. -/
  | absent {key : List Text} (hpath : IsPath output) (hfind : h.folder.find output = .free key) :
      Opens h output (.file output) { h with folder := h.folder.put key [] }
  | device (hpath : IsPath output) (hfind : h.folder.find output = .sink) :
      Opens h output (.file output) h
  /-- Where no file can be, the error stream is taken instead. -/
  | refused (hpath : IsPath output)
      (hfind : h.folder.find output ∈ [.folder, .nowhere, .blocked, .malformed, .tooLong]) :
      Opens h output .err h

namespace Journal

/-- The destination that is set up is one that the output may open. -/
lemma opens_openDestination (output : Text) (h : Host) :
    Opens h output (openDestination output h).1 (openDestination output h).2 := by
  unfold openDestination
  dsimp only
  split_ifs with hout herr
  · exact .out hout
  · exact .err (by simpa [ofString_empty] using herr)
  · have hpath : IsPath output := isPath_iff.mpr ⟨hout, by simpa using herr⟩
    unfold Folder.append?
    cases hfind : h.folder.find output with
    | file key content => simpa using Opens.present hpath hfind
    | free key => exact .absent hpath hfind
    | sink => exact .device hpath hfind
    | folder | nowhere | blocked | malformed | tooLong =>
      exact .refused hpath (by simp [hfind])

/-- What an output opens is what is set up, and nothing else. -/
lemma opens_iff {output : Text} {h opened : Host} {d : Destination} :
    Opens h output d opened ↔ openDestination output h = (d, opened) := by
  constructor
  · intro hopens
    cases hopens with
    | out hname => simp [openDestination, hname]
    | err hname =>
      rcases List.mem_pair.mp hname with hname | hname <;>
      · rw [openDestination, hname]
        rfl
    | present hpath hfind | absent hpath hfind | device hpath hfind =>
      simp [openDestination, Folder.append?, isPath_iff.mp hpath, hfind]
    | refused hpath hfind =>
      simp only [List.mem_cons, List.not_mem_nil, or_false] at hfind
      rcases hfind with hfind | hfind | hfind | hfind | hfind <;>
        simp [openDestination, Folder.append?, isPath_iff.mp hpath, hfind]
  · intro hopen
    have hopens := opens_openDestination output h
    rwa [hopen] at hopens

/-- The log is open, with the level, the format and the destination that the settings ask for on the
host `h`, which is `opened` once the destination is open. -/
structure IsConfigured (j : Journal) (store : Settings.Store) (h opened : Host) : Prop where
  level : j.level.IsNamed (Settings.Logging.level.get store h)
  format : j.format = .text ↔ (Settings.Logging.format.get store h).lower = "text"
  destination : Opens h (Settings.Logging.output.get store h) j.destination opened
  opened : j.closed = false

/-- The log that is made from the settings is the one that they ask for. -/
lemma isConfigured_ofOptions (store : Settings.Store) (h : Host) :
    (ofOptions (Settings.Logging.options store h) h).1.IsConfigured store h
      (ofOptions (Settings.Logging.options store h) h).2 where
  level := Level.isNamed_iff.mpr rfl
  format := Format.ofName_eq_text_iff
  destination := opens_iff.mpr rfl
  opened := rfl

end Journal

namespace Logger

/-- The log `j` is set up, and these are the hooks that have been called. -/
structure Holds (l : Logger) (j : Journal) (calls : List (Hook × Journal)) : Prop where
  journal : l.journal = some j
  calls : l.calls = calls

variable {l : Logger} {j : Journal} {calls : List (Hook × Journal)} {s : Logger × Host}

lemma Holds.sink (h : l.Holds j calls) : l.sink = .journal j := by
  rw [Logger.sink, h.journal]
  rfl

lemma Holds.addHook (h : l.Holds j calls) (hook : Hook) : (l.addHook hook).Holds j calls :=
  ⟨h.journal, h.calls⟩

/-- Another setup changes neither the logger nor the host. -/
lemma Holds.setup (h : l.Holds j calls) (o : Options) (host : Host) :
    l.setup o host = (l, host) := by
  rw [Logger.setup, h.journal]

/-! ### The hooks -/

/-- What a hook does changes neither the log nor the list of calls. It only logs a record, or none.
-/
lemma act_holds (h : s.1.Holds j calls) (a : HookAction) :
    (act j s a).1.Holds j calls ∧ (act j s a).2 = j.logAll a.record?.toList s.2 := by
  cases a with
  | log r => exact ⟨h, rfl⟩
  | logThrough r =>
    refine ⟨h, ?_⟩
    -- within the setup the logger has the log already
    rw [act, Logger.log, h.sink]
    rfl
  | register name actions => exact ⟨h.addHook _, rfl⟩

lemma acts_hold (h : s.1.Holds j calls) (actions : List HookAction) :
    (actions.foldl (act j) s).1.Holds j calls ∧
    (actions.foldl (act j) s).2 = j.logAll (actions.filterMap HookAction.record?) s.2 := by
  induction actions generalizing s with
  | nil => exact ⟨h, rfl⟩
  | cons a actions ih =>
    obtain ⟨hact, hhost⟩ := act_holds h a
    obtain ⟨hacts, hhosts⟩ := ih hact
    refine ⟨hacts, ?_⟩
    rw [List.foldl_cons, hhosts, hhost, ← Journal.logAll_append]
    cases hr : a.record? <;> simp [hr]

/-- The hook that is called is put on the list, whatever it does. -/
lemma call_holds (h : s.1.Holds j calls) (hook : Hook) :
    (call j s hook).1.Holds j (calls ++ [(hook, j)]) ∧
    (call j s hook).2 = j.logAll hook.records s.2 := by
  have hstart : ({ s.1 with calls := s.1.calls ++ [(hook, j)] } : Logger).Holds j
      (calls ++ [(hook, j)]) := ⟨h.journal, by rw [h.calls]⟩
  exact acts_hold (s := (_, s.2)) hstart hook.actions

/-- The invariant over all hooks: those called so far are on the list, and what they log is logged
in this order. -/
lemma calls_hold (h : s.1.Holds j calls) (hooks : List Hook) :
    (hooks.foldl (call j) s).1.Holds j (calls ++ hooks.map (·, j)) ∧
    (hooks.foldl (call j) s).2 = j.logAll (hooks.flatMap Hook.records) s.2 := by
  induction hooks generalizing s calls with
  | nil => exact ⟨by simpa using h, rfl⟩
  | cons hook hooks ih =>
    obtain ⟨hcall, hhost⟩ := call_holds h hook
    obtain ⟨hcalls, hhosts⟩ := ih hcall
    refine ⟨by simpa using hcalls, ?_⟩
    rw [List.foldl_cons, hhosts, hhost, ← Journal.logAll_append, List.flatMap_cons]

/-- The first setup opens the log and gives it to the hooks, each of them once and in order. -/
lemma setup_holds (hooks : List Hook) (o : Options) (h : Host) :
    (setup { hooks } o h).1.Holds (Journal.ofOptions o h).1
      (hooks.map (·, (Journal.ofOptions o h).1)) ∧
    (setup { hooks } o h).2 = (Journal.ofOptions o h).1.logAll
      (hooks.flatMap Hook.records ++ [setupRecord o]) (Journal.ofOptions o h).2 := by
  have hopened : ({ hooks, journal := some (Journal.ofOptions o h).1 } : Logger).Holds
      (Journal.ofOptions o h).1 [] := ⟨rfl, rfl⟩
  obtain ⟨hcalls, hhost⟩ := calls_hold (s := (_, (Journal.ofOptions o h).2)) hopened hooks
  refine ⟨hcalls, ?_⟩
  rw [Journal.logAll_append, ← hhost]
  rfl

end Logger

end Log

namespace Command

open Log Settings

/-! ### Calls in any order -/

/-- What is done with the logger of a session and with its settings. -/
inductive LogCall where
  | register (hook : Hook)
  | setup
  /-- Ask what records are given to. -/
  | ask
  /-- Change the settings or the host in any way. -/
  | configure (change : Store × Host → Store × Host)

namespace LogCall

def isAsk : LogCall → Bool
  | ask => true
  | _ => false

def hook? : LogCall → Option Hook
  | register hook => some hook
  | _ => none

/-- The session after a call. -/
def next (s : Session) : LogCall → Session
  | register hook => { s with logger := s.logger.addHook hook }
  | setup => (Job.setupLog.run.run s).2
  | ask => s
  | configure change =>
    { s with store := (change (s.store, s.host)).1, host := (change (s.store, s.host)).2 }

end LogCall

def registered (calls : List LogCall) : List Hook :=
  calls.filterMap LogCall.hook?

namespace Session

/-- The session after calls. -/
def afterCalls (s : Session) (calls : List LogCall) : Session :=
  calls.foldl LogCall.next s

/-- The answers to the calls that ask. -/
def answers (s : Session) : List LogCall → List Sink
  | [] => []
  | c :: calls => (if c.isAsk then [s.logger.sink] else []) ++ (c.next s).answers calls

variable {s : Session} {j : Journal} {called : List (Hook × Journal)} {hooks : List Hook}

lemma afterCalls_append (s : Session) (calls calls' : List LogCall) :
    s.afterCalls (calls ++ calls') = (s.afterCalls calls).afterCalls calls' :=
  List.foldl_append

/-- The later calls are answered by the session after the earlier ones. -/
lemma answers_append (s : Session) (calls calls' : List LogCall) :
    s.answers (calls ++ calls') = s.answers calls ++ (s.afterCalls calls).answers calls' := by
  induction calls generalizing s with
  | nil => rfl
  | cons c calls ih =>
    rw [List.cons_append, answers, answers, ih, List.append_assoc]
    rfl

/-- If the logger gives records to one place throughout, this is every answer. -/
lemma answers_eq_replicate {calls : List LogCall} {sink : Sink}
    (h : ∀ part, part <+: calls → (s.afterCalls part).logger.sink = sink) :
    s.answers calls = List.replicate (calls.countP LogCall.isAsk) sink := by
  induction calls generalizing s with
  | nil => rfl
  | cons c calls ih =>
    have hsink : s.logger.sink = sink := h [] List.nil_prefix
    have hrest : (c.next s).answers calls = _ :=
      ih fun part hpart => h (c :: part) (List.cons_prefix_cons.mpr ⟨rfl, hpart⟩)
    rw [answers, hrest, hsink, List.countP_cons]
    cases c.isAsk <;> simp [List.replicate_succ]

/-! ### Before and after the first setup -/

/-- Before the setup a call changes nothing but the hooks. -/
lemma next_new {c : LogCall} (hlogger : s.logger = { hooks }) (hc : c ≠ .setup) :
    (c.next s).logger = { hooks := hooks ++ c.hook?.toList } := by
  cases c with
  | register hook =>
    rw [LogCall.next, hlogger]
    rfl
  | setup => exact absurd rfl hc
  | ask | configure change => simpa [LogCall.next, LogCall.hook?] using hlogger

/-- As long as the log is not set up, hooks are registered and nothing else happens. -/
lemma afterCalls_new {calls : List LogCall} (hlogger : s.logger = { hooks })
    (hcalls : LogCall.setup ∉ calls) :
    (s.afterCalls calls).logger = { hooks := hooks ++ registered calls } := by
  induction calls generalizing s hooks with
  | nil => simpa [afterCalls, registered] using hlogger
  | cons c calls ih =>
    rw [List.mem_cons, not_or] at hcalls
    have hrest := ih (next_new hlogger (Ne.symm hcalls.1)) hcalls.2
    refine hrest.trans ?_
    cases hc : c.hook? <;> simp [registered, hc]

lemma setup_next (s : Session) : LogCall.setup.next s = { s with
    logger := (s.logger.setup (Logging.options s.store s.host) s.host).1
    host := (s.logger.setup (Logging.options s.store s.host) s.host).2 } := rfl

/-- A setup that is not the first does nothing. -/
lemma setup_next_of_holds (h : s.logger.Holds j called) : LogCall.setup.next s = s := by
  rw [setup_next, h.setup]

lemma next_holds (h : s.logger.Holds j called) (c : LogCall) :
    (c.next s).logger.Holds j called := by
  cases c with
  | register hook => exact h.addHook hook
  | setup => rwa [setup_next_of_holds h]
  | ask | configure change => exact h

/-- Once the log is set up, it stays and no hook is called. -/
lemma afterCalls_holds (h : s.logger.Holds j called) (calls : List LogCall) :
    (s.afterCalls calls).logger.Holds j called := by
  induction calls generalizing s with
  | nil => exact h
  | cons c calls ih => exact ih (next_holds h c)

/-- The log of a new session is set up once, whatever the order of the calls. Before the first setup
records are given to no log and no hook is called. The setup makes a log from the settings of that
moment, and the hooks that are registered by then log to it, in order, before it tells of itself.
From then on records are given to this log, the hooks that have been called are these, each of them
once and with this log, and another setup does nothing. -/
theorem setup_once {before after : List LogCall} (hnew : s.logger = {})
    (hfirst : LogCall.setup ∉ before) : ∃ (j : Journal) (opened : Host),
      j.IsConfigured (s.afterCalls before).store (s.afterCalls before).host opened ∧
      (∀ part, part <+: before →
        (s.afterCalls part).logger.sink = .plain ∧ (s.afterCalls part).logger.calls = []) ∧
      (s.afterCalls (before ++ [.setup])).host = j.logAll
        ((registered before).flatMap Hook.records ++ [Logger.setupRecord
          (Logging.options (s.afterCalls before).store (s.afterCalls before).host)]) opened ∧
      (∀ part, part <+: after →
        (s.afterCalls (before ++ .setup :: part)).logger.sink = .journal j ∧
        (s.afterCalls (before ++ .setup :: part)).logger.calls = (registered before).map (·, j) ∧
        LogCall.setup.next (s.afterCalls (before ++ .setup :: part))
          = s.afterCalls (before ++ .setup :: part)) ∧
      s.answers (before ++ .setup :: after)
        = List.replicate (before.countP LogCall.isAsk) .plain
          ++ List.replicate (after.countP LogCall.isAsk) (.journal j) := by
  set t := s.afterCalls before with ht
  have hplain : ∀ part, part <+: before →
      (s.afterCalls part).logger = { hooks := registered part } :=
    fun part hpart => afterCalls_new hnew fun hmem => hfirst (hpart.subset hmem)
  have hlogger : t.logger = { hooks := registered before } := hplain before List.prefix_rfl
  obtain ⟨hholds, hhost⟩ :=
    Logger.setup_holds (registered before) (Logging.options t.store t.host) t.host
  rw [← hlogger] at hholds hhost
  have hafter : ∀ part, s.afterCalls (before ++ .setup :: part)
      = (LogCall.setup.next t).afterCalls part := by
    intro part
    rw [afterCalls_append, ← ht]
    rfl
  have hset : ∀ part, ((LogCall.setup.next t).afterCalls part).logger.Holds _ _ :=
    afterCalls_holds hholds
  refine ⟨_, _, Journal.isConfigured_ofOptions t.store t.host, ?_, ?_, ?_, ?_⟩
  · intro part hpart
    rw [hplain part hpart]
    exact ⟨rfl, rfl⟩
  · rw [hafter]
    exact hhost
  · intro part _
    rw [hafter]
    exact ⟨(hset part).sink, (hset part).calls, setup_next_of_holds (hset part)⟩
  · have hbefore : s.answers before = _ := answers_eq_replicate fun part hpart => by
      rw [hplain part hpart]
      rfl
    have hlater : t.answers (.setup :: after) = (LogCall.setup.next t).answers after := rfl
    rw [answers_append, hbefore, ← ht, hlater,
      answers_eq_replicate fun part _ => (hset part).sink]

/-- A session in which nothing is done yet. -/
def idle : Session where
  documents := .memory []
  host := { env := [], folder := .ofFiles "/d" [] }

def setting (name value : Text) : LogCall :=
  .configure fun s => (s.1, s.2.setVariable name (some value))

/-- A hook that registers another one. -/
def outerHook : Hook :=
  ⟨"outer", [.register "inner" [], .logThrough { level := .debug, message := "outer" }]⟩

/-- Calls before the first setup, which ask for a log in a file. -/
def earlyCalls : List LogCall :=
  [.ask, .register outerHook, setting "CQL_LOG_LEVEL" "Debug", .register ⟨"second", []⟩,
    setting "CQL_LOG_OUTPUT" "app.log", .ask]

/-- Calls after the first setup, which try to undo it. -/
def lateCalls : List LogCall :=
  [.register ⟨"late", []⟩, setting "CQL_LOG_LEVEL" "error", setting "CQL_LOG_OUTPUT" "stdout",
    .setup, .ask]

theorem setup_once_in_file : idle.logger = {} ∧ LogCall.setup ∉ earlyCalls ∧
    ∃ j : Journal, j.level = .debug ∧ j.format = .text ∧ j.destination = .file "app.log" ∧
      (idle.afterCalls (earlyCalls ++ .setup :: lateCalls)).host.folder.read "app.log"
        = .ok ("level=DEBUG msg=outer\nlevel=DEBUG msg=\"logging initialized\" level=Debug " ++
            "format=text output=app.log\n") ∧
      (idle.afterCalls (earlyCalls ++ .setup :: lateCalls)).logger.calls
        = [(outerHook, j), (⟨"second", []⟩, j)] ∧
      idle.answers (earlyCalls ++ .setup :: lateCalls) = [.plain, .plain, .journal j] := by
  have hfirst : LogCall.setup ∉ earlyCalls := by simp [earlyCalls, setting]
  obtain ⟨j, opened, hj, -, -, hlate, hanswers⟩ := @setup_once idle earlyCalls lateCalls rfl hfirst
  refine ⟨rfl, hfirst, j, ?_, ?_, ?_, ?_, (hlate lateCalls List.prefix_rfl).2.1, hanswers⟩
  · rw [Level.isNamed_iff.mp hj.level]
    rfl
  · rw [hj.format]
    rfl
  · refine (congrArg Prod.fst (Journal.opens_iff.mp hj.destination)).symm.trans ?_
    rfl
  · decide +kernel

end Session

end Command

end CqlWriter
