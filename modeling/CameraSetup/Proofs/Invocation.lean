import CameraSetup.Invocation
import CameraSetup.Proofs.Commit.Atomicity
import CameraSetup.Proofs.FrontEnds
import CameraSetup.Proofs.Options

/-! What an invocation without a session does to the files, and what it prints. One that fails
changes nothing and prints nothing. One that succeeds changes at most the boot configuration, and
only where it applies modules and is no dry run. What a dry run prints starts with the text that the
same invocation writes when it is none. -/

namespace CameraSetup

theorem OverlayName.check_abort_ok {installed : String → Bool} {overlays : List OverlayName}
    {checked : CheckedOverlays} (h : check installed .abort overlays = .ok checked) :
    checked = ⟨overlays, []⟩ := by
  rw [check_abort] at h
  split at h
  · cases h
    rfl
  · cases h

theorem Commit.skipped_of_abort {tree : FileTree} {settings : Settings} {scanDir : String}
    {connector : Connector} {selection : Selection} {p : Plan}
    (h : plan tree settings scanDir connector selection .abort = .ok p) : p.skipped = [] := by
  unfold plan at h
  obtain ⟨checked, verified, h⟩ := bind_eq_ok.mp h
  obtain ⟨current, -, h⟩ := bind_eq_ok.mp h
  obtain ⟨updated, -, h⟩ := bind_eq_ok.mp h
  cases pure_eq_ok.mp h
  exact congrArg CheckedOverlays.skipped
    (OverlayName.check_abort_ok (mapError_eq_ok.mp verified))

namespace Unattended

/-! ### Applying modules -/

open Commit (Order Site)

variable {c : Circumstances} {tree : FileTree} {settings : Settings} {scan : OverlayScan}
  {dryRun : Bool} {modules : List String} {report : Commit.Report}

/-- Modules are applied by one commit, or not at all. -/
theorem apply_cases (c : Circumstances) (tree : FileTree) (settings : Settings)
    (scan : OverlayScan) (dryRun : Bool) (modules : List String) :
    (∃ cause, apply c tree settings scan dryRun modules = ⟨tree, "", .error cause⟩) ∨
    ∃ s connector report, ModuleArgument.selection modules = .ok s ∧
      scan.connector = .ok connector ∧
      (Site.mk settings scan.dir connector).carryOut tree ⟨s, .abort, dryRun, c⟩ =
        ((apply c tree settings scan dryRun modules).tree, .ok report) ∧
      (apply c tree settings scan dryRun modules).result = .ok report ∧
      (apply c tree settings scan dryRun modules).output = printed report := by
  cases named : ModuleArgument.selection modules with
  | error cause =>
    refine .inl ⟨.argument cause, ?_⟩
    simp only [apply, named]
    rfl
  | ok s =>
    cases found : scan.connector with
    | error cause =>
      refine .inl ⟨cause, ?_⟩
      simp only [apply, named, found]
      rfl
    | ok connector =>
      cases out : Commit.run c tree settings scan.dir connector s .abort dryRun with
      | mk left result =>
        have carried : (Site.mk settings scan.dir connector).carryOut tree
          ⟨s, .abort, dryRun, c⟩ = (left, result) := out
        cases result with
        | error cause =>
          have applied : apply c tree settings scan dryRun modules = ⟨left, "", .error cause⟩ := by
            simp only [apply, named, found, mapError_ok, bind, Except.bind, pure, Except.pure, out]
          have kept := Commit.carryOut_unchanged (.inl ⟨cause, congrArg Prod.snd carried⟩)
          rw [carried] at kept
          have same : left = tree := kept
          exact .inl ⟨cause, by rw [applied, same]⟩
        | ok report =>
          have applied : apply c tree settings scan dryRun modules =
              ⟨left, printed report, .ok report⟩ := by
            simp only [apply, named, found, mapError_ok, bind, Except.bind, pure, Except.pure, out]
          rw [applied]
          exact .inr ⟨s, connector, report, rfl, rfl, carried, rfl, rfl⟩

theorem apply_error {cause : SetupError}
    (h : (apply c tree settings scan dryRun modules).result = .error cause) :
    (apply c tree settings scan dryRun modules).tree = tree := by
  rcases apply_cases c tree settings scan dryRun modules with
    ⟨_, out⟩ | ⟨_, _, report, -, -, -, ok, -⟩
  · rw [out]
  · rw [h] at ok
    cases ok

/-- The operator is told that the boot configuration is changed and has to be booted. -/
def updatedNotice (bootConfig : String) : String := block [s!"{bootConfig} updated.", rebootNotice]

theorem apply_dryRun_false
    (h : (apply c tree settings scan false modules).result = .ok report) :
    FileTree.Frame settings.bootConfig tree (apply c tree settings scan false modules).tree ∧
      (apply c tree settings scan false modules).output = updatedNotice settings.bootConfig := by
  rcases apply_cases c tree settings scan false modules with
    ⟨_, out⟩ | ⟨s, connector, report', named, -, out, ok, output⟩
  · rw [out] at h
    cases h
  · have framed := Commit.frame_carryOut ⟨settings, scan.dir, connector⟩ tree
      ⟨s, .abort, false, c⟩
    rw [out] at framed
    refine ⟨framed, ?_⟩
    obtain ⟨idle, -⟩ | ⟨-, p, _, _, planned, -, rfl, -⟩ :=
      Commit.carryOut_ok (congrArg Prod.snd out)
    · rw [ModuleArgument.isEmpty_of_selection named] at idle
      cases idle
    · rw [output, printed, Commit.Report.notices, Commit.Plan.report,
        Commit.skipped_of_abort planned]
      rfl

/-- A dry run changes no file and prints first what the same commit writes, if its write succeeds. -/
theorem apply_dryRun_true (h : (apply c tree settings scan true modules).result = .ok report) :
    (apply c tree settings scan true modules).tree = tree ∧
    ∃ text, (apply c tree settings scan true modules).output =
        text ++ block [s!"Dry run: {settings.bootConfig} not modified."] ∧
      ∀ c' report', (apply c' tree settings scan false modules).result = .ok report' →
        (apply c' tree settings scan false modules).tree.readText settings.bootConfig =
          .ok text := by
  rcases apply_cases c tree settings scan true modules with
    ⟨_, out⟩ | ⟨s, connector, report', named, found, out, ok, output⟩
  · rw [out] at h
    cases h
  · have kept := @Commit.carryOut_unchanged ⟨settings, scan.dir, connector⟩ tree
      ⟨s, .abort, true, c⟩ (.inr (.inl rfl))
    rw [out] at kept
    refine ⟨kept, ?_⟩
    have ok' := congrArg Prod.snd out
    obtain ⟨idle, -⟩ | ⟨-, p, _, _, planned, -, rfl, -⟩ := Commit.carryOut_ok ok'
    · rw [ModuleArgument.isEmpty_of_selection named] at idle
      cases idle
    · refine ⟨p.updated, ?_, fun c' wet succeeded => ?_⟩
      · rw [output, printed, Commit.Report.notices, Commit.Plan.report,
          Commit.skipped_of_abort planned]
        rfl
      · have same := apply_of_selection c' tree settings false named found
        have writes := Commit.carryOut_rehearsed ok' rfl c'
        rcases writes.outcome with ⟨_, -, -, left⟩ | ⟨cause, failed, -⟩
        · exact (congrArg (·.1.readText settings.bootConfig) same).trans left
        · have refused := (congrArg Prod.snd same).trans (congrArg Prod.snd failed)
          cases succeeded.symm.trans refused

end Unattended

namespace Invocation

/-! ### One invocation -/

variable {load : String → Except Settings.Error Settings} {around : Surroundings}
  {arguments modules : List String} {options : Options} {settings : Settings} {scan : OverlayScan}
  {ended actual : Ended}

theorem mode_eq_apply_iff : options.mode = .apply modules ↔ options.modules = some modules := by
  unfold Options.mode
  split
  · next known => rw [known, Mode.apply.injEq, Option.some.injEq]
  · next unknown =>
    rw [unknown]
    split <;> simp

/-- The ways in which an invocation without a session ends. Only where it applies modules can it
leave other files than it found. -/
inductive Ends (load : String → Except Settings.Error Settings) (around : Surroundings)
    (arguments : List String) : Ended → Prop
  | failed {code : Nat} {errors : String} (fault : code ≠ 0) :
      Ends load around arguments ⟨code, "", errors, around.tree⟩
  | idle {output : String} (other : ∀ options modules, Options.parse arguments = .ok options →
      options.modules ≠ some modules) :
      Ends load around arguments ⟨0, output, "", around.tree⟩
  | applied {options : Options} {modules : List String} {settings : Settings} {scan : OverlayScan}
      {report : Commit.Report} (parsed : Options.parse arguments = .ok options)
      (applies : options.modules = some modules)
      (loaded : Invocation.settings load options = .ok settings)
      (scanned : OverlayScan.load around.tree settings = .ok scan)
      (done : (applied around options settings scan modules).result = .ok report) :
      Ends load around arguments
        ⟨0, (applied around options settings scan modules).output, "",
          (applied around options settings scan modules).tree⟩

theorem ends_of_misuse {cause : UsageError} (parsed : Options.parse arguments = .error cause) :
    ∃ ended, misuse around.tree cause = .ended ended ∧ Ends load around arguments ended := by
  have other : ∀ options modules, Options.parse arguments = .ok options →
      options.modules ≠ some modules := by
    intro options modules ok
    rw [parsed] at ok
    cases ok
  cases cause with
  | helpRequested | versionRequested => exact ⟨_, rfl, .idle other⟩
  | invalidValue | unknownArgument | argumentConflict | tooManyValues =>
    exact ⟨_, rfl, .failed (by decide)⟩

theorem ends_of_dispatch (parsed : Options.parse arguments = .ok options)
    (loaded : Invocation.settings load options = .ok settings)
    (scanned : OverlayScan.load around.tree settings = .ok scan)
    (unattended : options.mode ≠ .interactive) :
    (∃ cause, dispatch around options settings scan = .error cause) ∨
    ∃ ended, dispatch around options settings scan = .ok (.ended ended) ∧
      Ends load around arguments ended := by
  unfold dispatch
  cases asked : options.mode with
  | interactive => exact absurd asked unattended
  | list =>
    have other : ∀ options' modules, Options.parse arguments = .ok options' →
        options'.modules ≠ some modules := by
      intro options' modules ok applies
      rw [parsed] at ok
      cases ok
      rw [mode_eq_apply_iff.mpr applies] at asked
      cases asked
    dsimp only
    cases Unattended.listing scan with
    | error cause => exact .inl ⟨_, rfl⟩
    | ok output => exact .inr ⟨_, rfl, .idle other⟩
  | apply modules =>
    have applies := mode_eq_apply_iff.mp asked
    dsimp only
    cases ready around settings options.dryRun with
    | error cause => exact .inl ⟨cause, rfl⟩
    | ok =>
      refine .inr ?_
      cases result : (applied around options settings scan modules).result with
      | error cause =>
        have left : (applied around options settings scan modules).tree = around.tree :=
          Unattended.apply_error result
        refine ⟨failed around.tree (.setup cause), ?_, .failed (by decide)⟩
        rw [left]
        rfl
      | ok report => exact ⟨_, rfl, .applied parsed applies loaded scanned result⟩

/-- An invocation whose arguments ask for no session ends. -/
theorem exists_ends (load : String → Except Settings.Error Settings) (around : Surroundings)
    (unattended : ∀ options, Options.parse arguments = .ok options →
      options.mode ≠ .interactive) :
    ∃ ended, run load around arguments = .ended ended ∧ Ends load around arguments ended := by
  unfold run
  cases parsed : Options.parse arguments with
  | error cause => exact ends_of_misuse parsed
  | ok options =>
    -- Only a session logs to a file.
    have kept : ∀ settings, logging around settings options.mode = around := by
      intro settings
      cases asked : options.mode with
      | interactive => exact absurd asked (unattended options parsed)
      | list | apply => rfl
    dsimp only
    cases loaded : Invocation.settings load options with
    | error cause => exact ⟨_, rfl, .failed (by decide)⟩
    | ok settings =>
      dsimp only
      rw [kept, scanAndRun]
      cases scanned : OverlayScan.load around.tree settings with
      | error cause => exact ⟨_, rfl, .failed (by decide)⟩
      | ok scan =>
        rcases ends_of_dispatch parsed loaded scanned (unattended options parsed) with
          ⟨cause, refused⟩ | ⟨ended, done, ends⟩
        · refine ⟨failed around.tree cause, ?_, .failed (by decide)⟩
          simp only [mapError_ok, bind, Except.bind, refused]
          rfl
        · refine ⟨ended, ?_, ends⟩
          simp only [mapError_ok, bind, Except.bind, done]

/-- What holds of the end of an invocation without a session. -/
structure Tidy (load : String → Except Settings.Error Settings) (around : Surroundings)
    (arguments : List String) (ended : Ended) : Prop where
  failed : ended.code ≠ 0 → ended.tree = around.tree ∧ ended.output = ""
  changed : ended.code = 0 → ended.tree ≠ around.tree → "--dry-run" ∉ arguments ∧
    ∃ options modules settings, Options.parse arguments = .ok options ∧
      options.modules = some modules ∧ Invocation.settings load options = .ok settings ∧
      FileTree.Frame settings.bootConfig around.tree ended.tree ∧
      ended.output = Unattended.updatedNotice settings.bootConfig

theorem Ends.tidy (h : Ends load around arguments ended) : Tidy load around arguments ended := by
  cases h with
  | failed fault => exact ⟨fun _ => ⟨rfl, rfl⟩, fun fine => absurd fine fault⟩
  | idle other => exact ⟨fun fault => absurd rfl fault, fun _ changed => absurd rfl changed⟩
  | @applied options modules settings scan report parsed applies loaded scanned done =>
    unfold Invocation.applied at done ⊢
    refine ⟨fun fault => absurd rfl fault, fun _ changed => ?_⟩
    cases dry : options.dryRun with
    | true =>
      rw [dry] at done changed
      exact absurd (Unattended.apply_dryRun_true done).1 changed
    | false =>
      rw [dry] at done
      obtain ⟨framed, output⟩ := Unattended.apply_dryRun_false done
      refine ⟨fun mem => ?_, options, modules, settings, parsed, applies, loaded, framed, output⟩
      rw [(Options.parse_flag parsed).1.mpr mem] at dry
      cases dry

theorem Ends.of_modules (h : Ends load around arguments ended) (fine : ended.code = 0)
    (parsed : Options.parse arguments = .ok options) (applies : options.modules = some modules) :
    ∃ settings scan report, Invocation.settings load options = .ok settings ∧
      OverlayScan.load around.tree settings = .ok scan ∧
      (Invocation.applied around options settings scan modules).result = .ok report ∧
      ended.output = (Invocation.applied around options settings scan modules).output ∧
      ended.tree = (Invocation.applied around options settings scan modules).tree := by
  cases h with
  | failed fault => exact absurd fine fault
  | idle other => exact absurd applies (other options modules parsed)
  | @applied options' modules' settings scan report parsed' applies' loaded scanned done =>
    rw [parsed] at parsed'
    cases parsed'
    rw [applies] at applies'
    cases applies'
    exact ⟨settings, scan, report, loaded, scanned, done, rfl, rfl⟩

/-- The surroundings with other circumstances for a write. -/
def withCircumstances (around : Surroundings) (circumstances : Circumstances) : Surroundings :=
  { around with circumstances }

/-- What a dry run prints starts with what the same arguments write without its flag. -/
theorem rehearsed {circumstances : Circumstances} (h : Ends load around arguments ended)
    (fine : ended.code = 0)
    (h' : Ends load (withCircumstances around circumstances)
      (arguments.filter (· ≠ "--dry-run")) actual) (fine' : actual.code = 0)
    (parsed : Options.parse arguments = .ok options) (applies : options.modules = some modules)
    (dry : "--dry-run" ∈ arguments) : ∃ settings text rest,
      Invocation.settings load options = .ok settings ∧
      actual.tree.readText settings.bootConfig = .ok text ∧ ended.output = text ++ rest := by
  obtain ⟨set, parsed'⟩ := Options.parse_flag parsed
  obtain ⟨settings, scan, report, loaded, scanned, done, output, -⟩ :=
    h.of_modules fine parsed applies
  obtain ⟨settings', scan', report', loaded', scanned', done', -, tree⟩ :=
    h'.of_modules fine' parsed' applies
  cases loaded.symm.trans loaded'
  cases scanned.symm.trans scanned'
  unfold applied at done done' output
  rw [set.mpr dry] at done output
  obtain ⟨-, text, printed, left⟩ := Unattended.apply_dryRun_true done
  exact ⟨settings, text, _, loaded, tree ▸ left _ _ done', output.trans printed⟩

/-- An invocation that asks for no session ends. If it fails, also in some step of its write, it
changes nothing and prints nothing; if it does not, it changes at most the boot configuration, only to
apply modules, not in a dry run, and tells the operator. A dry run prints first what the same
invocation without its flag leaves in the boot configuration, whenever both succeed. -/
theorem effects_of_run (load : String → Except Settings.Error Settings) (around : Surroundings)
    (unattended : ∀ options, Options.parse arguments = .ok options →
      options.mode ≠ .interactive) :
    ∃ ended, run load around arguments = .ended ended ∧ Tidy load around arguments ended ∧
      ∀ options modules circumstances actual, Options.parse arguments = .ok options →
        options.modules = some modules → "--dry-run" ∈ arguments → ended.code = 0 →
        run load (withCircumstances around circumstances) (arguments.filter (· ≠ "--dry-run")) =
          .ended actual → actual.code = 0 →
        ∃ settings text rest, Invocation.settings load options = .ok settings ∧
          actual.tree.readText settings.bootConfig = .ok text ∧ ended.output = text ++ rest := by
  obtain ⟨ended, ran, ends⟩ := exists_ends load around unattended
  refine ⟨ended, ran, ends.tidy, ?_⟩
  intro options modules circumstances actual parsed applies dry fine ran' fine'
  have parsed' := (Options.parse_flag parsed).2
  have unattended' : ∀ options',
      Options.parse (arguments.filter (· ≠ "--dry-run")) = .ok options' →
      options'.mode ≠ .interactive := by
    intro options' ok
    rw [parsed'] at ok
    cases ok
    have asked : (options.withDryRun false).mode = .apply modules := mode_eq_apply_iff.mpr applies
    rw [asked]
    nofun
  obtain ⟨actual', ran'', ends'⟩ :=
    exists_ends load (withCircumstances around circumstances) unattended'
  cases ran'.symm.trans ran''
  exact rehearsed ends fine ends' fine' parsed applies dry

/-- A device tree whose root says that it is made for the wide connector. -/
def wideBlob : List UInt8 :=
  [0xd0, 0x0d, 0xfe, 0xed, 0, 0, 0, 115, 0, 0, 0, 40, 0, 0, 0, 96] ++ List.replicate 24 0 ++
    [0, 0, 0, 1, 0, 0, 0, 0, 0, 0, 0, 3, 0, 0, 0, 25, 0, 0, 0, 0] ++
    Text.encodeUtf8 "Jetson AGX CSI Connector" ++ [0, 0, 0, 0, 0, 0, 0, 2, 0, 0, 0, 9] ++
    Text.encodeUtf8 "jetson-header-name" ++ [0]

/-- The exit code of an invocation that ended. -/
def Outcome.code? : Outcome → Option Nat
  | .ended ended => some ended.code
  | .interactive .. => none

theorem exists_of_code? {outcome : Outcome} {code : Nat} (h : outcome.code? = some code) :
    ∃ ended, outcome = .ended ended ∧ ended.code = code := by
  cases outcome with
  | ended ended => exact ⟨ended, rfl, Option.some.inj h⟩
  | interactive => cases h

/-- On a disk that fails when it is synchronised, the same arguments change nothing unless they hold
the flag of a dry run, and then they only show something. On a sound disk they write what was shown. -/
theorem effects_of_run_failed_write : ∃ (load : String → Except Settings.Error Settings)
    (around : Surroundings) (ended failed actual : Ended) (settings : Settings)
    (text rest : String),
    run load around ["-n", "Tag FPA-1", "Tag imx900-P0-4Lane", "--dry-run", "-c", "s.json"] =
      .ended ended ∧
    run load around ["-n", "Tag FPA-1", "Tag imx900-P0-4Lane", "-c", "s.json"] = .ended failed ∧
    run load (withCircumstances around .plain)
      ["-n", "Tag FPA-1", "Tag imx900-P0-4Lane", "-c", "s.json"] = .ended actual ∧
    ended.code = 0 ∧ failed.code = 1 ∧ actual.code = 0 ∧ ended.tree = around.tree ∧
    failed.tree = around.tree ∧ failed.output = "" ∧
    actual.tree.readText settings.bootConfig = .ok text ∧ ended.output = text ++ rest := by
  let load : String → Except Settings.Error Settings := fun _ => .ok
    { Settings.standard with bootConfig := "/e", overlayDir := "/d", dtbDir := "/b" }
  let tree : FileTree := (((FileTree.empty.put ["d"] .directory).put
    ["d", "tegra234-p3737-camera-fr_fpa_1-overlay.dtbo"] (.file ⟨0o644, wideBlob⟩)).put
    ["d", "tegra234-p3737-camera-fr_imx900-p0-4lane-overlay.dtbo"] (.file ⟨0o644, []⟩)).put
    ["e"] (.file ⟨0o640, Text.encodeUtf8 "FDT /b\n"⟩)
  let around : Surroundings := ⟨tree, true, none,
    { Circumstances.plain with syncing := some ⟨5, "Input/output error"⟩ }⟩
  have codes : (run load around
        ["-n", "Tag FPA-1", "Tag imx900-P0-4Lane", "--dry-run", "-c", "s.json"]).code? = some 0 ∧
      (run load around ["-n", "Tag FPA-1", "Tag imx900-P0-4Lane", "-c", "s.json"]).code? = some 1 ∧
      (run load (withCircumstances around .plain)
        ["-n", "Tag FPA-1", "Tag imx900-P0-4Lane", "-c", "s.json"]).code? = some 0 := by
    decide +kernel
  obtain ⟨ended, ran, fine⟩ := exists_of_code? codes.1
  obtain ⟨failed, ranWet, fault⟩ := exists_of_code? codes.2.1
  obtain ⟨actual, ranSound, fine'⟩ := exists_of_code? codes.2.2
  have parsed : Options.parse
        ["-n", "Tag FPA-1", "Tag imx900-P0-4Lane", "--dry-run", "-c", "s.json"] =
        .ok ⟨true, some "s.json", false, some ["Tag FPA-1", "Tag imx900-P0-4Lane"]⟩ ∧
      Options.parse ["-n", "Tag FPA-1", "Tag imx900-P0-4Lane", "-c", "s.json"] =
        .ok ⟨false, some "s.json", false, some ["Tag FPA-1", "Tag imx900-P0-4Lane"]⟩ := by
    decide +kernel
  have unattended : ∀ options, Options.parse
      ["-n", "Tag FPA-1", "Tag imx900-P0-4Lane", "--dry-run", "-c", "s.json"] = .ok options →
      options.mode ≠ .interactive := by
    intro options ok
    rw [parsed.1] at ok
    cases ok
    decide
  have unattended' : ∀ options, Options.parse
      ["-n", "Tag FPA-1", "Tag imx900-P0-4Lane", "-c", "s.json"] = .ok options →
      options.mode ≠ .interactive := by
    intro options ok
    rw [parsed.2] at ok
    cases ok
    decide
  obtain ⟨_, same, tidy, first⟩ := effects_of_run load around unattended
  cases ran.symm.trans same
  obtain ⟨_, same', tidy', -⟩ := effects_of_run load around unattended'
  cases ranWet.symm.trans same'
  obtain ⟨settings, text, rest, -, left, printed⟩ :=
    first _ _ .plain actual parsed.1 rfl (by decide) fine ranSound fine'
  have kept : ended.tree = around.tree := by
    by_contra changed
    exact (tidy.changed fine changed).1 (by decide)
  obtain ⟨kept', silent⟩ := tidy'.failed (by rw [fault]; decide)
  exact ⟨load, around, ended, failed, actual, settings, text, rest, ran, ranWet, ranSound, fine,
    fault, fine', kept, kept', silent, left, printed⟩

end Invocation

end CameraSetup
