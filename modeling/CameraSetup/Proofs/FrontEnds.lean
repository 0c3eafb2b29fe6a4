import CameraSetup.Proofs.ModuleArguments.Written
import CameraSetup.Proofs.Overlay.Grouping
import CameraSetup.Proofs.PortSpelling
import CameraSetup.Session

/-! The two front ends. What a session saves can be asked for without one, by arguments. With all
overlays installed the outcome is the same, as there is nothing to skip. With one missing, a session
skips ports, while arguments come to nothing. -/

namespace CameraSetup

/-! ### Missing overlays -/

namespace OverlayName

variable {installed : String → Bool} {overlays : List OverlayName}

theorem check_abort_of_missing (missing : ∃ o ∈ overlays, installed o.name = false) :
    ∃ o ∈ overlays, installed o.name = false ∧
      check installed .abort overlays = .error o.absence := by
  rw [check_abort]
  cases filtered : absent installed overlays with
  | nil =>
    obtain ⟨o, mem, gone⟩ := missing
    rw [absent_eq_nil_iff.mp filtered o mem] at gone
    cases gone
  | cons first rest =>
    have inside : first ∈ absent installed overlays := by
      rw [filtered]
      exact List.mem_cons_self
    obtain ⟨mem, gone⟩ := List.mem_filter.mp inside
    exact ⟨first, mem, by simpa using gone, rfl⟩

end OverlayName

namespace Commit

variable {circumstances : Circumstances} {tree : FileTree} {settings : Settings} {scanDir : String}
  {connector : Connector} {selection : Selection}

theorem run_of_installed (all : ∀ o ∈ selection.overlays connector,
      OverlayScan.isInstalled tree scanDir o.name = true) (policy policy' : MissingPolicy)
    (dryRun : Bool) : run circumstances tree settings scanDir connector selection policy dryRun =
      run circumstances tree settings scanDir connector selection policy' dryRun := by
  have same : checked tree settings scanDir connector selection policy =
      checked tree settings scanDir connector selection policy' := by
    rw [checked, checked, OverlayName.check_of_installed all, OverlayName.check_of_installed all]
  simp only [run, plan, same]

theorem run_abort_of_missing (some : selection.isEmpty = false)
    (missing : ∃ o ∈ selection.overlays connector,
      OverlayScan.isInstalled tree scanDir o.name = false) (dryRun : Bool) :
    ∃ o ∈ selection.overlays connector, OverlayScan.isInstalled tree scanDir o.name = false ∧
      run circumstances tree settings scanDir connector selection .abort dryRun =
        (tree, .error (.missingOverlay settings.overlayDir o.absence)) := by
  obtain ⟨o, mem, absent, refused⟩ := OverlayName.check_abort_of_missing missing
  refine ⟨o, mem, absent, ?_⟩
  simp only [run, some, plan, checked, refused]
  rfl

end Commit

/-! ### Selections of a session -/

theorem Selection.OfferedBy.isWritable {s : Selection} {connector : Connector}
    {descriptors : List String} {t : Topology}
    (built : Topology.ofDescriptors connector descriptors = .ok t) (h : s.OfferedBy t) :
    s.IsWritable := by
  obtain ⟨describes, -⟩ := Topology.describes_of_ofDescriptors built
  refine ⟨?_, fun e mem => ?_⟩
  · have named := (describes.boards _).mp h.board
    obtain ⟨raw, -, read⟩ := List.mem_filterMap.mp named
    exact Descriptor.isWorded_of_parse? read
  · have found := SortedMap.get?_eq_some_iff.mpr mem
    obtain ⟨-, lane, -⟩ := (describes.offers _ _ _).mp (h.setups e.1 e.2 found)
    obtain ⟨raw, -, read⟩ := List.mem_filterMap.mp lane
    exact ⟨Descriptor.isWorded_of_parse? read, Descriptor.isLaneCount_of_parse? read⟩

namespace Session

variable {settings : Settings} {scan : OverlayScan} {dryRun : Bool} {session : Session}

theorem exists_of_start (h : start settings scan dryRun = .ok session) :
    ∃ connector descriptors t, scan.connector = .ok connector ∧
      scan.descriptors = .ok descriptors ∧ Topology.ofDescriptors connector descriptors = .ok t ∧
      session = ⟨.start t settings.pageCapacity, settings, scan, connector, dryRun⟩ := by
  obtain ⟨connector, found, h⟩ := bind_eq_ok.mp h
  obtain ⟨descriptors, named, h⟩ := bind_eq_ok.mp h
  obtain ⟨t, built, h⟩ := bind_eq_ok.mp h
  cases pure_eq_ok.mp h
  exact ⟨connector, descriptors, t, found, named, mapError_eq_ok.mp built, rfl⟩

theorem start_eq_ok (h : start settings scan dryRun = .ok session) :
    ∃ connector descriptors t, scan.connector = .ok connector ∧
      Topology.ofDescriptors connector descriptors = .ok t ∧
      session = ⟨.start t settings.pageCapacity, settings, scan, connector, dryRun⟩ := by
  obtain ⟨connector, descriptors, t, found, -, built, same⟩ := exists_of_start h
  exact ⟨connector, descriptors, t, found, built, same⟩

/-- The report that a session ended with. -/
def Exit.report? : Exit → Option Commit.Report
  | .quit => none
  | .saved report | .reboot report => some report

/-- What a save leaves and ends with is what an unattended run leaves and ends with. -/
structure Pressed.Matches (pressed : Pressed) (applied : Unattended.Applied) : Prop where
  tree : pressed.tree = applied.tree
  result : ∃ message exit, pressed.progress = .ended message exit ∧
    exit.map Exit.report? = applied.result.map some

theorem save_matches {circumstances : Circumstances} {tree : FileTree}
    {request : Wizard.SaveRequest} {applied : Unattended.Applied}
    (same : (applied.tree, applied.result) =
      Commit.run circumstances tree session.settings session.scan.dir session.connector
        request.selection .skipPort session.dryRun) :
    (session.save circumstances tree request).Matches applied := by
  unfold save
  rw [← same]
  cases ended : applied.result with
  | error cause => exact ⟨rfl, none, .error cause, rfl, by rw [ended]; rfl⟩
  | ok report =>
    refine ⟨rfl, _, _, rfl, ?_⟩
    rw [ended]
    cases session.grantsReboot request report <;> rfl

end Session

namespace Unattended

open Descriptor (isWordOf)

variable {settings : Settings} {scan : OverlayScan} {dryRun : Bool} {connector : Connector}
  {s : Selection} {arguments : List String}

theorem apply_of_selection (circumstances : Circumstances) (tree : FileTree) (settings : Settings)
    (dryRun : Bool) (named : ModuleArgument.selection arguments = .ok s)
    (found : scan.connector = .ok connector) :
    ((apply circumstances tree settings scan dryRun arguments).tree,
      (apply circumstances tree settings scan dryRun arguments).result) =
        Commit.run circumstances tree settings scan.dir connector s .abort dryRun := by
  simp only [apply, named, found, mapError_ok, bind, Except.bind, pure, Except.pure]
  cases Commit.run circumstances tree settings scan.dir connector s .abort dryRun with
  | mk left result => cases result <;> rfl

/-- Whatever a session's wizard hands out with each port once can be asked for by arguments in any
order. What the write meets is the same on both sides. -/
theorem apply_of_handed {session : Session} {steps : List Wizard.Step} {step : Wizard.Step}
    {request : Wizard.SaveRequest} {tag : String}
    (started : Session.start settings scan dryRun = .ok session)
    (handed : ((session.wizard.after steps).step step).2 = .ok (.commit request))
    (once : request.selection.OncePerPort) (htag : isWordOf Char.isAlphanum tag.toList = true)
    (perm : arguments.Perm (request.selection.arguments tag)) (circumstances : Circumstances)
    (tree : FileTree) :
    ((∀ o ∈ request.selection.overlays session.connector,
        OverlayScan.isInstalled tree scan.dir o.name = true) →
      ((apply circumstances tree settings scan dryRun arguments).tree,
        (apply circumstances tree settings scan dryRun arguments).result) =
          Commit.run circumstances tree settings scan.dir session.connector request.selection
            .skipPort dryRun ∧
      (session.save circumstances tree request).Matches
        (apply circumstances tree settings scan dryRun arguments)) ∧
    ((∃ o ∈ request.selection.overlays session.connector,
        OverlayScan.isInstalled tree scan.dir o.name = false) →
      ∃ o ∈ request.selection.overlays session.connector,
        OverlayScan.isInstalled tree scan.dir o.name = false ∧
        (apply circumstances tree settings scan dryRun arguments).tree = tree ∧
        (apply circumstances tree settings scan dryRun arguments).result =
          .error (.missingOverlay settings.overlayDir o.absence)) := by
  obtain ⟨connector, descriptors, t, found, built, rfl⟩ := Session.start_eq_ok started
  have invariant := (Wizard.invariant_start t settings.pageCapacity).after steps
  have offered := invariant.selection _ (Wizard.selection_of_step handed)
  have named := ModuleArgument.selection_of_perm htag (offered.isWritable built) offered.nonempty
    once perm
  have applied := apply_of_selection circumstances tree settings dryRun named found
  refine ⟨fun all => ?_, fun missing => ?_⟩
  · have same := applied.trans (Commit.run_of_installed all .abort .skipPort dryRun)
    exact ⟨same, Session.save_matches same⟩
  · obtain ⟨o, mem, absent, refused⟩ := Commit.run_abort_of_missing offered.nonempty missing dryRun
    have outcome := applied.trans refused
    exact ⟨o, mem, absent, congrArg Prod.fst outcome, congrArg Prod.snd outcome⟩

/-- With sensors called FPA and GMSL on two ports, one of them with a link booster, the arguments in
reverse come to what the session comes to, and to nothing when the link booster has no overlay. -/
theorem apply_of_handed_reversed : ∃ (settings : Settings) (scan : OverlayScan) (session : Session)
    (steps : List Wizard.Step) (request : Wizard.SaveRequest) (full lacking : FileTree),
    Session.start settings scan false = .ok session ∧
    ((session.wizard.after steps).step (.action .saveOnly)).2 = .ok (.commit request) ∧
    ["x1 GMSL-P1-2Lane", "x1 FPA-P0-4Lane-GMSL", "x1 FPA-1.2"].Perm
      (request.selection.arguments "x1") ∧
    (session.save .plain full request).Matches (apply .plain full settings scan false
      ["x1 GMSL-P1-2Lane", "x1 FPA-P0-4Lane-GMSL", "x1 FPA-1.2"]) ∧
    (apply .plain full settings scan false ["x1 GMSL-P1-2Lane", "x1 FPA-P0-4Lane-GMSL",
      "x1 FPA-1.2"]).result.toOption.map (·.overlays.length) = some 4 ∧
    (apply .plain lacking settings scan false
      ["x1 GMSL-P1-2Lane", "x1 FPA-P0-4Lane-GMSL", "x1 FPA-1.2"]).tree = lacking := by
  let settings : Settings := { Settings.standard with
    bootConfig := "/e", overlayDir := "/d", dtbDir := "/b" }
  let named (name : String) : InstalledOverlay :=
    ⟨name, ⟨some name, some Connector.wide.headerName, []⟩⟩
  let scan : OverlayScan := ⟨"/d", ["T FPA-1.2", "T FPA-P0-4Lane", "T GMSL-P0",
    "T GMSL-P1-2Lane"].map named⟩
  let selection : Selection := ⟨⟨"1.2"⟩,
    .ofList [("P0", ⟨"FPA", 4, .present⟩), ("P1", ⟨"GMSL", 2, .absent⟩)]⟩
  let lacking : FileTree := ((((((FileTree.empty.put ["d"] .directory).put
    ["d", "tegra234-p3737-camera-fr_fpa_12-overlay.dtbo"] (.file ⟨0o644, []⟩)).put
    ["d", "tegra234-p3737-camera-fr_fpa-p0-4lane-overlay.dtbo"] (.file ⟨0o644, []⟩)).put
    ["d", "tegra234-p3737-camera-fr_gmsl-p1-2lane-overlay.dtbo"] (.file ⟨0o644, []⟩)).put
    ["b"] .directory).put ["b", "x.dtb"] (.file ⟨0o644, []⟩)).put
    ["e"] (.file ⟨0o640, Text.encodeUtf8 "MENU LABEL primary kernel\n"⟩)
  let full : FileTree := lacking.put
    ["d", "tegra234-p3737-camera-fr_p0-gmsl-overlay.dtbo"] (.file ⟨0o644, []⟩)
  have run : ∃ session request, Session.start settings scan false = .ok session ∧
      ((session.wizard.after (Wizard.stepsFor selection)).step (.action .saveOnly)).2 =
        .ok (.commit request) ∧ session.connector = .wide ∧ request.selection = selection := by
    have offered : (Session.start settings scan false).toOption.map (fun session =>
        (session.connector, ((session.wizard.after (Wizard.stepsFor selection)).step
          (.action .saveOnly)).2)) = some (.wide, .ok (.commit ⟨selection, false⟩)) := by
      decide +kernel
    cases started : Session.start settings scan false with
    | error cause =>
      rw [started] at offered
      cases offered
    | ok session =>
      rw [started] at offered
      obtain ⟨wide, handed⟩ := Prod.mk.inj (Option.some.inj offered)
      exact ⟨session, _, rfl, handed, wide, rfl⟩
  obtain ⟨session, request, started, handed, wide, same⟩ := run
  have once : request.selection.OncePerPort := by
    rw [same, Selection.OncePerPort]
    decide
  have perm : ["x1 GMSL-P1-2Lane", "x1 FPA-P0-4Lane-GMSL", "x1 FPA-1.2"].Perm
      (request.selection.arguments "x1") := by
    rw [same]
    decide
  have outcome := apply_of_handed started handed once (by decide) perm .plain
  have all : ∀ o ∈ request.selection.overlays session.connector,
      OverlayScan.isInstalled full scan.dir o.name = true := by
    rw [same, wide]
    decide +kernel
  have missing : ∃ o ∈ request.selection.overlays session.connector,
      OverlayScan.isInstalled lacking scan.dir o.name = false := by
    rw [same, wide]
    decide +kernel
  obtain ⟨_, -, -, untouched, -⟩ := (outcome lacking).2 missing
  exact ⟨settings, scan, session, _, request, full, lacking, started, handed, perm,
    ((outcome full).1 all).2, by decide +kernel, untouched⟩

end Unattended

end CameraSetup
