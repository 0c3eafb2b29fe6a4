import CameraSetup.Proofs.BootConfig.Listing
import CameraSetup.Proofs.Commit.Atomicity
import CameraSetup.Proofs.Overlay.Check
import CameraSetup.Proofs.Overlay.FileName
import CameraSetup.Proofs.PortSpelling

/-! A commit's report, the boot configuration and the selection agree. What every `OVERLAYS` line
lists is what the report lists: files of the overlay directory, the board's first, then those of the
ports in order. A port is listed with all its overlays, or it is skipped with just those that it
lacks. -/

namespace CameraSetup

/-- The selections that are committed: module arguments name them, or a run of the wizard hands them
out. -/
inductive Selection.Entered : Selection → Prop
  | named {arguments : List String} {s : Selection}
      (named : ModuleArgument.selection arguments = .ok s) : Entered s
  | handed {connector : Connector} {descriptors : List String} {t : Topology} {capacity : Nat}
      {steps : List Wizard.Step} {step : Wizard.Step} {request : Wizard.SaveRequest}
      (built : Topology.ofDescriptors connector descriptors = .ok t)
      (handed : (((Wizard.start t capacity).after steps).step step).2 = .ok (.commit request)) :
      Entered request.selection

theorem Selection.Entered.isWorded {s : Selection} (h : s.Entered) : s.IsWorded := by
  cases h with
  | named named => exact ModuleArgument.isWorded_of_selection named
  | @handed _ _ t capacity steps _ _ built handed =>
    have invariant := (Wizard.invariant_start t capacity).after steps
    have offered := invariant.selection _ (Wizard.selection_of_step handed)
    refine offered.isWorded (Topology.describes_of_ofDescriptors built).1 fun d mem => ?_
    obtain ⟨raw, -, read⟩ := List.mem_filterMap.mp mem
    exact Descriptor.isWorded_of_parse? read

namespace Commit

open BootConfig (baseKeyword overlaysKeyword hasKeyword listed IsItem)
open OverlayName (ofBoard ofPort lacking)

/-- The scan is of the overlay directory, whose path can be told apart in a list, and the base
device trees have paths without line ends. -/
structure Site.IsTidy (site : Site) (tree : FileTree) : Prop where
  scanned : site.scanDir = site.settings.overlayDir
  overlayDir : ∀ c ∈ site.settings.overlayDir.toList, c ≠ ',' ∧ Text.isBlank c = false
  dtbDir : IsInline site.settings.dtbDir
  dtbs : ∀ names, tree.list site.settings.dtbDir = .ok names → ∀ name ∈ names, IsInline name

/-- The text that an order comes to: what is written, or what a dry run shows. -/
def Site.ComesTo (site : Site) (tree : FileTree) (order : Order) (report : Report)
    (text : String) : Prop :=
  if order.dryRun then report.rendered = some text
  else (site.carryOut tree order).1.readText site.settings.bootConfig = .ok text

/-- Whether an overlay is in the overlay directory. -/
def Site.has (site : Site) (tree : FileTree) (name : String) : Bool :=
  tree.isFile (site.settings.pathOf name)

/-- The report of an order, the text that the order comes to and the selection agree. -/
structure Site.Agrees (site : Site) (tree : FileTree) (order : Order) (report : Report)
    (text : String) : Prop where
  based : (BootConfig.parse text).mentions baseKeyword = true
  lists : (BootConfig.parse text).mentions overlaysKeyword = true
  listed : ∀ line ∈ (BootConfig.parse text).lines, hasKeyword overlaysKeyword line = true →
    listed line = report.overlays
  overlays : report.overlays =
    site.settings.pathOf (ofBoard site.connector order.selection.board) ::
      ((order.selection.equipped site.connector (site.has tree)).flatMap fun e =>
        ofPort site.connector e.1 e.2).map fun o => site.settings.pathOf o.name
  files : ∀ path ∈ report.overlays,
    (site.carryOut tree order).1.LiesIn site.settings.overlayDir path
  skipped : report.skipped = order.selection.unequipped site.connector (site.has tree)
  ports : ∀ port setup, order.selection.get? port = some setup →
    ((∀ o ∈ ofPort site.connector port setup, site.settings.pathOf o.name ∈ report.overlays) ∧
      ∀ skip ∈ report.skipped, skip.port ≠ port) ∨
    ((∃ o ∈ ofPort site.connector port setup, site.settings.pathOf o.name ∉ report.overlays) ∧
      report.skipped.filter (fun skip => skip.port = port) =
        [⟨port, (lacking (site.has tree) site.connector port setup).map (·.name)⟩])

variable {site : Site} {tree : FileTree} {order : Order} {report : Report}

theorem Site.IsTidy.isInline_base (tidy : site.IsTidy tree) {path : String}
    (h : baseDeviceTree tree site.settings.dtbDir = .ok path) : IsInline path := by
  obtain ⟨names, listing, h⟩ := bind_eq_ok.mp h
  split at h
  · exact absurd h throw_ne_ok
  · next found =>
    cases pure_eq_ok.mp h
    obtain ⟨name, mem, rfl⟩ := List.mem_map.mp (List.mem_of_find?_eq_some found)
    have inline := tidy.dtbs names (mapError_eq_ok.mp listing) name mem
    have free : ∀ c, c ≠ '/' → c ∉ site.settings.dtbDir.toList → c ∉ name.toList →
        c ∉ (Path.join site.settings.dtbDir name).toList := fun c other dir name mem =>
      (Path.mem_of_mem_join mem).elim dir fun rest => rest.elim other name
    exact ⟨free _ (by decide) tidy.dtbDir.1 inline.1, free _ (by decide) tidy.dtbDir.2 inline.2⟩

/-- The path of an overlay can be told apart in a list. -/
theorem Site.IsTidy.isItem_pathOf (tidy : site.IsTidy tree) {name : String}
    (h : OverlayName.IsFileName name) : IsItem (site.settings.pathOf name) := by
  refine ⟨fun empty => ?_, fun c mem => ?_⟩
  · have names := Path.names_join h.proper.1 h.slash_not_mem site.settings.overlayDir
    rw [show Path.join site.settings.overlayDir name = "" from empty] at names
    exact List.append_ne_nil_of_right_ne_nil _ (List.cons_ne_nil name []) names.symm
  · rcases Path.mem_of_mem_join mem with mem | rfl | mem
    · exact tidy.overlayDir c mem
    · decide
    · exact (Text.plain_of_isFileNameChar (h.chars c mem)).2

theorem liesIn_carryOut {dir path : String} (h : tree.LiesIn dir path) :
    (site.carryOut tree order).1.LiesIn dir path := by
  have frame := frame_carryOut site tree order
  refine h.mono (fun l directory => ?_) fun l file present => ?_
  · rcases frame.nodes l with same | ⟨file, content, -, present, -⟩
    · rw [same, directory]
    · rw [present] at directory
      cases directory
  · rcases frame.nodes l with same | ⟨_, content, -, -, written⟩
    · exact ⟨file, same.trans present⟩
    · exact ⟨_, written⟩

theorem checkedAs_of_plan {p : Plan} (scanned : site.scanDir = site.settings.overlayDir)
    (h : plan tree site.settings site.scanDir site.connector order.selection order.policy = .ok p) :
    ∃ checked, order.selection.CheckedAs site.connector (site.has tree) checked ∧
      p.overlays = checked.names.map (fun o => site.settings.pathOf o.name) ∧
      p.skipped = checked.skipped := by
  unfold plan at h
  obtain ⟨checked, verified, h⟩ := bind_eq_ok.mp h
  obtain ⟨current, -, h⟩ := bind_eq_ok.mp h
  obtain ⟨updated, -, h⟩ := bind_eq_ok.mp h
  cases pure_eq_ok.mp h
  have same : OverlayScan.isInstalled tree site.scanDir = site.has tree := by
    rw [scanned]
    rfl
  have verified := mapError_eq_ok.mp verified
  rw [same] at verified
  exact ⟨checked, Selection.checkedAs_of_check verified, rfl, rfl⟩

/-- All paths of a port's overlays are listed, or one is not and the port is skipped. -/
theorem ports_of_checkedAs {checked : CheckedOverlays} {port : String} {setup : PortSetup}
    (h : order.selection.CheckedAs site.connector (site.has tree) checked)
    (found : order.selection.get? port = some setup) :
    ((∀ o ∈ ofPort site.connector port setup,
        site.settings.pathOf o.name ∈ checked.names.map fun o => site.settings.pathOf o.name) ∧
      ∀ skip ∈ checked.skipped, skip.port ≠ port) ∨
    ((∃ o ∈ ofPort site.connector port setup,
        site.settings.pathOf o.name ∉ checked.names.map fun o => site.settings.pathOf o.name) ∧
      checked.skipped.filter (fun skip => skip.port = port) =
        [⟨port, (lacking (site.has tree) site.connector port setup).map (·.name)⟩]) := by
  rcases h.port found with ⟨kept, others⟩ | ⟨⟨o, mem, absent⟩, once⟩
  · exact .inl ⟨fun o mem => List.mem_map_of_mem (kept o mem), others⟩
  · refine .inr ⟨⟨o, mem, fun listed => ?_⟩, once⟩
    -- What is listed at this path is a file, under whatever name it was checked.
    obtain ⟨o', mem', same⟩ := List.mem_map.mp listed
    have present := (h.installed_of_mem mem').2
    rw [Site.has, show site.settings.pathOf o'.name = site.settings.pathOf o.name from same]
      at present
    rw [Site.has, present] at absent
    cases absent

/-- Whatever files there are, a commit that succeeds lists in every `OVERLAYS` line what it reports,
which are files of the overlay directory, and of each port it lists all overlays or skips it. -/
theorem agrees_of_carryOut (tidy : site.IsTidy tree) (entered : order.selection.Entered)
    (some : order.selection.isEmpty = false) (ok : (site.carryOut tree order).2 = .ok report) :
    ∃ text, site.ComesTo tree order report text ∧ site.Agrees tree order report text := by
  obtain ⟨idle, -⟩ | ⟨-, p, location, file, planned, edits, rfl, left⟩ := carryOut_ok ok
  · rw [some] at idle
    cases idle
  obtain ⟨checked, checkedAs, overlays, skipped⟩ := checkedAs_of_plan tidy.scanned planned
  have named : ∀ path ∈ p.overlays, ∃ name, OverlayName.IsFileName name ∧
      tree.isFile path = true ∧ path = site.settings.pathOf name := by
    intro path mem
    rw [overlays] at mem
    obtain ⟨o, ho, rfl⟩ := List.mem_map.mp mem
    obtain ⟨mem, installed⟩ := checkedAs.installed_of_mem ho
    exact ⟨o.name, Selection.isFileName_of_mem_overlays entered.isWorded mem, installed, rfl⟩
  have items : ∀ path ∈ p.overlays, IsItem path := by
    intro path mem
    obtain ⟨name, proper, -, rfl⟩ := named path mem
    exact tidy.isItem_pathOf proper
  have nonempty : p.overlays ≠ [] := by
    rw [overlays, checkedAs.names, List.map_cons]
    exact List.cons_ne_nil _ _
  obtain ⟨current, -, edited⟩ := edits.edited
  have hbase : (BootConfig.parse current).needsBase = true →
      ∀ path, baseDeviceTree tree site.settings.dtbDir = .ok path → IsInline path :=
    fun _ _ => tidy.isInline_base
  have mentions := BootConfig.mentions_of_edit hbase (fun path mem => (items path mem).isInline)
    edited
  refine ⟨p.updated, ?_, ?_⟩
  · unfold Site.ComesTo
    rw [left]
    cases order.dryRun with
    | true => rfl
    | false => exact edits.readText
  · refine
      { based := mentions.1
        lists := mentions.2
        listed := BootConfig.listed_of_edit hbase nonempty items edited
        overlays := ?_
        files := fun path mem => liesIn_carryOut ?_
        skipped := skipped.trans checkedAs.skipped
        ports := fun port setup found => ?_ }
    · change p.overlays = _
      rw [overlays, checkedAs.names, List.map_cons]
    · obtain ⟨name, proper, present, rfl⟩ := named path mem
      exact FileTree.liesIn_of_isFile proper.proper.1 proper.slash_not_mem proper.proper.2.1
        proper.proper.2.2 present
    · have port := ports_of_checkedAs checkedAs found
      rwa [← overlays, ← skipped] at port

/-- Of two ports that arguments name, the one whose link booster has no overlay is skipped; a
device tree and a list are added to the boot configuration. -/
theorem agrees_of_carryOut_skipping : ∃ (site : Site) (tree : FileTree) (order : Order)
    (report : Report) (text : String), site.IsTidy tree ∧ order.selection.Entered ∧
    order.selection.size = 2 ∧ (site.carryOut tree order).2 = .ok report ∧
    report.overlays.length = 2 ∧ report.skipped.length = 1 ∧
    site.ComesTo tree order report text ∧ site.Agrees tree order report text := by
  let site : Site := ⟨{ Settings.standard with
    bootConfig := "/e", overlayDir := "/d/", dtbDir := "/b" }, "/d/", .wide⟩
  let tree : FileTree := (((((FileTree.empty.put ["d"] .directory).put
    ["d", "tegra234-p3737-camera-fr_fpa_12-overlay.dtbo"] (.file ⟨0o644, []⟩)).put
    ["d", "tegra234-p3737-camera-fr_imx900-p0-4lane-overlay.dtbo"] (.file ⟨0o644, []⟩)).put
    ["b"] .directory).put ["b", "x.dtb"] (.file ⟨0o644, []⟩)).put
    ["e"] (.file ⟨0o640, Text.encodeUtf8 "MENU LABEL primary kernel\n"⟩)
  let selection : Selection := ⟨⟨"1.2"⟩,
    .ofList [("P0", ⟨"imx900", 4, .absent⟩), ("P1", ⟨"imx900", 4, .present⟩)]⟩
  let order : Order := ⟨selection, .skipPort, false, .plain⟩
  have tidy : site.IsTidy tree := by
    have plain : "/d/".toList.all (fun c => c != ',' && !Text.isBlank c) = true := by decide
    refine ⟨rfl, fun c mem => ?_, by decide +kernel, fun names listing => ?_⟩
    · simpa using List.all_eq_true.mp plain c mem
    have only : tree.list "/b" = .ok ["x.dtb"] := by decide +kernel
    cases only.symm.trans listing
    decide +kernel
  have entered : order.selection.Entered :=
    @Selection.Entered.named ["T FPA-1.2", "T imx900-P0-4Lane", "T imx900-P1-4Lane-GMSL"] selection
      (by decide +kernel)
  have done : ((site.carryOut tree order).2.toOption.map fun report =>
      (report.overlays.length, report.skipped.length)) = some (2, 1) := by decide +kernel
  obtain ⟨report, ok, lengths⟩ : ∃ report, (site.carryOut tree order).2 = .ok report ∧
      (report.overlays.length, report.skipped.length) = (2, 1) := by
    generalize (site.carryOut tree order).2 = result at done
    cases result with
    | error cause => cases done
    | ok report => exact ⟨report, rfl, Option.some.inj done⟩
  obtain ⟨text, comes, agrees⟩ := agrees_of_carryOut tidy entered (by decide) ok
  exact ⟨site, tree, order, report, text, tidy, entered, by decide, ok, congrArg Prod.fst lengths,
    congrArg Prod.snd lengths, comes, agrees⟩

end Commit

end CameraSetup
