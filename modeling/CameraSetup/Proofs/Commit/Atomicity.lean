import CameraSetup.Commit
import CameraSetup.Proofs.Except
import CameraSetup.Proofs.FileTree.Replacement

/-! What commits do to the files, one after another on the same files. A commit that fails, also in
some step of its write, only shows what it would do or has nothing to do leaves every file as it was;
any other one rewrites the boot configuration, and that alone, with what an edit makes of it. A dry
run shows what the commit would have written. -/

namespace CameraSetup

namespace FileTree

variable {t : FileTree} {path text : String}

theorem readText_ok_iff : t.readText path = .ok text ↔
    ∃ l file, t.locate path = .ok l ∧ t.node? l = some (.file file) ∧
      Text.decodeUtf8? file.content = some text := by
  unfold readText read
  rw [bind_eq_ok]
  constructor
  · rintro ⟨bytes, read, decoded⟩
    rw [bind_eq_ok] at read
    obtain ⟨node, found, read⟩ := read
    obtain ⟨l, located, present⟩ := stat_ok_iff.mp found
    cases node with
    | directory => exact absurd read throw_ne_ok
    | file file =>
      cases pure_eq_ok.mp read
      refine ⟨l, file, located, present, ?_⟩
      cases h : Text.decodeUtf8? file.content with
      | none => rw [h] at decoded; exact absurd decoded throw_ne_ok
      | some text => rw [h] at decoded; rw [pure_eq_ok.mp decoded]
  · rintro ⟨l, file, located, present, decoded⟩
    refine ⟨file.content, ?_, ?_⟩
    · rw [stat_ok_iff.mpr ⟨l, located, present⟩]
      rfl
    · rw [decoded]
      rfl

/-- `after` agrees with `before` everywhere, but for the octets of the file that `path` leads to. -/
structure Frame (path : String) (before after : FileTree) : Prop where
  located : after.locate path = before.locate path
  nodes : ∀ l, after.node? l = before.node? l ∨
    ∃ file content, before.locate path = .ok l ∧ before.node? l = some (.file file) ∧
      after.node? l = some (.file ⟨file.mode, content⟩)

theorem Frame.refl (path : String) (t : FileTree) : Frame path t t := ⟨rfl, fun _ => .inl rfl⟩

theorem Frame.trans {t1 t2 t3 : FileTree} (h1 : Frame path t1 t2) (h2 : Frame path t2 t3) :
    Frame path t1 t3 := by
  refine ⟨h2.located.trans h1.located, fun l => ?_⟩
  rcases h2.nodes l with same | ⟨file, content, located, present, written⟩
  · rw [same]
    exact h1.nodes l
  · rw [h1.located] at located
    rcases h1.nodes l with same | ⟨first, content1, -, present1, written1⟩
    · exact .inr ⟨file, content, located, same ▸ present, written⟩
    · rw [written1] at present
      cases present
      exact .inr ⟨first, content, located, present1, written⟩

/-- Other octets for the file that a path leads to. -/
theorem Frame.put {l : Location} {file : File} (located : t.locate path = .ok l)
    (present : t.node? l = some (.file file)) (content : List UInt8) :
    Frame path t (t.put l (.file ⟨file.mode, content⟩)) := by
  have keeps : ∀ m, t.node? m = some .directory →
      (t.put l (.file ⟨file.mode, content⟩)).node? m = some .directory := by
    intro m directory
    rw [node?_put_of_ne, directory]
    rintro rfl
    rw [present] at directory
    cases directory
  obtain ⟨checked, walked⟩ := locate_ok located
  refine ⟨by rw [located, locate_eq checked, walk_mono keeps walked], fun m => ?_⟩
  by_cases same : m = l
  · subst same
    exact .inr ⟨file, content, located, present, node?_put_self t (ne_nil_of_file present) _⟩
  · exact .inl (node?_put_of_ne t same _)

end FileTree

namespace Commit

/-! ### One commit -/

/-- What a commit is asked to do, and what its write meets. -/
structure Order where
  selection : Selection
  policy : MissingPolicy
  dryRun : Bool
  circumstances : Circumstances
  deriving DecidableEq

/-- What the commits on one system share. -/
structure Site where
  settings : Settings
  scanDir : String
  connector : Connector

/-- Carries out an order. -/
def Site.carryOut (site : Site) (tree : FileTree) (order : Order) :
    FileTree × Except SetupError Report :=
  run order.circumstances tree site.settings site.scanDir site.connector order.selection order.policy
    order.dryRun

/-- The edit that an order asks for: `text` is what becomes of the text of the boot configuration,
which is `file` at `location`, when it lists the verified overlays of the selection. -/
structure Site.Edits (site : Site) (tree : FileTree) (order : Order) (overlays : List String)
    (location : Location) (file : File) (text : String) : Prop where
  verified : ∃ checked,
    OverlayName.check (OverlayScan.isInstalled tree site.scanDir) order.policy
      (order.selection.overlays site.connector) = .ok checked ∧
    overlays = checked.names.map fun o => site.settings.pathOf o.name
  located : tree.locate site.settings.bootConfig = .ok location
  present : tree.node? location = some (.file file)
  edited : ∃ current, Text.decodeUtf8? file.content = some current ∧
    BootConfig.edit (baseDeviceTree tree site.settings.dtbDir) overlays current = .ok text

variable {site : Site} {tree : FileTree} {order : Order}

theorem edits_of_plan {p : Plan}
    (h : plan tree site.settings site.scanDir site.connector order.selection order.policy = .ok p) :
    ∃ location file, site.Edits tree order p.overlays location file p.updated ∧
      Text.decodeUtf8? file.content = some p.current := by
  unfold plan at h
  rw [bind_eq_ok] at h
  obtain ⟨checked, verified, h⟩ := h
  rw [bind_eq_ok] at h
  obtain ⟨current, readable, h⟩ := h
  rw [bind_eq_ok] at h
  obtain ⟨updated, edited, h⟩ := h
  cases pure_eq_ok.mp h
  obtain ⟨location, file, located, present, decoded⟩ :=
    FileTree.readText_ok_iff.mp (mapError_eq_ok.mp readable)
  exact ⟨location, file, ⟨⟨checked, mapError_eq_ok.mp verified, rfl⟩, located, present,
    current, decoded, mapError_eq_ok.mp edited⟩, decoded⟩

/-- The text of an edit is read back once it is written. -/
theorem Site.Edits.readText {overlays : List String} {location : Location} {file : File}
    {text : String} (edits : site.Edits tree order overlays location file text) :
    (tree.put location (.file ⟨file.mode, Text.encodeUtf8 text⟩)).readText
      site.settings.bootConfig = .ok text := by
  have left := FileTree.Frame.put edits.located edits.present (Text.encodeUtf8 text)
  have inside := FileTree.ne_nil_of_file edits.present
  exact FileTree.readText_ok_iff.mpr ⟨location, _, left.located.trans edits.located,
    FileTree.node?_put_self tree inside _, by simp⟩

/-- The order without dry run, its write meeting other circumstances. -/
def Order.wet (order : Order) (circumstances : Circumstances) : Order :=
  { order with dryRun := false, circumstances }

/-- What is planned is carried out, unless the write fails. A text that stays as it is need not be
written. -/
theorem carryOut_of_plan (some : order.selection.isEmpty = false) {p : Plan}
    (h : plan tree site.settings site.scanDir site.connector order.selection order.policy = .ok p) :
    ∃ location file, site.Edits tree order p.overlays location file p.updated ∧
      (site.carryOut tree order =
        (if order.dryRun then tree
          else tree.put location (.file ⟨file.mode, Text.encodeUtf8 p.updated⟩),
        .ok (p.report site.settings order.dryRun)) ∨
      ∃ cause, site.carryOut tree order = (tree, .error (.file cause)) ∧
        (tree.replaceText order.circumstances site.settings.bootConfig p.updated).2 =
          .error cause) := by
  obtain ⟨location, file, edits, decoded⟩ := edits_of_plan h
  refine ⟨location, file, edits, ?_⟩
  rw [Site.carryOut, run, if_neg (by simp [some]), h]
  dsimp only
  cases order.dryRun with
  | true => exact .inl rfl
  | false =>
    by_cases same : p.updated = p.current
    · have octets : Text.encodeUtf8 p.updated = file.content :=
        Text.encodeUtf8_of_decodeUtf8? (same ▸ decoded)
      have kept := FileTree.put_node (FileTree.ne_nil_of_file edits.present) edits.present
      rw [if_pos (by simp [same]), octets, if_neg Bool.false_ne_true, kept]
      exact .inl rfl
    · rw [if_neg (by simp [same])]
      rcases FileTree.replaceText_of_file edits.located edits.present order.circumstances
        p.updated with ⟨cause, failed⟩ | replaced
      · rw [failed]
        exact .inr ⟨cause, rfl, rfl⟩
      · rw [replaced]
        exact .inl rfl

/-- An order has nothing to do, fails, or is carried out as planned. -/
theorem carryOut_cases (site : Site) (tree : FileTree) (order : Order) :
    (order.selection.isEmpty = true ∧
      site.carryOut tree order = (tree, .ok (nothingDone site.settings))) ∨
    (order.selection.isEmpty = false ∧ ∃ cause,
      site.carryOut tree order = (tree, .error cause)) ∨
    (order.selection.isEmpty = false ∧ ∃ p location file,
      plan tree site.settings site.scanDir site.connector order.selection order.policy = .ok p ∧
      site.Edits tree order p.overlays location file p.updated ∧
      site.carryOut tree order =
        (if order.dryRun then tree
          else tree.put location (.file ⟨file.mode, Text.encodeUtf8 p.updated⟩),
        .ok (p.report site.settings order.dryRun))) := by
  cases some : order.selection.isEmpty with
  | true =>
    refine .inl ⟨rfl, ?_⟩
    rw [Site.carryOut, run, if_pos some]
  | false =>
    cases planned : plan tree site.settings site.scanDir site.connector order.selection
        order.policy with
    | error cause =>
      refine .inr (.inl ⟨rfl, cause, ?_⟩)
      rw [Site.carryOut, run, if_neg (by simp [some]), planned]
    | ok p =>
      obtain ⟨location, file, edits, out | ⟨cause, out, -⟩⟩ := carryOut_of_plan some planned
      · exact .inr (.inr ⟨rfl, p, location, file, rfl, edits, out⟩)
      · exact .inr (.inl ⟨rfl, _, out⟩)

/-- A report is that of nothing to do, or of the plan. -/
theorem carryOut_ok {report : Report} (ok : (site.carryOut tree order).2 = .ok report) :
    (order.selection.isEmpty = true ∧ report = nothingDone site.settings) ∨
    (order.selection.isEmpty = false ∧ ∃ p location file,
      plan tree site.settings site.scanDir site.connector order.selection order.policy = .ok p ∧
      site.Edits tree order p.overlays location file p.updated ∧
      report = p.report site.settings order.dryRun ∧
      (site.carryOut tree order).1 =
        if order.dryRun then tree
          else tree.put location (.file ⟨file.mode, Text.encodeUtf8 p.updated⟩)) := by
  rcases carryOut_cases site tree order with
    ⟨idle, out⟩ | ⟨-, cause, out⟩ | ⟨some, p, location, file, planned, edits, out⟩
  · rw [out] at ok
    cases ok
    exact .inl ⟨idle, rfl⟩
  · rw [out] at ok
    cases ok
  · rw [out] at ok
    cases ok
    exact .inr ⟨some, p, location, file, planned, edits, rfl, by rw [out]⟩

/-- A commit that fails, that is a dry run, or that has nothing to do changes no file. -/
theorem carryOut_unchanged (h : (∃ cause, (site.carryOut tree order).2 = .error cause) ∨
    order.dryRun = true ∨ order.selection.isEmpty = true) :
    (site.carryOut tree order).1 = tree := by
  rcases carryOut_cases site tree order with
    ⟨-, out⟩ | ⟨-, cause, out⟩ | ⟨some, p, location, file, -, -, out⟩
  · rw [out]
  · rw [out]
  · rcases h with ⟨cause, error⟩ | dry | idle
    · rw [out] at error
      cases error
    · rw [out, if_pos dry]
    · rw [some] at idle
      cases idle

/-- A commit that reports to have written rewrites the boot configuration, and that alone. -/
theorem carryOut_written {report : Report} (ok : (site.carryOut tree order).2 = .ok report)
    (written : report.written = true) :
    ∃ location file text, site.Edits tree order report.overlays location file text ∧
      (site.carryOut tree order).1.node? location =
        some (.file ⟨file.mode, Text.encodeUtf8 text⟩) ∧
      ∀ other, other ≠ location → (site.carryOut tree order).1.node? other = tree.node? other := by
  obtain ⟨-, rfl⟩ | ⟨-, p, location, file, -, edits, rfl, left⟩ := carryOut_ok ok
  · cases written
  · have wet : order.dryRun = false := by simpa [Plan.report] using written
    rw [wet, if_neg Bool.false_ne_true] at left
    rw [left]
    exact ⟨location, file, p.updated, edits,
      FileTree.node?_put_self tree (FileTree.ne_nil_of_file edits.present) _,
      fun other ne => FileTree.node?_put_of_ne tree ne _⟩

/-- What an order comes to whose write puts a text into the boot configuration: the boot
configuration holds it then, or the order fails with what writing that text fails with. Where nothing
hinders the write, it is the first. -/
structure Site.Writes (site : Site) (tree : FileTree) (order : Order) (text : String) : Prop where
  outcome : (∃ report, (site.carryOut tree order).2 = .ok report ∧ report.written = true ∧
      (site.carryOut tree order).1.readText site.settings.bootConfig = .ok text) ∨
    ∃ cause, site.carryOut tree order = (tree, .error (.file cause)) ∧
      (tree.replaceText order.circumstances site.settings.bootConfig text).2 = .error cause
  unhindered : tree.Allows order.circumstances site.settings.bootConfig →
    ∃ report, (site.carryOut tree order).2 = .ok report

/-- What a dry run shows is what the same commit writes without dry run. -/
theorem carryOut_rehearsed {report : Report} {text : String}
    (ok : (site.carryOut tree order).2 = .ok report) (rendered : report.rendered = some text)
    (circumstances : Circumstances) : site.Writes tree (order.wet circumstances) text := by
  obtain ⟨-, rfl⟩ | ⟨some, p, -, -, planned, -, rfl, -⟩ := carryOut_ok ok
  · cases rendered
  · have same : p.updated = text := by
      simp only [Plan.report] at rendered
      split at rendered
      · exact Option.some.inj rendered
      · cases rendered
    subst same
    obtain ⟨location, file, edits, out | ⟨cause, out, failed⟩⟩ :=
      @carryOut_of_plan site tree (order.wet circumstances) some p planned
    · refine ⟨.inl ?_, fun _ => ⟨_, by rw [out]⟩⟩
      rw [out]
      exact ⟨_, rfl, rfl, edits.readText⟩
    · refine ⟨.inr ⟨cause, out, failed⟩, fun allows => ?_⟩
      rw [FileTree.replaceText_of_allows allows edits.located edits.present] at failed
      cases failed

theorem carryOut_reported {report : Report} (ok : (site.carryOut tree order).2 = .ok report) :
    report.written = (!order.selection.isEmpty && !order.dryRun) ∧
      report.rendered.isSome = (!order.selection.isEmpty && order.dryRun) := by
  obtain ⟨idle, rfl⟩ | ⟨some, p, -, -, -, -, rfl, -⟩ := carryOut_ok ok
  · simp [nothingDone, idle]
  · cases order.dryRun <;> simp [Plan.report, some]

/-- What holds of an order and of the files that it leaves. -/
structure Site.Atomic (site : Site) (tree : FileTree) (order : Order) : Prop where
  unchanged : (∃ cause, (site.carryOut tree order).2 = .error cause) ∨ order.dryRun = true ∨
    order.selection.isEmpty = true → (site.carryOut tree order).1 = tree
  written : ∀ report, (site.carryOut tree order).2 = .ok report → report.written = true →
    ∃ location file text, site.Edits tree order report.overlays location file text ∧
      (site.carryOut tree order).1.node? location =
        some (.file ⟨file.mode, Text.encodeUtf8 text⟩) ∧
      ∀ other, other ≠ location → (site.carryOut tree order).1.node? other = tree.node? other
  rehearsed : ∀ report text, (site.carryOut tree order).2 = .ok report →
    report.rendered = some text →
      ∀ circumstances, site.Writes tree (order.wet circumstances) text
  reported : ∀ report, (site.carryOut tree order).2 = .ok report →
    report.written = (!order.selection.isEmpty && !order.dryRun) ∧
      report.rendered.isSome = (!order.selection.isEmpty && order.dryRun)

theorem atomic (site : Site) (tree : FileTree) (order : Order) : site.Atomic tree order where
  unchanged := carryOut_unchanged
  written _ := carryOut_written
  rehearsed _ _ := carryOut_rehearsed
  reported _ := carryOut_reported

theorem frame_carryOut (site : Site) (tree : FileTree) (order : Order) :
    FileTree.Frame site.settings.bootConfig tree (site.carryOut tree order).1 := by
  rcases carryOut_cases site tree order with
    ⟨-, out⟩ | ⟨-, cause, out⟩ | ⟨-, p, location, file, -, edits, out⟩
  · rw [out]
    exact .refl _ _
  · rw [out]
    exact .refl _ _
  · rw [out]
    dsimp only
    split
    · exact .refl _ _
    · exact .put edits.located edits.present _

/-! ### Many commits -/

/-- The files after orders were carried out one after another. -/
def Site.after (site : Site) (tree : FileTree) : List Order → FileTree
  | [] => tree
  | order :: orders => site.after (site.carryOut tree order).1 orders

theorem frame_after (site : Site) (tree : FileTree) (orders : List Order) :
    FileTree.Frame site.settings.bootConfig tree (site.after tree orders) := by
  induction orders generalizing tree with
  | nil => exact .refl _ _
  | cons order orders ih => exact (frame_carryOut site tree order).trans (ih _)

/-- Whatever orders were carried out before, the next one is atomic, and all of them together left
everything as it was but the octets of the boot configuration. -/
theorem atomic_after (site : Site) (tree : FileTree) (orders : List Order) :
    (∀ order, site.Atomic (site.after tree orders) order) ∧
      FileTree.Frame site.settings.bootConfig tree (site.after tree orders) :=
  ⟨fun order => atomic site _ order, frame_after site tree orders⟩

theorem exists_of_rendered {result : Except SetupError Report}
    (h : (result.toOption.bind (·.rendered)).isSome = true) :
    ∃ report text, result = .ok report ∧ report.rendered = some text := by
  obtain ⟨text, h⟩ := Option.isSome_iff_exists.mp h
  cases result with
  | error cause => cases h
  | ok report => exact ⟨report, text, rfl, h⟩

/-- A commit fails as the disk is full after five octets, and every file stays as it was. A dry run
then shows what the next commit writes, for which there is room. -/
theorem atomic_after_full_disk : ∃ (site : Site) (tree : FileTree) (failing order : Order)
    (report : Report) (text : String),
    site.carryOut tree failing = (tree, .error (.file
      (.atPath "/.tmpspare1" (.system ⟨28, "No space left on device"⟩)))) ∧
    (site.carryOut (site.after tree [failing]) order).2 = .ok report ∧
    report.rendered = some text ∧ ∃ report',
      (site.carryOut (site.after tree [failing]) (order.wet .plain)).2 = .ok report' ∧
      report'.written = true ∧
      (site.carryOut (site.after tree [failing]) (order.wet .plain)).1.readText
        site.settings.bootConfig = .ok text := by
  let site : Site :=
    ⟨{ Settings.standard with bootConfig := "/e.conf", overlayDir := "/d" }, "/d", .wide⟩
  let tree : FileTree := (((FileTree.empty.put ["d"] .directory).put
    ["d", "tegra234-p3737-camera-fr_fpa_12-overlay.dtbo"] (.file ⟨0o644, []⟩)).put
    ["d", "tegra234-p3737-camera-fr_imx900-p0-4lane-overlay.dtbo"] (.file ⟨0o644, []⟩)).put
    ["e.conf"] (.file ⟨0o640, Text.encodeUtf8 "FDT /b\n"⟩)
  let selection := (Selection.ofBoard ⟨"1.2"⟩).insert "p0" ⟨"imx900", 4, .absent⟩
  let failing : Order := ⟨selection, .abort, false,
    { Circumstances.plain with writing := some (5, ⟨28, "No space left on device"⟩) }⟩
  let order : Order := ⟨selection, .abort, true, .plain⟩
  obtain ⟨report, text, ok, rendered⟩ := exists_of_rendered
    (show ((site.carryOut (site.after tree [failing]) order).2.toOption.bind
      (·.rendered)).isSome = true by decide +kernel)
  have writes := ((atomic_after site tree [failing]).1 order).rehearsed report text ok rendered .plain
  have allows : (site.after tree [failing]).Allows Circumstances.plain site.settings.bootConfig :=
    ⟨by decide +kernel, by decide +kernel, rfl, rfl⟩
  obtain ⟨report', ok'⟩ := writes.unhindered allows
  refine ⟨site, tree, failing, order, report, text, by decide +kernel, ok, rendered, ?_⟩
  rcases writes.outcome with written | ⟨cause, failed, -⟩
  · exact written
  · rw [failed] at ok'
    cases ok'

end Commit

end CameraSetup
