import CameraSetup.Proofs.FileTree.Path
import CameraSetup.Proofs.ModuleArguments
import CameraSetup.Proofs.Overlay.FileName
import Mathlib.Data.List.Forall2

/-! Overlay names are faithful. The list of a selection's overlay names tells the connector, the
board and the setup of every port, up to what file names leave out: the case of letters, and in a
board id the periods. No name says that it is for one role and belongs to another. The main
statement is about all selections that module arguments can name. -/

namespace CameraSetup

/-- Roles that differ at most in the case of a port's letters. -/
def OverlayRole.Same : OverlayRole → OverlayRole → Prop
  | .board, .board => True
  | .sensor p, .sensor q => Text.sameIgnoringCase p.toList q.toList = true
  | .linkBooster p, .linkBooster q => Text.sameIgnoringCase p.toList q.toList = true
  | _, _ => False

/-- How many parts the file names of a role have. -/
def OverlayRole.partCount : OverlayRole → Nat
  | .board => 2
  | .sensor _ => 4
  | .linkBooster _ => 3

theorem OverlayRole.same_of {r r' : OverlayRole} (count : r.partCount = r'.partCount)
    (ports : ∀ p q, r.port? = some p → r'.port? = some q →
      Text.sameIgnoringCase p.toList q.toList = true) : r.Same r' := by
  cases r with
  | board =>
    cases r' with
    | board => trivial
    | sensor | linkBooster => simp [partCount] at count
  | sensor p =>
    cases r' with
    | sensor q => exact ports p q rfl rfl
    | board | linkBooster => simp [partCount] at count
  | linkBooster p =>
    cases r' with
    | linkBooster q => exact ports p q rfl rfl
    | board | sensor => simp [partCount] at count

/-- Ports set up in one way, up to the case of letters in the names of port and sensor. -/
structure SameSetup (e e' : String × PortSetup) : Prop where
  port : Text.sameIgnoringCase e.1.toList e'.1.toList = true
  sensor : Text.sameIgnoringCase e.2.sensor.toList e'.2.sensor.toList = true
  lanes : e.2.lanes = e'.2.lanes
  linkBooster : e.2.linkBooster = e'.2.linkBooster

/-- A port and its setup have names without hyphens. -/
def IsNamed (e : String × PortSetup) : Prop :=
  (∀ c ∈ e.1.toList, Text.isNameChar c = true) ∧ ∀ c ∈ e.2.sensor.toList, Text.isNameChar c = true

theorem Selection.IsWorded.isNamed {s : Selection} (worded : s.IsWorded) {e : String × PortSetup}
    (mem : e ∈ s.ports.toList) : IsNamed e := by
  obtain ⟨hport, hsensor⟩ := worded.ports e.1 e.2 (SortedMap.get?_eq_some_iff.mpr mem)
  exact ⟨fun c hc => Text.isNameChar_of_isAlphanum (hport c hc),
    fun c hc => Text.isNameChar_of_isSensorChar (hsensor c hc)⟩

theorem Connector.eq_of_append {c c' : Connector} {rest rest' : String}
    (same : c.fileNameStart ++ rest = c'.fileNameStart ++ rest') : c = c' := by
  -- The starts of file names part at their thirteenth character.
  have letter := congrArg (fun name => name.toList[12]?) same
  cases c <;> cases c' <;> first | rfl | simp [fileNameStart] at letter

namespace OverlayName

open Text

variable {connector c c' : Connector} {s t sensor sensor' port port' : String} {lanes lanes' : Nat}
  {setup : PortSetup} {o : OverlayName} {e e' : String × PortSetup}
  {es es' : List (String × PortSetup)}

/-! ### One name -/

theorem lower_eq_iff (hs : ∀ c ∈ s.toList, isNameChar c = true)
    (ht : ∀ c ∈ t.toList, isNameChar c = true) :
    lower s.toList = lower t.toList ↔ sameIgnoringCase s.toList t.toList = true := by
  rw [lower_of_isNameChar hs, lower_of_isNameChar ht, sameIgnoringCase_iff]

theorem ofBoard_eq_iff {board board' : BoardId} :
    ofBoard c board = ofBoard c board' ↔ boardPart board = boardPart board' := by
  rw [ofBoard_eq, ofBoard_eq]
  simp only [String.append_assoc, String.append_right_inj, String.append_left_inj]

theorem ofSensor_eq_iff (hsensor : ∀ c ∈ sensor.toList, isNameChar c = true)
    (hport : ∀ c ∈ port.toList, isNameChar c = true)
    (hsensor' : ∀ c ∈ sensor'.toList, isNameChar c = true)
    (hport' : ∀ c ∈ port'.toList, isNameChar c = true) :
    ofSensor c sensor port lanes = ofSensor c sensor' port' lanes' ↔
      sameIgnoringCase sensor.toList sensor'.toList = true ∧
        sameIgnoringCase port.toList port'.toList = true ∧ lanes = lanes' := by
  rw [← lower_eq_iff hsensor hsensor', ← lower_eq_iff hport hport']
  constructor
  · intro same
    have read := congrArg (parts c) same
    rw [parts_ofSensor hsensor hport, parts_ofSensor hsensor' hport'] at read
    simp only [List.cons.injEq, String.toList_inj, String.append_left_inj, and_true] at read
    exact ⟨read.1, read.2.1, eq_of_toString_eq read.2.2⟩
  · rintro ⟨sameSensor, samePort, rfl⟩
    simp only [ofSensor, lowered, sameSensor, samePort]

theorem ofLinkBooster_eq_of_same (hport : ∀ c ∈ port.toList, isNameChar c = true)
    (hport' : ∀ c ∈ port'.toList, isNameChar c = true)
    (same : sameIgnoringCase port.toList port'.toList = true) :
    ofLinkBooster c port = ofLinkBooster c port' := by
  simp only [ofLinkBooster, lowered, (lower_eq_iff hport hport').mpr same]

/-! ### The names of a port's overlays -/

/-- The file names of the overlays of a port with its setup. -/
def portNames (connector : Connector) (e : String × PortSetup) : List String :=
  (ofPort connector e.1 e.2).map (·.name)

/-- The file name of the link booster's overlay, if the port has a link booster. -/
def boosterNames (connector : Connector) (e : String × PortSetup) : List String :=
  match e.2.linkBooster with
  | .absent => []
  | .present => [ofLinkBooster connector e.1]

theorem portNames_eq (connector : Connector) (e : String × PortSetup) :
    portNames connector e =
      ofSensor connector e.2.sensor e.1 e.2.lanes :: boosterNames connector e := by
  unfold portNames boosterNames ofPort
  cases e.2.linkBooster <;> rfl

/-- No name of a link booster comes first. -/
def StartsAfresh (connector : Connector) (names : List String) : Prop :=
  ∀ name, names.head? = some name → (parts connector name).length ≠ 3

theorem length_parts_ofSensor (h : IsNamed e) :
    (parts c (ofSensor c e.2.sensor e.1 e.2.lanes)).length = 4 := by
  rw [parts_ofSensor h.2 h.1]
  rfl

theorem startsAfresh_flatMap (h : ∀ e ∈ es, IsNamed e) :
    StartsAfresh c (es.flatMap (portNames c)) := by
  cases es with
  | nil => nofun
  | cons e es =>
    rintro name first
    rw [List.flatMap_cons, portNames_eq, List.cons_append, List.head?_cons,
      Option.some.injEq] at first
    rw [← first, length_parts_ofSensor (h e List.mem_cons_self)]
    decide

theorem boosterNames_append_eq_iff (h : IsNamed e) (h' : IsNamed e')
    (same : sameIgnoringCase e.1.toList e'.1.toList = true) {rest rest' : List String}
    (afresh : StartsAfresh c rest) (afresh' : StartsAfresh c rest') :
    boosterNames c e ++ rest = boosterNames c e' ++ rest' ↔
      e.2.linkBooster = e'.2.linkBooster ∧ rest = rest' := by
  have count : (parts c (ofLinkBooster c e.1)).length = 3 := by
    rw [parts_ofLinkBooster h.1]
    rfl
  have names : ofLinkBooster c e.1 = ofLinkBooster c e'.1 := ofLinkBooster_eq_of_same h.1 h'.1 same
  unfold boosterNames
  rw [← names]
  cases e.2.linkBooster <;> cases e'.2.linkBooster
  · simp
  · -- A port without link booster is not followed by the name of one.
    simp only [List.nil_append, List.cons_append, reduceCtorEq, false_and, iff_false]
    rintro rfl
    exact afresh _ rfl count
  · simp only [List.nil_append, List.cons_append, reduceCtorEq, false_and, iff_false]
    rintro rfl
    exact afresh' _ rfl count
  · simp

theorem portNames_append_eq_iff (h : IsNamed e) (h' : IsNamed e') {rest rest' : List String}
    (afresh : StartsAfresh c rest) (afresh' : StartsAfresh c rest') :
    portNames c e ++ rest = portNames c e' ++ rest' ↔ SameSetup e e' ∧ rest = rest' := by
  rw [portNames_eq, portNames_eq, List.cons_append, List.cons_append, List.cons.injEq,
    ofSensor_eq_iff h.2 h.1 h'.2 h'.1]
  constructor
  · rintro ⟨⟨sensor, port, lanes⟩, following⟩
    obtain ⟨linkBooster, rest⟩ := (boosterNames_append_eq_iff h h' port afresh afresh').mp following
    exact ⟨⟨port, sensor, lanes, linkBooster⟩, rest⟩
  · rintro ⟨⟨port, sensor, lanes, linkBooster⟩, rest⟩
    exact ⟨⟨sensor, port, lanes⟩,
      (boosterNames_append_eq_iff h h' port afresh afresh').mpr ⟨linkBooster, rest⟩⟩

/-- The names of several ports' overlays tell the setup of each. -/
theorem flatMap_portNames_eq_iff (h : ∀ e ∈ es, IsNamed e) (h' : ∀ e ∈ es', IsNamed e) :
    es.flatMap (portNames c) = es'.flatMap (portNames c) ↔ List.Forall₂ SameSetup es es' := by
  induction es generalizing es' with
  | nil =>
    cases es' with
    | nil => simp
    | cons e' es' => simp [portNames_eq]
  | cons e es ih =>
    cases es' with
    | nil => simp [portNames_eq]
    | cons e' es' =>
      obtain ⟨first, rest⟩ := List.forall_mem_cons.mp h
      obtain ⟨first', rest'⟩ := List.forall_mem_cons.mp h'
      rw [List.flatMap_cons, List.flatMap_cons, portNames_append_eq_iff first first'
        (startsAfresh_flatMap rest) (startsAfresh_flatMap rest'), ih rest rest',
        List.forall₂_cons]

/-! ### The role that a name tells -/

/-- What the file name of an overlay tells. -/
structure Tells (connector : Connector) (o : OverlayName) : Prop where
  start : ∃ rest, o.name = connector.fileNameStart ++ rest
  count : (parts connector o.name).length = o.role.partCount
  port : portIn? (parts connector o.name) = o.role.port?.map fun port => lower port.toList
  named : ∀ port, o.role.port? = some port → ∀ c ∈ port.toList, isNameChar c = true

theorem tells_ofBoard {board : BoardId}
    (h : ∀ c ∈ board.text.toList, Descriptor.isIdChar c = true) :
    Tells c ⟨ofBoard c board, .board⟩ := by
  refine ⟨⟨_, ofBoard_eq board⟩, ?_, ?_, nofun⟩
  · rw [parts_ofBoard h]
    rfl
  · rw [parts_ofBoard h]
    rfl

theorem tells_ofSensor (h : IsNamed e) :
    Tells c ⟨ofSensor c e.2.sensor e.1 e.2.lanes, .sensor e.1⟩ := by
  refine ⟨⟨_, ofSensor_eq ..⟩, length_parts_ofSensor h, ?_, ?_⟩
  · rw [parts_ofSensor h.2 h.1]
    rfl
  · rintro port same
    cases same
    exact h.1

theorem tells_ofLinkBooster (h : IsNamed e) :
    Tells c ⟨ofLinkBooster c e.1, .linkBooster e.1⟩ := by
  refine ⟨⟨_, ofLinkBooster_eq _⟩, ?_, ?_, ?_⟩
  · rw [parts_ofLinkBooster h.1]
    rfl
  · rw [parts_ofLinkBooster h.1]
    rfl
  · rintro port same
    cases same
    exact h.1

theorem tells_of_mem_ofPort (h : IsNamed e) (mem : o ∈ ofPort c e.1 e.2) : Tells c o := by
  unfold ofPort at mem
  dsimp only at mem
  split at mem
  · rw [List.mem_singleton.mp mem]
    exact tells_ofSensor h
  · rcases List.mem_cons.mp mem with rfl | mem
    · exact tells_ofSensor h
    · rw [List.mem_singleton.mp mem]
      exact tells_ofLinkBooster h

/-- One name is for one connector and one role. -/
theorem Tells.same_role {o' : OverlayName} (h : Tells c o) (h' : Tells c' o')
    (same : o.name = o'.name) : c = c' ∧ o.role.Same o'.role := by
  obtain ⟨rest, start⟩ := h.start
  obtain ⟨rest', start'⟩ := h'.start
  have connector := Connector.eq_of_append (start.symm.trans (same.trans start'))
  subst connector
  refine ⟨rfl, OverlayRole.same_of (by rw [← h.count, ← h'.count, same]) fun p q hp hq => ?_⟩
  have told := h.port
  rw [same, h'.port, hp, hq] at told
  exact (lower_eq_iff (h.named p hp) (h'.named q hq)).mp (Option.some.inj told).symm

end OverlayName

namespace Selection

open OverlayName

variable {s s' : Selection} {c c' : Connector} {o o' : OverlayName}

/-! ### The names of a selection's overlays -/

/-- Selections of one hardware, as far as file names tell. -/
structure SameHardware (s s' : Selection) : Prop where
  board : boardPart s.board = boardPart s'.board
  ports : List.Forall₂ SameSetup s.ports.toList s'.ports.toList

theorem map_name_overlays (s : Selection) (c : Connector) :
    (s.overlays c).map (·.name) =
      OverlayName.ofBoard c s.board :: s.ports.toList.flatMap (portNames c) := by
  rw [overlays, List.map_cons, List.map_flatMap]
  rfl

theorem map_name_overlays_eq_iff (worded : s.IsWorded) (worded' : s'.IsWorded) :
    (s.overlays c).map (·.name) = (s'.overlays c').map (·.name) ↔ c = c' ∧ s.SameHardware s' := by
  rw [map_name_overlays, map_name_overlays, List.cons.injEq]
  constructor
  · rintro ⟨board, ports⟩
    have connector : c = c' := by
      rw [ofBoard_eq, ofBoard_eq] at board
      exact Connector.eq_of_append board
    subst connector
    exact ⟨rfl, ofBoard_eq_iff.mp board, (flatMap_portNames_eq_iff
      (fun _ => worded.isNamed) fun _ => worded'.isNamed).mp ports⟩
  · rintro ⟨rfl, board, ports⟩
    exact ⟨ofBoard_eq_iff.mpr board, (flatMap_portNames_eq_iff
      (fun _ => worded.isNamed) fun _ => worded'.isNamed).mpr ports⟩

theorem tells_of_mem_overlays (worded : s.IsWorded) (mem : o ∈ s.overlays c) : Tells c o := by
  rcases List.mem_cons.mp mem with rfl | mem
  · exact tells_ofBoard worded.board
  · obtain ⟨e, he, mem⟩ := List.mem_flatMap.mp mem
    exact tells_of_mem_ofPort (worded.isNamed he) mem

theorem length_flatMap_ofPort (c : Connector) (es : List (String × PortSetup)) :
    (es.flatMap fun e => ofPort c e.1 e.2).length =
      es.length + es.countP (·.2.linkBooster = .present) := by
  induction es with
  | nil => rfl
  | cons e es ih =>
    rw [List.flatMap_cons, List.length_append, ih, List.countP_cons, List.length_cons]
    unfold ofPort
    cases e.2.linkBooster <;> simp <;> omega

theorem length_overlays (s : Selection) (c : Connector) : (s.overlays c).length =
    1 + s.size + s.ports.toList.countP (·.2.linkBooster = .present) := by
  rw [overlays, List.length_cons, length_flatMap_ofPort, size, SortedMap.size]
  omega

/-- What holds of a selection's overlays for a connector. -/
structure WellNamed (s : Selection) (c : Connector) : Prop where
  distinct : ((s.overlays c).map (·.name)).Nodup
  count : (s.overlays c).length =
    1 + s.size + s.ports.toList.countP (·.2.linkBooster = .present)
  boardFirst : (s.overlays c).head? = some ⟨OverlayName.ofBoard c s.board, .board⟩
  plain : ∀ o ∈ s.overlays c, ∀ d ∈ o.name.toList, d ≠ '/' ∧ d ≠ ',' ∧ Text.isBlank d = false
  inside : ∀ o ∈ s.overlays c, ∀ dir, o.name ≠ "." ∧ o.name ≠ ".." ∧
    Path.isAbsolute (Path.join dir o.name) = Path.isAbsolute dir ∧
    Path.steps (Path.join dir o.name) = Path.names dir ++ [o.name]

theorem wellNamed (worded : s.IsWorded) (once : s.OncePerPort) (c : Connector) :
    s.WellNamed c := by
  refine ⟨nodup_overlays worded once c, length_overlays s c, rfl, fun o mem d hd => ?_,
    fun o mem dir => ?_⟩
  · exact Text.plain_of_isFileNameChar ((isFileName_of_mem_overlays worded mem).chars d hd)
  · have name := isFileName_of_mem_overlays worded mem
    obtain ⟨nonempty, here, above⟩ := name.proper
    exact ⟨here, above, Path.isAbsolute_join name.slash_not_mem dir,
      Path.steps_join nonempty name.slash_not_mem dir⟩

end Selection

/-- The selections that arguments name have overlays of different names, one for the board and then
one or two for each port, each the name of a file that lies directly in any directory it is joined
to. The list of names determines the connector, the board and each port's setup, up to what names
leave out, and an overlay's name determines its role. -/
theorem overlays_faithful {arguments arguments' : List String} {s s' : Selection}
    (named : ModuleArgument.selection arguments = .ok s)
    (named' : ModuleArgument.selection arguments' = .ok s') (c c' : Connector) :
    s.WellNamed c ∧ s'.WellNamed c' ∧
    ((s.overlays c).map (·.name) = (s'.overlays c').map (·.name) ↔
      c = c' ∧ s.SameHardware s') ∧
    ∀ o ∈ s.overlays c, ∀ o' ∈ s'.overlays c', o.name = o'.name →
      c = c' ∧ o.role.Same o'.role := by
  have worded := ModuleArgument.isWorded_of_selection named
  have worded' := ModuleArgument.isWorded_of_selection named'
  refine ⟨?_, ?_, Selection.map_name_overlays_eq_iff worded worded', ?_⟩
  · exact Selection.wellNamed worded (ModuleArgument.oncePerPort_of_selection named) c
  · exact Selection.wellNamed worded' (ModuleArgument.oncePerPort_of_selection named') c'
  · intro o mem o' mem' same
    exact (Selection.tells_of_mem_overlays worded mem).same_role
      (Selection.tells_of_mem_overlays worded' mem') same

/-- Two ways to name one hardware, of which only one has capitals, lead to one list of files. -/
theorem overlays_of_two_spellings : ∃ s s',
    ModuleArgument.selection ["Tag FPA-A/1.2", "Tag imx900-P1-2Lane", "Tag IMX900-P0-4Lane-GMSL"] =
      .ok s ∧
    ModuleArgument.selection ["Tag imx900-p0-4Lane-gmsl", "Tag imx900-p1-2Lane", "Tag FPA-a/12"] =
      .ok s' ∧
    s.WellNamed .narrow ∧ s.SameHardware s' := by
  have first : ∃ s, ModuleArgument.selection
      ["Tag FPA-A/1.2", "Tag imx900-P1-2Lane", "Tag IMX900-P0-4Lane-GMSL"] = .ok s ∧
      (s.overlays .narrow).map (·.name) =
        ["tegra234-p3767-camera-p3768-fr_fpa_a_12-overlay.dtbo",
          "tegra234-p3767-camera-p3768-fr_imx900-p0-4lane-overlay.dtbo",
          "tegra234-p3767-camera-p3768-fr_p0-gmsl-overlay.dtbo",
          "tegra234-p3767-camera-p3768-fr_imx900-p1-2lane-overlay.dtbo"] := ⟨_, rfl, rfl⟩
  have second : ∃ s, ModuleArgument.selection
      ["Tag imx900-p0-4Lane-gmsl", "Tag imx900-p1-2Lane", "Tag FPA-a/12"] = .ok s ∧
      (s.overlays .narrow).map (·.name) =
        ["tegra234-p3767-camera-p3768-fr_fpa_a_12-overlay.dtbo",
          "tegra234-p3767-camera-p3768-fr_imx900-p0-4lane-overlay.dtbo",
          "tegra234-p3767-camera-p3768-fr_p0-gmsl-overlay.dtbo",
          "tegra234-p3767-camera-p3768-fr_imx900-p1-2lane-overlay.dtbo"] := ⟨_, rfl, rfl⟩
  obtain ⟨s, named, names⟩ := first
  obtain ⟨s', named', names'⟩ := second
  obtain ⟨wellNamed, -, sameNames, -⟩ := overlays_faithful named named' .narrow .narrow
  exact ⟨s, s', named, named', wellNamed, (sameNames.mp (names.trans names'.symm)).2⟩

end CameraSetup
