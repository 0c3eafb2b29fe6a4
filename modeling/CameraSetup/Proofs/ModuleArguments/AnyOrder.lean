import CameraSetup.Proofs.ModuleArguments.Written
import Mathlib.Data.List.Perm.Basic

/-! Which arguments name a selection, whatever their order: each tells something, one of them names a
board, and the others name ports, no port twice. Main statement: `selection_of_any_order`. -/

namespace CameraSetup.ModuleArgument

variable {r r' : Reading} {argument : String} {arguments arguments' : List String}
  {modules : List ModuleArgument} {s : Selection} {tells : String → ModuleArgument → Prop}

/-- Arguments name a selection, where `tells` is how each of them is read. -/
def Names (tells : String → ModuleArgument → Prop) (arguments : List String) (s : Selection) :
    Prop :=
  ∃ modules, List.Forall₂ tells arguments modules ∧ modules.filterMap board? = [s.board] ∧
    modules.filterMap port? ≠ [] ∧ (modules.filterMap port?).Pairwise Apart ∧
    s.ports.toList.Perm (modules.filterMap port?)

theorem Names.mono {tells' : String → ModuleArgument → Prop} (h : Names tells arguments s)
    (imp : ∀ argument ∈ arguments, ∀ m, tells argument m → tells' argument m) :
    Names tells' arguments s := by
  obtain ⟨modules, told, named⟩ := h
  have both := (List.forall₂_and_left arguments modules).mpr ⟨imp, told⟩
  exact ⟨modules, both.imp fun argument m h => h.1 m h.2, named⟩

theorem Names.exists_tells (h : Names tells arguments s) :
    ∀ argument ∈ arguments, ∃ m, tells argument m := by
  obtain ⟨modules, told, -⟩ := h
  have both : List.Forall₂ (fun argument m => (∃ m, tells argument m) ∧ tells argument m)
      arguments modules := told.imp fun argument m h => ⟨⟨m, h⟩, h⟩
  exact ((List.forall₂_and_left arguments modules).mp both).1

/-! ### One argument after the other -/

/-- How an argument is taken in: the first board, or a sensor on a port that was not named before. -/
inductive Reading.Takes (r : Reading) : ModuleArgument → Reading → Prop
  | addOnBoard (id : BoardId) (unset : r.board = none) :
    r.Takes (.addOnBoard id) ⟨some id, r.ports⟩
  | sensorModule (port : String) (setup : PortSetup)
    (fresh : ∀ e ∈ r.ports, Apart e (port, setup)) :
    r.Takes (.sensorModule port setup) ⟨r.board, r.ports ++ [(port, setup)]⟩

theorem Reading.takes_of_step (read : r.step argument = .ok r') :
    ∃ m, parse? argument = some m ∧ r.Takes m r' := by
  unfold Reading.step at read
  split at read
  · cases read
  · next id parsed =>
    split at read
    · cases read
    · next unset =>
      cases read
      exact ⟨_, parsed, .addOnBoard id unset⟩
  · next port setup parsed =>
    split at read
    · cases read
    · next fresh =>
      cases read
      refine ⟨_, parsed, .sensorModule port setup ?_⟩
      simpa [Reading.names, Apart] using fresh

/-- What a run has taken in is what its arguments tell. -/
theorem modules_of_foldlM (read : arguments.foldlM Reading.step r = .ok r')
    (apart : r.ports.Pairwise Apart) :
    ∃ modules : List ModuleArgument, arguments.map parse? = modules.map some ∧
      r'.board.toList = r.board.toList ++ modules.filterMap board? ∧
      r'.ports = r.ports ++ modules.filterMap port? ∧ r'.ports.Pairwise Apart := by
  induction arguments generalizing r with
  | nil =>
    cases pure_eq_ok.mp read
    exact ⟨[], rfl, (List.append_nil _).symm, (List.append_nil _).symm, apart⟩
  | cons argument arguments ih =>
    rw [List.foldlM_cons] at read
    obtain ⟨next, first, rest⟩ := bind_eq_ok.mp read
    obtain ⟨m, parsed, taken⟩ := Reading.takes_of_step first
    cases taken with
    | addOnBoard id unset =>
      obtain ⟨modules, parsed', board, ports, apart⟩ := ih rest apart
      refine ⟨.addOnBoard id :: modules, ?_, ?_, ports, apart⟩
      · rw [List.map_cons, List.map_cons, parsed, parsed']
      · rw [board, unset]
        rfl
    | sensorModule port setup fresh =>
      have apart' : (r.ports ++ [(port, setup)]).Pairwise Apart :=
        List.pairwise_append.mpr ⟨apart, List.pairwise_singleton _ _,
          fun d hd e he => List.mem_singleton.mp he ▸ fresh d hd⟩
      obtain ⟨modules, parsed', board, ports, apart⟩ := ih rest apart'
      refine ⟨.sensorModule port setup :: modules, ?_, board, ?_, apart⟩
      · rw [List.map_cons, List.map_cons, parsed, parsed']
      · rw [ports, List.append_assoc]
        rfl

theorem forall₂_parse?_iff : List.Forall₂ (fun a m => parse? a = some m) arguments modules ↔
    arguments.map parse? = modules.map some := by
  rw [← List.forall₂_eq_eq_eq, List.forall₂_map_left_iff, List.forall₂_map_right_iff]

/-- Ports that are apart are different. -/
theorem nodup_of_apart {ports : List (String × PortSetup)} (apart : ports.Pairwise Apart) :
    (ports.map (·.1)).Nodup := by
  refine List.pairwise_map.mpr (apart.imp fun {d e} differ same => ?_)
  rw [Apart, same, Bool.eq_false_iff] at differ
  exact differ (Text.sameIgnoringCase_iff.mpr rfl)

/-- Arguments are accepted exactly when they name a selection. -/
theorem selection_eq_ok_iff :
    selection arguments = .ok s ↔ Names (fun a m => parse? a = some m) arguments s := by
  constructor
  · intro accepted
    unfold selection at accepted
    obtain ⟨r, read, accepted⟩ := bind_eq_ok.mp accepted
    obtain ⟨modules, parsed, board, ports, apart⟩ := modules_of_foldlM read .nil
    rw [ports] at apart
    split at accepted
    · exact absurd accepted throw_ne_ok
    · next id known =>
      dsimp only at accepted
      split at accepted
      · exact absurd accepted throw_ne_ok
      · next some =>
        cases pure_eq_ok.mp accepted
        rw [known] at board
        rw [ports] at some ⊢
        refine ⟨modules, forall₂_parse?_iff.mpr parsed, board.symm, by simpa using some, apart,
          SortedMap.perm_ofList (nodup_of_apart apart)⟩
  · rintro ⟨modules, parsed, board, some, apart, same⟩
    rw [selection_of_modules (forall₂_parse?_iff.mp parsed) board some apart,
      SortedMap.ofList_of_perm same.symm]

/-! ### Arguments in another order -/

theorem Names.perm (h : Names tells arguments s) (perm : arguments.Perm arguments') :
    Names tells arguments' s := by
  obtain ⟨modules, said, board, some, apart, same⟩ := h
  obtain ⟨modules', said', moved⟩ := List.perm_comp_forall₂ perm.symm said
  have ports := moved.filterMap port?
  refine ⟨modules', said', ?_, ?_, (ports.pairwise_iff Apart.symm).mpr apart, same.trans ports.symm⟩
  · have boards := moved.filterMap board?
    rw [board] at boards
    exact List.perm_singleton.mp boards
  · intro none
    rw [none] at ports
    exact some ports.nil_eq.symm

theorem length_board?_port? (modules : List ModuleArgument) :
    (modules.filterMap board?).length + (modules.filterMap port?).length = modules.length := by
  induction modules with
  | nil => rfl
  | cons m modules ih =>
    cases m with
    | addOnBoard id =>
      simp only [List.filterMap_cons, board?, port?, List.length_cons]
      omega
    | sensorModule port setup =>
      simp only [List.filterMap_cons, board?, port?, List.length_cons]
      omega

theorem Names.size (h : Names tells arguments s) : s.size + 1 = arguments.length := by
  obtain ⟨modules, said, board, -, -, same⟩ := h
  have parts := length_board?_port? modules
  rw [board, ← same.length_eq, List.length_singleton] at parts
  rw [said.length_eq, ← parts, Selection.size, SortedMap.size]
  omega

/-- What an argument names is in the selection. -/
theorem Names.holds (h : Names (fun a m => parse? a = some m) arguments s)
    (mem : argument ∈ arguments) : parse? argument = some (.addOnBoard s.board) ∨
      ∃ port setup, parse? argument = some (.sensorModule port setup) ∧
        s.get? port = some setup := by
  obtain ⟨modules, told, board, -, -, same⟩ := h
  have inside : parse? argument ∈ arguments.map parse? := List.mem_map_of_mem mem
  rw [forall₂_parse?_iff.mp told] at inside
  obtain ⟨m, mem, parsed⟩ := List.mem_map.mp inside
  cases m with
  | addOnBoard id =>
    have named : id ∈ modules.filterMap board? := List.mem_filterMap.mpr ⟨_, mem, rfl⟩
    rw [board, List.mem_singleton] at named
    exact .inl (named ▸ parsed.symm)
  | sensorModule port setup =>
    have named : (port, setup) ∈ modules.filterMap port? := List.mem_filterMap.mpr ⟨_, mem, rfl⟩
    exact .inr ⟨port, setup, parsed.symm,
      SortedMap.get?_eq_some_iff.mpr (same.mem_iff.mpr named)⟩

/-- The order of arguments is of no account: they are refused in every order, or name the same
selection in every order. No argument that is accepted is lost: there is a port for each but the one
that names the board, and each is set up as its argument has it. -/
theorem selection_of_any_order (perm : arguments.Perm arguments') :
    ((∃ cause, selection arguments = .error cause) ∧
        (∃ cause, selection arguments' = .error cause) ∨
      ∃ s, selection arguments = .ok s ∧ selection arguments' = .ok s) ∧
    ∀ s, selection arguments = .ok s → s.size + 1 = arguments.length ∧
      ∀ argument ∈ arguments, parse? argument = some (.addOnBoard s.board) ∨
        ∃ port setup, parse? argument = some (.sensorModule port setup) ∧
          s.get? port = some setup := by
  constructor
  · cases accepted : selection arguments with
    | ok s =>
      have named := (selection_eq_ok_iff.mp accepted).perm perm
      exact .inr ⟨s, rfl, selection_eq_ok_iff.mpr named⟩
    | error cause =>
      cases accepted' : selection arguments' with
      | error cause' => exact .inl ⟨⟨cause, rfl⟩, cause', rfl⟩
      | ok s =>
        have named := (selection_eq_ok_iff.mp accepted').perm perm.symm
        rw [selection_eq_ok_iff.mpr named] at accepted
        cases accepted
  · intro s accepted
    have named := selection_eq_ok_iff.mp accepted
    exact ⟨named.size, fun argument => named.holds⟩

/-- The board comes last in one order and in the middle in the other. With a port named again in
another case, each order is refused for its own reason. -/
theorem selection_of_any_order_reversed :
    let named := ["x1 a-P0-4Lane-GMSL", "x1 b-P1-2Lane", "x1 FPA-1.2"]
    let refused := ["x1 a-P0-4Lane", "x1 b-p0-2Lane", "x1"]
    (∃ s, selection named = .ok s ∧ selection named.reverse = .ok s ∧ s.size = 2) ∧
    selection refused = .error (.repeatedPort "p0") ∧
    selection refused.reverse = .error (.unrecognized "x1") := by
  intro named refused
  obtain ⟨outcome, kept⟩ := selection_of_any_order named.reverse_perm.symm
  have accepted : (selection named).toOption.isSome = true := by decide +kernel
  refine ⟨?_, by decide +kernel, by decide +kernel⟩
  rcases outcome with ⟨⟨cause, failed⟩, -⟩ | ⟨s, forward, backward⟩
  · rw [failed] at accepted
    cases accepted
  · exact ⟨s, forward, backward, Nat.succ_inj.mp (kept s forward).1⟩

end CameraSetup.ModuleArgument
