import CameraSetup.Proofs.Descriptor.Written
import CameraSetup.Proofs.ModuleArguments

/-! A selection as module arguments. Each argument is read as what it was written for, and the
arguments of a selection, in whatever order they are given, name this selection. -/

namespace CameraSetup

/-- The argument that names the setup of a port. -/
def portArgument (tag port : String) (setup : PortSetup) : String :=
  let sensor := Descriptor.written tag (.sensorLane setup.sensor port setup.lanes)
  match setup.linkBooster with
  | .absent => sensor
  | .present => sensor ++ "-GMSL"

/-- The arguments that name a selection: that of its board, and one for each of its ports. -/
def Selection.arguments (s : Selection) (tag : String) : List String :=
  Descriptor.written tag (.addOnBoard s.board) ::
    s.ports.toList.map fun e => portArgument tag e.1 e.2

/-- What the arguments of a selection say. -/
def Selection.modules (s : Selection) : List ModuleArgument :=
  .addOnBoard s.board :: s.ports.toList.map fun e => .sensorModule e.1 e.2

/-- Descriptors can name the board, and the sensor and the lanes of every port. -/
structure Selection.IsWritable (s : Selection) : Prop where
  board : Descriptor.IsWorded (.addOnBoard s.board)
  ports : ∀ e ∈ s.ports.toList,
    Descriptor.IsWorded (.sensorLane e.2.sensor e.1 e.2.lanes) ∧ Descriptor.IsLaneCount e.2.lanes

namespace ModuleArgument

open Descriptor (IsWorded IsLaneCount isWordOf written sensorBody)

variable {tag argument descriptor sensor port : String} {lanes : Nat} {linkBooster : LinkBooster}
  {setup : PortSetup}

/-! ### One argument -/

theorem withoutSuffix_append (descriptor : String) :
    withoutSuffix (descriptor ++ "-GMSL") = (descriptor, .present) := by
  have cut : Text.cutLast? '-' (descriptor ++ "-GMSL").toList =
      some (descriptor.toList, ['G', 'M', 'S', 'L']) :=
    Text.cutLast?_eq_some_iff.mpr ⟨by simp, by decide⟩
  have same : Text.sameIgnoringCase ['G', 'M', 'S', 'L'] boosterSuffix = true := by decide
  simp only [withoutSuffix, cut, same, if_true, String.ofList_toList]

/-- The suffix ends in an L. -/
theorem withoutSuffix_of_getLast?
    (ends : ∀ c, argument.toList.getLast? = some c → c.toLower ≠ 'l') :
    withoutSuffix argument = (argument, .absent) := by
  rw [withoutSuffix]
  split
  · rfl
  · next before suffix cut =>
    rw [if_neg]
    intro same
    have split := (Text.cutLast?_eq_some_iff.mp cut).1
    have last := congrArg List.getLast? (Text.sameIgnoringCase_iff.mp same)
    rw [List.getLast?_map] at last
    obtain ⟨c, ending, lower⟩ := Option.map_eq_some_iff.mp last
    refine ends c ?_ lower
    rw [split, List.append_cons, List.getLast?_append, ending, Option.some_or]

/-- A text that ends in `Lane` does not ask for a link booster. -/
theorem withoutSuffix_of_lane {start : List Char}
    (ends : argument.toList = start ++ ['L', 'a', 'n', 'e']) :
    withoutSuffix argument = (argument, .absent) := by
  refine withoutSuffix_of_getLast? fun c last => ?_
  rw [ends, List.getLast?_append] at last
  cases last
  decide

theorem parse?_of_sensorLane (other : ∀ id, Descriptor.parse? argument ≠ some (.addOnBoard id))
    (split : withoutSuffix argument = (descriptor, linkBooster))
    (read : Descriptor.parse? descriptor = some (.sensorLane sensor port lanes)) :
    parse? argument = some (.sensorModule port ⟨sensor, lanes, linkBooster⟩) := by
  rw [parse?]
  split
  · next id board => exact absurd board (other id)
  · simp only [split, read]

theorem parse?_written_addOnBoard {id : BoardId}
    (htag : isWordOf Char.isAlphanum tag.toList = true) (h : IsWorded (.addOnBoard id)) :
    parse? (written tag (.addOnBoard id)) = some (.addOnBoard id) := by
  rw [parse?, Descriptor.parse?_written_addOnBoard htag h]

theorem portArgument_absent (tag port sensor : String) (lanes : Nat) :
    portArgument tag port ⟨sensor, lanes, .absent⟩ = written tag (.sensorLane sensor port lanes) :=
  rfl

theorem portArgument_present (tag port sensor : String) (lanes : Nat) :
    portArgument tag port ⟨sensor, lanes, .present⟩ =
      written tag (.sensorLane sensor port lanes) ++ "-GMSL" :=
  rfl

/-- With the suffix a body has three hyphens, which is none of a board. -/
theorem parse?_append_ne_addOnBoard (htag : isWordOf Char.isAlphanum tag.toList = true)
    (h : IsWorded (.sensorLane sensor port lanes)) (id : BoardId) :
    Descriptor.parse? (written tag (.sensorLane sensor port lanes) ++ "-GMSL") ≠
      some (.addOnBoard id) := by
  intro board
  obtain ⟨body, held, matched⟩ := Descriptor.addOnBoardOf?_of_parse? board
  have whole : (written tag (.sensorLane sensor port lanes) ++ "-GMSL").toList =
      tag.toList ++ ' ' :: (sensorBody sensor port lanes ++ ['-', 'G', 'M', 'S', 'L']) := by
    rw [String.toList_append, Descriptor.toList_written_sensorLane]
    simp
  have suffix : ['-', 'G', 'M', 'S', 'L'].all Descriptor.isBodyChar = true := by decide
  have chars := Descriptor.isWordOf_append (Descriptor.isBodyChar_sensorBody h)
    (List.all_eq_true.mp suffix)
  rw [whole, Descriptor.body?_append htag chars] at held
  cases held
  rw [sensorBody, List.append_assoc, List.cons_append, List.append_assoc, List.cons_append,
    Descriptor.addOnBoardOf?_two_hyphens] at matched
  cases matched

theorem parse?_portArgument (htag : isWordOf Char.isAlphanum tag.toList = true)
    (h : IsWorded (.sensorLane setup.sensor port setup.lanes)) (count : IsLaneCount setup.lanes) :
    parse? (portArgument tag port setup) = some (.sensorModule port setup) := by
  obtain ⟨sensor, lanes, linkBooster⟩ := setup
  dsimp only at h count
  have read := Descriptor.parse?_written_sensorLane htag h count
  cases linkBooster with
  | absent =>
    have ends : (written tag (.sensorLane sensor port lanes)).toList =
        (tag.toList ++ ' ' :: (sensor.toList ++ '-' :: (port.toList ++ '-' ::
          Nat.toDigits 10 lanes))) ++ ['L', 'a', 'n', 'e'] := by
      rw [Descriptor.toList_written_sensorLane, sensorBody]
      simp
    rw [portArgument_absent]
    refine parse?_of_sensorLane (fun id board => ?_) (withoutSuffix_of_lane ends) read
    cases read.symm.trans board
  | present =>
    rw [portArgument_present]
    exact parse?_of_sensorLane (parse?_append_ne_addOnBoard htag h) (withoutSuffix_append _) read

theorem map_parse?_arguments {s : Selection} (htag : isWordOf Char.isAlphanum tag.toList = true)
    (h : s.IsWritable) : (s.arguments tag).map parse? = s.modules.map some := by
  rw [Selection.arguments, Selection.modules, List.map_cons, List.map_cons, List.map_map,
    List.map_map, parse?_written_addOnBoard htag h.board]
  refine congrArg _ (List.map_congr_left fun e mem => ?_)
  obtain ⟨worded, count⟩ := h.ports e mem
  rw [Function.comp_apply, parse?_portArgument htag worded count, Function.comp_apply]

/-! ### All arguments -/

/-- The board that an argument names. -/
def board? : ModuleArgument → Option BoardId
  | .addOnBoard id => some id
  | .sensorModule .. => none

/-- The port that an argument sets up, and how. -/
def port? : ModuleArgument → Option (String × PortSetup)
  | .addOnBoard _ => none
  | .sensorModule port setup => some (port, setup)

/-- Two ports are different in any case of letters. -/
def Apart (d e : String × PortSetup) : Prop :=
  Text.sameIgnoringCase d.1.toList e.1.toList = false

/-- Arguments are taken in one after the other when they name one board at most and no port
twice. -/
theorem foldlM_step {arguments : List String} {modules : List ModuleArgument} {r : Reading}
    (read : arguments.map parse? = modules.map some)
    (single : (r.board.toList ++ modules.filterMap board?).length ≤ 1)
    (apart : (r.ports ++ modules.filterMap port?).Pairwise Apart) :
    arguments.foldlM Reading.step r = .ok ⟨(r.board.toList ++ modules.filterMap board?).head?,
      r.ports ++ modules.filterMap port?⟩ := by
  induction modules generalizing arguments r with
  | nil =>
    obtain rfl := List.map_eq_nil_iff.mp read
    simp [pure, Except.pure]
  | cons m modules ih =>
    obtain ⟨argument, arguments, rfl, first, rest⟩ := List.map_eq_cons_iff.mp read
    rw [List.foldlM_cons]
    cases m with
    | addOnBoard id =>
      have unset : r.board = none := by
        cases known : r.board with
        | none => rfl
        | some first => simp [known, board?] at single
      have step : r.step argument = .ok ⟨some id, r.ports⟩ := by
        simp only [Reading.step, first, unset]
      rw [step]
      have later := @ih arguments ⟨some id, r.ports⟩ rest (by simpa [unset, board?] using single)
        apart
      rw [unset]
      exact later
    | sensorModule port setup =>
      have fresh : r.names port = false := by
        rw [List.pairwise_append] at apart
        simp only [Reading.names, List.any_eq_false, Bool.not_eq_true]
        exact fun e mem => apart.2.2 e mem (port, setup) List.mem_cons_self
      have step : r.step argument = .ok ⟨r.board, r.ports ++ [(port, setup)]⟩ := by
        simp only [Reading.step, first, fresh, if_false, Bool.false_eq_true]
      rw [step]
      have whole : r.ports ++ (ModuleArgument.sensorModule port setup :: modules).filterMap port? =
          (r.ports ++ [(port, setup)]) ++ modules.filterMap port? := by
        rw [List.append_assoc]
        rfl
      rw [whole] at apart ⊢
      exact @ih arguments ⟨r.board, r.ports ++ [(port, setup)]⟩ rest single apart

theorem selection_of_modules {arguments : List String} {modules : List ModuleArgument}
    {board : BoardId} (read : arguments.map parse? = modules.map some)
    (boards : modules.filterMap board? = [board]) (some : modules.filterMap port? ≠ [])
    (apart : (modules.filterMap port?).Pairwise Apart) :
    selection arguments = .ok ⟨board, .ofList (modules.filterMap port?)⟩ := by
  have run := @foldlM_step arguments modules ⟨none, []⟩ read (by simp [boards]) apart
  have filled : (modules.filterMap port?).isEmpty = false := List.isEmpty_eq_false_iff.mpr some
  rw [selection, run, boards]
  simp [bind, Except.bind, pure, Except.pure, filled]

/-! ### The arguments of a selection -/

theorem filterMap_eq_of_map {α β : Type} {f : α → Option β} {xs : List α} {ys : List β}
    (h : xs.map f = ys.map some) : xs.filterMap f = ys := by
  have same := congrArg (List.filterMap id) h
  simpa [List.filterMap_map] using same

theorem map_eq_of_filterMap {α β : Type} {f : α → Option β} {xs : List α}
    (all : ∀ x ∈ xs, f x ≠ none) : xs.map f = (xs.filterMap f).map some := by
  induction xs with
  | nil => rfl
  | cons x xs ih =>
    obtain ⟨y, hy⟩ := Option.ne_none_iff_exists'.mp (all x List.mem_cons_self)
    rw [List.filterMap_cons_some hy, List.map_cons, List.map_cons, hy,
      ih fun z mem => all z (List.mem_cons_of_mem x mem)]

variable {s : Selection} {arguments : List String}

theorem filterMap_board?_modules (s : Selection) : s.modules.filterMap board? = [s.board] := by
  simp [board?, Selection.modules]

theorem filterMap_port?_modules (s : Selection) : s.modules.filterMap port? = s.ports.toList := by
  rw [Selection.modules, List.filterMap_cons_none rfl, List.filterMap_map]
  exact List.filterMap_some

theorem pairwise_apart (once : s.OncePerPort) : s.ports.toList.Pairwise Apart := by
  have distinct : s.ports.toList.Pairwise fun d e => d.1 ≠ e.1 :=
    List.pairwise_map.mp s.ports.nodup_keys
  refine distinct.imp_of_mem fun {d e} hd he differ => ?_
  rw [Apart, Bool.eq_false_iff]
  exact fun same => differ (once d.1 (List.mem_map_of_mem hd) e.1 (List.mem_map_of_mem he) same)

theorem Apart.symm {d e : String × PortSetup} (h : Apart d e) : Apart e d := by
  rw [Apart, Text.sameIgnoringCase_comm]
  exact h

theorem exists_modules (htag : isWordOf Char.isAlphanum tag.toList = true) (h : s.IsWritable)
    (perm : arguments.Perm (s.arguments tag)) :
    ∃ modules : List ModuleArgument, arguments.map parse? = modules.map some ∧
      modules.Perm s.modules := by
  have written := map_parse?_arguments htag h
  have known : ∀ argument ∈ arguments, parse? argument ≠ none := by
    intro argument mem none
    have inside : parse? argument ∈ (s.arguments tag).map parse? :=
      List.mem_map_of_mem (perm.mem_iff.mp mem)
    rw [written, none] at inside
    simp at inside
  have modules := perm.filterMap parse?
  rw [filterMap_eq_of_map written] at modules
  exact ⟨_, map_eq_of_filterMap known, modules⟩

/-- The arguments of a selection name it in whatever order they are given. -/
theorem selection_of_perm (htag : isWordOf Char.isAlphanum tag.toList = true) (h : s.IsWritable)
    (some : s.isEmpty = false) (once : s.OncePerPort) (perm : arguments.Perm (s.arguments tag)) :
    selection arguments = .ok s := by
  obtain ⟨modules, read, same⟩ := exists_modules htag h perm
  have boards : modules.filterMap board? = [s.board] := by
    have boards := same.filterMap board?
    rw [filterMap_board?_modules] at boards
    exact List.perm_singleton.mp boards
  have ports : (modules.filterMap port?).Perm s.ports.toList := by
    have ports := same.filterMap port?
    rwa [filterMap_port?_modules] at ports
  have nonempty : modules.filterMap port? ≠ [] := by
    intro none
    rw [none] at ports
    rw [Selection.isEmpty, SortedMap.isEmpty, ports.nil_eq.symm] at some
    cases some
  have apart : (modules.filterMap port?).Pairwise Apart :=
    (ports.pairwise_iff Apart.symm).mpr (pairwise_apart once)
  rw [selection_of_modules read boards nonempty apart, SortedMap.ofList_of_perm ports]

end ModuleArgument

end CameraSetup
