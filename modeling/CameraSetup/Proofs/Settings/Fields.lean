import CameraSetup.Proofs.Json.RoundTrip
import CameraSetup.Proofs.Text.Digits
import CameraSetup.Settings.File
import Mathlib.Data.List.Nodup

/-! The fields of settings in a file. Each field is read back from its value, and reading it leaves
the others as they are. So an object with some of the fields of settings, in any order, gives these
fields and the standard ones. What is checked is checked field by field, so fields taken from
settings that pass the check and from the standard ones pass it together. -/

namespace CameraSetup.Settings

/-- Settings as an object with some of the fields. -/
def partJson (s : Settings) (fields : List Field) : Json :=
  .object (fields.map fun f => (f.name.toList, s.field f))

/-- Settings that have some fields of others, and the standard values in the rest. -/
def Keeps (fields : List Field) (s kept : Settings) : Prop :=
  ∀ f, kept.field f = if f ∈ fields then s.field f else standard.field f

variable {s s' : Settings} {fields : List Field} {f : Field}

theorem toJson_eq (s : Settings) : s.toJson = s.partJson Field.all := rfl

theorem mem_all (f : Field) : f ∈ Field.all := by
  cases f <;> decide

/-! ### Values -/

theorem textOf?_textJson (text : String) : textOf? (textJson text) = some text :=
  congrArg some String.ofList_toList

theorem textsOf?_map_textJson (texts : List String) :
    textsOf? (.array (texts.map textJson)) = some texts := by
  show (texts.map textJson).mapM textOf? = some texts
  induction texts with
  | nil => rfl
  | cons text texts ih =>
    rw [List.map_cons, List.mapM_cons, textOf?_textJson, ih]
    rfl

theorem capacityOf?_toString {n : Nat} (small : n < capacityBound) :
    capacityOf? (.number (toString n).toList) = some n := by
  have digits : (toString n).toList.all Char.isDigit = true :=
    List.all_eq_true.mpr fun d => Text.isDigit_of_mem_toString
  have value := Text.decimalValue_toString n
  rw [decimalValue] at value
  simp only [capacityOf?, digits, value, Bool.true_and, decide_eq_true small, if_true]

theorem eq_of_textJson_eq {a b : String} (same : textJson a = textJson b) : a = b := by
  have texts := congrArg textOf? same
  rw [textOf?_textJson, textOf?_textJson] at texts
  exact Option.some.inj texts

/-! ### Fields -/

/-- Settings with one field of others. -/
def taking (start s : Settings) : Field → Settings
  | .overlayDir => { start with overlayDir := s.overlayDir }
  | .bootConfig => { start with bootConfig := s.bootConfig }
  | .dtbDir => { start with dtbDir := s.dtbDir }
  | .compatibleFile => { start with compatibleFile := s.compatibleFile }
  | .pageCapacity => { start with pageCapacity := s.pageCapacity }
  | .rebootCommand => { start with rebootCommand := s.rebootCommand }
  | .logFile => { start with logFile := s.logFile }

theorem field_taking (start s : Settings) (f g : Field) :
    (start.taking s f).field g = if g = f then s.field g else start.field g := by
  cases f <;> cases g <;> rfl

theorem withField?_field (small : s.pageCapacity < capacityBound) (start : Settings) (f : Field) :
    start.withField? f (s.field f) = some (start.taking s f) := by
  cases f
  case pageCapacity =>
    rw [field, withField?, capacityOf?_toString small]
    rfl
  case rebootCommand =>
    rw [field, withField?, textsOf?_map_textJson]
    rfl
  all_goals
    rw [field, withField?, textOf?_textJson]
    rfl

theorem foldlM_withField? (small : s.pageCapacity < capacityBound) (fields : List Field)
    (start : Settings) :
    ∃ kept, (fields.map fun f => (f, s.field f)).foldlM (fun s f => s.withField? f.1 f.2) start =
        some kept ∧
      ∀ g, kept.field g = if g ∈ fields then s.field g else start.field g := by
  induction fields generalizing start with
  | nil => exact ⟨start, rfl, fun g => rfl⟩
  | cons f fields ih =>
    obtain ⟨kept, folded, same⟩ := ih (start.taking s f)
    refine ⟨kept, ?_, fun g => ?_⟩
    · rw [List.map_cons, List.foldlM_cons, withField?_field small]
      exact folded
    · rw [same, field_taking]
      simp only [List.mem_cons]
      split
      · simp [*]
      · simp [*]

/-- What has the same value in a field is the same there. -/
theorem taking_eq (same : s'.field f = s.field f) : s'.taking s f = s' := by
  cases f
  case pageCapacity =>
    have values := congrArg decimalValue (Json.number.inj same)
    simp only [Text.decimalValue_toString] at values
    rw [taking, ← values]
  case rebootCommand =>
    have texts := congrArg textsOf? same
    simp only [field, textsOf?_map_textJson, Option.some.injEq] at texts
    rw [taking, ← texts]
  all_goals rw [taking, ← eq_of_textJson_eq same]

/-- Settings are the same when they have the same values in all fields. -/
theorem eq_of_field_eq (same : ∀ f, s'.field f = s.field f) : s' = s := by
  have all : Field.all.foldl (fun t f => t.taking s f) s' = s := rfl
  simpa only [Field.all, List.foldl_cons, List.foldl_nil, taking_eq (same _)] using all

/-! ### The check -/

/-- What the check asks of a field. -/
def Passes (s : Settings) : Field → Prop
  | .pageCapacity => Wizard.leastCapacity ≤ s.pageCapacity
  | .rebootCommand => namesProgram s.rebootCommand = true
  | .overlayDir => Path.isAbsolute s.overlayDir = true
  | .bootConfig => Path.isAbsolute s.bootConfig = true
  | .dtbDir => Path.isAbsolute s.dtbDir = true
  | .compatibleFile | .logFile => True

theorem check_eq_ok_iff : s.check = .ok () ↔ ∀ f, s.Passes f := by
  have anchored : (∀ p ∈ s.anchoredPaths, Path.isAbsolute p.2 = true) ↔
      s.Passes .overlayDir ∧ s.Passes .bootConfig ∧ s.Passes .dtbDir := by
    simp [anchoredPaths, Passes]
  have fields : (∀ f, s.Passes f) ↔ s.Passes .pageCapacity ∧ s.Passes .rebootCommand ∧
      s.Passes .overlayDir ∧ s.Passes .bootConfig ∧ s.Passes .dtbDir := by
    refine ⟨fun h => ⟨h _, h _, h _, h _, h _⟩, fun h f => ?_⟩
    cases f <;> first | exact trivial | simp only [h]
  rw [fields, ← anchored, check]
  split
  · next small => simp [Passes, Nat.not_le_of_lt small]
  · next enough =>
    split
    · next nameless => simp_all [Passes]
    · next named =>
      have passes : s.Passes .pageCapacity ∧ s.Passes .rebootCommand :=
        ⟨Nat.le_of_not_lt enough, by simpa [Passes] using named⟩
      split
      · next field path found =>
        have relative := List.find?_some found
        refine ⟨nofun, fun h => ?_⟩
        have absolute := h.2.2 _ (List.mem_of_find?_eq_some found)
        simp [absolute] at relative
      · next none =>
        refine ⟨fun _ => ⟨passes.1, passes.2, fun p mem => ?_⟩, fun _ => rfl⟩
        simpa using List.find?_eq_none.mp none p mem

theorem passes_taking (start : Settings) : (start.taking s f).Passes f ↔ s.Passes f := by
  cases f <;> rfl

theorem Passes.of_field_eq (h : s.Passes f) (same : s'.field f = s.field f) : s'.Passes f :=
  taking_eq same ▸ (passes_taking s').mpr h

theorem check_standard : standard.check = .ok () := by decide

/-- Fields of settings that pass the check, with the standard ones for the others, pass it. -/
theorem Keeps.check (h : Keeps fields s s') (passes : s.check = .ok ()) : s'.check = .ok () := by
  rw [check_eq_ok_iff] at passes ⊢
  intro f
  by_cases kept : f ∈ fields
  · exact (passes f).of_field_eq ((h f).trans (if_pos kept))
  · exact (check_eq_ok_iff.mp check_standard f).of_field_eq ((h f).trans (if_neg kept))

/-! ### Objects -/

theorem ofName?_name (f : Field) : Field.ofName? f.name.toList = some f := by
  cases f <;> rfl

theorem name_of_ofName? {name : List Char} (h : Field.ofName? name = some f) :
    f.name.toList = name := by
  have found := List.find?_some h
  exact beq_iff_eq.mp found

/-- The field of a member, with its value. -/
def ofMember? (m : List Char × Json) : Option (Field × Json) :=
  (Field.ofName? m.1).map fun f => (f, m.2)

theorem ofJson?_object (members : List (List Char × Json)) : ofJson? (.object members) =
    (members.mapM ofMember?).bind fun fields =>
      if (fields.map (·.1)).Nodup then withFields? fields else none := rfl

theorem mapM_ofMember? (s : Settings) (fields : List Field) :
    (fields.map fun f => (f.name.toList, s.field f)).mapM ofMember? =
      some (fields.map fun f => (f, s.field f)) := by
  induction fields with
  | nil => rfl
  | cons f fields ih =>
    have first : ofMember? (f.name.toList, s.field f) = some (f, s.field f) :=
      congrArg (Option.map _) (ofName?_name f)
    rw [List.map_cons, List.mapM_cons, first, ih]
    rfl

/-- An object with some of the fields of settings gives them and the standard ones. -/
theorem exists_keeps (small : s.pageCapacity < capacityBound) (once : fields.Nodup) :
    ∃ kept, ofJson? (s.partJson fields) = some kept ∧ Keeps fields s kept := by
  obtain ⟨kept, folded, keeps⟩ := foldlM_withField? small fields standard
  refine ⟨kept, ?_, keeps⟩
  have names : (fields.map fun f => (f, s.field f)).map (·.1) = fields := by
    rw [List.map_map]
    exact List.map_id fields
  rw [partJson, ofJson?_object, mapM_ofMember?, Option.bind_some, names, if_pos once]
  exact folded

theorem map_name_of_mapM {members : List (List Char × Json)} {taken : List (Field × Json)}
    (h : members.mapM ofMember? = some taken) :
    members.map (·.1) = (taken.map (·.1)).map (·.name.toList) := by
  induction members generalizing taken with
  | nil =>
    cases h
    rfl
  | cons m members ih =>
    rw [List.mapM_cons] at h
    obtain ⟨first, named, h⟩ := Option.bind_eq_some_iff.mp h
    obtain ⟨others, later, same⟩ := Option.bind_eq_some_iff.mp h
    cases same
    obtain ⟨f, known, rfl⟩ := Option.map_eq_some_iff.mp named
    rw [List.map_cons, ih later]
    exact congrArg (· :: _) (name_of_ofName? known).symm

/-- What is read as settings names fields only, each at most once. -/
theorem names_of_ofJson? {members : List (List Char × Json)}
    (h : ofJson? (.object members) = some s) :
    (members.map (·.1)).Nodup ∧ ∀ m ∈ members, ∃ f : Field, m.1 = f.name.toList := by
  rw [ofJson?_object] at h
  obtain ⟨taken, read, h⟩ := Option.bind_eq_some_iff.mp h
  have names := map_name_of_mapM read
  split at h
  · next once =>
    have injective : Function.Injective fun f : Field => f.name.toList := by
      intro f g same
      have fields := congrArg Field.ofName? same
      simpa only [ofName?_name, Option.some.injEq] using fields
    refine ⟨names ▸ once.map injective, fun m mem => ?_⟩
    have named : m.1 ∈ (taken.map (·.1)).map (·.name.toList) := names ▸ List.mem_map_of_mem mem
    obtain ⟨f, -, same⟩ := List.mem_map.mp named
    exact ⟨f, same.symm⟩
  · cases h

end CameraSetup.Settings
