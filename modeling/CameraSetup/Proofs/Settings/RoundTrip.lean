import CameraSetup.Proofs.Except
import CameraSetup.Proofs.FileTree.Walk
import CameraSetup.Proofs.Settings.Fields

/-! Settings that are saved and loaded. Where a file can be written at all, settings that pass the
check are saved, and loaded from the same path they are what they were. A file with some of their
members, in any order, gives these and the standard values; one with a member that is unknown or
there twice gives nothing. -/

namespace CameraSetup

namespace FileTree

variable {t : FileTree} {l : Location} {path : String}

theorem readText_of_locate {file : File} {text : String} (located : t.locate path = .ok l)
    (present : t.node? l = some (.file file)) (content : file.content = Text.encodeUtf8 text) :
    t.readText path = .ok text := by
  have read : t.read path = .ok (Text.encodeUtf8 text) := by
    rw [read, stat_ok_iff.mpr ⟨l, located, present⟩, ← content]
    rfl
  simp only [readText, read, bind, Except.bind, Text.decodeUtf8?_encodeUtf8]
  rfl

/-- A file that is put where a path leads, and where no directory is, is what the path leads to. -/
theorem readText_put (located : t.locate path = .ok l) (free : t.node? l ≠ some .directory)
    (mode : Nat) (text : String) :
    (t.put l (.file ⟨mode, Text.encodeUtf8 text⟩)).readText path = .ok text := by
  have inside : l ≠ [] := by
    rintro rfl
    exact free rfl
  obtain ⟨checked, walked⟩ := locate_ok located
  have keeps : ∀ m, t.node? m = some .directory →
      (t.put l (.file ⟨mode, Text.encodeUtf8 text⟩)).node? m = some .directory := by
    intro m directory
    have other : m ≠ l := by
      rintro rfl
      exact free directory
    rw [node?_put_of_ne t other, directory]
  refine readText_of_locate ?_ (node?_put_self t inside _) rfl
  rw [locate_eq checked]
  exact walk_mono keeps walked

/-- Whether a path can be written does not depend on the text, and what is written is read. -/
theorem writeText_or (t : FileTree) (path : String) :
    (∃ cause, ∀ text, t.writeText path text = .error cause) ∨
      ∀ text, ∃ t', t.writeText path text = .ok t' ∧ t'.readText path = .ok text := by
  cases located : t.locate path with
  | error cause =>
    refine .inl ⟨cause, fun text => ?_⟩
    rw [writeText, located]
    rfl
  | ok l =>
    cases found : t.node? l with
    | none =>
      have free : t.node? l ≠ some .directory := by simp [found]
      refine .inr fun text => ⟨_, ?_, readText_put located free newFileMode text⟩
      simp only [writeText, located, found, bind, Except.bind]
      rfl
    | some node =>
      cases node with
      | directory =>
        refine .inl ⟨.isADirectory, fun text => ?_⟩
        simp only [writeText, located, found, bind, Except.bind]
        rfl
      | file old =>
        have free : t.node? l ≠ some .directory := by simp [found]
        refine .inr fun text => ⟨_, ?_, readText_put located free old.mode text⟩
        simp only [writeText, located, found, bind, Except.bind]
        rfl

end FileTree

namespace Settings

open FileTree (writeText_or)

variable {s : Settings} {fields : List Field} {tree : FileTree} {path text : String}

/-! ### The text of settings -/

theorem isProper_field (s : Settings) (f : Field) : (s.field f).IsProper := by
  cases f
  case pageCapacity =>
    show Json.IsNumber (toString s.pageCapacity).toList
    rw [Text.toList_toString]
    exact Json.isNumber_toDigits _
  case rebootCommand =>
    show Json.AreProper (s.rebootCommand.map textJson)
    induction s.rebootCommand with
    | nil => trivial
    | cons word words ih => exact ⟨trivial, ih⟩
  all_goals trivial

theorem isProper_partJson (s : Settings) (fields : List Field) : (s.partJson fields).IsProper := by
  show Json.HaveProper (fields.map fun f => (f.name.toList, s.field f))
  induction fields with
  | nil => trivial
  | cons f fields ih => exact ⟨s.isProper_field f, ih⟩

/-- The members of settings are read back from their text. -/
theorem parse?_partJson (s : Settings) (fields : List Field) :
    Json.parse? (s.partJson fields).render = some (s.partJson fields) :=
  Json.parse?_render (s.isProper_partJson fields)

/-! ### Loading -/

theorem load_of_parse? {v : Json} (read : tree.readText path = .ok text)
    (parsed : Json.parse? text = some v) :
    load tree path =
      match ofJson? v with
      | none => .error .malformed
      | some s =>
        match s.check with
        | .error fault => .error (.invalid fault)
        | .ok () => .ok s := by
  rw [load, read]
  show ofText? text = _
  rw [ofText?, parsed]
  rfl

/-- A file with some of the members of settings gives these and the standard values. -/
theorem load_partJson (passes : s.check = .ok ()) (small : s.pageCapacity < capacityBound)
    (once : fields.Nodup) : ∃ kept, Keeps fields s kept ∧
      ∀ (tree : FileTree) (path text : String), tree.readText path = .ok text →
        Json.parse? text = some (s.partJson fields) → load tree path = .ok kept := by
  obtain ⟨kept, taken, keeps⟩ := exists_keeps small once
  refine ⟨kept, keeps, fun tree path text read parsed => ?_⟩
  rw [load_of_parse? read parsed, taken]
  dsimp only
  rw [keeps.check passes]

/-- A file with a member that is unknown or there twice gives nothing. -/
theorem load_of_foreign {members : List (List Char × Json)} (read : tree.readText path = .ok text)
    (parsed : Json.parse? text = some (.object members))
    (foreign : (∃ m ∈ members, ∀ f : Field, m.1 ≠ f.name.toList) ∨ ¬ (members.map (·.1)).Nodup) :
    load tree path = .error .malformed := by
  rw [load_of_parse? read parsed]
  cases taken : ofJson? (.object members) with
  | none => rfl
  | some s =>
    obtain ⟨once, known⟩ := names_of_ofJson? taken
    rcases foreign with ⟨m, mem, unknown⟩ | twice
    · obtain ⟨f, same⟩ := known m mem
      exact absurd same (unknown f)
    · exact absurd once twice

/-- Settings that pass the check, with any characters in them and any page capacity of 64 bits, are
loaded as they were saved, unless no text can be written to the path at all. A file with some of
their members, in any order, gives these and the standard values, and their text is such a file. A
file with a member that is unknown or there twice cannot be loaded. -/
theorem saved_and_overridden (passes : s.check = .ok ()) (small : s.pageCapacity < capacityBound) :
    (∀ (tree : FileTree) (path : String),
      (∃ cause, ∀ text, tree.writeText path text = .error cause) ∨
        ∃ saved, s.save tree path = .ok saved ∧ load saved path = .ok s) ∧
    s.toJson = s.partJson Field.all ∧
    (∀ fields : List Field, fields.Nodup →
      Json.parse? (s.partJson fields).render = some (s.partJson fields) ∧
        ∃ kept, Keeps fields s kept ∧
          ∀ (tree : FileTree) (path text : String), tree.readText path = .ok text →
            Json.parse? text = some (s.partJson fields) → load tree path = .ok kept) ∧
    ∀ (tree : FileTree) (path text : String) (members : List (List Char × Json)),
      tree.readText path = .ok text → Json.parse? text = some (.object members) →
        ((∃ m ∈ members, ∀ f : Field, m.1 ≠ f.name.toList) ∨ ¬ (members.map (·.1)).Nodup) →
          load tree path = .error .malformed := by
  refine ⟨fun tree path => ?_, toJson_eq s, fun fields once =>
    ⟨s.parse?_partJson fields, load_partJson passes small once⟩,
    fun tree path text members => load_of_foreign⟩
  rcases writeText_or tree path with refused | written
  · exact .inl refused
  · obtain ⟨saved, out, back⟩ := written s.toJson.render
    obtain ⟨kept, keeps, loads⟩ := load_partJson passes small (show Field.all.Nodup by decide)
    have whole : kept = s := eq_of_field_eq fun f => (keeps f).trans (if_pos (mem_all f))
    refine .inr ⟨saved, ?_, whole ▸ loads saved path _ back (s.parse?_partJson Field.all)⟩
    rw [save, out]
    rfl

/-- Quotes, line breaks and control characters in the paths and the words, and the largest page
capacity: all of it is loaded as it was saved. Two of the members, the later one first, change the
standard settings in two fields, and a member of another name is refused. -/
theorem saved_and_overridden_odd : ∃ s kept : Settings,
    s.check = .ok () ∧ s.pageCapacity + 1 = capacityBound ∧
    s.overlayDir = "/a \"b\"\\c\nü😀" ∧ s.rebootCommand = ["re\x01boot", "", "\t"] ∧
    (∃ saved, s.save .empty "/s.json" = .ok saved ∧ load saved "/s.json" = .ok s) ∧
    (∃ saved, FileTree.empty.writeText "/s.json"
        (s.partJson [.pageCapacity, .overlayDir]).render = .ok saved ∧
      load saved "/s.json" = .ok kept) ∧
    kept = { standard with overlayDir := s.overlayDir, pageCapacity := s.pageCapacity } ∧
    ∃ saved, FileTree.empty.writeText "/s.json" (Json.object [(['x'], .null)]).render = .ok saved ∧
      load saved "/s.json" = .error .malformed := by
  let s : Settings := { standard with
    overlayDir := "/a \"b\"\\c\nü😀", pageCapacity := capacityBound - 1,
    rebootCommand := ["re\x01boot", "", "\t"] }
  have passes : s.check = .ok () := by decide
  have small : s.pageCapacity < capacityBound := by decide
  have writes (text : String) : ∃ saved, FileTree.empty.writeText "/s.json" text = .ok saved ∧
      saved.readText "/s.json" = .ok text := by
    rcases writeText_or .empty "/s.json" with ⟨cause, refused⟩ | written
    · have accepted : (FileTree.empty.writeText "/s.json" "").isOk = true := by decide +kernel
      rw [refused ""] at accepted
      cases accepted
    · exact written text
  obtain ⟨whole, -, parts, foreign⟩ := saved_and_overridden passes small
  obtain ⟨parsed, kept, keeps, loads⟩ := parts [.pageCapacity, .overlayDir] (by decide)
  refine ⟨s, kept, passes, rfl, rfl, rfl, ?_, ?_, eq_of_field_eq fun f => ?_, ?_⟩
  · rcases whole .empty "/s.json" with ⟨cause, refused⟩ | saved
    · obtain ⟨saved, out, -⟩ := writes ""
      cases out.symm.trans (refused "")
    · exact saved
  · obtain ⟨saved, out, back⟩ := writes (s.partJson [.pageCapacity, .overlayDir]).render
    exact ⟨saved, out, loads saved "/s.json" _ back parsed⟩
  · rw [keeps f]
    cases f <;> rfl
  · obtain ⟨saved, out, back⟩ := writes (Json.object [(['x'], .null)]).render
    have read := Json.parse?_render (v := .object [(['x'], .null)]) ⟨trivial, trivial⟩
    refine ⟨saved, out, foreign saved "/s.json" _ _ back read (.inl ⟨_, List.mem_cons_self, ?_⟩)⟩
    exact fun f => by cases f <;> decide

end Settings

end CameraSetup
