import CameraSetup.FileTree.Tree
import CameraSetup.Proofs.Text.Fields
import Mathlib.Data.List.Induction

/-! The directory of a path, and the path of a name in it: which steps they take, and which characters
they have. -/

namespace CameraSetup.Path

/-! ### Names -/

theorem names_slash (rest : String) : names ("/" ++ rest) = names rest := by
  have : ("/" ++ rest).toList = '/' :: rest.toList := by simp
  rw [names, this, Text.fields_cons_self]
  rfl

theorem names_append_name {name : String} (nonempty : name ≠ "") (free : '/' ∉ name.toList)
    (dir : String) : names (dir ++ "/" ++ name) = names dir ++ [name] := by
  have : (dir ++ "/" ++ name).toList = dir.toList ++ '/' :: name.toList := by simp
  rw [names, this, Text.fields_append_cons, Text.fields_of_not_mem free]
  simp [names, nonempty]

/-! ### A name taken from a directory -/

theorem mem_of_mem_join {dir name : String} {c : Char} (h : c ∈ (join dir name).toList) :
    c ∈ dir.toList ∨ c = '/' ∨ c ∈ name.toList := by
  unfold join at h
  split at h
  · exact .inr (.inr h)
  · split at h
    · rw [String.toList_append, List.mem_append] at h
      exact h.imp_right .inr
    · simp only [String.toList_append, List.mem_append] at h
      rcases h with (h | h) | h
      · exact .inl h
      · exact .inr (.inl (by simpa using h))
      · exact .inr (.inr h)

theorem not_isAbsolute {name : String} (free : '/' ∉ name.toList) : isAbsolute name = false := by
  rw [isAbsolute, beq_eq_false_iff_ne]
  exact fun first => free (List.mem_of_head? first)

/-- A name taken from a directory starts where the directory does. -/
theorem isAbsolute_join {name : String} (free : '/' ∉ name.toList) (dir : String) :
    isAbsolute (join dir name) = isAbsolute dir := by
  unfold join
  rw [not_isAbsolute free, Bool.false_or]
  split
  · next here =>
    rw [String.isEmpty_iff.mp here, not_isAbsolute free]
    rfl
  · next inside =>
    obtain ⟨first, rest, split⟩ : ∃ first rest, dir.toList = first :: rest :=
      List.exists_cons_of_ne_nil (by simpa using inside)
    split <;> simp [isAbsolute, split]

theorem names_join {name : String} (nonempty : name ≠ "") (free : '/' ∉ name.toList)
    (dir : String) : names (join dir name) = names dir ++ [name] := by
  unfold join
  rw [not_isAbsolute free, Bool.false_or]
  split
  · next here =>
    rw [String.isEmpty_iff.mp here, names, Text.fields_of_not_mem free]
    simp [names, Text.fields, nonempty]
  · split
    · next separated =>
      obtain ⟨front, ending⟩ := List.getLast?_eq_some_iff.mp (beq_iff_eq.mp separated)
      have whole : dir = String.ofList front ++ "/" := by
        rw [← String.toList_inj, ending]
        simp
      rw [whole, names_append_name nonempty free]
      congr 1
      rw [names, names, ← whole, ending, Text.fields_append_cons]
      simp [Text.fields]
    · exact names_append_name nonempty free dir

theorem steps_join {name : String} (nonempty : name ≠ "") (free : '/' ∉ name.toList)
    (dir : String) : steps (join dir name) = names dir ++ [name] := by
  have whole := names_join nonempty free dir
  have unasked : asksForDirectory (join dir name) = false := by
    have inside : name.toList ≠ [] := by simpa using nonempty
    have ending : (join dir name).toList.getLast? = some (name.toList.getLast inside) := by
      unfold join
      split
      · exact List.getLast?_eq_some_getLast inside
      · split <;>
          rw [String.toList_append, List.getLast?_append, List.getLast?_eq_some_getLast inside,
            Option.some_or]
    rw [asksForDirectory, ending, beq_eq_false_iff_ne]
    exact fun last => free (Option.some.inj last ▸ List.getLast_mem inside)
  rw [steps, unasked, if_neg Bool.false_ne_true, whole]

/-! ### The directory of a path -/

theorem names_eq (path : String) : names path = (parts path).filter (!·.isEmpty) := by
  have nonempty : (fun f : List Char => !f.isEmpty) = (!·.isEmpty) ∘ String.ofList := by
    funext f
    cases f <;> simp
  rw [names, parts, List.filter_map, nonempty]

theorem withoutIdleEnd_concat (front : List String) (last : String) :
    withoutIdleEnd (front ++ [last]) =
      if last = "" ∨ last = "." then withoutIdleEnd front else front ++ [last] := by
  by_cases idle : last = "" ∨ last = "." <;>
    simp [withoutIdleEnd, idle]

theorem withoutIdleEnd_subset (ps : List String) : withoutIdleEnd ps ⊆ ps := fun _ mem =>
  List.mem_reverse.mp ((List.dropWhile_sublist _).subset (List.mem_reverse.mp mem))

/-- Parts that name something last do so at their end, once what is idle there is taken away. -/
theorem withoutIdleEnd_of_filter {ps front : List String} {last : String} (name : last ≠ ".")
    (named : ps.filter (!·.isEmpty) = front ++ [last]) :
    ∃ above, withoutIdleEnd ps = above ++ [last] ∧ above.filter (!·.isEmpty) = front := by
  induction ps using List.reverseRecOn with
  | nil => simp at named
  | append_singleton ps part ih =>
    rw [withoutIdleEnd_concat]
    rw [List.filter_append] at named
    by_cases empty : part = ""
    · rw [if_pos (.inl empty)]
      exact ih (by simpa [empty] using named)
    · have kept : [part].filter (!·.isEmpty) = [part] := by simp [empty]
      rw [kept] at named
      obtain ⟨rfl, same⟩ := List.append_inj' named rfl
      cases same
      exact ⟨ps, if_neg (by simp [empty, name]), rfl⟩

theorem names_intercalate {ns : List String} (some : ns ≠ [])
    (free : ∀ n ∈ ns, '/' ∉ n.toList) :
    names (String.intercalate "/" ns) = ns.filter (!·.isEmpty) := by
  rw [names_eq, parts, Text.fields_intercalate rfl some free]
  simp [Function.comp_def]

theorem free_of_mem_parts {path part : String} (h : part ∈ parts path) :
    '/' ∉ part.toList ∧ ∀ c ∈ part.toList, c ∈ path.toList := by
  obtain ⟨f, mem, rfl⟩ := List.mem_map.mp h
  have chars := Text.mem_of_mem_fields mem
  simp only [String.toList_ofList]
  exact ⟨fun slash => (chars _ slash).2 rfl, fun c hc => (chars c hc).1⟩

/-- The directory of a path that ends in a name has the names before it, without what is idle at their
end. -/
theorem names_parent {path last : String} {front : List String} (name : last ≠ ".")
    (named : names path = front ++ [last]) :
    ∃ above, above.filter (!·.isEmpty) = front ∧
      (names (parent path) = (withoutIdleEnd above).filter (!·.isEmpty) ∨
        withoutIdleEnd above = [] ∧ names (parent path) = ["."]) := by
  rw [names_eq] at named
  obtain ⟨above, kept, filtered⟩ := withoutIdleEnd_of_filter name named
  refine ⟨above, filtered, ?_⟩
  have free : ∀ n ∈ withoutIdleEnd above, '/' ∉ n.toList := by
    intro n mem
    have inPath : n ∈ withoutIdleEnd (parts path) := by
      rw [kept]
      exact List.mem_append_left _ (withoutIdleEnd_subset above mem)
    exact (free_of_mem_parts (withoutIdleEnd_subset _ inPath)).1
  obtain ⟨first, rest, whole⟩ :=
    List.exists_cons_of_ne_nil (List.append_ne_nil_of_right_ne_nil above (List.cons_ne_nil last []))
  have dropped : (first :: rest).dropLast = above := by rw [← whole, List.dropLast_concat]
  unfold parent
  rw [kept, whole]
  dsimp only
  rw [dropped]
  cases left : withoutIdleEnd above with
  | nil =>
    dsimp only
    split
    · exact .inl (by decide)
    · exact .inr ⟨rfl, by decide⟩
  | cons first rest =>
    rw [left] at free
    exact .inl (names_intercalate (List.cons_ne_nil first rest) free)

/-- The directory of a path has no characters but those of the path, separators and periods. -/
theorem mem_of_mem_parent {path : String} {c : Char} (h : c ∈ (parent path).toList) :
    c = '/' ∨ c = '.' ∨ c ∈ path.toList := by
  unfold parent at h
  split at h
  · exact .inr (.inl (by simpa using h))
  · split at h
    · split at h
      · exact .inl (by simpa using h)
      · exact .inr (.inl (by simpa using h))
    · rcases Text.mem_of_mem_intercalate h with h | ⟨part, mem, h⟩
      · exact .inl (by simpa using h)
      · have mem := List.dropLast_subset _ (withoutIdleEnd_subset _ mem)
        exact .inr (.inr ((free_of_mem_parts (withoutIdleEnd_subset _ mem)).2 c h))

/-! ### Beside a file -/

theorem names_root_join (dir : String) : names (join "/" dir) = names dir := by
  have nonempty : "/".isEmpty = false := rfl
  have separated : asksForDirectory "/" = true := rfl
  unfold join
  rw [nonempty, separated, Bool.or_false]
  split
  · rfl
  · rw [if_pos rfl, names_slash]

theorem steps_beside {name : String} (nonempty : name ≠ "") (free : '/' ∉ name.toList)
    (path : String) : steps (beside path name) = names (parent path) ++ [name] := by
  rw [beside, steps_join nonempty free, names_root_join]

theorem mem_of_mem_beside {path name : String} {c : Char} (h : c ∈ (beside path name).toList) :
    c = '/' ∨ c = '.' ∨ c ∈ path.toList ∨ c ∈ name.toList := by
  rcases mem_of_mem_join h with h | slash | h
  · rcases mem_of_mem_join h with h | slash | h
    · exact .inl (by simpa using h)
    · exact .inl slash
    · rcases mem_of_mem_parent h with slash | period | h
      · exact .inl slash
      · exact .inr (.inl period)
      · exact .inr (.inr (.inl h))
  · exact .inl slash
  · exact .inr (.inr (.inr h))

end CameraSetup.Path
