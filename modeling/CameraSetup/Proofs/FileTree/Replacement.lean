import CameraSetup.Proofs.FileTree.Walk

/-! Replacing a file as a whole. Until the temporary file is moved, the steps change nothing but that
file, so a replacement that fails leaves the tree as it was, whichever step fails and however far it
got. One that succeeds at a path that leads to a file gives that file the octets of the text and
changes nothing else, and it does succeed where nothing hinders it. -/

namespace CameraSetup

theorem Text.encodeUtf8_of_decodeUtf8? {bytes : List UInt8} {text : String}
    (h : decodeUtf8? bytes = some text) : encodeUtf8 text = bytes := by
  unfold decodeUtf8? String.fromUTF8? at h
  split at h
  · cases h
    rfl
  · cases h

/-! ### Names of temporary files -/

namespace TemporaryName

variable (name : TemporaryName)

theorem toList_text : name.text.toList = ['.', 't', 'm', 'p'] ++ name.letters := by
  simp [text]

theorem text_ne {other : String} (short : other.toList.length < 4) : name.text ≠ other := by
  rintro rfl
  rw [toList_text, List.length_append] at short
  exact absurd short (by simp)

theorem isAlphanum_or_period {c : Char} (h : c ∈ name.text.toList) :
    c = '.' ∨ c.isAlphanum = true := by
  rw [toList_text, List.mem_append] at h
  rcases h with start | letter
  · have each : ".tmp".toList.all (fun c => c == '.' || c.isAlphanum) = true := by decide
    simpa using List.all_eq_true.mp each c start
  · exact .inr (name.alphanumeric c letter)

theorem free_text : '/' ∉ name.text.toList := fun slash =>
  absurd (name.isAlphanum_or_period slash) (by decide)

theorem size_text_le : name.text.utf8ByteSize ≤ FileTree.maxNameSize := by
  have letters : ∀ cs : List Char, (String.ofList cs).utf8ByteSize ≤ 4 * cs.length := by
    intro cs
    induction cs with
    | nil => simp
    | cons c cs ih =>
      have size := c.utf8Size_le_four
      rw [String.ofList_cons, String.utf8ByteSize_append, String.utf8ByteSize_singleton,
        List.length_cons]
      omega
  have bound := letters name.letters
  have start : ".tmp".utf8ByteSize = 4 := rfl
  rw [name.length] at bound
  rw [text, String.utf8ByteSize_append, start, FileTree.maxNameSize]
  omega

end TemporaryName

/-- Whether a step fails after the temporary file was made. -/
def Circumstances.stops (c : Circumstances) : Bool :=
  c.writing.isSome || c.syncing.isSome || c.mode.isSome || c.moving.isSome

namespace FileTree

variable {t : FileTree} {l : Location} {α β : Type}

/-! ### Steps -/

/-- The tree that steps leave, whether they succeed or not. -/
def left : EStateM.Result FileError FileTree α → FileTree
  | .ok _ t | .error _ t => t

/-- Steps that change nothing but the file at a location. -/
def Spares (l : Location) (steps : Steps α) : Prop :=
  ∀ (t : FileTree) file, ∃ file', left (steps.run (t.put l (.file file))) = t.put l (.file file')

/-- Steps that have changed nothing but the file at a location when they fail. -/
def FailsSparing (l : Location) (steps : Steps α) : Prop :=
  ∀ (t : FileTree) file cause t', steps.run (t.put l (.file file)) = .error cause t' →
    ∃ file', t' = t.put l (.file file')

theorem FailsSparing.bind {x : Steps α} {f : α → Steps β} (hx : Spares l x)
    (hf : ∀ a, FailsSparing l (f a)) : FailsSparing l (x >>= f) := by
  intro t file cause t' failed
  obtain ⟨file', spared⟩ := hx t file
  rw [EStateM.run_bind] at failed
  split at failed
  · next a between ok =>
    rw [ok, left] at spared
    rw [spared] at failed
    exact hf a t file' cause t' failed
  · next error =>
    cases failed
    rw [error] at spared
    exact ⟨file', spared⟩

/-! ### Each step -/

theorem edit_put (inside : l ≠ []) (t : FileTree) (file : File) (change : File → File) :
    (t.put l (.file file)).edit l change = t.put l (.file (change file)) := by
  rw [edit, node?_put_self t inside]
  exact put_put t l _ _

theorem run_meet (failure : Option SystemError) (t : FileTree) :
    (meet failure).run t =
      match failure with
      | none => .ok () t
      | some cause => .error (.system cause) t := by
  cases failure <;> rfl

theorem run_writeOctets (inside : l ≠ []) (t : FileTree) (file : File) (path : String)
    (octets : List UInt8) (failure : Option (Nat × SystemError)) :
    (writeOctets l path octets failure).run (t.put l (.file file)) =
      match failure with
      | none => .ok () (t.put l (.file ⟨file.mode, file.content ++ octets⟩))
      | some (count, cause) => .error (.atPath path (.system cause))
          (t.put l (.file ⟨file.mode, file.content ++ octets.take count⟩)) := by
  cases failure with
  | none => exact congrArg (EStateM.Result.ok ()) (edit_put inside t file _)
  | some failure => exact congrArg (EStateM.Result.error _) (edit_put inside t file _)

theorem run_copyMode (l : Location) (path : String) (failure : Option SystemError)
    (t : FileTree) :
    (copyMode l path failure).run t =
      match t.stat path, failure with
      | .error _, _ => .ok () t
      | .ok _, some cause => .error (.system cause) t
      | .ok (.file old), none => .ok () (t.edit l fun file => { file with mode := old.mode })
      | .ok .directory, none => .ok () t := by
  unfold copyMode
  rw [EStateM.run_bind]
  dsimp only [EStateM.run_get]
  cases t.stat path with
  | error => rfl
  | ok node => cases failure <;> cases node <;> rfl

theorem run_moveTo (l : Location) (path : String) (failure : Option SystemError) (t : FileTree) :
    (moveTo l path failure).run t =
      match t.destination path >>= t.rename l, failure with
      | .error cause, _ => .error cause t
      | .ok _, some cause => .error (.system cause) t
      | .ok moved, none => .ok () moved := by
  unfold moveTo
  rw [EStateM.run_bind]
  dsimp only [EStateM.run_get]
  cases t.destination path >>= t.rename l with
  | error => rfl
  | ok => cases failure <;> rfl

/-! ### What fails leaves the tree as it was -/

theorem spares_meet (l : Location) (failure : Option SystemError) : Spares l (meet failure) := by
  intro t file
  rw [run_meet]
  cases failure <;> exact ⟨file, rfl⟩

theorem spares_writeOctets (inside : l ≠ []) (path : String) (octets : List UInt8)
    (failure : Option (Nat × SystemError)) : Spares l (writeOctets l path octets failure) := by
  intro t file
  rw [run_writeOctets inside]
  cases failure <;> exact ⟨_, rfl⟩

theorem spares_copyMode (inside : l ≠ []) (path : String) (failure : Option SystemError) :
    Spares l (copyMode l path failure) := by
  intro t file
  rw [run_copyMode]
  split
  · exact ⟨file, rfl⟩
  · exact ⟨file, rfl⟩
  · exact ⟨_, edit_put inside t file _⟩
  · exact ⟨file, rfl⟩

/-- A move that fails has moved nothing. -/
theorem failsSparing_moveTo (l : Location) (path : String) (failure : Option SystemError) :
    FailsSparing l (moveTo l path failure) := by
  intro t file cause t' failed
  rw [run_moveTo] at failed
  split at failed <;> cases failed <;> exact ⟨file, rfl⟩

theorem failsSparing_completeReplacement (inside : l ≠ []) (c : Circumstances)
    (temporary path text : String) :
    FailsSparing l (completeReplacement c l temporary path text) := by
  refine FailsSparing.bind (spares_writeOctets inside _ _ _) fun _ => ?_
  refine FailsSparing.bind (spares_meet l _) fun _ => ?_
  exact FailsSparing.bind (spares_copyMode inside _ _) fun _ => failsSparing_moveTo l _ _

/-- The temporary file is made where nothing was, or nothing is made. -/
theorem run_makeTemporary (path : String) (failure : Option SystemError)
    (names : List TemporaryName) (t : FileTree) :
    (∃ cause, (makeTemporary path failure names).run t = .error cause t) ∨
    ∃ location temporary, t.node? location = none ∧
      (makeTemporary path failure names).run t =
        .ok (location, temporary) (t.put location (.file ⟨temporaryMode, []⟩)) := by
  induction names with
  | nil => exact .inl ⟨_, rfl⟩
  | cons name names ih =>
    unfold makeTemporary
    dsimp only
    rw [EStateM.run_bind]
    dsimp only [EStateM.run_get]
    cases t.locate (Path.beside path name.text) with
    | error cause => exact .inl ⟨_, rfl⟩
    | ok location =>
      cases taken : t.node? location with
      | some _ => simpa only [taken] using ih
      | none =>
        cases failure with
        | some cause =>
          exact .inl ⟨.atPath (Path.beside path name.text) (.system cause), by simp only [taken]; rfl⟩
        | none => exact .inr ⟨location, _, taken, by simp only [taken]; rfl⟩

theorem ne_nil_of_absent (absent : t.node? l = none) : l ≠ [] := by
  rintro rfl
  cases absent

/-- A replacement that fails leaves the tree as it was. -/
theorem replaceText_error {c : Circumstances} {path text : String} {cause : FileError}
    (h : (t.replaceText c path text).2 = .error cause) :
    (t.replaceText c path text).1 = t := by
  unfold replaceText at h ⊢
  rcases run_makeTemporary path c.creation c.names t with
    ⟨cause, unmade⟩ | ⟨location, temporary, absent, made⟩
  · rw [unmade]
  · rw [made] at h ⊢
    dsimp only at h ⊢
    cases completed : (completeReplacement c location temporary path text).run
        (t.put location (.file ⟨temporaryMode, []⟩)) with
    | ok _ replaced =>
      rw [completed] at h
      cases h
    | error cause left =>
      obtain ⟨file, rfl⟩ := failsSparing_completeReplacement (ne_nil_of_absent absent) c temporary
        path text t _ cause left completed
      exact remove_put absent _

/-! ### What succeeds replaces the file -/

theorem destination_eq {path name : String} {directory : Location}
    (h : t.LeadsToFile path directory name) :
    t.destination path = .ok (directory ++ [name]) := by
  obtain ⟨front, names, before⟩ := h.names
  have inDirectory : t.walk [] (front ++ ["."]) = .ok directory := by
    rw [walk_append before, walk_cons h.inside (by decide)]
    rfl
  have atName : t.walk directory [name] = .ok (directory ++ [name]) := by
    rw [walk_cons h.inside h.short, taken, if_neg h.name.1, if_neg h.name.2]
    rfl
  unfold destination
  rw [h.checked, names, List.dropLast_concat, List.getLast?_concat, inDirectory]
  simp only [bind, Except.bind]
  split
  · next nothing => cases nothing
  · next here => exact absurd (Option.some.inj here) h.name.1
  · next up => exact absurd (Option.some.inj up) h.name.2
  · next same =>
    cases same
    rw [atName, h.asked]
    rfl

/-- A path leads to the same file after something was put where nothing was. -/
theorem LeadsToFile.put {path name : String} {directory : Location}
    (h : t.LeadsToFile path directory name) (absent : t.node? l = none) (node : Node) :
    (t.put l node).LeadsToFile path directory name := by
  have keeps : ∀ m, t.node? m = some .directory → (t.put l node).node? m = some .directory := by
    intro m inside
    rw [node?_put_of_ne, inside]
    rintro rfl
    rw [absent] at inside
    cases inside
  obtain ⟨front, names, before⟩ := h.names
  exact { h with
    names := ⟨front, names, walk_mono keeps before⟩
    inside := keeps _ h.inside }

theorem LeadsToFile.locate {path name : String} {directory : Location}
    (h : t.LeadsToFile path directory name) : t.locate path = .ok (directory ++ [name]) := by
  obtain ⟨front, names, before⟩ := h.names
  rw [locate_eq h.checked, Path.steps, h.asked, if_neg Bool.false_ne_true, names,
    walk_append before, walk_cons h.inside h.short, taken, if_neg h.name.1, if_neg h.name.2]
  rfl

section
variable {path name : String} {directory : Location} {old : File}

/-- The temporary file that was made gets the text and the mode of the file, and takes its place,
unless a step fails for a reason that the tree does not tell. -/
theorem run_completeReplacement (leads : t.LeadsToFile path directory name)
    (present : t.node? (directory ++ [name]) = some (.file old)) (absent : t.node? l = none)
    (c : Circumstances) (temporary text : String) :
    (c.stops = true ∧ ∃ cause left, (completeReplacement c l temporary path text).run
      (t.put l (.file ⟨temporaryMode, []⟩)) = .error cause left) ∨
    (c.stops = false ∧ (completeReplacement c l temporary path text).run
      (t.put l (.file ⟨temporaryMode, []⟩)) =
        .ok () (t.put (directory ++ [name]) (.file ⟨old.mode, Text.encodeUtf8 text⟩))) := by
  have inside := ne_nil_of_absent absent
  have other : directory ++ [name] ≠ l := by
    rintro rfl
    rw [present] at absent
    cases absent
  have there : ∀ node, (t.put l node).node? (directory ++ [name]) = some (.file old) := fun node =>
    (node?_put_of_ne t other node).trans present
  have seen : ∀ node, (t.put l node).stat path = .ok (.file old) := fun node =>
    stat_ok_iff.mpr ⟨_, (leads.put absent node).locate, there node⟩
  have moved : ∀ node, ((t.put l node).destination path >>= (t.put l node).rename l) =
      .ok (t.put (directory ++ [name]) node) := by
    intro node
    rw [destination_eq (leads.put absent node)]
    show (t.put l node).rename l (directory ++ [name]) = _
    rw [rename, node?_put_self t inside, there, remove_put absent]
  unfold completeReplacement Circumstances.stops
  rw [EStateM.run_bind, run_writeOctets inside]
  cases c.writing with
  | some failure => exact .inl ⟨rfl, _, _, rfl⟩
  | none =>
    dsimp only
    rw [EStateM.run_bind, run_meet]
    cases c.syncing with
    | some cause => exact .inl ⟨rfl, _, _, rfl⟩
    | none =>
      dsimp only
      rw [EStateM.run_bind, run_copyMode, seen]
      cases c.mode with
      | some cause => exact .inl ⟨rfl, _, _, rfl⟩
      | none =>
        dsimp only
        rw [edit_put inside, run_moveTo, moved]
        cases c.moving with
        | some cause => exact .inl ⟨rfl, _, _, rfl⟩
        | none => exact .inr ⟨rfl, rfl⟩

/-- A file that a path leads to gets the octets of the text and keeps its mode, and nothing else
changes, or nothing changes at all. -/
theorem replaceText_of_file (located : t.locate path = .ok l)
    (present : t.node? l = some (.file old)) (c : Circumstances) (text : String) :
    (∃ cause, t.replaceText c path text = (t, .error cause)) ∨
      t.replaceText c path text =
        (t.put l (.file ⟨old.mode, Text.encodeUtf8 text⟩), .ok ()) := by
  obtain ⟨directory, name, rfl, leads⟩ := leadsToFile located present
  cases result : (t.replaceText c path text).2 with
  | error cause =>
    exact .inl ⟨cause, Prod.ext_iff.mpr ⟨replaceText_error result, result⟩⟩
  | ok =>
    right
    unfold replaceText at result ⊢
    rcases run_makeTemporary path c.creation c.names t with
      ⟨cause, unmade⟩ | ⟨location, temporary, absent, made⟩
    · rw [unmade] at result
      cases result
    · rw [made] at result ⊢
      dsimp only at result ⊢
      rcases run_completeReplacement leads present absent c temporary text with
        ⟨-, cause, left, failed⟩ | ⟨-, done⟩
      · rw [failed] at result
        cases result
      · rw [done]

/-! ### Where nothing hinders it -/

theorem walk_withoutIdleEnd {parts : List String} {m : Location}
    (h : t.walk l (parts.filter (!·.isEmpty)) = .ok m) :
    t.walk l ((Path.withoutIdleEnd parts).filter (!·.isEmpty)) = .ok m := by
  induction parts using List.reverseRecOn with
  | nil => exact h
  | append_singleton parts part ih =>
    rw [Path.withoutIdleEnd_concat]
    split
    · next idle =>
      rw [List.filter_append] at h
      rcases idle with rfl | rfl
      · exact ih (by simpa using h)
      · obtain ⟨between, before, last⟩ := walk_append_ok h
        obtain ⟨-, -, rest⟩ := walk_cons_ok last
        cases rest
        exact ih before
    · exact h

/-- A temporary file beside a file that a path leads to lies in that file's directory. -/
theorem LeadsToFile.locate_beside (h : t.LeadsToFile path directory name)
    (temporary : TemporaryName)
    (short : (Path.beside path temporary.text).utf8ByteSize ≤ maxPathSize) :
    t.locate (Path.beside path temporary.text) = .ok (directory ++ [temporary.text]) := by
  obtain ⟨front, named, before⟩ := h.names
  obtain ⟨above, filtered, names⟩ := Path.names_parent h.name.1 named
  have kept := walk_withoutIdleEnd (filtered.symm ▸ before)
  have reached : t.walk [] (Path.names (Path.parent path)) = .ok directory := by
    rcases names with names | ⟨idle, here⟩
    · rwa [names]
    · rw [idle] at kept
      cases kept
      rw [here]
      rfl
  obtain ⟨-, noNul, -⟩ := checkPath_ok_iff.mp h.checked
  have checked : checkPath (Path.beside path temporary.text) = .ok () := by
    refine checkPath_ok_iff.mpr ⟨?_, fun nul => ?_, short⟩
    · intro empty
      have steps := Path.steps_beside (temporary.text_ne (by decide)) temporary.free_text path
      rw [empty, show Path.steps "" = [] by decide] at steps
      exact List.append_ne_nil_of_right_ne_nil _ (List.cons_ne_nil _ _) steps.symm
    · rcases Path.mem_of_mem_beside nul with slash | period | nul | nul
      · exact absurd slash (by decide)
      · exact absurd period (by decide)
      · exact noNul nul
      · exact absurd (temporary.isAlphanum_or_period nul) (by decide)
  have step : taken directory temporary.text = directory ++ [temporary.text] := by
    rw [taken, if_neg (temporary.text_ne (by decide)), if_neg (temporary.text_ne (by decide))]
  rw [locate_eq checked, Path.steps_beside (temporary.text_ne (by decide)) temporary.free_text,
    walk_append reached, walk_cons h.inside temporary.size_text_le, step]
  rfl

theorem exists_makeTemporary (leads : t.LeadsToFile path directory name)
    {names : List TemporaryName}
    (short : ∀ temporary ∈ names,
      (Path.beside path temporary.text).utf8ByteSize ≤ maxPathSize)
    (fresh : ∃ temporary ∈ names, t.node? (directory ++ [temporary.text]) = none) :
    ∃ location temporary, t.node? location = none ∧
      (makeTemporary path none names).run t =
        .ok (location, temporary) (t.put location (.file ⟨temporaryMode, []⟩)) := by
  induction names with
  | nil => simp at fresh
  | cons first names ih =>
    have located := leads.locate_beside first (short first List.mem_cons_self)
    unfold makeTemporary
    dsimp only
    rw [EStateM.run_bind]
    dsimp only [EStateM.run_get]
    rw [located]
    cases taken : t.node? (directory ++ [first.text]) with
    | none => exact ⟨_, _, taken, by simp only [taken]; rfl⟩
    | some node =>
      obtain ⟨temporary, mem, absent⟩ := fresh
      rcases List.mem_cons.mp mem with rfl | mem
      · rw [taken] at absent
        cases absent
      · simpa only [taken] using ih (fun n hn => short n (List.mem_cons_of_mem _ hn))
          ⟨temporary, mem, absent⟩

end

/-- Nothing hinders the replacement of the file at a path: there is a name for the temporary file, the
paths of the names are not too long, and no step fails for a reason that the tree does not tell. -/
structure Allows (t : FileTree) (c : Circumstances) (path : String) : Prop where
  fresh : ∃ name ∈ c.names, t.stat (Path.beside path name.text) = .error .notFound
  short : ∀ name ∈ c.names, (Path.beside path name.text).utf8ByteSize ≤ maxPathSize
  creation : c.creation = none
  steps : c.stops = false

/-- Where nothing hinders it, the file at a path is replaced. -/
theorem replaceText_of_allows {path : String} {old : File} {c : Circumstances}
    (allows : t.Allows c path) (located : t.locate path = .ok l)
    (present : t.node? l = some (.file old)) (text : String) :
    t.replaceText c path text = (t.put l (.file ⟨old.mode, Text.encodeUtf8 text⟩), .ok ()) := by
  obtain ⟨directory, name, rfl, leads⟩ := leadsToFile located present
  have fresh : ∃ temporary ∈ c.names, t.node? (directory ++ [temporary.text]) = none := by
    obtain ⟨temporary, mem, missing⟩ := allows.fresh
    refine ⟨temporary, mem, ?_⟩
    cases found : t.node? (directory ++ [temporary.text]) with
    | none => rfl
    | some node =>
      have there := leads.locate_beside temporary (allows.short temporary mem)
      rw [stat_ok_iff.mpr ⟨_, there, found⟩] at missing
      cases missing
  obtain ⟨location, temporary, absent, made⟩ := exists_makeTemporary leads allows.short fresh
  unfold replaceText
  rw [allows.creation, made]
  dsimp only
  rcases run_completeReplacement leads present absent c temporary text with
    ⟨stops, -⟩ | ⟨-, done⟩
  · rw [allows.steps] at stops
    cases stops
  · rw [done]

end FileTree

end CameraSetup
