import CameraSetup.Text.Cluster.Table

/-! Clusters of characters: what a reader takes for one character, as Unicode divides text into
extended grapheme clusters. Main statements: the clusters of a text are the text, and none is
empty. -/

namespace CameraSetup.Text

/-- The part that a character takes in clusters. -/
inductive ClusterPart
  | carriageReturn
  | lineFeed
  | control
  /-- A mark or modifier. -/
  | extender
  /-- The sign that keeps letters apart, otherwise a mark. -/
  | separator
  /-- The sign that joins pictures, and also letters. -/
  | joiner
  /-- The mark that makes two consonants one letter. -/
  | linker
  | spacingMark
  | preceding
  /-- The first letter of a Hangul syllable. -/
  | initial
  /-- Its vowel, or a vowel sign of Kirat Rai. -/
  | medial
  /-- Its last letter. -/
  | final
  /-- A Hangul syllable to which a last letter can be added. -/
  | openSyllable
  /-- A Hangul syllable with its last letter. -/
  | closedSyllable
  | consonant
  | pictograph
  /-- One of the two letters that stand for a flag. -/
  | flagLetter
  | ordinary
  deriving DecidableEq, Repr

namespace ClusterPart

/-- The part of a letter or syllable that is written together with others like it. -/
def ofSyllable? (code : Nat) : Option ClusterPart :=
  if 0x1100 ≤ code && code ≤ 0x115f || 0xa960 ≤ code && code ≤ 0xa97c then some initial
  else if 0x1160 ≤ code && code ≤ 0x11a7 || 0xd7b0 ≤ code && code ≤ 0xd7c6 then some medial
  else if 0x11a8 ≤ code && code ≤ 0x11ff || 0xd7cb ≤ code && code ≤ 0xd7fb then some final
  else if code = 0x16d63 || 0x16d67 ≤ code && code ≤ 0x16d6a then some medial
  else if 0xac00 ≤ code && code ≤ 0xd7a3 then
    some (if (code - 0xac00) % 28 = 0 then openSyllable else closedSyllable)
  else none

/-- The part of a character that is not in ASCII. -/
def ofWide (c : Char) : ClusterPart :=
  if let some part := ofSyllable? c.toNat then part
  else if c = '\u200c' then separator
  else if c = '\u200d' then joiner
  else if linkerClass.contains c then linker
  else if extenderClass.contains c then extender
  else if spacingMarkClass.contains c then spacingMark
  else if controlClass.contains c then control
  else if precedingClass.contains c then preceding
  else if consonantClass.contains c then consonant
  else if 0x1f1e6 ≤ c.toNat && c.toNat ≤ 0x1f1ff then flagLetter
  else if pictographClass.contains c then pictograph
  else ordinary

/-- The part of a character. -/
def ofChar (c : Char) : ClusterPart :=
  if ' ' ≤ c && c ≤ '~' then ordinary
  else if c = '\r' then carriageReturn
  else if c = '\n' then lineFeed
  else ofWide c

/-- Whether a character is no part of a cluster with others, but for the two that end a line. -/
def standsAlone : ClusterPart → Bool
  | carriageReturn | lineFeed | control => true
  | _ => false

/-- Whether a character goes with any other before it. -/
def attaches : ClusterPart → Bool
  | extender | separator | joiner | linker | spacingMark => true
  | _ => false

/-- Whether a letter goes on a Hangul syllable after another. -/
def goesOnSyllable : ClusterPart → ClusterPart → Bool
  | initial, initial | initial, medial | initial, openSyllable | initial, closedSyllable => true
  | medial, medial | medial, final | openSyllable, medial | openSyllable, final => true
  | final, final | closedSyllable, final => true
  | _, _ => false

/-- Whether a consonant with a linker ends a cluster, whose parts are given from the last. -/
def endsLinked (parts : List ClusterPart) : Bool :=
  let between (part : ClusterPart) : Bool := part = linker || part = extender || part = joiner
  (parts.takeWhile between).contains linker && (parts.dropWhile between).head? = some consonant

/-- Whether a picture and a joiner end a cluster, whose parts are given from the last. -/
def endsJoined : List ClusterPart → Bool
  | joiner :: parts =>
    let mark (part : ClusterPart) : Bool :=
      part = linker || part = extender || part = separator
    (parts.dropWhile mark).head? = some pictograph
  | _ => false

/-- Whether the letters of flags at the end of a cluster lack one. -/
def lacksFlagLetter (parts : List ClusterPart) : Bool :=
  (parts.takeWhile (· = flagLetter)).length % 2 = 1

/-- Whether a character goes on a cluster, whose parts are given from the last. -/
def goesOn : List ClusterPart → ClusterPart → Bool
  | [], _ => false
  | last :: parts, part =>
    if last.standsAlone || part.standsAlone then last = carriageReturn && part = lineFeed
    else
      part.attaches || last = preceding || goesOnSyllable last part ||
      part = consonant && endsLinked (last :: parts) ||
      part = pictograph && endsJoined (last :: parts) ||
      part = flagLetter && lacksFlagLetter (last :: parts)

end ClusterPart

/-- A text as far as it is divided: the clusters that are complete and the one that may go on. All
are given from the last. -/
structure Division where
  complete : List (List Char)
  opened : List Char
  parts : List ClusterPart

namespace Division

/-- Nothing is divided. -/
def empty : Division := ⟨[], [], []⟩

/-- Completes the cluster that may go on. -/
def closed (d : Division) : List (List Char) :=
  if d.opened.isEmpty then d.complete else d.opened.reverse :: d.complete

/-- Adds a character. -/
def add (d : Division) (c : Char) : Division :=
  let part := ClusterPart.ofChar c
  if ClusterPart.goesOn d.parts part then ⟨d.complete, c :: d.opened, part :: d.parts⟩
  else ⟨d.closed, [c], [part]⟩

theorem flatten_closed (d : Division) :
    d.closed.reverse.flatten = d.complete.reverse.flatten ++ d.opened.reverse := by
  unfold closed
  split <;> simp_all

theorem flatten_add (d : Division) (c : Char) :
    (d.add c).closed.reverse.flatten = d.closed.reverse.flatten ++ [c] := by
  rw [flatten_closed, flatten_closed]
  unfold add
  dsimp only
  split
  · simp
  · simp [flatten_closed]

theorem ne_nil_of_mem_closed {d : Division} (h : ∀ cluster ∈ d.complete, cluster ≠ []) :
    ∀ cluster ∈ d.closed, cluster ≠ [] := by
  unfold closed
  split
  · exact h
  · simp_all

theorem ne_nil_of_mem_add {d : Division} (h : ∀ cluster ∈ d.complete, cluster ≠ []) (c : Char) :
    ∀ cluster ∈ (d.add c).complete, cluster ≠ [] := by
  unfold add
  dsimp only
  split
  · exact h
  · exact ne_nil_of_mem_closed h

theorem ne_nil_of_mem_foldl (text : List Char) {d : Division}
    (h : ∀ cluster ∈ d.complete, cluster ≠ []) :
    ∀ cluster ∈ (text.foldl add d).closed, cluster ≠ [] := by
  induction text generalizing d with
  | nil => exact ne_nil_of_mem_closed h
  | cons c cs ih => exact ih (ne_nil_of_mem_add h c)

end Division

/-- The clusters of a text. -/
def clusters (text : List Char) : List (List Char) :=
  (text.foldl Division.add .empty).closed.reverse

theorem flatten_clusters (text : List Char) : (clusters text).flatten = text := by
  suffices h : ∀ d : Division, (text.foldl Division.add d).closed.reverse.flatten =
      d.closed.reverse.flatten ++ text by
    simpa [clusters, Division.closed, Division.empty] using h .empty
  induction text with
  | nil => simp
  | cons c cs ih =>
    intro d
    rw [List.foldl_cons, ih, Division.flatten_add, List.append_assoc, List.singleton_append]

theorem ne_nil_of_mem_clusters {text cluster : List Char} (h : cluster ∈ clusters text) :
    cluster ≠ [] :=
  Division.ne_nil_of_mem_foldl text (d := .empty) (by simp [Division.empty]) cluster
    (by simpa [clusters] using h)

end CameraSetup.Text
