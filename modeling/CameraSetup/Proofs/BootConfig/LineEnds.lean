import CameraSetup.Proofs.BootConfig.RoundTrip

/-! What reading a boot configuration and writing it again does to its text: line ends of a carriage
return and a line feed become line feeds, and no other character is touched. -/

namespace CameraSetup

namespace Text

/-- The text with a line feed in place of every carriage return and line feed, in one pass from the
front. -/
def withFeeds : List Char → List Char
  | [] => []
  | '\r' :: '\n' :: cs => '\n' :: withFeeds cs
  | c :: cs => c :: withFeeds cs

theorem withFeeds_cons {c : Char} {cs : List Char} (h : c = '\r' → cs.head? ≠ some '\n') :
    withFeeds (c :: cs) = c :: withFeeds cs := by
  rw [withFeeds.eq_def]
  split
  · next none => cases none
  · next same =>
    cases same
    exact absurd rfl (h rfl)
  · next same =>
    cases same
    rfl

theorem withFeeds_eq_self_iff {s : List Char} : withFeeds s = s ↔ ¬ ['\r', '\n'] <:+: s := by
  fun_induction withFeeds s with
  | case1 => simp
  | case2 cs ih =>
    have pair : ['\r', '\n'] <:+: '\r' :: '\n' :: cs := ⟨[], cs, rfl⟩
    simp [pair]
  | case3 c cs other ih =>
    have front : ¬ ['\r', '\n'] <+: c :: cs := by
      rintro ⟨rest, same⟩
      obtain ⟨rfl, rfl⟩ := List.cons.inj same
      exact other rest rfl rfl
    rw [List.cons.injEq, List.infix_cons_iff, ih]
    simp [front]

/-- The line feed that a text lacks at its end. -/
def missingFeed (s : List Char) : List Char :=
  if s = [] ∨ s.getLast? = some '\n' then [] else ['\n']

theorem missingFeed_cons (c : Char) {cs : List Char} (h : cs ≠ []) :
    missingFeed (c :: cs) = missingFeed cs := by
  unfold missingFeed
  rw [List.getLast?_cons_of_ne_nil h]
  simp [h]

theorem missingFeed_feed (cs : List Char) : missingFeed ('\n' :: cs) = missingFeed cs := by
  by_cases h : cs = []
  · subst h
    rfl
  · exact missingFeed_cons '\n' h

theorem terminated_cons (l : List Char) (ls : List (List Char)) :
    terminated (l :: ls) = l ++ '\n' :: terminated ls := by
  simp [terminated]

theorem terminated_lines (s : List Char) :
    terminated (lines s) = withFeeds s ++ missingFeed s := by
  fun_induction lines s with
  | case1 => rfl
  | case2 cs ih =>
    rw [terminated_cons, ih, missingFeed_feed, withFeeds_cons fun other => absurd other (by decide)]
    rfl
  | case3 cs ih =>
    rw [terminated_cons, ih, missingFeed_cons '\r' (List.cons_ne_nil _ _), missingFeed_feed,
      withFeeds]
    rfl
  | case4 c cs feed ending none ih =>
    have empty : cs = [] := by
      by_contra some
      exact lines_ne_nil some none
    subst empty
    have feed : c ≠ '\n' := feed
    rw [withFeeds_cons (by simp)]
    simp [terminated, missingFeed, withFeeds, feed]
  | case5 c cs feed ending first others found ih =>
    have some : cs ≠ [] := by
      rintro rfl
      cases found
    have other : c = '\r' → cs.head? ≠ Option.some '\n' := by
      rintro rfl next
      obtain ⟨rest, rfl⟩ := List.head?_eq_some_iff.mp next
      exact ending rest rfl rfl
    rw [found, terminated_cons] at ih
    rw [terminated_cons, withFeeds_cons other, missingFeed_cons c some, List.cons_append, ih]
    rfl

end Text

namespace BootConfig

theorem missingFeed_eq (text : String) :
    Text.missingFeed text.toList = (parse text).openLine?.elim [] fun _ => ['\n'] := by
  unfold openLine? Text.missingFeed
  by_cases ended : text.toList.getLast? = some '\n'
  · simp [parse, ended]
  by_cases empty : text.toList = []
  · simp [parse, empty, Text.lines]
  have some := Text.lines_ne_nil empty
  simp [parse, ended, empty, List.getLast?_eq_some_getLast some]

theorem toList_render_parse (text : String) :
    (parse text).render.toList = Text.withFeeds text.toList := by
  have lines : (parse text).lines.map String.toList = Text.lines text.toList := by
    simp [parse, Function.comp_def]
  have whole : Text.terminated ((parse text).lines.map String.toList) =
      (parse text).render.toList ++ Text.missingFeed text.toList := by
    rw [(parse text).lines_eq, toList_render, missingFeed_eq]
    cases (parse text).openLine? <;> simp [Text.terminated]
  rw [lines, Text.terminated_lines] at whole
  exact (List.append_cancel_right whole).symm

/-- Nothing is lost when a text is read and written again but the carriage returns in its line ends,
so texts without those stay as they are. What was read is read once more as the same configuration
unless a line with a line feed at its end still ends in a carriage return. -/
theorem render_parse_lossless (text : String) :
    (parse text).render = String.ofList (Text.withFeeds text.toList) ∧
    ((parse text).render = text ↔ ¬ ['\r', '\n'] <:+: text.toList) ∧
    (parse (parse text).render = parse text ↔
      ∀ line ∈ (parse text).endedLines, line.toList.getLast? ≠ some '\r') := by
  have written := toList_render_parse text
  refine ⟨?_, ?_, parse_render_eq_iff (writable_parse text)⟩
  · rw [← written, String.ofList_toList]
  · rw [← Text.withFeeds_eq_self_iff, ← written, String.toList_inj]

example : (parse "a\r\r\n\r\nb\r").render = "a\r\n\nb\r" := by decide +kernel

end BootConfig

end CameraSetup
