import CameraSetup.Text.LowerCase.Table

/-! Lower-casing of text by Unicode's default mapping. A capital sigma becomes a final sigma at the
end of a word, which the characters around it decide; every other character is mapped by itself. -/

namespace CameraSetup.Text

/-- The code point of a lower-case form that the table lists. -/
def CaseRun.lower? (run : CaseRun) (n : Nat) : Option Nat :=
  if run.first ≤ n && n ≤ run.last && (n - run.first) % run.step == 0 then
    some (run.target + (n - run.first))
  else none

/-- The lower-case form of one character, away from its neighbours. Only `İ` has a form of two
characters. -/
def lowerChar (c : Char) : List Char :=
  if c.toNat < 128 then [c.toLower]
  else if c = 'İ' then ['i', '\u0307']
  else [((caseRuns.findSome? fun run => run.lower? c.toNat).map Char.ofNat).getD c]

/-- The first character that is not case-ignorable is cased. -/
def meetsCased (s : List Char) : Bool :=
  match s.dropWhile caseIgnorableClass.contains with
  | [] => false
  | c :: _ => casedClass.contains c

/-- The lower-case form of `s` where `before` is the text to its left, nearest character first. -/
def lowerAfter (before : List Char) : List Char → List Char
  | [] => []
  | c :: cs =>
    let mapped :=
      if c = 'Σ' then if meetsCased before && !meetsCased cs then ['ς'] else ['σ']
      else lowerChar c
    mapped ++ lowerAfter (c :: before) cs

/-- The text in lower case. -/
def lower (s : List Char) : List Char :=
  lowerAfter [] s

/-- Text equal up to the case of ASCII letters. -/
def sameIgnoringCase (s t : List Char) : Bool :=
  s.map Char.toLower == t.map Char.toLower

theorem lowerAfter_of_ascii {before s : List Char} (h : ∀ c ∈ s, c.toNat < 128) :
    lowerAfter before s = s.map Char.toLower := by
  induction s generalizing before with
  | nil => rfl
  | cons c cs ih =>
    have hc : c.toNat < 128 := h c (by simp)
    have hs : c ≠ 'Σ' := by rintro rfl; exact absurd hc (by decide)
    simp [lowerAfter, lowerChar, hc, hs, ih fun d hd => h d (by simp [hd])]

/-- ASCII text is lower-cased letter by letter. -/
theorem lower_of_ascii {s : List Char} (h : ∀ c ∈ s, c.toNat < 128) :
    lower s = s.map Char.toLower :=
  lowerAfter_of_ascii h

end CameraSetup.Text
