import MailTriage.Proofs.Pattern.Found

namespace MailTriage.Regex

/-- The parts of expressions that flags give a meaning to: a character, any character, and the places `^`
and `$`. -/
inductive Atom where
  | char (c : Char)
  | any
  | start
  | stop
  deriving DecidableEq, Repr

namespace Atom

def text : Atom → List Char
  | char c => Pattern.escape [c]
  | any => ['.']
  | start => ['^']
  | stop => ['$']

def item : Atom → Item
  | char c => literalItem c
  | any => .any
  | start => .place .lineStart
  | stop => .place .lineEnd

def regex (flags : Flags) : Atom → Regex
  | char c => .char (.code flags.folding false c.toNat)
  | any => .char (if flags.dotAll then .any else .notNewline)
  | start => .anchor (Place.lineStart.anchor flags)
  | stop => .anchor (Place.lineEnd.anchor flags)

/-- What an atom means under some flag letters: which words it stands for behind `x` and before `z`. The end
of a text is also before its last newline. -/
def Means (letters : List Char) : Atom → (x w z : List Char) → Prop
  | char c, _, w, _ => ∃ d, w = [d] ∧ if 'i' ∈ letters then sameUnder .full c.toNat d = true else d = c
  | any, _, w, _ => ∃ d, w = [d] ∧ ('s' ∈ letters ∨ d ≠ '\n')
  | start, x, w, _ => w = [] ∧ (x = [] ∨ 'm' ∈ letters ∧ ∃ y, x = y ++ ['\n'])
  | stop, _, w, z => w = [] ∧ (z = [] ∨ if 'm' ∈ letters then ∃ y, z = '\n' :: y else z = ['\n'])

def MeanAll (letters : List Char) : List Atom → (x w z : List Char) → Prop
  | [], _, w, _ => w = []
  | a :: atoms, x, w, z =>
    ∃ u v, w = u ++ v ∧ a.Means letters x u (v ++ z) ∧ MeanAll letters atoms (x ++ u) v z

variable {letters x w z : List Char} {atoms : List Atom} {flags : Flags} {count : Nat}

theorem readsAs_text (a : Atom) : ReadsAs a.text [a.item] count count := by
  cases a with
  | char c => exact readsAs_escape [c]
  | any => exact readsAs_dot
  | start => exact readsAs_caret
  | stop => exact readsAs_dollar

theorem readsAs_texts (atoms : List Atom) :
    ReadsAs (atoms.flatMap text) (atoms.map item) count count := by
  induction atoms with
  | nil => exact readsAs_nil
  | cons a atoms ih => exact (readsAs_text a).append ih

theorem parse_texts (flags : Flags) (hverbose : flags.verbose = false) (hascii : flags.ascii = false) :
    parse flags (atoms.flatMap text) =
      .ok (seqAll (atoms.map (regex { flags with unicode := true }))) := by
  have hread : ReadsAs (atoms.flatMap text) (atoms.map item) 0 0 := readsAs_texts atoms
  have hplain : ∀ i ∈ atoms.map item, i.plainBody? = none := by
    intro i hi
    obtain ⟨a, -, rfl⟩ := List.mem_map.1 hi
    cases a <;> rfl
  have hne : atoms.flatMap text ≠ ['\\'] := by simpa using hread.ne_backslash [] (by simp)
  obtain ⟨groups, hparse⟩ := exists_parse_eq flags hread hplain hne hverbose hascii
  rw [hparse]
  refine ofItems_eq (List.forall₂_map_left_iff.2 (List.forall₂_map_right_iff.2 ?_))
  refine List.forall₂_same.2 fun a _ => ?_
  cases a <;> rfl

theorem isRegular_regex (a : Atom) : (a.regex flags).IsRegular := by
  cases a <;> trivial

theorem matches_regex (a : Atom) :
    (a.regex { Pattern.flagsOf letters with unicode := true }).Matches x w z ↔ a.Means letters x w z := by
  cases a with
  | char c =>
    by_cases hcase : 'i' ∈ letters
    · simp [regex, Means, Matches, CharTest.holds, Flags.folding, Pattern.flagsOf, hcase]
    · simp [regex, Means, Matches, CharTest.holds, Flags.folding, Pattern.flagsOf, hcase, sameUnder,
        Folding.hasCase, Char.toNat_inj]
  | any => by_cases hall : 's' ∈ letters <;> simp [regex, Means, Matches, CharTest.holds, Pattern.flagsOf, hall]
  | start =>
    by_cases hlines : 'm' ∈ letters <;>
      simp [regex, Means, Matches, Anchor.holds, Place.anchor, Pattern.flagsOf, hlines,
        List.getLast?_eq_some_iff]
  | stop =>
    by_cases hlines : 'm' ∈ letters <;>
      simp [regex, Means, Matches, Anchor.holds, Place.anchor, Pattern.flagsOf, hlines,
        List.head?_eq_some_iff]

theorem matches_regexes : (seqAll (atoms.map (regex { Pattern.flagsOf letters with unicode := true }))).Matches
    x w z ↔ MeanAll letters atoms x w z := by
  induction atoms generalizing x w with
  | nil => rfl
  | cons a atoms ih =>
    constructor
    · rintro ⟨u, v, rfl, ha, hrest⟩
      exact ⟨u, v, rfl, (matches_regex a).1 ha, ih.1 hrest⟩
    · rintro ⟨u, v, rfl, ha, hrest⟩
      exact ⟨u, v, rfl, (matches_regex a).2 ha, ih.2 hrest⟩

/-- Searching finds some atoms where a part of the text is what they mean. -/
theorem search_regexes_iff {text : List Char} :
    (seqAll (atoms.map (regex { Pattern.flagsOf letters with unicode := true }))).search text = true ↔
      ∃ x w z, text = x ++ w ++ z ∧ MeanAll letters atoms x w z := by
  have hregular : (seqAll (atoms.map (regex { Pattern.flagsOf letters with unicode := true }))).IsRegular := by
    refine isRegular_seqAll fun r hr => ?_
    obtain ⟨a, -, rfl⟩ := List.mem_map.1 hr
    exact isRegular_regex a
  simp only [search_iff_matches hregular, matches_regexes]

end Atom

end MailTriage.Regex

namespace MailTriage.Pattern

open Regex

variable {body letters pattern : String} {s : List Char} {isAddress : Bool}

def IsFlags (letters : String) : Prop :=
  ∀ c ∈ letters.toList, isFlagLetter c = true

instance (letters : String) : Decidable (IsFlags letters) :=
  decidable_of_iff (letters.toList.all isFlagLetter = true) List.all_eq_true

def slashes (body letters : String) : String :=
  "/" ++ body ++ "/" ++ letters

def refusal (pattern : String) (body : List Char) : Regex.Error → PatternError
  | .malformed problem position => .malformed pattern body problem position
  | e => .regex e

theorem compile_eq (hne : pattern ≠ "") : compile isAddress pattern =
    (Regex.parse (expression isAddress pattern.toList).1 (expression isAddress pattern.toList).2).mapError
      (refusal pattern (expression isAddress pattern.toList).2) := by
  have hempty : pattern.toList.isEmpty = false := by simpa using hne
  unfold compile
  simp only [hempty, Bool.false_eq_true, if_false]
  cases Regex.parse (expression isAddress pattern.toList).1 (expression isAddress pattern.toList).2 with
  | ok r => rfl
  | error e => cases e <;> rfl

theorem toList_slashes : (slashes body letters).toList = '/' :: (body.toList ++ '/' :: letters.toList) := by
  simp [slashes]

theorem expression_slashes (h : IsFlags letters)
    (hpattern : pattern = slashes body letters ∨ pattern = slashes body letters ++ "\n") :
    expression isAddress pattern.toList = (flagsOf letters.toList, body.toList) := by
  have hread : slashed? pattern.toList = some (body.toList, letters.toList) := by
    refine slashed?_eq_some_iff.2 ⟨h, ?_⟩
    rcases hpattern with rfl | rfl
    · exact .inl toList_slashes
    · exact .inr (by simp [slashes])
  simp only [expression, hread]

/-- The expressions made of an escaped value: the value itself, a whole value, or an address with a label. -/
def expressionsOf (v : List Char) : List (List Char) :=
  [escape v, delimited (escape v), delimited (allowLabel (escape v))]

theorem exists_expression_mem (isAddress : Bool) (h : ¬ IsSlashed s) :
    ∃ v, (s = v ∨ s = '"' :: (v ++ ['"'])) ∧ (expression isAddress s).2 ∈ expressionsOf v := by
  have hslashed : slashed? s = none := slashed?_eq_none_iff.2 h
  cases hquoted : quoted? s with
  | some v => exact ⟨v, .inr (eq_of_quoted? hquoted), by simp [expression, hslashed, hquoted, expressionsOf]⟩
  | none =>
    refine ⟨s, .inl rfl, ?_⟩
    cases isAddress <;> simp [expression, hslashed, hquoted, expressionsOf]

/-- What patterns are compiled to. Between slashes stands a regular expression, which may hold slashes itself:
the letters behind the last slash, one newline perhaps behind them, say whether its letter case matters, whether
`^` and `$` hold at every line and whether a dot stands for a newline. Any other pattern is never read as an
expression of its own, and never refused. -/
theorem compile_slashed :
    (∀ body letters pattern isAddress, IsFlags letters →
      (pattern = slashes body letters ∨ pattern = slashes body letters ++ "\n") →
      compile isAddress pattern = (Regex.parse
          { ignoreCase := decide ('i' ∈ letters.toList)
            multiline := decide ('m' ∈ letters.toList)
            dotAll := decide ('s' ∈ letters.toList) } body.toList).mapError
        (refusal pattern body.toList)) ∧
    (∀ atoms letters isAddress, IsFlags letters →
      ∃ r, compile isAddress (slashes (String.ofList (atoms.flatMap Atom.text)) letters) = .ok r ∧
        ∀ text, r.search text = true ↔
          ∃ x w z, text = x ++ w ++ z ∧ Atom.MeanAll letters.toList atoms x w z) ∧
    ∀ pattern isAddress, pattern ≠ "" → ¬ IsSlashed pattern.toList →
      (∃ v, (pattern.toList = v ∨ pattern.toList = '"' :: (v ++ ['"'])) ∧
        (expression isAddress pattern.toList).2 ∈ expressionsOf v) ∧
      ∃ r, compile isAddress pattern = .ok r := by
  have hslashed {body letters pattern : String} (isAddress : Bool) (hletters : IsFlags letters)
      (hpattern : pattern = slashes body letters ∨ pattern = slashes body letters ++ "\n") :
      compile isAddress pattern =
        (Regex.parse (flagsOf letters.toList) body.toList).mapError (refusal pattern body.toList) := by
    have hne : pattern ≠ "" := by
      rcases hpattern with rfl | rfl <;> simp [slashes, ← String.toList_inj]
    rw [compile_eq hne, expression_slashes hletters hpattern]
  refine ⟨?_, ?_, ?_⟩
  · intro body letters pattern isAddress hletters hpattern
    have hflags : flagsOf letters.toList =
        { ignoreCase := decide ('i' ∈ letters.toList)
          multiline := decide ('m' ∈ letters.toList)
          dotAll := decide ('s' ∈ letters.toList) } := by
      simp only [flagsOf, List.contains_eq_mem]
    rw [← hflags]
    exact hslashed isAddress hletters hpattern
  · intro atoms letters isAddress hletters
    refine ⟨_, ?_, fun text => Atom.search_regexes_iff⟩
    rw [hslashed isAddress hletters (.inl rfl), String.toList_ofList, Atom.parse_texts _ rfl rfl]
    rfl
  · intro pattern isAddress hne hpattern
    have hne' : pattern.toList ≠ [] := by simpa using hne
    exact ⟨exists_expression_mem isAddress hpattern, exists_compile hne' (slashed?_eq_none_iff.2 hpattern)⟩

theorem compile_slashed_of_lines :
    compile true "/a/b/gi" = .ok (seqAll ("a/b".toList.map letter)) ∧
      (∃ r, compile false "/^a.b$/ms" = .ok r ∧ r.search "x\na\nb\ny".toList = true) ∧
      ∃ r, compile true "/a/x" = .ok r := by
  obtain ⟨hslashed, hatoms, hother⟩ := compile_slashed
  refine ⟨?_, ?_, ?_⟩
  · rw [hslashed "a/b" "gi" "/a/b/gi" true (by decide) (.inl rfl)]
    decide +kernel
  · obtain ⟨r, hr, hsearch⟩ := hatoms [.start, .char 'a', .any, .char 'b', .stop] "ms" false (by decide)
    have hstart : Atom.start.Means "ms".toList ['x', '\n'] [] ['a', '\n', 'b', '\n', 'y'] :=
      ⟨rfl, .inr ⟨by decide, ['x'], rfl⟩⟩
    have hstop : Atom.stop.Means "ms".toList ['x', '\n', 'a', '\n', 'b'] [] ['\n', 'y'] :=
      ⟨rfl, .inr (by rw [if_pos (by decide)]; exact ⟨['y'], rfl⟩)⟩
    have hmean : Atom.MeanAll "ms".toList [.start, .char 'a', .any, .char 'b', .stop] ['x', '\n']
        ['a', '\n', 'b'] ['\n', 'y'] :=
      ⟨[], _, rfl, hstart, ['a'], _, rfl, ⟨'a', rfl, by decide⟩, ['\n'], _, rfl, ⟨'\n', rfl, .inl (by decide)⟩,
        ['b'], _, rfl, ⟨'b', rfl, by decide⟩, [], _, rfl, hstop, rfl⟩
    exact ⟨r, hr, (hsearch _).2 ⟨_, _, _, rfl, hmean⟩⟩
  · exact (hother "/a/x" true (by decide) (slashed?_eq_none_iff.1 (by decide))).2

end MailTriage.Pattern
