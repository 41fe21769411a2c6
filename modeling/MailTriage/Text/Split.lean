import MailTriage.Text.Blank

namespace MailTriage.Text

/-- The pieces between the occurrences of a character; `piece` holds the piece being read, last
character first. -/
def splitAtCharFrom (sep : Char) (piece : List Char) : List Char → List (List Char)
  | [] => [piece.reverse]
  | c :: s =>
    if c = sep then piece.reverse :: splitAtCharFrom sep [] s
    else splitAtCharFrom sep (c :: piece) s

def splitAtChar (sep : Char) (s : List Char) : List (List Char) :=
  splitAtCharFrom sep [] s

/-- The pieces between the occurrences of a non-empty text, read from the left without overlap.
`skip` counts the characters of an occurrence that are still to be passed. -/
def splitAtTextFrom (sep piece : List Char) (skip : Nat) : List Char → List (List Char)
  | [] => [piece.reverse]
  | c :: s =>
    match skip with
    | skip + 1 => splitAtTextFrom sep piece skip s
    | 0 =>
      if sep.isPrefixOf (c :: s) then piece.reverse :: splitAtTextFrom sep [] (sep.length - 1) s
      else splitAtTextFrom sep (c :: piece) 0 s

def splitAtText (sep s : List Char) : List (List Char) :=
  splitAtTextFrom sep [] 0 s

def trimmedPieces (pieces : List (List Char)) : List (List Char) :=
  (pieces.map trim).filter (!·.isEmpty)

/-- What stands before the last occurrence of a character; nothing, if there is none. -/
def beforeLast (sep : Char) (s : List Char) : List Char :=
  ((s.reverse.dropWhile (· != sep)).drop 1).reverse

/-- Removes a character from both ends of a text, however often it stands there. -/
def strip (c : Char) (s : List Char) : List Char :=
  ((s.dropWhile (· == c)).reverse.dropWhile (· == c)).reverse

theorem length_beforeLast_lt {sep : Char} {s : List Char} (h : sep ∈ s) :
    (beforeLast sep s).length < s.length := by
  have hne : s.reverse.dropWhile (· != sep) ≠ [] := by
    intro he
    have happ := List.takeWhile_append_dropWhile (p := (· != sep)) (l := s.reverse)
    rw [he, List.append_nil] at happ
    have hall := List.all_takeWhile (p := (· != sep)) (l := s.reverse)
    rw [happ, List.all_eq_true] at hall
    simpa using hall sep (List.mem_reverse.2 h)
  have hle := (List.dropWhile_sublist (l := s.reverse) (· != sep)).length_le
  have hpos := List.length_pos_iff.2 hne
  rw [List.length_reverse] at hle
  rw [beforeLast, List.length_reverse, List.length_drop]
  omega

theorem splitAtCharFrom_append (sep : Char) (piece a b : List Char) :
    splitAtCharFrom sep piece (a ++ sep :: b) =
      splitAtCharFrom sep piece a ++ splitAtChar sep b := by
  induction a generalizing piece with
  | nil => simp [splitAtCharFrom, splitAtChar]
  | cons c a ih =>
    by_cases h : c = sep
    · simp [splitAtCharFrom, h, ih]
    · simp [splitAtCharFrom, h, ih]

theorem splitAtChar_append (sep : Char) (a b : List Char) :
    splitAtChar sep (a ++ sep :: b) = splitAtChar sep a ++ splitAtChar sep b :=
  splitAtCharFrom_append sep [] a b

end MailTriage.Text
