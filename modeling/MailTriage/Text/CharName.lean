import MailTriage.Text.CharNameTable
import MailTriage.Text.LetterCase
import MailTriage.Text.NameRun

namespace MailTriage.Text

def hexValue? (c : Char) : Option Nat :=
  if c.isDigit then some (c.toNat - 48)
  else if 'a' ≤ c && c ≤ 'f' then some (c.toNat - 87)
  else if 'A' ≤ c && c ≤ 'F' then some (c.toNat - 55)
  else none

def isHexDigit (c : Char) : Bool :=
  (hexValue? c).isSome

/-- The number that digits write in a base; characters that are no digits count as zero. -/
def ofBase (base : Nat) (digits : List Char) : Nat :=
  digits.foldl (fun n c => base * n + (hexValue? c).getD 0) 0

/-- The code points of ideographs, whose names hold their numbers. -/
def ideographs : List (Nat × Nat) :=
  [(0x3400, 0x4dbf), (0x4e00, 0x9fff), (0x20000, 0x2a6df), (0x2a700, 0x2b738), (0x2b740, 0x2b81d),
    (0x2b820, 0x2cea1), (0x2ceb0, 0x2ebe0), (0x30000, 0x3134a)]

def ideographCode? (name : List Char) : Option Nat := do
  let digits ← afterText? "CJK UNIFIED IDEOGRAPH-".toList name
  if digits.all (fun c => isHexDigit c && !('a' ≤ c && c ≤ 'f')) &&
      (digits.length == 4 || digits.length == 5) then
    let n := ofBase 16 digits
    if ideographs.any fun (first, last) => first ≤ n && n ≤ last then return n else none
  else none

def leadSounds : List String :=
  ["G", "GG", "N", "D", "DD", "R", "M", "B", "BB", "S", "SS", "", "J", "JJ", "C", "K", "T", "P", "H"]

def vowelSounds : List String :=
  ["A", "AE", "YA", "YAE", "EO", "E", "YEO", "YE", "O", "WA", "WAE", "OE", "YO", "U", "WEO", "WE",
    "WI", "YU", "EU", "YI", "I"]

def tailSounds : List String :=
  ["", "G", "GG", "GS", "N", "NJ", "NH", "D", "L", "LG", "LM", "LB", "LS", "LT", "LP", "LH", "M",
    "B", "BS", "S", "SS", "NG", "J", "C", "K", "T", "P", "H"]

/-- The longest of some sounds that a text starts with, by its place, and what follows it. -/
def longestSound? (sounds : List String) (s : List Char) : Option (Nat × List Char) :=
  (sounds.zipIdx.filterMap fun (sound, i) =>
    (afterText? sound.toList s).map fun rest => (i, rest)).foldl
      (fun best found =>
        match best with
        | some b => if found.2.length < b.2.length then some found else best
        | none => some found) none

def syllableCode? (name : List Char) : Option Nat := do
  let s ← afterText? "HANGUL SYLLABLE ".toList name
  let (lead, s) ← longestSound? leadSounds s
  let (vowel, s) ← longestSound? vowelSounds s
  let (tail, s) ← longestSound? tailSounds s
  if s.isEmpty then return 0xac00 + (lead * 21 + vowel) * 28 + tail else none

/-- The code point of a name that is no ideograph's and no syllable's. -/
def listedCode? (name : List Char) : Option Nat :=
  CharNameTable.runs.findSome? (·.code? name)

/-- The code point with a name. Letter case matters in the names of ideographs and syllables only. -/
def namedCode? (name : List Char) : Option Nat :=
  match ideographCode? name, syllableCode? name with
  | some n, _ => some n
  | none, some n => some n
  | none, none => listedCode? (name.map Char.toUpper)

end MailTriage.Text
