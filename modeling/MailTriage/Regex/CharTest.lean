import MailTriage.Text.Blank
import MailTriage.Text.LetterCase

namespace MailTriage.Regex

/-- How letter case is ignored: not at all, for the letters A to Z, or for every letter. -/
inductive Folding where
  | none | ascii | full
  deriving DecidableEq, Repr

def Folding.lower : Folding → Nat → Nat
  | none, code => code
  | ascii, code => if 65 ≤ code && code ≤ 90 then code + 32 else code
  | full, code => Text.lowerCode code

/-- The further letters, all in lower case, that count as a lower case letter. -/
def Folding.variants : Folding → Nat → List Nat
  | full, code => Text.variants code
  | _, _ => []

def Folding.sources : Folding → Nat → List Nat
  | none, code => [code]
  | ascii, code =>
    (if 65 ≤ code && code ≤ 90 then [] else [code]) ++
      (if 97 ≤ code && code ≤ 122 then [code - 32] else [])
  | full, code => Text.lowerSources code

def Folding.hasCase : Folding → Nat → Bool
  | none, _ => false
  | ascii, code => (65 ≤ code && code ≤ 90) || (97 ≤ code && code ≤ 122)
  | full, code => Text.hasCase code

inductive CharKind where
  | digit | blank | word
  deriving DecidableEq, Repr

/-- Membership in a kind, among all characters or (`ascii`) among the first 128 only. -/
def CharKind.holds (k : CharKind) (ascii : Bool) (c : Char) : Bool :=
  match k, ascii with
  | digit, true => c.isDigit
  | blank, true => c == ' ' || (9 ≤ c.toNat && c.toNat ≤ 13)
  | word, true => c.isAlphanum || c == '_'
  | digit, false => Text.isDigit c
  | blank, false => Text.isBlank c
  | word, false => Text.isWordChar c

inductive SetItem where
  | code (n : Nat)
  | range (lo hi : Nat)
  | kind (k : CharKind) (negated ascii : Bool)
  deriving DecidableEq, Repr

/-- Code points above this one are compared as they are written in a set. -/
def lastFolded : Nat := 0xffff

/-- Whether letter case can matter for the item. -/
def SetItem.hasCase (f : Folding) : SetItem → Bool
  | .code n => lastFolded < n || f.hasCase n
  | .range lo hi => lastFolded < hi || (List.range (hi + 1 - lo)).any fun i => f.hasCase (lo + i)
  | .kind .. => false

def SetItem.holdsPlain (c : Char) : SetItem → Bool
  | .code n => c.toNat == n
  | .range lo hi => lo ≤ c.toNat && c.toNat ≤ hi
  | .kind k negated ascii => k.holds ascii c != negated

/-- The item's test on a character already in lower case: some member has this lower case, or is a
variant of it. -/
def SetItem.holdsFolded (f : Folding) (c : Char) : SetItem → Bool
  | .code n =>
    if lastFolded < n then c.toNat == n
    else f.lower n == c.toNat || (f.variants (f.lower n)).contains c.toNat
  | .range lo hi =>
    let below := (c.toNat :: f.variants c.toNat).any fun code =>
      (f.sources code).any fun n => lo ≤ n && n ≤ hi && n ≤ lastFolded
    below || (lastFolded < hi &&
      ((lo ≤ c.toNat && c.toNat ≤ hi) ||
        (lo ≤ Text.upperCode c.toNat && Text.upperCode c.toNat ≤ hi)))
  | .kind k negated ascii => k.holds ascii c != negated

inductive CharTest where
  | any
  | notNewline
  | code (f : Folding) (negated : Bool) (n : Nat)
  | set (f : Folding) (negated : Bool) (items : List SetItem)
  deriving DecidableEq, Repr

def sameUnder (f : Folding) (n : Nat) (c : Char) : Bool :=
  if f.hasCase n then
    f.lower n == f.lower c.toNat || (f.variants (f.lower n)).contains (f.lower c.toNat)
  else c.toNat == n

def CharTest.holds : CharTest → Char → Bool
  | any, _ => true
  | notNewline, c => c != '\n'
  | code f negated n, c => sameUnder f n c != negated
  | set f negated items, c =>
    if f = .none then items.any (·.holdsPlain c) != negated
    else items.any (·.holdsFolded f (Char.ofNat (f.lower c.toNat))) != negated

end MailTriage.Regex
