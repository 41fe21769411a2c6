import MailTriage.Regex.Basic
import MailTriage.Regex.Error

namespace MailTriage.Regex

structure Flags where
  ignoreCase : Bool := false
  multiline : Bool := false
  dotAll : Bool := false
  verbose : Bool := false
  ascii : Bool := false
  unicode : Bool := false
  template : Bool := false
  deriving DecidableEq, Repr

namespace Flags

def none : Flags := {}

def union (a b : Flags) : Flags where
  ignoreCase := a.ignoreCase || b.ignoreCase
  multiline := a.multiline || b.multiline
  dotAll := a.dotAll || b.dotAll
  verbose := a.verbose || b.verbose
  ascii := a.ascii || b.ascii
  unicode := a.unicode || b.unicode
  template := a.template || b.template

def without (a b : Flags) : Flags where
  ignoreCase := a.ignoreCase && !b.ignoreCase
  multiline := a.multiline && !b.multiline
  dotAll := a.dotAll && !b.dotAll
  verbose := a.verbose && !b.verbose
  ascii := a.ascii && !b.ascii
  unicode := a.unicode && !b.unicode
  template := a.template && !b.template

def meets (a b : Flags) : Bool :=
  (a.ignoreCase && b.ignoreCase) || (a.multiline && b.multiline) || (a.dotAll && b.dotAll) ||
    (a.verbose && b.verbose) || (a.ascii && b.ascii) || (a.unicode && b.unicode) ||
    (a.template && b.template)

/-- The flags inside a group that turns some on and some off. Of `ascii` and `unicode`, the one
turned on replaces the other. -/
def inside (flags on off : Flags) : Flags :=
  let flags :=
    if on.ascii || on.unicode then { flags with ascii := false, unicode := false } else flags
  (flags.union on).without off

def folding (flags : Flags) : Folding :=
  if !flags.ignoreCase then .none else if flags.unicode then .full else .ascii

end Flags

inductive Place where
  | lineStart | lineEnd | textStart | textEnd | boundary | noBoundary
  deriving DecidableEq, Repr

inductive Item where
  | literal (negated : Bool) (n : Nat)
  | set (negated : Bool) (members : List SetItem)
  | any
  | place (p : Place)
  | backref (n : Nat)
  | branch (alternatives : List (List Item))
  | group (n : Option Nat) (on off : Flags) (body : List Item)
  | atomic (body : List Item)
  | «repeat» (greed : Greed) (min : Nat) (max : Option Nat) (body : List Item)
  | ifGroup (n : Nat) (yes : List Item) (no : Option (List Item))
  | ahead (negated : Bool) (body : List Item)
  | behind (negated : Bool) (body : List Item)
  deriving Repr

namespace Item

/-- Whether two items are the same and hold no others. -/
def sameLeaf : Item → Item → Bool
  | literal b n, literal c m => b == c && n == m
  | set b xs, set c ys => b == c && xs == ys
  | any, any => true
  | place p, place q => p == q
  | backref n, backref m => n == m
  | _, _ => false

def isPlace : Item → Bool
  | place _ => true
  | _ => false

def isRepeat : Item → Bool
  | «repeat» .. => true
  | _ => false

/-- The body of a group that neither captures nor changes flags. -/
def plainBody? : Item → Option (List Item)
  | group none on off body => if on == .none && off == .none then some body else none
  | _ => none

end Item

/-- Replaces the groups that only bracket by their items. -/
def unpackGroups (items : List Item) : List Item :=
  items.flatMap fun i => i.plainBody?.getD [i]

/-- The least and the greatest number of characters that something can take. -/
abbrev Width := Nat × Nat

def Width.cap : Nat := 0x10000000000000000

def Width.add (a b : Width) : Width :=
  (a.1 + b.1, a.2 + b.2)

def Width.either (a b : Width) : Width :=
  (min a.1 b.1, max a.2 b.2)

def Width.capped (a : Width) : Width :=
  (min a.1 cap, min a.2 cap)

mutual

def widthOf (groups : Nat → Width) : List Item → Width
  | [] => (0, 0)
  | i :: s => ((itemWidth groups i).add (widthOf groups s)).capped

def itemWidth (groups : Nat → Width) : Item → Width
  | .literal .. | .set .. | .any => (1, 1)
  | .place _ | .ahead .. | .behind .. => (0, 0)
  | .backref n => groups n
  | .branch [] => (0, 0)
  | .branch (a :: as) => (widthOf groups a).either (branchWidth groups (widthOf groups a) as)
  | .group _ _ _ body | .atomic body => widthOf groups body
  | .repeat _ min max body =>
    let w := widthOf groups body
    (w.1 * min,
      match max with
      | some max => w.2 * max
      | none => if w.2 == 0 then 0 else Width.cap)
  | .ifGroup _ yes none => (0, (widthOf groups yes).2)
  | .ifGroup _ yes (some no) => (widthOf groups yes).either (widthOf groups no)

def branchWidth (groups : Nat → Width) (w : Width) : List (List Item) → Width
  | [] => w
  | a :: as => branchWidth groups (w.either (widthOf groups a)) as

end

def maxLookbehind : Nat := 0xffffffff

def greedName : Greed → String
  | .most => "MAX_REPEAT"
  | .fewest => "MIN_REPEAT"
  | .possessive => "POSSESSIVE_REPEAT"

def Place.anchor (flags : Flags) : Place → Anchor
  | lineStart => if flags.multiline then .lineStart else .textStart
  | lineEnd => if flags.multiline then .lineEnd else .finalEnd
  | textStart => .textStart
  | textEnd => .textEnd
  | boundary => .boundary (!flags.unicode) false
  | noBoundary => .boundary (!flags.unicode) true

def SetItem.under (flags : Flags) : SetItem → SetItem
  | .kind k negated _ => .kind k negated (!flags.unicode)
  | i => i

/-- The test for a set, which heeds letter case unless some member has one. -/
def setTest (flags : Flags) (negated : Bool) (members : List SetItem) : CharTest :=
  let f := flags.folding
  .set (if members.any (·.hasCase f) then f else .none) negated (members.map (·.under flags))

mutual

def ofItems (groups : Nat → Width) (flags : Flags) : List Item → Except Error Regex
  | [] => .ok .empty
  | i :: s => do
    let a ← ofItem groups flags i
    let b ← ofItems groups flags s
    return .seq a b

def ofItem (groups : Nat → Width) (flags : Flags) : Item → Except Error Regex
  | .literal negated n => .ok (.char (.code flags.folding negated n))
  | .set negated members => .ok (.char (setTest flags negated members))
  | .any => .ok (.char (if flags.dotAll then .any else .notNewline))
  | .place p => .ok (.anchor (p.anchor flags))
  | .backref n => .ok (.backref flags.folding n)
  | .branch as => ofBranches groups flags as
  | .group none on off body => ofItems groups (flags.inside on off) body
  | .group (some n) on off body => do
    return .group n (← ofItems groups (flags.inside on off) body)
  | .atomic body => do return .atomic (← ofItems groups flags body)
  | .repeat greed min max body =>
    if flags.template then .error (.malformed (.templateOperator (greedName greed)) none)
    else do return .repeat greed min max (← ofItems groups flags body)
  | .ifGroup n yes none => do return .ifGroup n (← ofItems groups flags yes) .empty
  | .ifGroup n yes (some no) => do
    let a ← ofItems groups flags yes
    let b ← ofItems groups flags no
    return .ifGroup n a b
  | .ahead negated body => do return .ahead negated (← ofItems groups flags body)
  | .behind negated body =>
    let w := widthOf groups body
    if maxLookbehind < w.1 then .error (.malformed .lookbehindTooWide none)
    else if w.1 ≠ w.2 then .error (.malformed .lookbehindWidth none)
    else do return .behind negated w.1 (← ofItems groups flags body)

def ofBranches (groups : Nat → Width) (flags : Flags) : List (List Item) → Except Error Regex
  | [] => .ok .empty
  | [a] => ofItems groups flags a
  | a :: as => do
    let r ← ofItems groups flags a
    let s ← ofBranches groups flags as
    return .alt r s

end

end MailTriage.Regex
