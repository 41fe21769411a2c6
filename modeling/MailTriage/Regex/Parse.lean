import MailTriage.Number.Whole
import MailTriage.Regex.Reader
import MailTriage.Text.CharName

namespace MailTriage.Regex

open Reader

def isOctal (c : Char) : Bool :=
  '0' ≤ c && c ≤ '7'

def isLatinLetter (c : Char) : Bool :=
  c.isAlpha

def escapeText (e : List Char) : String :=
  String.ofList e

def controlCode? : Char → Option Nat
  | 'a' => some 7
  | 'b' => some 8
  | 'f' => some 12
  | 'n' => some 10
  | 'r' => some 13
  | 't' => some 9
  | 'v' => some 11
  | '\\' => some 92
  | _ => none

def kindItem? : Char → Option SetItem
  | 'd' => some (.kind .digit false false)
  | 'D' => some (.kind .digit true false)
  | 's' => some (.kind .blank false false)
  | 'S' => some (.kind .blank true false)
  | 'w' => some (.kind .word false false)
  | 'W' => some (.kind .word true false)
  | _ => none

def placeItem? : Char → Option Place
  | 'A' => some .textStart
  | 'Z' => some .textEnd
  | 'b' => some .boundary
  | 'B' => some .noBoundary
  | _ => none

/-- Exactly `width` hexadecimal digits behind the escape `\c`. -/
def hexDigits (c : Char) (width : Nat) : Reader (List Char) := do
  let digits ← takeWhile Text.isHexDigit width
  let e := '\\' :: c :: digits
  if digits.length ≠ width then failBack (.incompleteEscape (escapeText e)) e.length
  else return digits

def hexEscape (c : Char) (width : Nat) : Reader Nat := do
  return Text.ofBase 16 (← hexDigits c width)

/-- Beyond this number, characters are not even asked for. -/
def maxCode : Nat := 0x7fffffff

def wideEscape : Reader Nat := do
  let digits ← hexDigits 'U' 8
  let n := Text.ofBase 16 digits
  if maxCode < n then throw .codeTooLarge
  else
    let e := '\\' :: 'U' :: digits
    if 0x10ffff < n then failBack (.badEscape (escapeText e)) e.length
    else return n

def nameEscape : Reader Nat := do
  if !(← accept '\x7b') then failBack (.missing "\x7b") 0
  else
    let s ← name '\x7d' "character name"
    match Text.namedCode? s with
    | some n => return n
    | none => failBack (.unknownCharacterName (String.ofList s)) (s.length + 4)

/-- The escapes that mean the same everywhere: by code point, by name, or the character itself. -/
def codeEscape (c : Char) : Reader Nat := do
  if c == 'x' then hexEscape c 2
  else if c == 'u' then hexEscape c 4
  else if c == 'U' then wideEscape
  else if c == 'N' then nameEscape
  else if isLatinLetter c || c.isDigit then failBack (.badEscape (escapeText ['\\', c])) 2
  else return c.toNat

def octalEscape (e : List Char) : Reader Nat := do
  let n := Text.ofBase 8 (e.drop 1)
  if 0o377 < n then failBack (.octalTooLarge (escapeText e)) e.length else return n

def setEscape (c : Char) : Reader SetItem := do
  match controlCode? c, kindItem? c with
  | some n, _ => return .code n
  | none, some i => return i
  | none, none =>
    if isOctal c then
      let more ← takeWhile isOctal 2
      return .code (← octalEscape ('\\' :: c :: more))
    else return .code (← codeEscape c)

def backreference (digits : List Char) : Reader Item := do
  let n := Text.ofBase 10 digits
  if n < (← groupCount) then
    if !(← isClosed n) then failBack .openGroup (digits.length + 1)
    else
      checkLookbehind n
      return .backref n
  else failBack (.invalidGroup n) digits.length

def itemEscape (c : Char) : Reader Item := do
  match placeItem? c, kindItem? c, controlCode? c with
  | some p, _, _ => return .place p
  | none, some i, _ => return .set false [i]
  | none, none, some n => return .literal false n
  | none, none, none =>
    if c == '0' then
      let more ← takeWhile isOctal 2
      return .literal false (Text.ofBase 8 more)
    else if c.isDigit then
      match ← takeWhile Char.isDigit 1 with
      | [d] =>
        if isOctal c && isOctal d then
          match ← takeWhile isOctal 1 with
          | [e] => return .literal false (← octalEscape ['\\', c, d, e])
          | _ => backreference [c, d]
        else backreference [c, d]
      | _ => backreference [c]
    else return .literal false (← codeEscape c)

def setMember (t : Token) : Reader SetItem :=
  match t with
  | .plain c => return .code c.toNat
  | .escape c => setEscape c

def addMember (members : List SetItem) (i : SetItem) : List SetItem :=
  if members.contains i then members else members ++ [i]

/-- The members of a set whose bracket stands at `start`. A closing bracket in the first place is a
member. -/
def setMembers (start : Nat) (members : List SetItem) (first : Bool) :
    (fuel : Nat) → Reader (List SetItem)
  | 0 => return members
  | fuel + 1 => do
    match ← take with
    | none => fail .unterminatedSet start
    | some t =>
      if t = .plain ']' && !first then return members
      else
        let a ← setMember t
        if ← accept '-' then
          match ← take with
          | none => fail .unterminatedSet start
          | some u =>
            if u = .plain ']' then return addMember (addMember members a) (.code '-'.toNat)
            else
              let b ← setMember u
              let bad := .badRange (String.ofList t.text) (String.ofList u.text)
              match a, b with
              | .code lo, .code hi =>
                if hi < lo then failBack bad (t.width + 1 + u.width)
                else setMembers start (addMember members (.range lo hi)) false fuel
              | _, _ => failBack bad (t.width + 1 + u.width)
        else setMembers start (addMember members a) false fuel

def setItem (start : Nat) : Reader Item := do
  let negated ← accept '^'
  match ← setMembers start [] true (← room) with
  | [.code n] => return .literal negated n
  | members => return .set negated members

/-- Repetition counts are below this bound, where they are bounded at all. -/
def maxRepeat : Nat := 0xffffffff

def repeatCount (digits : List Char) : Reader Nat := do
  if Number.maxDigits < digits.length then throw .numberTooLong
  else
    let n := Text.ofBase 10 digits
    if maxRepeat ≤ n then throw .repetitionTooLarge else return n

/-- The counts between braces, the first of which was read just before `start`; nothing, if what
stands there is no count, so that the brace stands for itself. -/
def braceCounts (start : Nat) : Reader (Option (Nat × Option Nat)) := do
  if (← peek) = some (.plain '\x7d') then return none
  else
    let opened ← get
    let lo ← takeWhile Char.isDigit (← room)
    let bounded ← accept ','
    let hi ← if bounded then takeWhile Char.isDigit (← room) else pure lo
    if !(← accept '\x7d') then
      set opened
      return none
    else
      let min ← if lo.isEmpty then pure 0 else repeatCount lo
      if hi.isEmpty then return some (min, none)
      else
        let max ← repeatCount hi
        if max < min then fail .emptyRange start else return some (min, some max)

/-- Repeats the last item read; `items` holds the items in reverse order. -/
def repeatLast (start width min : Nat) (max : Option Nat) (items : List Item) :
    Reader (List Item) := do
  match items with
  | [] => fail .nothingToRepeat (start - width)
  | i :: items =>
    if i.isPlace then fail .nothingToRepeat (start - width)
    else if i.isRepeat then fail .multipleRepeat (start - width)
    else
      -- What a group only brackets is repeated without it.
      let body := i.plainBody?.getD [i]
      if ← accept '?' then return .repeat .fewest min max body :: items
      else if ← accept '+' then return .repeat .possessive min max body :: items
      else return .repeat .most min max body :: items

def flag? : Char → Option Flags
  | 'i' => some { ignoreCase := true }
  | 'm' => some { multiline := true }
  | 's' => some { dotAll := true }
  | 'x' => some { verbose := true }
  | 'a' => some { ascii := true }
  | 'u' => some { unicode := true }
  | 't' => some { template := true }
  | _ => none

def isFlag (c : Char) : Bool :=
  c == 'L' || (flag? c).isSome

def failFlag {α : Type} (t : Token) (expected : String) : Reader α :=
  match t with
  | .plain c => failBack (if Text.isLetter c then .unknownFlag else .missing expected) 1
  | .escape _ => failBack (.missing expected) 2

/-- The flags turned on, from `c` on, and the character that ends them. -/
def flagsOn (on : Flags) (c : Char) : (fuel : Nat) → Reader (Flags × Char)
  | 0 => return (on, c)
  | fuel + 1 => do
    match flag? c with
    | none => failBack .localeFlag 0
    | some f =>
      let on := on.union f
      if (f.ascii || f.unicode) && on.ascii && on.unicode then failBack .incompatibleFlags 0
      else
        match ← take with
        | none => failBack (.missing "-, : or )") 0
        | some (.plain d) =>
          if d == ')' || d == '-' || d == ':' then return (on, d)
          else if isFlag d then flagsOn on d fuel
          else failFlag (.plain d) "-, : or )"
        | some t => failFlag t "-, : or )"

/-- The flags turned off, from `c` on, up to a colon. -/
def flagsOff (off : Flags) (c : Char) : (fuel : Nat) → Reader Flags
  | 0 => return off
  | fuel + 1 => do
    match flag? c with
    | none => failBack .typeFlagOff 0
    | some f =>
      if f.ascii || f.unicode then failBack .typeFlagOff 0
      else
        let off := off.union f
        match ← take with
        | none => failBack (.missing ":") 0
        | some (.plain d) =>
          if d == ':' then return off
          else if isFlag d then flagsOff off d fuel
          else failFlag (.plain d) ":"
        | some t => failFlag t ":"

/-- The flags of a group that opens with `c`, or nothing when they hold for the whole expression. -/
def groupFlags (c : Char) : Reader (Option (Flags × Flags)) := do
  let (on, last) ← if c == '-' then pure (Flags.none, '-') else flagsOn .none c (← room)
  if last == ')' then
    modify fun s => { s with flags := s.flags.union on }
    return none
  else if on.template then failBack .globalFlagOn 1
  else
    let off ←
      if last == '-' then
        match ← take with
        | none => failBack (.missing "flag") 0
        | some (.plain d) =>
          if isFlag d then flagsOff .none d (← room) else failFlag (.plain d) "flag"
        | some t => failFlag t "flag"
      else pure Flags.none
    if off.template then failBack .globalFlagOff 1
    else if on.meets off then failBack .flagOnAndOff 1
    else return some (on, off)

def skipComment (start : Nat) : (fuel : Nat) → Reader Unit
  | 0 => return ()
  | fuel + 1 => do
    if (← peek).isNone then fail .unterminatedComment start
    else if (← take) = some (.plain ')') then return ()
    else skipComment start fuel

def skipLine : (fuel : Nat) → Reader Unit
  | 0 => return ()
  | fuel + 1 => do
    match ← take with
    | none | some (.plain '\n') => return ()
    | some _ => skipLine fuel

def checkGroupName (s : List Char) (back : Nat) : Reader Unit :=
  if Text.isName s then return () else failBack (.badGroupName (String.ofList s)) (s.length + back)

def namedBackreference : Reader Item := do
  let s ← name ')' "group name"
  checkGroupName s 1
  match ← groupNamed? s with
  | none => failBack (.unknownGroupName (String.ofList s)) (s.length + 1)
  | some n =>
    if !(← isClosed n) then failBack .openGroup (s.length + 1)
    else
      checkLookbehind n
      return .backref n

/-- Group numbers stay below this bound. -/
def maxGroups : Nat := 0x3fffffff

def conditionGroup : Reader Nat := do
  let s ← name ')' "group name"
  let n ←
    if Text.isName s then
      match ← groupNamed? s with
      | none => failBack (.unknownGroupName (String.ofList s)) (s.length + 1)
      | some n => pure n
    else
      match Number.readInt? s with
      | some (.ofNat 0) => failBack .badGroupNumber (s.length + 1)
      | some (.ofNat n) =>
        if maxGroups ≤ n then failBack (.invalidGroup n) (s.length + 1)
        else
          let here := (← place) - (s.length + 1)
          modify fun st =>
            if st.asked.any (·.1 == n) then st else { st with asked := st.asked ++ [(n, here)] }
          pure n
      | _ => failBack (.badGroupName (String.ofList s)) (s.length + 1)
  checkLookbehind n
  return n

def endGroup (start : Nat) : Reader Unit := do
  if !(← accept ')') then fail .unterminatedGroup start

/-- What alternatives have in common at their start, and what remains of them. -/
def commonStart (alternatives : List (List Item)) : (fuel : Nat) → List Item × List (List Item)
  | 0 => ([], alternatives)
  | fuel + 1 =>
    match alternatives with
    | (i :: a) :: as =>
      if as.all fun b => b.head?.any i.sameLeaf then
        let (first, rest) := commonStart (a :: as.map (·.drop 1)) fuel
        (i :: first, rest)
      else ([], alternatives)
    | _ => ([], alternatives)

def asSet? : List (List Item) → Option (List SetItem)
  | [] => some []
  | [.literal false n] :: as => do return .code n :: (← asSet? as)
  | [.set false members] :: as => do return members ++ (← asSet? as)
  | _ => none

/-- Several alternatives as items: a common start is taken out, and characters become a set. -/
def joinAlternatives (alternatives : List (List Item)) : List Item :=
  match alternatives with
  | [a] => a
  | as =>
    let (first, as) := commonStart as ((as.headD []).length + 1)
    match asSet? as with
    | some members => first ++ [.set false (members.foldl addMember [])]
    | none => first ++ [.branch as]

def isVerboseBlank (c : Char) : Bool :=
  c == ' ' || (9 ≤ c.toNat && c.toNat ≤ 13)

mutual

/-- Alternatives up to a closing parenthesis or the end; `read` holds those before, last one first. At
the top, flags set for the whole expression count from the next alternative on. -/
def readAlternatives (verbose top : Bool) (before : List (List Item)) :
    (fuel : Nat) → Reader (List Item)
  | 0 => return joinAlternatives before.reverse
  | fuel + 1 => do
    let a ← readItems verbose (top && before.isEmpty) [] fuel
    if ← accept '|' then
      let verbose ← if top then pure (← get).flags.verbose else pure verbose
      readAlternatives verbose top (a :: before) fuel
    else return joinAlternatives (a :: before).reverse

/-- Items up to a bar, a closing parenthesis or the end; `items` holds those read, last one first. -/
def readItems (verbose first : Bool) (items : List Item) : (fuel : Nat) → Reader (List Item)
  | 0 => return unpackGroups items.reverse
  | fuel + 1 => do
    match ← peek with
    | none | some (.plain '|') | some (.plain ')') => return unpackGroups items.reverse
    | some t =>
      let start ← place
      let _ ← take
      match t with
      | .escape c => readItems verbose first ((← itemEscape c) :: items) fuel
      | .plain c =>
        if verbose && isVerboseBlank c then readItems verbose first items fuel
        else if verbose && c == '#' then
          skipLine (← room)
          readItems verbose first items fuel
        else if c == '[' then
          let i ← setItem start
          readItems verbose first (i :: items) fuel
        else if c == '?' then
          readItems verbose first (← repeatLast (start + 1) 1 0 (some 1) items) fuel
        else if c == '*' then
          readItems verbose first (← repeatLast (start + 1) 1 0 none items) fuel
        else if c == '+' then
          readItems verbose first (← repeatLast (start + 1) 1 1 none items) fuel
        else if c == '\x7b' then
          match ← braceCounts (start + 1) with
          | none => readItems verbose first (.literal false c.toNat :: items) fuel
          | some (min, max) =>
            readItems verbose first (← repeatLast (start + 1) 1 min max items) fuel
        else if c == '.' then readItems verbose first (.any :: items) fuel
        else if c == '^' then readItems verbose first (.place .lineStart :: items) fuel
        else if c == '$' then readItems verbose first (.place .lineEnd :: items) fuel
        else if c == '(' then
          let (i, verbose) ← readGroup verbose (first && items.isEmpty) start fuel
          readItems verbose first (i ++ items) fuel
        else readItems verbose first (.literal false c.toNat :: items) fuel

/-- What an opening parenthesis at `start` begins: at most one item. Also whether white space is
passed over from there on. -/
def readGroup (verbose atStart : Bool) (start : Nat) : (fuel : Nat) → Reader (List Item × Bool)
  | 0 => return ([], verbose)
  | fuel + 1 => do
    let body (n : Option Nat) (on off : Flags) : Reader (List Item) := do
      let verbose := (verbose || on.verbose) && !off.verbose
      let items ← readAlternatives verbose false [] fuel
      endGroup start
      match n with
      | some n => closeGroup n items
      | none => pure ()
      return [.group n on off items]
    if !(← accept '?') then
      let n ← openGroup none
      return (← body (some n) .none .none, verbose)
    else
      match ← take with
      | none => failBack .unexpectedEnd 0
      | some (.escape c) => failBack (.unknownExtension (String.ofList ['\\', c])) 3
      | some (.plain 'P') =>
        if ← accept '<' then
          let s ← name '>' "group name"
          checkGroupName s 1
          let n ← openGroup (some s)
          return (← body (some n) .none .none, verbose)
        else if ← accept '=' then
          return ([← namedBackreference], verbose)
        else
          match ← take with
          | none => failBack .unexpectedEnd 0
          | some t =>
            failBack (.unknownExtension (String.ofList ('P' :: t.text))) (t.width + 2)
      | some (.plain ':') => return (← body none .none .none, verbose)
      | some (.plain '#') =>
        skipComment start (← room)
        return ([], verbose)
      | some (.plain '=') => return ([← readAhead verbose false start fuel], verbose)
      | some (.plain '!') => return ([← readAhead verbose true start fuel], verbose)
      | some (.plain '<') =>
        match ← take with
        | none => failBack .unexpectedEnd 0
        | some t =>
          if t = .plain '=' || t = .plain '!' then
            return ([← readBehind verbose (t = .plain '!') start fuel], verbose)
          else failBack (.unknownExtension (String.ofList ('<' :: t.text))) (t.width + 2)
      | some (.plain '(') =>
        let n ← conditionGroup
        let yes ← readItems verbose false [] fuel
        let no ←
          if ← accept '|' then
            let no ← readItems verbose false [] fuel
            if (← peek) = some (.plain '|') then failBack .tooManyBranches 0
            pure (some no)
          else pure none
        endGroup start
        return ([.ifGroup n yes no], verbose)
      | some (.plain '>') =>
        let items ← readAlternatives verbose false [] fuel
        endGroup start
        return ([.atomic items], verbose)
      | some (.plain c) =>
        if isFlag c || c == '-' then
          match ← groupFlags c with
          | none =>
            -- Flags without a body hold for the whole expression, so they must come first.
            if !atStart then fail .lateGlobalFlags start
            else return ([], (← get).flags.verbose)
          | some (on, off) => return (← body none on off, verbose)
        else failBack (.unknownExtension (String.singleton c)) 2

def readAhead (verbose negated : Bool) (start : Nat) : (fuel : Nat) → Reader Item
  | 0 => return .ahead negated []
  | fuel + 1 => do
    let items ← readAlternatives verbose false [] fuel
    endGroup start
    return .ahead negated items

def readBehind (verbose negated : Bool) (start : Nat) : (fuel : Nat) → Reader Item
  | 0 => return .behind negated []
  | fuel + 1 => do
    let outer := (← get).lookbehind
    let n ← groupCount
    -- Of lookbehinds inside each other, the outermost one bounds the references.
    if outer.isNone then modify fun s => { s with lookbehind := some n }
    let items ← readAlternatives verbose false [] fuel
    if outer.isNone then modify fun s => { s with lookbehind := none }
    endGroup start
    return .behind negated items

end

/-- The whole text: what closes must have been opened, and the groups asked about must exist. -/
def readWhole (length : Nat) : Reader (List Item) := do
  let verbose := (← get).flags.verbose
  let items ← readAlternatives verbose true [] (4 * length + 8)
  let flags := (← get).flags
  if flags.ascii && flags.unicode then throw .flagConflict
  -- Only now are all the flags known that stand inside of the expression.
  modify fun s => { s with flags := { s.flags with unicode := !flags.ascii } }
  if (← peek).isSome then failBack .unbalancedParenthesis 0
  let s ← get
  match s.asked.find? fun a => s.groups.size < a.1 with
  | some (n, place) => fail (.invalidGroup n) place
  | none => return items

/-- The expression that a text writes, under flags set from outside. -/
def parse (flags : Flags) (s : List Char) : Except Error Regex := do
  let cursor ← Cursor.at s 0
  let (items, state) ← (readWhole s.length).run { cursor := cursor, flags := flags }
  ofItems (Reader.widths state.groups) state.flags items

end MailTriage.Regex
