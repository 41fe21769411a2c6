import MailTriage.Regex.Parse

/-!
What a reader has passed over and what is still ahead of it make up a part of the text. Here this is
followed through all readers that look at single characters, escapes, sets and names. Where the text has no
problem, none of them fails but the one for the long escape, which reads the number of a character.
-/

namespace MailTriage.Regex

def textOf (t : Option Token) : List Char :=
  t.elim [] Token.text

def Cursor.text (c : Cursor) : List Char :=
  textOf c.next ++ c.rest

theorem Cursor.text_of_at {s : List Char} {n : Nat} {c : Cursor} (h : Cursor.at s n = .ok c) :
    c.text = s := by
  unfold Cursor.at at h
  split at h <;> cases h <;> rfl

theorem Cursor.malformed_of_at {s : List Char} {n : Nat} {e : Error} (h : Cursor.at s n = .error e) :
    ∃ p place, e = .malformed p place := by
  unfold Cursor.at at h
  split at h <;> cases h
  exact ⟨_, _, rfl⟩

/-- Digits that stand in a text as a count of repetitions: between braces, alone or on one side of a
comma. -/
def IsCount (body digits : List Char) : Prop :=
  ∃ lo hi : List Char, (∀ c ∈ lo ++ hi, c.isDigit) ∧
    ((digits = lo ∧ '\x7b' :: (lo ++ ['\x7d']) <:+: body) ∨
      ((digits = lo ∨ digits = hi) ∧ '\x7b' :: (lo ++ ',' :: (hi ++ ['\x7d'])) <:+: body))

/-- A text in which a flag is set for the whole expression, alone or with others. -/
def SetsFlag (body : List Char) (flag : Char) : Prop :=
  ∃ letters : List Char, flag ∈ letters ∧ (∀ c ∈ letters, isFlag c) ∧
    '(' :: '?' :: (letters ++ [')']) <:+: body

/-- Digits that stand in a text as the number of a character, behind the long one of the escapes. -/
structure IsWideCode (body digits : List Char) : Prop where
  length : digits.length = 8
  hex : ∀ d ∈ digits, Text.isHexDigit d
  isInfix : '\\' :: 'U' :: digits <:+: body

/-- What stands in a text that is refused although nothing is wrong with its form: the number of a character
or a count too large, a count too long, or two flags that exclude each other. -/
def Error.IsDueTo (body : List Char) : Error → Prop
  | malformed _ _ => True
  | codeTooLarge => ∃ digits, IsWideCode body digits ∧ maxCode < Text.ofBase 16 digits
  | numberTooLong => ∃ digits, IsCount body digits ∧ Number.maxDigits < digits.length
  | repetitionTooLarge => ∃ digits, IsCount body digits ∧ digits.length ≤ Number.maxDigits ∧
      maxRepeat ≤ Text.ofBase 10 digits
  | flagConflict => SetsFlag body 'a' ∧ SetsFlag body 'u'

/-- A place in a text right behind `w`, where flags are set that the text sets. -/
structure At (body w : List Char) (s : ReadState) : Prop where
  text : w ++ s.cursor.text <:+ body
  ascii : s.flags.ascii → SetsFlag body 'a'
  unicode : s.flags.unicode → SetsFlag body 'u'

variable {α β : Type} {body v w : List Char} {s : ReadState}

@[grind =] theorem at_iff (groups : Array GroupInfo) (lookbehind : Option Nat) (asked : List (Nat × Nat)) :
    At body w ⟨s.cursor, s.flags, groups, lookbehind, asked⟩ ↔ At body w s :=
  ⟨fun h => ⟨h.text, h.ascii, h.unicode⟩, fun h => ⟨h.text, h.ascii, h.unicode⟩⟩

theorem At.isInfix (h : At body w s) : w <:+: body :=
  (List.prefix_append w _).isInfix.trans h.text.isInfix

theorem At.forget (h : At body (v ++ w) s) : At body w s where
  text := by
    have htext := h.text
    rw [List.append_assoc] at htext
    exact (List.suffix_append v _).trans htext
  ascii := h.ascii
  unicode := h.unicode

theorem At.forget_all (h : At body w s) : At body [] s :=
  At.forget (v := w) (by rwa [List.append_nil])

/-- A reader that leads from states with `P` to states and results with `Q`, unless it fails for a reason
that is found in the text. -/
def Reads (body : List Char) (P : ReadState → Prop) (m : Reader α) (Q : α → ReadState → Prop) : Prop :=
  ∀ s, P s → match m s with
    | .ok (a, s') => Q a s'
    | .error e => e.IsDueTo body

/-- A reader that goes on in the text from right behind `w`. -/
def Follows (body w : List Char) (m : Reader α) : Prop :=
  Reads body (At body w) m fun _ => At body []

/-- A reader that goes on in the text from any place. -/
def Keeps (body : List Char) (m : Reader α) : Prop :=
  Follows body [] m

variable {P : ReadState → Prop} {Q Q' : α → ReadState → Prop} {R : β → ReadState → Prop} {m : Reader α}
  {f : α → Reader β}

theorem Reads.bind (hm : Reads body P m Q) (hf : ∀ a, Reads body (Q a) (f a) R) :
    Reads body P (m >>= f) R := by
  intro s hs
  have h := hm s hs
  show match (m s >>= fun x => f x.1 x.2) with
    | .ok (a, s') => R a s'
    | .error e => e.IsDueTo body
  cases hr : m s with
  | error e =>
    rw [hr] at h
    exact h
  | ok r =>
    rw [hr] at h
    exact hf r.1 r.2 h

theorem Reads.pure {a : α} (h : ∀ s, P s → Q a s) : Reads body P (pure a : Reader α) Q :=
  h

theorem Reads.imp (h : Reads body P m Q) (himp : ∀ a s, Q a s → Q' a s) : Reads body P m Q' := by
  intro s hs
  have hr := h s hs
  split at hr
  · exact himp _ _ hr
  · exact hr

/-- What is known about a result does not depend on the state. -/
theorem Reads.given {p : Prop} (h : p → Reads body P m Q) : Reads body (fun s => P s ∧ p) m Q :=
  fun s hs => h hs.2 s hs.1

theorem Reads.of_isInfix (h : w <:+: body → Reads body (At body w) m Q) : Reads body (At body w) m Q :=
  fun s hs => h hs.isInfix s hs

@[grind ←] theorem Keeps.follows (h : Keeps body m) : Follows body w m :=
  fun s hs => h s hs.forget_all

theorem Follows.ite {p : Prop} [Decidable p] {m' : Reader α} (h : p → Follows body w m)
    (h' : ¬p → Follows body w m') : Follows body w (if p then m else m') := by
  split
  case isTrue hp => exact h hp
  case isFalse hp => exact h' hp

@[grind ←] theorem Follows.bind (hm : Follows body w m) (hf : ∀ a, Keeps body (f a)) :
    Follows body w (m >>= f) :=
  Reads.bind hm hf

@[grind ←] theorem Keeps.bind (hm : Keeps body m) (hf : ∀ a, Keeps body (f a)) : Keeps body (m >>= f) :=
  Reads.bind hm hf

@[grind .] theorem keeps_pure (a : α) : Keeps body (pure a : Reader α) :=
  fun _ hs => hs

theorem reads_failBack (p : Problem) (n : Nat) : Reads body P (Reader.failBack p n : Reader α) Q :=
  fun _ _ => trivial

@[grind .] theorem keeps_fail (p : Problem) (n : Nat) : Keeps body (Reader.fail p n : Reader α) :=
  fun _ _ => trivial

@[grind .] theorem keeps_failBack (p : Problem) (n : Nat) : Keeps body (Reader.failBack p n : Reader α) :=
  fun _ _ => trivial

theorem reads_get : Reads body P (get : Reader ReadState) fun a s => P s ∧ P a :=
  fun _ hs => ⟨hs, hs⟩

@[grind .] theorem keeps_get : Keeps body (get : Reader ReadState) :=
  fun _ hs => hs

theorem keeps_set (h : At body [] s) : Keeps body (set s : Reader PUnit) :=
  fun _ _ => h

@[grind ←] theorem keeps_modify {g : ReadState → ReadState} (h : ∀ s, At body [] s → At body [] (g s)) :
    Keeps body (modify g : Reader PUnit) :=
  h

open Reader

theorem reads_peek : Reads body (At body w) peek fun t s => At body w s ∧ s.cursor.next = t :=
  fun _ hs => ⟨hs, rfl⟩

theorem reads_take_next (t : Option Token) :
    Reads body (fun s => At body w s ∧ s.cursor.next = t) take
      fun u s => At body (w ++ textOf u) s ∧ u = t := by
  intro s hs
  have htake : take s = (Cursor.at s.cursor.rest s.cursor.index).map fun c =>
      (s.cursor.next, { s with cursor := c }) := by
    show (Cursor.at s.cursor.rest s.cursor.index >>= fun c => Except.ok (c, s)) >>= _ = _
    cases Cursor.at s.cursor.rest s.cursor.index <;> rfl
  rw [htake]
  cases h : Cursor.at s.cursor.rest s.cursor.index with
  | error e =>
    obtain ⟨p, place, rfl⟩ := Cursor.malformed_of_at h
    trivial
  | ok c =>
    refine ⟨⟨?_, hs.1.ascii, hs.1.unicode⟩, hs.2⟩
    have htext := hs.1.text
    rw [Cursor.text, ← List.append_assoc] at htext
    rwa [Cursor.text_of_at h]

theorem reads_take : Reads body (At body w) take fun t => At body (w ++ textOf t) := by
  intro s hs
  exact (reads_take_next s.cursor.next).imp (fun _ _ h => h.1) s ⟨hs, rfl⟩

@[grind .] theorem keeps_peek : Keeps body peek :=
  reads_peek.imp fun _ _ h => h.1

@[grind .] theorem keeps_take : Keeps body take :=
  reads_take.imp fun _ _ h => h.forget_all

theorem reads_place : Reads body P place fun _ => P :=
  fun _ hs => hs

@[grind .] theorem keeps_place : Keeps body place :=
  fun _ hs => hs

theorem reads_room : Reads body P room fun _ => P :=
  fun _ hs => hs

@[grind .] theorem keeps_room : Keeps body room :=
  fun _ hs => hs

theorem reads_accept (c : Char) :
    Reads body (At body w) (accept c) fun b => At body (if b then w ++ [c] else w) := by
  unfold accept
  refine reads_peek.bind fun t => ?_
  split
  case isTrue ht =>
    subst ht
    refine (reads_take_next _).bind fun u => Reads.given ?_
    rintro rfl
    exact Reads.pure fun s h => h
  case isFalse => exact Reads.pure fun s h => h.1

@[grind .] theorem keeps_accept (c : Char) : Keeps body (accept c) :=
  (reads_accept c).imp fun b _ h => by cases b <;> exact h.forget_all

theorem reads_takeWhile (test : Char → Bool) (n : Nat) :
    Reads body (At body w) (takeWhile test n) fun cs s => At body (w ++ cs) s ∧ ∀ c ∈ cs, test c := by
  have hstop (w : List Char) (s : ReadState) (hs : At body w s) :
      At body (w ++ []) s ∧ ∀ c ∈ ([] : List Char), test c :=
    ⟨by rwa [List.append_nil], List.forall_mem_nil _⟩
  induction n generalizing w with
  | zero => exact Reads.pure (hstop w)
  | succ n ih =>
    refine reads_peek.bind fun t => ?_
    split
    next c =>
      split
      case isTrue hc =>
        refine (reads_take_next _).bind fun u => Reads.given ?_
        rintro rfl
        refine ih.bind fun cs => Reads.pure fun s h => ⟨?_, ?_⟩
        · rw [← List.singleton_append, ← List.append_assoc]
          exact h.1
        · exact List.forall_mem_cons.mpr ⟨hc, h.2⟩
      case isFalse => exact Reads.pure fun s h => hstop w s h.1
    next => exact Reads.pure fun s h => hstop w s h.1

@[grind .] theorem keeps_takeWhile (test : Char → Bool) (n : Nat) : Keeps body (takeWhile test n) :=
  (reads_takeWhile test n).imp fun _ _ h => h.1.forget_all

theorem keeps_nameUntil (terminator : Char) (what : String) (s : List Char) (n : Nat) :
    Keeps body (nameUntil terminator what s n) := by
  induction n generalizing s with
  | zero => exact keeps_pure _
  | succ n ih => unfold nameUntil; grind

@[grind .] theorem keeps_name (terminator : Char) (what : String) : Keeps body (name terminator what) :=
  keeps_room.bind fun n => keeps_nameUntil terminator what [] n

@[grind .] theorem keeps_groupCount : Keeps body groupCount :=
  fun _ hs => hs

@[grind .] theorem keeps_isClosed (n : Nat) : Keeps body (isClosed n) :=
  fun _ hs => hs

@[grind .] theorem keeps_groupNamed? (s : List Char) : Keeps body (groupNamed? s) :=
  fun _ hs => hs

@[grind .] theorem keeps_checkLookbehind (n : Nat) : Keeps body (checkLookbehind n) := by
  unfold checkLookbehind
  refine keeps_get.bind fun s => ?_
  cases s.lookbehind <;> grind

@[grind .] theorem keeps_openGroup (name : Option (List Char)) : Keeps body (openGroup name) := by
  unfold openGroup
  refine keeps_groupCount.bind fun n => ?_
  cases name with
  | none => grind
  | some s =>
    refine (keeps_groupNamed? s).bind fun previous => ?_
    cases previous <;> grind

@[grind .] theorem keeps_closeGroup (n : Nat) (items : List Item) : Keeps body (closeGroup n items) :=
  keeps_modify fun _ hs => (at_iff _ _ _).mpr hs

theorem reads_hexDigits (c : Char) (width : Nat) :
    Reads body (At body w) (hexDigits c width) fun digits s =>
      At body (w ++ digits) s ∧ (∀ d ∈ digits, Text.isHexDigit d) ∧ digits.length = width := by
  unfold hexDigits
  refine (reads_takeWhile _ _).bind fun digits => Reads.given fun hhex => ?_
  dsimp only
  split
  case isTrue => exact reads_failBack _ _
  case isFalse hlength => exact Reads.pure fun s hs => ⟨hs, hhex, Decidable.not_not.mp hlength⟩

@[grind .] theorem keeps_hexDigits (c : Char) (width : Nat) : Keeps body (hexDigits c width) :=
  (reads_hexDigits c width).imp fun _ _ h => h.1.forget_all

@[grind .] theorem keeps_hexEscape (c : Char) (width : Nat) : Keeps body (hexEscape c width) := by
  unfold hexEscape
  grind

theorem follows_wideEscape : Follows body ['\\', 'U'] wideEscape := by
  unfold wideEscape
  refine (reads_hexDigits 'U' 8).bind fun digits => Reads.given fun ⟨hhex, hlength⟩ => ?_
  refine Reads.of_isInfix fun hin => ?_
  dsimp only
  split
  case isTrue hlarge => exact fun _ _ => ⟨digits, ⟨hlength, hhex, hin⟩, hlarge⟩
  case isFalse =>
    split
    case isTrue => exact reads_failBack _ _
    case isFalse => exact Reads.pure fun s hs => hs.forget_all

@[grind .] theorem keeps_nameEscape : Keeps body nameEscape := by
  unfold nameEscape
  grind

theorem follows_codeEscape (c : Char) : Follows body ['\\', c] (codeEscape c) := by
  unfold codeEscape
  iterate 2 refine Follows.ite (fun _ => (keeps_hexEscape _ _).follows) fun _ => ?_
  refine Follows.ite (fun hc => ?_) fun _ => by grind
  rw [beq_iff_eq.mp hc]
  exact follows_wideEscape

@[grind .] theorem keeps_octalEscape (e : List Char) : Keeps body (octalEscape e) := by
  unfold octalEscape
  grind

theorem follows_setEscape (c : Char) : Follows body ['\\', c] (setEscape c) := by
  have hcode : Follows body _ (codeEscape c) := follows_codeEscape c
  unfold setEscape
  grind

@[grind .] theorem keeps_backreference (digits : List Char) : Keeps body (backreference digits) := by
  unfold backreference
  grind

theorem follows_itemEscape (c : Char) : Follows body ['\\', c] (itemEscape c) := by
  have hcode : Follows body _ (codeEscape c) := follows_codeEscape c
  unfold itemEscape
  split
  iterate 3 exact (keeps_pure _).follows
  refine Follows.ite (fun _ => by grind) fun _ => Follows.ite (fun _ => ?_) fun _ => by grind
  refine Keeps.follows ((keeps_takeWhile _ _).bind fun cs => ?_)
  split
  next d =>
    split
    case isTrue => grind
    case isFalse => exact keeps_backreference _
  next => exact keeps_backreference _

theorem follows_setMember (t : Token) : Follows body t.text (setMember t) := by
  cases t with
  | plain c => exact (keeps_pure _).follows
  | escape c => exact follows_setEscape c

theorem keeps_setMembers (start : Nat) (members : List SetItem) (first : Bool) (n : Nat) :
    Keeps body (setMembers start members first n) := by
  induction n generalizing members first with
  | zero => exact keeps_pure _
  | succ n ih =>
    unfold setMembers
    refine reads_take.bind fun t => ?_
    change Follows body (textOf t) _
    cases t with
    | none => exact (keeps_fail _ _).follows
    | some t =>
      refine Follows.ite (fun _ => (keeps_pure _).follows) fun _ => ?_
      refine (follows_setMember t).bind fun a => (keeps_accept '-').bind fun range => ?_
      cases range with
      | false => exact ih _ _
      | true =>
        refine reads_take.bind fun u => ?_
        change Follows body (textOf u) _
        cases u with
        | none => exact (keeps_fail _ _).follows
        | some u =>
          refine Follows.ite (fun _ => (keeps_pure _).follows) fun _ => ?_
          refine (follows_setMember u).bind fun b => ?_
          grind

@[grind .] theorem keeps_setItem (start : Nat) : Keeps body (setItem start) := by
  have hmembers (n : Nat) : Keeps body (setMembers start [] true n) :=
    keeps_setMembers start [] true n
  unfold setItem
  grind

@[grind .] theorem keeps_repeatLast (start width min : Nat) (max : Option Nat) (items : List Item) :
    Keeps body (repeatLast start width min max items) := by
  unfold repeatLast
  grind

@[grind .] theorem keeps_skipComment (start n : Nat) : Keeps body (skipComment start n) := by
  induction n with
  | zero => exact keeps_pure _
  | succ n ih => unfold skipComment; grind

@[grind .] theorem keeps_skipLine (n : Nat) : Keeps body (skipLine n) := by
  induction n with
  | zero => exact keeps_pure _
  | succ n ih => unfold skipLine; grind

@[grind .] theorem keeps_checkGroupName (s : List Char) (back : Nat) :
    Keeps body (checkGroupName s back) := by
  unfold checkGroupName
  grind

@[grind .] theorem keeps_namedBackreference : Keeps body namedBackreference := by
  unfold namedBackreference
  grind

@[grind .] theorem keeps_conditionGroup : Keeps body conditionGroup := by
  unfold conditionGroup
  refine (keeps_name _ _).bind fun s => ?_
  split
  case isTrue => grind
  case isFalse => split <;> grind

@[grind .] theorem keeps_endGroup (start : Nat) : Keeps body (endGroup start) := by
  unfold endGroup
  grind

theorem reads_failFlag (t : Token) (expected : String) :
    Reads body P (failFlag t expected : Reader α) Q := by
  cases t <;> exact reads_failBack _ _

@[grind .] theorem keeps_failFlag (t : Token) (expected : String) :
    Keeps body (failFlag t expected : Reader α) :=
  reads_failFlag t expected

@[grind .] theorem keeps_flagsOff (off : Flags) (c : Char) (n : Nat) : Keeps body (flagsOff off c n) := by
  induction n generalizing off c with
  | zero => exact keeps_pure _
  | succ n ih => unfold flagsOff; grind

end MailTriage.Regex
