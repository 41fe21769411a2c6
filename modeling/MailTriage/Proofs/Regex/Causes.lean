import MailTriage.Proofs.Regex.Readers

/-!
Where the text of a regular expression has no problem, it is refused only for what stands in it: the number
of a character that is too large, a count of repetitions that is too long or too large, or the two flags that
exclude each other. `isDueTo_of_parse` says so of every text. The readers of counts, flags and groups are
followed first, as far as they know what stands before them.
-/

namespace MailTriage.Regex

open Reader

variable {body : List Char}

@[grind →] theorem keeps_repeatCount {digits : List Char} (h : IsCount body digits) :
    Keeps body (repeatCount digits) := by
  unfold repeatCount
  split
  case isTrue hlong => exact fun _ _ => ⟨digits, h, hlong⟩
  case isFalse hlong =>
    dsimp only
    split
    case isTrue hlarge => exact fun _ _ => ⟨digits, h, Nat.not_lt.mp hlong, hlarge⟩
    case isFalse => exact keeps_pure _

theorem follows_braceCounts (start : Nat) :
    Follows body ['\x7b'] (braceCounts start) := by
  unfold braceCounts
  refine reads_peek.bind fun t => ?_
  split
  case isTrue => exact Reads.pure fun s h => h.1.forget_all
  case isFalse =>
    -- Where no brace closes the counts, the reader goes back to the place `opened`.
    refine (reads_get.imp fun _ _ h => ⟨h.1.1, h.2.1.forget_all⟩).bind fun opened =>
      Reads.given fun hopened => ?_
    refine reads_room.bind fun n => ?_
    refine (reads_takeWhile _ n).bind fun lo => Reads.given fun hlo => ?_
    refine (reads_accept ',').bind fun bounded => ?_
    cases bounded with
    | false =>
      simp only [Bool.false_eq_true, if_false, pure_bind]
      refine (reads_accept '\x7d').bind fun closed => ?_
      cases closed with
      | false => exact Keeps.follows ((keeps_set hopened).bind fun _ => keeps_pure none)
      | true =>
        refine Reads.of_isInfix fun hin => Keeps.follows ?_
        have hcount : IsCount body lo :=
          ⟨lo, [], by simpa using hlo, .inl ⟨rfl, hin⟩⟩
        grind
    | true =>
      simp only [if_true]
      refine reads_room.bind fun n => ?_
      refine (reads_takeWhile _ n).bind fun hi => Reads.given fun hhi => ?_
      refine (reads_accept '\x7d').bind fun closed => ?_
      cases closed with
      | false => exact Keeps.follows ((keeps_set hopened).bind fun _ => keeps_pure none)
      | true =>
        refine Reads.of_isInfix fun hin => Keeps.follows ?_
        have hcount (digits : List Char) (hd : digits = lo ∨ digits = hi) : IsCount body digits :=
          ⟨lo, hi, by simpa [or_imp, forall_and] using ⟨hlo, hhi⟩, .inr ⟨hd, by simpa using hin⟩⟩
        have hmin := hcount lo (.inl rfl)
        have hmax := hcount hi (.inr rfl)
        grind

/-- Letters of flags that account for a collection of flags, as far as `a` and `u` go. -/
structure Writes (letters : List Char) (on : Flags) : Prop where
  flags : ∀ c ∈ letters, isFlag c
  ascii : on.ascii → 'a' ∈ letters
  unicode : on.unicode → 'u' ∈ letters

theorem writes_nil : Writes [] .none where
  flags := by simp
  ascii := by simp [Flags.none]
  unicode := by simp [Flags.none]

theorem Writes.concat {letters : List Char} {on f : Flags} {c : Char} (h : Writes letters on)
    (hc : flag? c = some f) : Writes (letters ++ [c]) (on.union f) := by
  have hletter : (f.ascii → c = 'a') ∧ (f.unicode → c = 'u') := by
    unfold flag? at hc
    split at hc <;> cases hc <;> simp
  refine ⟨?_, ?_, ?_⟩
  · have hflag : isFlag c := by simp [isFlag, hc]
    simpa [or_imp, forall_and] using ⟨h.flags, hflag⟩
  · grind [Flags.union, h.ascii]
  · grind [Flags.union, h.unicode]

theorem reads_flagsOn {letters : List Char} {on : Flags} (c : Char) (n : Nat) (h : Writes letters on) :
    Reads body (At body ('(' :: '?' :: (letters ++ [c]))) (flagsOn on c n) fun r s =>
      ∃ read, Writes read r.1 ∧ At body ('(' :: '?' :: (read ++ [r.2])) s := by
  induction n generalizing letters on c with
  | zero => exact Reads.pure fun s hs => ⟨letters, h, hs⟩
  | succ n ih =>
    unfold flagsOn
    cases hc : flag? c with
    | none => exact reads_failBack _ _
    | some f =>
      have hread := h.concat hc
      dsimp only
      split
      case isTrue => exact reads_failBack _ _
      case isFalse =>
        refine reads_take.bind fun t => ?_
        split
        next => exact reads_failBack _ _
        next d =>
          split
          case isTrue => exact Reads.pure fun s hs => ⟨_, hread, hs⟩
          case isFalse =>
            split
            case isTrue => exact ih d hread
            case isFalse => exact reads_failFlag _ _
        next => exact reads_failFlag _ _

/-- The flags that hold for the whole expression were set by the text. -/
theorem reads_flagsOn_global (c : Char) (n : Nat) :
    Reads body (At body ['(', '?', c]) (flagsOn .none c n) fun r s => At body [] s ∧
      (r.2 = ')' → (r.1.ascii → SetsFlag body 'a') ∧ (r.1.unicode → SetsFlag body 'u')) := by
  refine (reads_flagsOn c n writes_nil).imp fun r s h => ?_
  obtain ⟨read, hread, hs⟩ := h
  refine ⟨hs.forget_all, fun hlast => ?_⟩
  have hin : '(' :: '?' :: (read ++ [')']) <:+: body := hlast ▸ hs.isInfix
  exact ⟨fun ha => ⟨read, hread.ascii ha, hread.flags, hin⟩,
    fun hu => ⟨read, hread.unicode hu, hread.flags, hin⟩⟩

theorem follows_groupFlags (c : Char) : Follows body ['(', '?', c] (groupFlags c) := by
  have hset {on : Flags} (hon : (on.ascii → SetsFlag body 'a') ∧ (on.unicode → SetsFlag body 'u')) :
      Keeps body (modify fun s => { s with flags := s.flags.union on } : Reader PUnit) :=
    fun s hs => ⟨hs.text, by grind [Flags.union, hs.ascii], by grind [Flags.union, hs.unicode]⟩
  unfold groupFlags
  split
  case isTrue =>
    simp only [pure_bind]
    refine Keeps.follows ?_
    grind
  case isFalse =>
    refine reads_room.bind fun n => (reads_flagsOn_global c n).bind fun r => Reads.given fun hr => ?_
    obtain ⟨on, last⟩ := r
    change Keeps body _
    dsimp only
    split
    case isTrue hlast => exact (hset (hr (beq_iff_eq.mp hlast))).bind fun _ => keeps_pure _
    case isFalse => grind

/-- The readers of expressions, within a bound, go on in the text from any place; that of groups does so
from behind a parenthesis. -/
structure Expressions (body : List Char) (n : Nat) : Prop where
  alternatives (verbose top : Bool) (before : List (List Item)) :
    Keeps body (readAlternatives verbose top before n)
  items (verbose first : Bool) (items : List Item) : Keeps body (readItems verbose first items n)
  group (verbose atStart : Bool) (start : Nat) :
    Follows body ['('] (readGroup verbose atStart start n)
  ahead (verbose negated : Bool) (start : Nat) : Keeps body (readAhead verbose negated start n)
  behind (verbose negated : Bool) (start : Nat) : Keeps body (readBehind verbose negated start n)

variable {n : Nat}

theorem Expressions.keeps_readAlternatives (h : Expressions body n) (verbose top : Bool)
    (before : List (List Item)) : Keeps body (readAlternatives verbose top before (n + 1)) := by
  have hitems := h.items
  have hmore := h.alternatives
  unfold readAlternatives
  grind

theorem Expressions.keeps_readAhead (h : Expressions body n) (verbose negated : Bool) (start : Nat) :
    Keeps body (readAhead verbose negated start (n + 1)) := by
  have hmore := h.alternatives
  unfold readAhead
  grind

theorem Expressions.keeps_readBehind (h : Expressions body n) (verbose negated : Bool) (start : Nat) :
    Keeps body (readBehind verbose negated start (n + 1)) := by
  have hmore := h.alternatives
  unfold readBehind
  refine keeps_get.bind fun s => keeps_groupCount.bind fun k => ?_
  cases s.lookbehind <;> grind

theorem Expressions.keeps_readItems (h : Expressions body n) (verbose first : Bool) (items : List Item) :
    Keeps body (readItems verbose first items (n + 1)) := by
  have hmore := h.items
  unfold readItems
  refine reads_peek.bind fun t => ?_
  split
  iterate 3 exact Reads.pure fun s hs => hs.1
  next t _ _ =>
    refine reads_place.bind fun start => (reads_take_next _).bind fun u => Reads.given ?_
    rintro rfl
    cases t with
    | escape c => exact (follows_itemEscape c).bind fun i => hmore _ _ _
    | plain c =>
      have hgroup := h.group
      change Follows body [c] _
      dsimp only
      -- The tests on `c` before the one for a brace need nothing of what was passed.
      iterate 6 refine Follows.ite (fun _ => by grind) fun _ => ?_
      refine Follows.ite (fun hc => ?_) fun _ => by grind
      have hcounts : Follows body [c] (braceCounts (start + 1)) := by grind [follows_braceCounts]
      refine hcounts.bind fun counts => ?_
      cases counts <;> grind

theorem Expressions.follows_readGroup (h : Expressions body n) (verbose atStart : Bool) (start : Nat) :
    Follows body ['('] (readGroup verbose atStart start (n + 1)) := by
  have hitems := h.items
  have halternatives := h.alternatives
  have hahead := h.ahead
  have hbehind := h.behind
  unfold readGroup
  refine (reads_accept '?').bind fun extended => ?_
  cases extended with
  | false =>
    refine Keeps.follows ?_
    simp only [Bool.not_false, if_true]
    grind
  | true =>
    simp only [Bool.not_true, Bool.false_eq_true, if_false]
    refine reads_take.bind fun t => ?_
    change Follows body (['(', '?'] ++ textOf t) _
    -- One case for each character behind `(?`; only that of the flags depends on what was passed.
    split
    iterate 2 grind
    next =>
      refine Keeps.follows ((keeps_accept '<').bind fun named => ?_)
      cases named with
      | false => grind
      | true =>
        simp only [if_true]
        refine (keeps_name _ _).bind fun s => (keeps_checkGroupName _ _).bind fun _ => ?_
        grind
    iterate 5 grind
    next =>
      refine Keeps.follows (keeps_conditionGroup.bind fun k => (hitems _ _ _).bind fun yes => ?_)
      refine (keeps_accept '|').bind fun more => ?_
      cases more <;> grind
    next => grind
    next c _ _ _ _ _ _ _ _ =>
      have hflags : Follows body (['(', '?'] ++ textOf (some (Token.plain c))) (groupFlags c) :=
        follows_groupFlags c
      refine Follows.ite (fun _ => hflags.bind fun r => ?_) fun _ => by grind
      cases r <;> grind

theorem expressions (body : List Char) (n : Nat) : Expressions body n := by
  induction n with
  | zero =>
    refine ⟨fun _ _ _ => keeps_pure _, fun _ _ _ => keeps_pure _, fun _ _ _ => (keeps_pure _).follows,
      fun _ _ _ => keeps_pure _, fun _ _ _ => keeps_pure _⟩
  | succ n ih =>
    exact ⟨ih.keeps_readAlternatives, ih.keeps_readItems, ih.follows_readGroup, ih.keeps_readAhead,
      ih.keeps_readBehind⟩

theorem reads_readWhole (n : Nat) : Reads body (At body []) (readWhole n) fun _ _ => True := by
  have hread : Reads body (At body []) (get : Reader ReadState) fun _ => At body [] := keeps_get
  unfold readWhole
  refine hread.bind fun _ => Reads.bind ((expressions body _).alternatives _ _ _) fun items => ?_
  refine reads_get.bind fun s => Reads.given fun hs => ?_
  dsimp only
  split
  case isTrue hconflict =>
    have hboth := Bool.and_eq_true_iff.mp hconflict
    exact fun _ _ => ⟨hs.ascii hboth.1, hs.unicode hboth.2⟩
  case isFalse =>
    -- From here on the text can only be malformed, whatever the state.
    refine Reads.bind (Q := fun _ _ => True) (fun _ _ => trivial) fun _ => ?_
    refine Reads.bind (Q := fun _ _ => True) (fun _ _ => trivial) fun t => ?_
    split
    case isTrue => exact fun _ _ => trivial
    case isFalse =>
      refine Reads.bind (Q := fun _ _ => True) (fun _ _ => trivial) fun s => ?_
      split
      · exact fun _ _ => trivial
      · exact fun _ _ => trivial

/-- A result that is missing only where a text is malformed. -/
def Formal {α : Type} (r : Except Error α) : Prop :=
  ∀ e, r = .error e → ∃ p place, e = .malformed p place

@[grind .] theorem formal_ok {α : Type} (a : α) : Formal (.ok a) := by
  rintro e ⟨⟩

@[grind .] theorem formal_pure {α : Type} (a : α) : Formal (pure a) :=
  formal_ok a

@[grind .] theorem formal_error {α : Type} (p : Problem) (place : Option Nat) :
    Formal (.error (.malformed p place) : Except Error α) := by
  rintro e ⟨⟩
  exact ⟨p, place, rfl⟩

@[grind ←] theorem Formal.bind {α β : Type} {r : Except Error α} {f : α → Except Error β} (hr : Formal r)
    (hf : ∀ a, Formal (f a)) : Formal (r >>= f) := by
  cases r with
  | error e =>
    rintro e' ⟨⟩
    exact hr e rfl
  | ok a => exact hf a

mutual

theorem formal_ofItems (groups : Nat → Width) (flags : Flags) (items : List Item) :
    Formal (ofItems groups flags items) := by
  cases items with
  | nil => exact formal_ok _
  | cons i items =>
    have hitem := formal_ofItem groups flags i
    have hitems := formal_ofItems groups flags items
    unfold ofItems
    grind

theorem formal_ofItem (groups : Nat → Width) (flags : Flags) (i : Item) :
    Formal (ofItem groups flags i) := by
  cases i with
  | literal | set | any | place | backref => exact formal_ok _
  | branch as => exact formal_ofBranches groups flags as
  | group n on off body =>
    have hbody := formal_ofItems groups (flags.inside on off) body
    cases n <;> unfold ofItem <;> grind
  | atomic body | ahead negated body | «repeat» greed min max body | behind negated body =>
    have hbody := formal_ofItems groups flags body
    unfold ofItem
    grind
  | ifGroup n yes no =>
    have hyes := formal_ofItems groups flags yes
    cases no with
    | none =>
      unfold ofItem
      grind
    | some no =>
      have hno := formal_ofItems groups flags no
      unfold ofItem
      grind

theorem formal_ofBranches (groups : Nat → Width) (flags : Flags) (as : List (List Item)) :
    Formal (ofBranches groups flags as) := by
  cases as with
  | nil => exact formal_ok _
  | cons a as =>
    have ha := formal_ofItems groups flags a
    have has := formal_ofBranches groups flags as
    cases as <;> unfold ofBranches <;> grind

end

/-- A regular expression without flags that exclude each other from outside is refused for its form, or
for what stands in it. -/
theorem isDueTo_of_parse {flags : Flags} {body : List Char} {e : Error} (ha : flags.ascii = false)
    (hu : flags.unicode = false) (h : parse flags body = .error e) : e.IsDueTo body := by
  cases hc : Cursor.at body 0 with
  | error e' =>
    obtain ⟨p, place, rfl⟩ := Cursor.malformed_of_at hc
    obtain rfl : .malformed p place = e := by simpa [parse, hc, bind, Except.bind] using h
    trivial
  | ok c =>
    have hstart : At body [] { cursor := c, flags := flags } :=
      ⟨(Cursor.text_of_at hc).symm ▸ List.suffix_refl _, by simp [ha], by simp [hu]⟩
    have hread := reads_readWhole body.length _ hstart
    cases hr : readWhole body.length { cursor := c, flags := flags } with
    | error e' =>
      obtain rfl : e' = e := by simpa [parse, hc, StateT.run, hr, bind, Except.bind] using h
      rwa [hr] at hread
    | ok r =>
      have hitems : ofItems (widths r.2.groups) r.2.flags r.1 = .error e := by
        simpa [parse, hc, StateT.run, hr, bind, Except.bind] using h
      obtain ⟨p, place, rfl⟩ := formal_ofItems _ _ _ e hitems
      trivial

end MailTriage.Regex
