import MailTriage.Pattern

/-!
The regular expressions that patterns without slashes stand for are made of escaped texts and of a few
brackets around them. Here it is followed how they are read: an escaped text is read as its own characters,
whatever they are, and each bracket as what it was put there for.
-/

namespace MailTriage.Regex

open Reader

section

variable {α β : Type} {P P' : ReadState → Prop} {Q Q' : α → ReadState → Prop}
  {R : β → ReadState → Prop} {m : Reader α} {f : α → Reader β} {a : α}

/-- A reader that gets through from all states with `P`, to results and states with `Q`. -/
def Yields (P : ReadState → Prop) (m : Reader α) (Q : α → ReadState → Prop) : Prop :=
  ∀ s, P s → ∃ a s', m s = .ok (a, s') ∧ Q a s'

/-- A reader that gets through to one result. -/
def Returns (P : ReadState → Prop) (m : Reader α) (a : α) (P' : ReadState → Prop) : Prop :=
  Yields P m fun b s => b = a ∧ P' s

theorem Yields.bind (hm : Yields P m Q) (hf : ∀ a, Yields (Q a) (f a) R) : Yields P (m >>= f) R := by
  intro s hs
  obtain ⟨a, s', hrun, ha⟩ := hm s hs
  obtain ⟨b, s'', hrun', hb⟩ := hf a s' ha
  refine ⟨b, s'', ?_, hb⟩
  show (m s >>= fun x => f x.1 x.2) = _
  rw [hrun]
  exact hrun'

theorem Returns.bind (hm : Returns P m a P') (hf : Yields P' (f a) R) : Yields P (m >>= f) R := by
  refine Yields.bind hm fun b s hs => ?_
  obtain ⟨rfl, hs⟩ := hs
  exact hf s hs

theorem returns_pure (h : ∀ s, P s → P' s) : Returns P (pure a : Reader α) a P' :=
  fun s hs => ⟨a, s, rfl, rfl, h s hs⟩

end

/-- A state before a text, with some flags and a number of groups so far. No group was asked about. -/
structure Faces (text : List Char) (flags : Flags) (count : Nat) (s : ReadState) : Prop where
  cursor : ∃ n, Cursor.at text n = .ok s.cursor
  flags : s.flags = flags
  count : s.groups.size = count
  asked : s.asked = []

variable {text rest : List Char} {flags : Flags} {count fuel : Nat} {c : Char} {s : ReadState}
  {items : List Item} {i : Item} {Q : List Item → ReadState → Prop}

theorem exists_cursor_at (h : text ≠ ['\\']) (n : Nat) : ∃ c, Cursor.at text n = .ok c := by
  unfold Cursor.at
  split
  · exact ⟨_, rfl⟩
  · exact absurd rfl h
  · exact ⟨_, rfl⟩
  · exact ⟨_, rfl⟩

def firstToken : List Char → Option Token × List Char
  | '\\' :: c :: s => (some (.escape c), s)
  | c :: s => (some (.plain c), s)
  | [] => (none, [])

theorem Faces.next (h : Faces text flags count s) :
    s.cursor.next = (firstToken text).1 ∧ s.cursor.rest = (firstToken text).2 := by
  obtain ⟨n, hn⟩ := h.cursor
  generalize s.cursor = cursor at hn ⊢
  unfold Cursor.at at hn
  split at hn <;> cases hn
  · exact ⟨rfl, rfl⟩
  · exact ⟨rfl, rfl⟩
  · unfold firstToken
    split <;> simp_all

theorem returns_peek : Returns (Faces text flags count) peek (firstToken text).1 (Faces text flags count) :=
  fun s hs => ⟨_, s, rfl, hs.next.1, hs⟩

theorem returns_take (text : List Char) (hrest : (firstToken text).2 ≠ ['\\']) :
    Returns (Faces text flags count) take (firstToken text).1 (Faces (firstToken text).2 flags count) := by
  intro s hs
  obtain ⟨cursor, hcursor⟩ := exists_cursor_at hrest s.cursor.index
  refine ⟨s.cursor.next, { s with cursor := cursor }, ?_, hs.next.1, ⟨_, hcursor⟩, hs.flags, hs.count,
    hs.asked⟩
  rw [← hs.next.2] at hcursor
  show (Cursor.at s.cursor.rest s.cursor.index >>= fun c => Except.ok (c, s)) >>= _ = _
  rw [hcursor]
  rfl

theorem returns_accept_of_ne (text : List Char) (h : (firstToken text).1 ≠ some (.plain c)) :
    Returns (Faces text flags count) (accept c) false (Faces text flags count) := by
  refine returns_peek.bind ?_
  rw [if_neg h]
  exact returns_pure fun _ hs => hs

theorem returns_accept (text : List Char) (h : (firstToken text).1 = some (.plain c))
    (hrest : (firstToken text).2 ≠ ['\\']) :
    Returns (Faces text flags count) (accept c) true (Faces (firstToken text).2 flags count) := by
  refine returns_peek.bind ?_
  rw [if_pos h]
  exact (returns_take text hrest).bind (returns_pure fun _ hs => hs)

theorem yields_place {α : Type} {P : ReadState → Prop} {f : Nat → Reader α} {Q : α → ReadState → Prop}
    (h : ∀ n, Yields P (f n) Q) : Yields P (place >>= f) Q :=
  Yields.bind (Q := fun _ => P) (fun s hs => ⟨_, s, rfl, hs⟩) h

theorem yields_room {α : Type} {P : ReadState → Prop} {f : Nat → Reader α} {Q : α → ReadState → Prop}
    (h : ∀ n, 2 ≤ n → Yields P (f n) Q) : Yields P (room >>= f) Q :=
  Yields.bind (Q := fun n s => 2 ≤ n ∧ P s) (fun s hs => ⟨_, s, rfl, Nat.le_add_left _ _, hs⟩)
    fun n s hs => h n hs.1 s hs.2

def literalItem (c : Char) : Item :=
  .literal false c.toNat

theorem itemEscape_of_isSpecial (h : Pattern.isSpecial c) : itemEscape c = pure (literalItem c) := by
  simp only [Pattern.isSpecial, List.contains_cons, List.contains_nil, Bool.or_eq_true, beq_iff_eq,
    Bool.or_false] at h
  rcases h with rfl | rfl | rfl | rfl | rfl | rfl | rfl | rfl | rfl | rfl | rfl | rfl | rfl | rfl | rfl |
    rfl | rfl | rfl | rfl | rfl | rfl | rfl | rfl | rfl <;> rfl

/-- Where an item ends: at the end of the text, before a bar or a closing parenthesis. -/
def EndsItems (text : List Char) : Prop :=
  (firstToken text).1 = none ∨ (firstToken text).1 = some (.plain '|') ∨
    (firstToken text).1 = some (.plain ')')

theorem returns_readItems_of_ends (h : EndsItems text) {first : Bool} :
    Returns (Faces text flags count) (readItems false first items (fuel + 1)) (unpackGroups items.reverse)
      (Faces text flags count) := by
  unfold readItems
  refine returns_peek.bind ?_
  obtain h | h | h := h <;> rw [h] <;> exact returns_pure fun _ hs => hs

/-- A text that is read as some items wherever it stands, and the numbers of groups before and after it.
Four units of fuel are enough for each of its characters. -/
structure ReadsAs (body : List Char) (read : List Item) (count count' : Nat) : Prop where
  ne_backslash : ∀ rest ≠ ['\\'], body ++ rest ≠ ['\\']
  readItems {rest : List Char} {flags : Flags} {first : Bool} {items : List Item} {n : Nat}
    {Q : List Item → ReadState → Prop} (hrest : rest ≠ ['\\']) (hn : 1 ≤ n)
    (h : ∀ fuel, n ≤ fuel →
      Yields (Faces rest flags count') (readItems false first (read.reverse ++ items) fuel) Q) :
    ∀ fuel, n + 4 * body.length ≤ fuel →
      Yields (Faces (body ++ rest) flags count) (readItems false first items fuel) Q

variable {body body' : List Char} {read read' : List Item} {count' count'' : Nat}

theorem readsAs_nil : ReadsAs [] [] count count where
  ne_backslash _ h := h
  readItems _ _ h fuel hfuel := h fuel hfuel

theorem ReadsAs.append (h : ReadsAs body read count count') (h' : ReadsAs body' read' count' count'') :
    ReadsAs (body ++ body') (read ++ read') count count'' where
  ne_backslash rest hrest := by
    rw [List.append_assoc]
    exact h.ne_backslash _ (h'.ne_backslash _ hrest)
  readItems {rest flags first items n Q} hrest hn hgo fuel hfuel := by
    rw [List.append_assoc]
    refine h.readItems (h'.ne_backslash _ hrest) (n := n + 4 * body'.length) (by omega) ?_ fuel ?_
    · refine h'.readItems hrest hn fun fuel hfuel => ?_
      rw [← List.append_assoc, ← List.reverse_append]
      exact hgo fuel hfuel
    · rw [List.length_append] at hfuel
      omega

theorem readsAs_of_step {i : Item} (hbody : body ≠ []) (hb : ∀ rest ≠ ['\\'], body ++ rest ≠ ['\\'])
    (h : ∀ {rest flags first items fuel Q}, rest ≠ ['\\'] → 4 * body.length ≤ fuel + 1 →
      Yields (Faces rest flags count') (Regex.readItems false first (i :: items) fuel) Q →
        Yields (Faces (body ++ rest) flags count) (Regex.readItems false first items (fuel + 1)) Q) :
    ReadsAs body [i] count count' where
  ne_backslash := hb
  readItems {rest flags first items n Q} hrest hn hgo fuel hfuel := by
    have hlength : 0 < body.length := List.length_pos_iff.mpr hbody
    obtain ⟨fuel, rfl⟩ : ∃ k, fuel = k + 1 := ⟨fuel - 1, by omega⟩
    exact h hrest (by omega) (hgo fuel (by omega))

theorem readsAs_special (hc : Pattern.isSpecial c) : ReadsAs ['\\', c] [literalItem c] count count := by
  refine readsAs_of_step (by simp) (by simp) fun {rest _ _ _ _ _} hrest _ h => ?_
  unfold Regex.readItems
  refine returns_peek.bind (yields_place fun n =>
    (returns_take ('\\' :: c :: rest) hrest).bind ?_)
  change Yields _ (itemEscape c >>= fun i => Regex.readItems false _ (i :: _) _) _
  rw [itemEscape_of_isSpecial hc, pure_bind]
  exact h

theorem readsAs_plain (hc : Pattern.isSpecial c = false) :
    ReadsAs [c] [literalItem c] count count := by
  have hne (d : Char) (hd : Pattern.isSpecial d) : c ≠ d := by
    rintro rfl
    simp [hc] at hd
  have hbackslash : c ≠ '\\' := hne _ (by decide)
  refine readsAs_of_step (by simp) (by simp [hbackslash]) fun {rest _ _ _ _ _} hrest _ h => ?_
  have htoken : firstToken ([c] ++ rest) = (some (.plain c), rest) := by
    unfold firstToken
    split <;> simp_all
  unfold Regex.readItems
  refine returns_peek.bind ?_
  rw [htoken]
  split
  next hp => exact absurd hp (by simp)
  next hp => exact absurd hp (by simpa using hne '|' (by decide))
  next hp => exact absurd hp (by simpa using hne ')' (by decide))
  next t _ _ ht =>
    cases ht
    refine yields_place fun n => (returns_take ([c] ++ rest) (by rwa [htoken])).bind ?_
    simp only [htoken, Bool.false_and, Bool.false_eq_true, if_false, beq_iff_eq, hne '[' (by decide),
      hne '?' (by decide), hne '*' (by decide), hne '+' (by decide), hne '\x7b' (by decide),
      hne '.' (by decide), hne '^' (by decide), hne '$' (by decide), hne '(' (by decide)]
    exact h

/-- An escaped text is read as its own characters. -/
theorem readsAs_escape (v : List Char) :
    ReadsAs (Pattern.escape v) (v.map literalItem) count count := by
  induction v with
  | nil => exact readsAs_nil
  | cons c v ih =>
    have hc : ReadsAs (if Pattern.isSpecial c then ['\\', c] else [c]) [literalItem c] count count := by
      split
      case isTrue hc => exact readsAs_special hc
      case isFalse hc => exact readsAs_plain (by simpa using hc)
    exact hc.append ih

theorem readsAs_caret : ReadsAs ['^'] [.place .lineStart] count count := by
  refine readsAs_of_step (by simp) (by simp) fun {rest _ _ _ _ _} hrest _ h => ?_
  unfold Regex.readItems
  exact returns_peek.bind (yields_place fun n => (returns_take ('^' :: rest) hrest).bind h)

theorem readsAs_dollar : ReadsAs ['$'] [.place .lineEnd] count count := by
  refine readsAs_of_step (by simp) (by simp) fun {rest _ _ _ _ _} hrest _ h => ?_
  unfold Regex.readItems
  exact returns_peek.bind (yields_place fun n => (returns_take ('$' :: rest) hrest).bind h)

theorem readsAs_dot : ReadsAs ['.'] [.any] count count := by
  refine readsAs_of_step (by simp) (by simp) fun {rest _ _ _ _ _} hrest _ h => ?_
  unfold Regex.readItems
  exact returns_peek.bind (yields_place fun n => (returns_take ('.' :: rest) hrest).bind h)

def notAtSign : Item :=
  .literal true '@'.toNat

theorem returns_setItem (hrest : rest ≠ ['\\']) (start : Nat) :
    Returns (Faces (['^', '@', ']'] ++ rest) flags count) (setItem start) notAtSign
      (Faces rest flags count) := by
  unfold setItem
  have htail : '@' :: ']' :: rest ≠ ['\\'] := by simp
  refine (returns_accept (['^', '@', ']'] ++ rest) rfl htail).bind (yields_room fun n hn => ?_)
  obtain ⟨n, rfl⟩ : ∃ k, n = k + 2 := ⟨n - 2, by omega⟩
  -- One member, and then the bracket that ends the set.
  have hend : Returns (Faces (']' :: rest) flags count) (setMembers start [.code '@'.toNat] false (n + 1))
      [.code '@'.toNat] (Faces rest flags count) := by
    unfold setMembers
    exact (returns_take (']' :: rest) hrest).bind (returns_pure fun _ hs => hs)
  have hmembers : Returns (Faces ('@' :: ']' :: rest) flags count) (setMembers start [] true (n + 2))
      [.code '@'.toNat] (Faces rest flags count) := by
    unfold setMembers
    refine (returns_take ('@' :: ']' :: rest) (by simp [firstToken])).bind ?_
    have hmember : Returns (Faces (']' :: rest) flags count) (setMember (.plain '@')) (.code '@'.toNat)
        (Faces (']' :: rest) flags count) := returns_pure fun _ hs => hs
    have hdash : Returns (Faces (']' :: rest) flags count) (accept '-') false
        (Faces (']' :: rest) flags count) := returns_accept_of_ne _ (by simp [firstToken])
    exact hmember.bind (hdash.bind hend)
  exact hmembers.bind (returns_pure fun _ hs => hs)

theorem readsAs_notAtSign : ReadsAs ['[', '^', '@', ']'] [notAtSign] count count := by
  refine readsAs_of_step (by simp) (by simp) fun {rest _ _ _ _ _} hrest _ h => ?_
  unfold Regex.readItems
  refine returns_peek.bind (yields_place fun n => ?_)
  refine (returns_take (['[', '^', '@', ']'] ++ rest) (by simp [firstToken])).bind ?_
  exact (returns_setItem hrest n).bind h

def Item.IsRepeatable (i : Item) : Prop :=
  i.isPlace = false ∧ i.isRepeat = false ∧ i.plainBody? = none

/-- Behind a repetition that neither a question mark nor a plus follows. -/
def EndsRepeat (text : List Char) : Prop :=
  (firstToken text).1 ≠ some (.plain '?') ∧ (firstToken text).1 ≠ some (.plain '+')

theorem returns_repeatLast {min start width : Nat} {max : Option Nat} (hi : i.IsRepeatable)
    (hrest : EndsRepeat rest) :
    Returns (Faces rest flags count) (repeatLast start width min max (i :: items))
      (.repeat .most min max [i] :: items) (Faces rest flags count) := by
  obtain ⟨hplace, hrepeat, hplain⟩ := hi
  simp only [repeatLast, hplace, hrepeat, hplain, Bool.false_eq_true, if_false, Option.getD_none]
  refine (returns_accept_of_ne rest hrest.1).bind ?_
  rw [if_neg Bool.false_ne_true]
  refine (returns_accept_of_ne rest hrest.2).bind ?_
  exact returns_pure fun _ hs => hs

theorem Yields.readItems_plus {first : Bool} (hi : i.IsRepeatable) (hrest : rest ≠ ['\\'])
    (hend : EndsRepeat rest)
    (h : Yields (Faces rest flags count)
      (readItems false first (.repeat .most 1 none [i] :: items) fuel) Q) :
    Yields (Faces ('+' :: rest) flags count) (readItems false first (i :: items) (fuel + 1)) Q := by
  unfold readItems
  refine returns_peek.bind (yields_place fun n => (returns_take ('+' :: rest) hrest).bind ?_)
  exact (returns_repeatLast hi hend).bind h

theorem Yields.readItems_question {first : Bool} (hi : i.IsRepeatable) (hrest : rest ≠ ['\\'])
    (hend : EndsRepeat rest)
    (h : Yields (Faces rest flags count)
      (readItems false first (.repeat .most 0 (some 1) [i] :: items) fuel) Q) :
    Yields (Faces ('?' :: rest) flags count) (readItems false first (i :: items) (fuel + 1)) Q := by
  unfold readItems
  refine returns_peek.bind (yields_place fun n => (returns_take ('?' :: rest) hrest).bind ?_)
  exact (returns_repeatLast hi hend).bind h

theorem unpackGroups_of_forall (h : ∀ i ∈ items, i.plainBody? = none) : unpackGroups items = items := by
  induction items with
  | nil => rfl
  | cons i items ih =>
    rw [List.forall_mem_cons] at h
    have hstep : unpackGroups (i :: items) = i.plainBody?.getD [i] ++ unpackGroups items := rfl
    rw [hstep, h.1, ih h.2]
    rfl

variable {before : List (List Item)} {ending : List Char} {top : Bool}

theorem ReadsAs.returns_readItems (h : ReadsAs body read count count') (ending : List Char)
    (hplain : ∀ i ∈ read, i.plainBody? = none) (hend : EndsItems ending) (hne : ending ≠ ['\\'])
    {first : Bool} (hfuel : 4 * body.length + 1 ≤ fuel) :
    Returns (Faces (body ++ ending) flags count) (Regex.readItems false first [] fuel) read
      (Faces ending flags count') := by
  refine h.readItems (n := 1) hne (Nat.le_refl 1) (fun fuel hfuel => ?_) fuel (by omega)
  obtain ⟨fuel, rfl⟩ : ∃ k, fuel = k + 1 := ⟨fuel - 1, by omega⟩
  have hread : Returns (Faces ending flags count') (Regex.readItems false first read.reverse (fuel + 1))
      (unpackGroups read.reverse.reverse) (Faces ending flags count') := returns_readItems_of_ends hend
  rw [List.reverse_reverse, unpackGroups_of_forall hplain] at hread
  rwa [List.append_nil]

theorem ReadsAs.returns_readAlternatives (h : ReadsAs body read count count') (ending : List Char)
    (hplain : ∀ i ∈ read, i.plainBody? = none) (hend : EndsItems ending) (hne : ending ≠ ['\\'])
    (hbar : (firstToken ending).1 ≠ some (.plain '|')) (hfuel : 4 * body.length + 2 ≤ fuel) :
    Returns (Faces (body ++ ending) flags count) (readAlternatives false top before fuel)
      (joinAlternatives (read :: before).reverse) (Faces ending flags count') := by
  obtain ⟨fuel, rfl⟩ : ∃ k, fuel = k + 1 := ⟨fuel - 1, by omega⟩
  unfold readAlternatives
  refine (h.returns_readItems ending hplain hend hne (by omega)).bind ?_
  refine (returns_accept_of_ne ending hbar).bind ?_
  exact returns_pure fun _ hs => hs

theorem ReadsAs.returns_readAlternatives_bar {r : List Item} (h : ReadsAs body read count count')
    (hplain : ∀ i ∈ read, i.plainBody? = none) (hrest : rest ≠ ['\\'])
    (hmore : Returns (Faces rest flags count') (readAlternatives false false (read :: before) fuel) r
      (Faces ending flags count'')) (hfuel : 4 * body.length + 1 ≤ fuel) :
    Returns (Faces (body ++ '|' :: rest) flags count) (readAlternatives false false before (fuel + 1)) r
      (Faces ending flags count'') := by
  unfold readAlternatives
  refine (h.returns_readItems ('|' :: rest) hplain (.inr (.inl rfl)) (by simp) hfuel).bind ?_
  exact (returns_accept ('|' :: rest) rfl hrest).bind hmore

/-- A text that is read as the items of a group, if a parenthesis follows. -/
def ReadsInside (body : List Char) (read : List Item) (count count' : Nat) : Prop :=
  ∀ {rest : List Char} {flags : Flags} {fuel : Nat}, rest ≠ ['\\'] → 4 * body.length + 2 ≤ fuel →
    Returns (Faces (body ++ ')' :: rest) flags count) (readAlternatives false false [] fuel) read
      (Faces (')' :: rest) flags count')

theorem ReadsAs.inside_or (h : ReadsAs body read count count') (h' : ReadsAs body' read' count' count'')
    (hplain : ∀ i ∈ read, i.plainBody? = none) (hplain' : ∀ i ∈ read', i.plainBody? = none) :
    ReadsInside (body ++ '|' :: body') (joinAlternatives [read, read']) count count'' := by
  intro rest flags fuel hrest hfuel
  rw [List.length_append, List.length_cons] at hfuel
  obtain ⟨fuel, rfl⟩ : ∃ k, fuel = k + 1 := ⟨fuel - 1, by omega⟩
  have hlast : Returns (Faces (body' ++ ')' :: rest) flags count')
      (readAlternatives false false [read] fuel) (joinAlternatives [read, read'])
      (Faces (')' :: rest) flags count'') :=
    h'.returns_readAlternatives (')' :: rest) hplain' (.inr (.inr rfl)) (by simp)
      (by simp [firstToken]) (by omega)
  rw [List.append_assoc]
  exact h.returns_readAlternatives_bar hplain (h'.ne_backslash _ (by simp)) hlast (by omega)

theorem ReadsInside.group (h : ReadsInside body read (count + 1) count')
    (hne : ∀ rest, (firstToken (body ++ ')' :: rest)).1 ≠ some (.plain '?')) :
    ReadsAs ('(' :: (body ++ [')'])) [.group (some (count + 1)) .none .none read] count count' := by
  have hbody (rest : List Char) : body ++ ')' :: rest ≠ ['\\'] := by
    cases body <;> simp
  refine readsAs_of_step (by simp) (by simp) fun {rest flags first items fuel Q} hrest hfuel hgo => ?_
  rw [List.length_cons, List.length_append] at hfuel
  obtain ⟨fuel, rfl⟩ : ∃ k, fuel = k + 1 := ⟨fuel - 1, by omega⟩
  have htext : '(' :: (body ++ [')']) ++ rest = '(' :: (body ++ ')' :: rest) := by simp
  rw [htext]
  have hopen : Returns (Faces (body ++ ')' :: rest) flags count) (openGroup none) (count + 1)
      (Faces (body ++ ')' :: rest) flags (count + 1)) := by
    intro s hs
    refine ⟨_, _, rfl, by rw [hs.count], hs.cursor, hs.flags, ?_, hs.asked⟩
    rw [Array.size_push, hs.count]
  have hclose : Returns (Faces rest flags count') (closeGroup (count + 1) read) ()
      (Faces rest flags count') := by
    intro s hs
    refine ⟨_, _, rfl, rfl, hs.cursor, hs.flags, ?_, hs.asked⟩
    rw [Array.size_modify, hs.count]
  have hend (start : Nat) : Returns (Faces (')' :: rest) flags count') (endGroup start) ()
      (Faces rest flags count') := by
    unfold endGroup
    exact (returns_accept (')' :: rest) rfl hrest).bind (returns_pure fun _ hs => hs)
  have hgroup (atStart : Bool) (start : Nat) : Returns (Faces (body ++ ')' :: rest) flags count)
      (readGroup false atStart start (fuel + 1))
      ([.group (some (count + 1)) .none .none read], false) (Faces rest flags count') := by
    unfold readGroup
    refine (returns_accept_of_ne _ (hne rest)).bind (hopen.bind ?_)
    refine Returns.bind ?_ (returns_pure fun _ hs => hs)
    refine (h hrest (by omega)).bind ((hend start).bind (hclose.bind (returns_pure fun _ hs => hs)))
  unfold Regex.readItems
  refine returns_peek.bind (yields_place fun n => ?_)
  refine (returns_take ('(' :: (body ++ ')' :: rest)) (hbody rest)).bind ?_
  exact (hgroup _ n).bind hgo

end MailTriage.Regex
