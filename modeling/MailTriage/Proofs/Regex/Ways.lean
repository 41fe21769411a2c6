import MailTriage.Regex.Search

/-!
Backtracking tries one place after another where an expression may end. `ends` lists these places in order,
and `tries_matcher` says that the matcher of an expression goes through just this list: it goes on at the
first place, and falls back on the others.
-/

namespace MailTriage.Regex

/-- A matcher that goes on at the listed places, and falls back from each of them on those behind it. -/
def Matcher.Tries (m : Matcher) (e : Spot → List Spot) : Prop :=
  ∀ p k f, m p k f = (e p).foldr (fun q o => k q fun _ => o) (f ())

variable {m m' : Matcher} {e e' : Spot → List Spot} {p q : Spot}

namespace Matcher

theorem Tries.first (h : m.Tries e) (p : Spot) : m.first p = (e p).head? := by
  rw [Matcher.first, h]
  cases e p <;> rfl

theorem Tries.congr (h : m.Tries e) (he : ∀ p, e p = e' p) : m.Tries e' := by
  intro p k f
  rw [h, he]

theorem Tries.pure : Tries (fun p k f => k p f) fun p => [p] :=
  fun _ _ _ => rfl

theorem Tries.bind (h : m.Tries e) (h' : m'.Tries e') :
    Tries (fun p k f => m p (fun q f => m' q k f) f) fun p => (e p).flatMap e' := by
  intro p k f
  dsimp only
  rw [h]
  induction e p with
  | nil => rfl
  | cons q es ih => rw [List.foldr_cons, ih, h', List.flatMap_cons, List.foldr_append]

theorem Tries.or (h : m.Tries e) (h' : m'.Tries e') :
    Tries (fun p k f => m p k fun _ => m' p k f) fun p => e p ++ e' p := by
  intro p k f
  dsimp only
  rw [h, h', List.foldr_append]

abbrev ofOption (g : Spot → Option Spot) : Matcher :=
  fun p k f => match g p with | some q => k q f | none => f ()

theorem Tries.option (g : Spot → Option Spot) : (ofOption g).Tries fun p => (g p).toList := by
  intro p k f
  dsimp only [ofOption]
  cases g p <;> rfl

theorem Tries.ite {c : Spot → Bool} (h : m.Tries e) (h' : m'.Tries e') :
    Tries (fun p k f => if c p then m p k f else m' p k f) fun p => if c p then e p else e' p := by
  intro p k f
  dsimp only
  split
  · exact h p k f
  · exact h' p k f

end Matcher

def timesEnds (e : Spot → List Spot) : Nat → Spot → List Spot
  | 0, p => [p]
  | n + 1, p => (e p).flatMap (timesEnds e n)

/-- The ends of up to `max` rounds, the most rounds first. -/
def mostEnds (e : Spot → List Spot) : (room : Nat) → (max : Option Nat) → Spot → List Spot
  | 0, _, p => [p]
  | room + 1, max, p =>
    if max == some 0 then [p]
    else
      (e p).flatMap (fun q =>
        if q.left == p.left then [q] else mostEnds e room (max.map (· - 1)) q) ++ [p]

/-- The ends of up to `max` rounds, the fewest rounds first. -/
def fewestEnds (e : Spot → List Spot) : (room : Nat) → (max : Option Nat) → Spot → List Spot
  | 0, _, p => [p]
  | room + 1, max, p =>
    p :: if max == some 0 then []
      else (e p).flatMap fun q =>
        if q.left == p.left then [q] else fewestEnds e room (max.map (· - 1)) q

/-- The end of up to `max` rounds, each of them matched in the first way only. -/
def possessiveEnd (e : Spot → List Spot) : (room : Nat) → (max : Option Nat) → Spot → Spot
  | 0, _, p => p
  | room + 1, max, p =>
    if max == some 0 then p
    else
      match (e p).head? with
      | none => p
      | some q => if q.left == p.left then q else possessiveEnd e room (max.map (· - 1)) q

def repeatEnds (greed : Greed) (min : Nat) (max : Option Nat) (e : Spot → List Spot) (p : Spot) :
    List Spot :=
  let more := max.map (· - min)
  match greed with
  | .most => (timesEnds e min p).flatMap fun q => mostEnds e (q.left + 2) more q
  | .fewest => (timesEnds e min p).flatMap fun q => fewestEnds e (q.left + 2) more q
  | .possessive =>
    ((timesEnds (fun q => (e q).head?.toList) min p).head?.map fun q =>
      possessiveEnd e (q.left + 2) more q).toList

namespace Matcher

theorem Tries.times (h : m.Tries e) (n : Nat) : Tries (m.times n) (timesEnds e n) := by
  induction n with
  | zero => exact Tries.pure
  | succ n ih =>
    intro p k f
    exact Tries.bind h ih p k f

theorem Tries.most (h : m.Tries e) (room : Nat) (max : Option Nat) :
    Tries (m.most room max) (mostEnds e room max) := by
  induction room generalizing max with
  | zero => exact Tries.pure
  | succ room ih =>
    intro p k f
    unfold Matcher.most mostEnds
    split
    case isTrue => rfl
    case isFalse =>
      have hrest : Tries
          (fun q k f => if q.left == p.left then k q f else m.most room (max.map (· - 1)) q k f)
          fun q => if q.left == p.left then [q] else mostEnds e room (max.map (· - 1)) q :=
        Tries.ite Tries.pure (ih _)
      exact (Tries.or (Tries.bind h hrest) Tries.pure) p k f

theorem Tries.fewest (h : m.Tries e) (room : Nat) (max : Option Nat) :
    Tries (m.fewest room max) (fewestEnds e room max) := by
  induction room generalizing max with
  | zero => exact Tries.pure
  | succ room ih =>
    intro p k f
    unfold Matcher.fewest fewestEnds
    rw [List.foldr_cons]
    congr 1
    funext _
    split
    case isTrue => rfl
    case isFalse =>
      have hrest : Tries
          (fun q k f => if q.left == p.left then k q f else m.fewest room (max.map (· - 1)) q k f)
          fun q => if q.left == p.left then [q] else fewestEnds e room (max.map (· - 1)) q :=
        Tries.ite Tries.pure (ih _)
      exact (Tries.bind h hrest) p k f

theorem Tries.possessive_eq (h : m.Tries e) (room : Nat) (max : Option Nat) (p : Spot) :
    m.possessive room max p = possessiveEnd e room max p := by
  induction room generalizing max p with
  | zero => rfl
  | succ room ih =>
    unfold Matcher.possessive possessiveEnd
    rw [h.first]
    split
    case isTrue => rfl
    case isFalse =>
      cases (e p).head? with
      | none => rfl
      | some q =>
        dsimp only
        rw [ih]

theorem Tries.repeat (h : m.Tries e) (greed : Greed) (min : Nat) (max : Option Nat) :
    Tries (Matcher.repeat greed min max m) (repeatEnds greed min max e) := by
  cases greed with
  | most =>
    have hmore : Tries (fun q k f => m.most (q.left + 2) (max.map (· - min)) q k f)
        fun q => mostEnds e (q.left + 2) (max.map (· - min)) q :=
      fun q k f => h.most _ _ q k f
    exact (h.times min).bind hmore
  | fewest =>
    have hmore : Tries (fun q k f => m.fewest (q.left + 2) (max.map (· - min)) q k f)
        fun q => fewestEnds e (q.left + 2) (max.map (· - min)) q :=
      fun q k f => h.fewest _ _ q k f
    exact (h.times min).bind hmore
  | possessive =>
    have hfirst : (ofOption m.first).Tries fun p => (e p).head?.toList :=
      (Tries.option m.first).congr fun p => by rw [h.first]
    have hround : ((ofOption m.first).times min).first =
        fun p => (timesEnds (fun q => (e q).head?.toList) min p).head? :=
      funext (hfirst.times min).first
    have hrest : m.possessive = possessiveEnd e := by
      funext room max p
      exact h.possessive_eq room max p
    have hrounds : (Matcher.repeat .possessive min max m) = ofOption fun p =>
        (((ofOption m.first).times min).first p).map fun q =>
          m.possessive (q.left + 2) (max.map (· - min)) q := by
      funext p k f
      dsimp only [Matcher.repeat, ofOption]
      cases ((ofOption m.first).times min).first p <;> rfl
    rw [hrounds, hround, hrest]
    exact Tries.option _

end Matcher

/-- Where an expression may end that starts at a place, in the order in which these places are tried. -/
def ends : Regex → Spot → List Spot
  | empty, p => [p]
  | char t, p => ((p.next?.filter fun x => t.holds x.1).map (·.2)).toList
  | anchor a, p => if a.holds p then [p] else []
  | seq a b, p => (a.ends p).flatMap b.ends
  | alt a b, p => a.ends p ++ b.ends p
  | group n a, p => (a.ends (p.openGroup n)).map (·.closeGroup n)
  | «repeat» greed min max a, p => repeatEnds greed min max a.ends p
  | atomic a, p => (a.ends p).head?.toList
  | backref fold n, p => ((p.captured? n).bind fun s => Spot.skip? fold s p).toList
  | ifGroup n a b, p => if (p.captured? n).isSome then a.ends p else b.ends p
  | ahead negated a, p =>
    match (a.ends p).head? with
    | some q => if negated then [] else [{ p with marks := q.marks }]
    | none => if negated then [p] else []
  | behind negated width a, p =>
    match (Spot.back? width p).bind fun p => (a.ends p).head? with
    | some q => if negated then [] else [{ p with marks := q.marks }]
    | none => if negated then [p] else []

/-- The matcher of an expression goes through its ends. -/
theorem tries_matcher (r : Regex) : r.matcher.Tries r.ends := by
  induction r with
  | empty => exact Matcher.Tries.pure
  | char t =>
    intro p k f
    unfold matcher ends
    cases p.next? with
    | none => rfl
    | some x =>
      by_cases h : t.holds x.1 <;> simp [h, Option.filter]
  | anchor a =>
    intro p k f
    unfold matcher ends
    split <;> rfl
  | seq a b ha hb => exact ha.bind hb
  | alt a b ha hb => exact ha.or hb
  | group n a ha =>
    intro p k f
    unfold matcher ends
    rw [ha, List.foldr_map]
  | «repeat» greed min max a ha => exact ha.repeat greed min max
  | atomic a ha =>
    refine (Matcher.Tries.option a.matcher.first).congr fun p => ?_
    rw [ha.first]
    rfl
  | backref fold n => exact Matcher.Tries.option fun p => (p.captured? n).bind fun s => Spot.skip? fold s p
  | ifGroup n a b ha hb => exact Matcher.Tries.ite ha hb
  | ahead negated a ha =>
    intro p k f
    simp only [matcher, ends, ha.first]
    cases (a.ends p).head? <;> cases negated <;> rfl
  | behind negated width a ha =>
    intro p k f
    have hfirst : a.matcher.first = fun p => (a.ends p).head? := funext ha.first
    simp only [matcher, ends, hfirst]
    cases (Spot.back? width p).bind fun p => (a.ends p).head? <;> cases negated <;> rfl

theorem searchFrom_eq_true_iff {before s : List Char} :
    searchFrom m before s.length s = true ↔
      ∃ x y, s = x ++ y ∧ (m.first ⟨x.reverse ++ before, y, y.length, []⟩).isSome := by
  induction s generalizing before with
  | nil =>
    constructor
    · intro h
      exact ⟨[], [], rfl, h⟩
    · rintro ⟨x, y, hs, h⟩
      obtain ⟨rfl, rfl⟩ := List.append_eq_nil_iff.1 hs.symm
      exact h
  | cons c s ih =>
    have hstep : searchFrom m before (c :: s).length (c :: s) =
        ((m.first ⟨before, c :: s, (c :: s).length, []⟩).isSome ||
          searchFrom m (c :: before) s.length s) := rfl
    rw [hstep, Bool.or_eq_true, ih]
    constructor
    · rintro (h | ⟨x, y, rfl, h⟩)
      · exact ⟨[], c :: s, rfl, h⟩
      · exact ⟨c :: x, y, rfl, by simpa using h⟩
    · rintro ⟨x, y, hs, h⟩
      cases x with
      | nil =>
        obtain rfl : c :: s = y := hs
        exact .inl h
      | cons d x =>
        obtain ⟨rfl, rfl⟩ := List.cons.inj hs
        exact .inr ⟨x, y, rfl, by simpa using h⟩

/-- An expression is found just where it has an end from some place of the text on. -/
theorem search_eq_true_iff {r : Regex} {s : List Char} :
    r.search s = true ↔ ∃ x y, s = x ++ y ∧ r.ends ⟨x.reverse, y, y.length, []⟩ ≠ [] := by
  rw [search, searchFrom_eq_true_iff]
  simp only [(tries_matcher r).first, List.append_nil, List.isSome_head?, ne_eq]

end MailTriage.Regex
