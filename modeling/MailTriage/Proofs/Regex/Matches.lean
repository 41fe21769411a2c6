import Mathlib.Data.Option.Basic
import MailTriage.Proofs.Regex.Ways

namespace MailTriage.Regex

/-- `n` words in a row, each of which matches between the words before it and those behind it. -/
def Rounds (M : List Char → List Char → List Char → Prop) : Nat → List Char → List Char → List Char → Prop
  | 0, _, w, _ => w = []
  | n + 1, x, w, z => ∃ u v, w = u ++ v ∧ M x u (v ++ z) ∧ Rounds M n (x ++ u) v z

/-- The expression matches the word `w` behind `x` and before `z`. Groups mean nothing here, and expressions
with references, lookaround or a fixed first match are left without a meaning. -/
def Matches : Regex → (x w z : List Char) → Prop
  | empty, _, w, _ => w = []
  | char t, _, w, _ => ∃ c, w = [c] ∧ t.holds c
  | anchor a, x, w, z => w = [] ∧ a.holds ⟨x.reverse, z, z.length, []⟩
  | seq a b, x, w, z => ∃ u v, w = u ++ v ∧ a.Matches x u (v ++ z) ∧ b.Matches (x ++ u) v z
  | alt a b, x, w, z => a.Matches x w z ∨ b.Matches x w z
  | group _ a, x, w, z => a.Matches x w z
  | «repeat» _ min max a, x, w, z =>
    ∃ n, (∀ m ∈ max, n ≤ m - min) ∧ Rounds a.Matches (min + n) x w z
  | _, _, _, _ => False

/-- Expressions without references, lookaround and parts that keep their first match. -/
def IsRegular : Regex → Prop
  | empty | char _ | anchor _ => True
  | seq a b | alt a b => a.IsRegular ∧ b.IsRegular
  | group _ a => a.IsRegular
  | «repeat» greed _ _ a => greed ≠ .possessive ∧ a.IsRegular
  | _ => False

variable {M : List Char → List Char → List Char → Prop} {x u v w z : List Char} {n n' : Nat}

theorem rounds_append (h : Rounds M n x u (v ++ z)) (h' : Rounds M n' (x ++ u) v z) :
    Rounds M (n + n') x (u ++ v) z := by
  induction n generalizing x u with
  | zero =>
    obtain rfl : u = [] := h
    simpa using h'
  | succ n ih =>
    obtain ⟨s, t, rfl, hs, ht⟩ := h
    rw [Nat.succ_add]
    refine ⟨s, t ++ v, List.append_assoc .., by simpa using hs, ih ht (by simpa using h')⟩

theorem exists_of_rounds_add (h : Rounds M (n + n') x w z) :
    ∃ u v, w = u ++ v ∧ Rounds M n x u (v ++ z) ∧ Rounds M n' (x ++ u) v z := by
  induction n generalizing x w with
  | zero => exact ⟨[], w, rfl, rfl, by simpa using h⟩
  | succ n ih =>
    rw [Nat.succ_add] at h
    obtain ⟨s, t, rfl, hs, ht⟩ := h
    obtain ⟨u, v, rfl, hu, hv⟩ := ih ht
    exact ⟨s ++ u, v, by simp, ⟨s, u, rfl, by simpa using hs, hu⟩, by simpa using hv⟩

namespace Spot

structure Passes (p : Spot) (w : List Char) (q : Spot) : Prop where
  after : p.after = w ++ q.after
  before : q.before = w.reverse ++ p.before
  left : q.left = q.after.length

variable {p q q' : Spot}

theorem Passes.refl (h : p.left = p.after.length) : p.Passes [] p :=
  ⟨rfl, rfl, h⟩

theorem Passes.trans (h : p.Passes u q) (h' : q.Passes v q') : p.Passes (u ++ v) q' where
  after := by rw [h.after, h'.after, List.append_assoc]
  before := by rw [h'.before, h.before, List.reverse_append, List.append_assoc]
  left := h'.left

theorem Passes.reverse_before (h : p.Passes w q) : q.before.reverse = p.before.reverse ++ w := by
  rw [h.before, List.reverse_append, List.reverse_reverse]

theorem Passes.after_eq (h : p.Passes w q) (hz : p.after = w ++ z) : q.after = z :=
  List.append_cancel_left (h.after.symm.trans hz)

theorem Passes.left_add (h : p.Passes w q) (hp : p.left = p.after.length) :
    p.left = w.length + q.left := by
  rw [hp, h.after, List.length_append, h.left]

theorem Passes.congr {p' : Spot} (h : p.Passes w q) (ha : p'.after = p.after) (hb : p'.before = p.before)
    (ha' : q'.after = q.after) (hb' : q'.before = q.before) (hl : q'.left = q.left) : p'.Passes w q' :=
  ⟨by rw [ha, ha', h.after], by rw [hb, hb', h.before], by rw [hl, ha', h.left]⟩

end Spot

/-- The listed places are those behind the words that match. -/
structure Agrees (e : Spot → List Spot) (M : List Char → List Char → List Char → Prop) : Prop where
  sound {p q : Spot} : p.left = p.after.length → q ∈ e p →
    ∃ w, p.Passes w q ∧ M p.before.reverse w q.after
  complete {p : Spot} {w z : List Char} : p.left = p.after.length → p.after = w ++ z →
    M p.before.reverse w z → ∃ q ∈ e p, p.Passes w q

variable {e e' : Spot → List Spot} {M' : List Char → List Char → List Char → Prop}

theorem agrees_empty : Agrees (ends empty) (Matches empty) where
  sound {p q} hp hq := by
    obtain rfl : q = p := by simpa [ends] using hq
    exact ⟨[], .refl hp, rfl⟩
  complete {p w z} hp hz hw := by
    obtain rfl : w = [] := hw
    exact ⟨p, by simp [ends], .refl hp⟩

theorem agrees_char (t : CharTest) : Agrees (ends (char t)) (Matches (char t)) where
  sound {p q} hp hq := by
    obtain ⟨before, after, left, marks⟩ := p
    obtain rfl : left = after.length := hp
    cases after with
    | nil => simp [ends, Spot.next?] at hq
    | cons c s =>
      obtain ⟨hc, rfl⟩ : t.holds c ∧ q = ⟨c :: before, s, (c :: s).length - 1, marks⟩ := by
        by_cases hc : t.holds c <;> simp [ends, Spot.next?, Option.filter, hc] at hq
        exact ⟨hc, by simpa using hq⟩
      exact ⟨[c], ⟨rfl, rfl, rfl⟩, c, rfl, hc⟩
  complete {p w z} hp hz hw := by
    obtain ⟨before, after, left, marks⟩ := p
    obtain ⟨c, rfl, hc⟩ := hw
    obtain rfl : after = c :: z := hz
    obtain rfl : left = (c :: z).length := hp
    exact ⟨⟨c :: before, z, (c :: z).length - 1, marks⟩, by simp [ends, Spot.next?, Option.filter, hc],
      rfl, rfl, rfl⟩

theorem Anchor.holds_congr (a : Anchor) {p q : Spot} (hb : p.before = q.before) (ha : p.after = q.after) :
    a.holds p = a.holds q := by
  unfold Anchor.holds
  rw [hb, ha]

theorem agrees_anchor (a : Anchor) : Agrees (ends (anchor a)) (Matches (anchor a)) where
  sound {p q} hp hq := by
    obtain ⟨ha, rfl⟩ : a.holds p ∧ q = p := by simpa [ends] using hq
    have hsame : a.holds ⟨q.before.reverse.reverse, q.after, q.after.length, []⟩ = a.holds q :=
      a.holds_congr (List.reverse_reverse _) rfl
    exact ⟨[], .refl hp, rfl, hsame.trans ha⟩
  complete {p w z} hp hz hw := by
    obtain ⟨rfl, ha⟩ := hw
    refine ⟨p, ?_, .refl hp⟩
    rw [a.holds_congr (q := p) (by simp) hz.symm] at ha
    simp [ends, ha]

theorem Agrees.seq (h : Agrees e M) (h' : Agrees e' M') :
    Agrees (fun p => (e p).flatMap e')
      fun x w z => ∃ u v, w = u ++ v ∧ M x u (v ++ z) ∧ M' (x ++ u) v z where
  sound {p q} hp hq := by
    obtain ⟨q', hq', hq⟩ := List.mem_flatMap.1 hq
    obtain ⟨u, hu, hM⟩ := h.sound hp hq'
    obtain ⟨v, hv, hM'⟩ := h'.sound hu.left hq
    rw [hv.after] at hM
    rw [hu.reverse_before] at hM'
    exact ⟨u ++ v, hu.trans hv, u, v, rfl, hM, hM'⟩
  complete {p w z} hp hz hw := by
    obtain ⟨u, v, rfl, hM, hM'⟩ := hw
    rw [List.append_assoc] at hz
    obtain ⟨q, hq, hu⟩ := h.complete hp hz hM
    rw [← hu.reverse_before] at hM'
    obtain ⟨q', hq', hv⟩ := h'.complete hu.left (hu.after_eq hz) hM'
    exact ⟨q', List.mem_flatMap.2 ⟨q, hq, hq'⟩, hu.trans hv⟩

theorem Agrees.alt (h : Agrees e M) (h' : Agrees e' M') :
    Agrees (fun p => e p ++ e' p) fun x w z => M x w z ∨ M' x w z where
  sound {p q} hp hq := by
    rcases List.mem_append.1 hq with hq | hq
    · obtain ⟨w, hw, hM⟩ := h.sound hp hq
      exact ⟨w, hw, .inl hM⟩
    · obtain ⟨w, hw, hM⟩ := h'.sound hp hq
      exact ⟨w, hw, .inr hM⟩
  complete {p w z} hp hz hw := by
    rcases hw with hM | hM
    · obtain ⟨q, hq, hw⟩ := h.complete hp hz hM
      exact ⟨q, List.mem_append_left _ hq, hw⟩
    · obtain ⟨q, hq, hw⟩ := h'.complete hp hz hM
      exact ⟨q, List.mem_append_right _ hq, hw⟩

theorem Agrees.group (h : Agrees e M) (n : Nat) :
    Agrees (fun p => (e (p.openGroup n)).map (·.closeGroup n)) M where
  sound {p q} hp hq := by
    obtain ⟨q, hq', rfl⟩ := List.mem_map.1 hq
    obtain ⟨w, hw, hM⟩ := h.sound (p := p.openGroup n) hp hq'
    exact ⟨w, hw.congr rfl rfl rfl rfl rfl, hM⟩
  complete {p w z} hp hz hM := by
    obtain ⟨q, hq, hw⟩ := h.complete (p := p.openGroup n) hp hz hM
    exact ⟨q.closeGroup n, List.mem_map_of_mem hq, hw.congr rfl rfl rfl rfl rfl⟩

theorem Agrees.times (h : Agrees e M) (n : Nat) : Agrees (timesEnds e n) (Rounds M n) := by
  induction n with
  | zero => exact agrees_empty
  | succ n ih => exact h.seq ih

/-- Both orders go through the same places. -/
theorem mem_fewestEnds_iff {room : Nat} {max : Option Nat} {p q : Spot} :
    q ∈ fewestEnds e room max p ↔ q ∈ mostEnds e room max p := by
  induction room generalizing max p with
  | zero => rfl
  | succ room ih =>
    unfold fewestEnds mostEnds
    split
    case isTrue => rfl
    case isFalse =>
      simp only [List.mem_cons, List.mem_append, List.mem_flatMap, List.not_mem_nil, or_false]
      rw [or_comm]
      refine or_congr_left (exists_congr fun q' => and_congr_right fun _ => ?_)
      split
      case isTrue => rfl
      case isFalse => exact ih

theorem self_mem_mostEnds {p : Spot} (room : Nat) (max : Option Nat) : p ∈ mostEnds e room max p := by
  cases room with
  | zero => exact List.mem_singleton_self p
  | succ room =>
    unfold mostEnds
    split <;> simp

theorem Agrees.sound_most (h : Agrees e M) {room : Nat} {max : Option Nat} {p q : Spot}
    (hp : p.left = p.after.length) (hq : q ∈ mostEnds e room max p) :
    ∃ n w, (∀ m ∈ max, n ≤ m) ∧ p.Passes w q ∧ Rounds M n p.before.reverse w q.after := by
  have hself : q = p →
      ∃ n w, (∀ m ∈ max, n ≤ m) ∧ p.Passes w q ∧ Rounds M n p.before.reverse w q.after := by
    rintro rfl
    exact ⟨0, [], fun _ _ => Nat.zero_le _, .refl hp, rfl⟩
  induction room generalizing max p with
  | zero => exact hself (List.mem_singleton.1 hq)
  | succ room ih =>
    unfold mostEnds at hq
    split at hq
    case isTrue => exact hself (List.mem_singleton.1 hq)
    case isFalse hmax =>
      rcases List.mem_append.1 hq with hq | hq
      case inr => exact hself (List.mem_singleton.1 hq)
      obtain ⟨q', hq', hq⟩ := List.mem_flatMap.1 hq
      obtain ⟨u, hu, hM⟩ := h.sound hp hq'
      obtain ⟨n, v, hn, hv, hrounds⟩ : ∃ n v, (∀ m ∈ max.map (· - 1), n ≤ m) ∧ q'.Passes v q ∧
          Rounds M n q'.before.reverse v q.after := by
        have hstay : q = q' → ∃ n v, (∀ m ∈ max.map (· - 1), n ≤ m) ∧ q'.Passes v q ∧
            Rounds M n q'.before.reverse v q.after := by
          rintro rfl
          exact ⟨0, [], fun _ _ => Nat.zero_le _, .refl hu.left, rfl⟩
        split at hq
        case isTrue => exact hstay (List.mem_singleton.1 hq)
        case isFalse => exact ih hu.left hq hstay
      rw [hv.after] at hM
      rw [hu.reverse_before] at hrounds
      refine ⟨n + 1, u ++ v, fun m hm => ?_, hu.trans hv, u, v, rfl, hM, hrounds⟩
      have hle : n ≤ m - 1 := Option.forall_mem_map.1 hn m hm
      have hne : m ≠ 0 := by
        rintro rfl
        simp [Option.mem_def.1 hm] at hmax
      omega

/-- Rounds without a character are left out, so that the rest fit into the room. -/
theorem Agrees.complete_most (h : Agrees e M) {room : Nat} {max : Option Nat} {p : Spot}
    (hp : p.left = p.after.length) (hroom : p.left < room) (hmax : ∀ m ∈ max, n ≤ m)
    (hz : p.after = w ++ z) (hrounds : Rounds M n p.before.reverse w z) :
    ∃ q ∈ mostEnds e room max p, p.Passes w q := by
  induction n generalizing room max p w with
  | zero =>
    obtain rfl : w = [] := hrounds
    exact ⟨p, self_mem_mostEnds room max, .refl hp⟩
  | succ n ih =>
    obtain ⟨u, v, rfl, hM, hrounds⟩ := hrounds
    rw [List.append_assoc] at hz
    by_cases hu : u = []
    · subst hu
      rw [List.append_nil] at hrounds
      exact ih hp hroom (fun m hm => Nat.le_of_succ_le (hmax m hm)) hz hrounds
    · obtain ⟨room, rfl⟩ : ∃ k, room = k + 1 := ⟨room - 1, by omega⟩
      obtain ⟨q, hq, hpass⟩ := h.complete hp hz hM
      have hlength : 0 < u.length := List.length_pos_iff.2 hu
      have hleft : p.left = u.length + q.left := hpass.left_add hp
      have hmore : ∀ m ∈ max.map (· - 1), n ≤ m :=
        Option.forall_mem_map.2 fun m hm => Nat.le_sub_one_of_lt (hmax m hm)
      rw [← hpass.reverse_before] at hrounds
      have hfits : q.left < room := by omega
      obtain ⟨q', hq', hpass'⟩ := ih hpass.left hfits hmore (hpass.after_eq hz) hrounds
      refine ⟨q', ?_, hpass.trans hpass'⟩
      have hmax0 : (max == some 0) = false := by
        rw [beq_eq_false_iff_ne]
        rintro rfl
        exact absurd (hmax 0 rfl) (by omega)
      have hmoves : (q.left == p.left) = false := by
        rw [beq_eq_false_iff_ne]
        omega
      unfold mostEnds
      rw [if_neg (by simp [hmax0])]
      refine List.mem_append_left _ (List.mem_flatMap.2 ⟨q, hq, ?_⟩)
      rwa [if_neg (by simp [hmoves])]

theorem Agrees.most (h : Agrees e M) (min : Nat) (max : Option Nat) :
    Agrees (fun p => (timesEnds e min p).flatMap fun q => mostEnds e (q.left + 2) (max.map (· - min)) q)
      fun x w z => ∃ n, (∀ m ∈ max, n ≤ m - min) ∧ Rounds M (min + n) x w z where
  sound {p q} hp hq := by
    obtain ⟨q', hq', hq⟩ := List.mem_flatMap.1 hq
    obtain ⟨u, hu, hM⟩ := (h.times min).sound hp hq'
    obtain ⟨n, v, hn, hv, hM'⟩ := h.sound_most hu.left hq
    rw [hv.after] at hM
    rw [hu.reverse_before] at hM'
    exact ⟨u ++ v, hu.trans hv, n, Option.forall_mem_map.1 hn, rounds_append hM hM'⟩
  complete {p w z} hp hz hw := by
    obtain ⟨n, hn, hrounds⟩ := hw
    obtain ⟨u, v, rfl, hM, hM'⟩ := exists_of_rounds_add hrounds
    rw [List.append_assoc] at hz
    obtain ⟨q, hq, hu⟩ := (h.times min).complete hp hz hM
    have hmore : ∀ m ∈ max.map (· - min), n ≤ m := Option.forall_mem_map.2 hn
    have hroom : q.left < q.left + 2 := by omega
    rw [← hu.reverse_before] at hM'
    obtain ⟨q', hq', hv⟩ := h.complete_most hu.left hroom hmore (hu.after_eq hz) hM'
    exact ⟨q', List.mem_flatMap.2 ⟨q, hq, hq'⟩, hu.trans hv⟩

theorem Agrees.congr (h : Agrees e M) (hmem : ∀ p q, q ∈ e' p ↔ q ∈ e p) : Agrees e' M where
  sound hp hq := h.sound hp ((hmem _ _).1 hq)
  complete hp hz hM := by
    obtain ⟨q, hq, hpass⟩ := h.complete hp hz hM
    exact ⟨q, (hmem _ _).2 hq, hpass⟩

theorem agrees_of_isRegular {r : Regex} (h : r.IsRegular) : Agrees r.ends r.Matches := by
  induction r with
  | empty => exact agrees_empty
  | char t => exact agrees_char t
  | anchor a => exact agrees_anchor a
  | seq a b ha hb => exact (ha h.1).seq (hb h.2)
  | alt a b ha hb => exact (ha h.1).alt (hb h.2)
  | group n a ha => exact (ha h).group n
  | «repeat» greed min max a ha =>
    have hmost := (ha h.2).most min max
    cases greed with
    | most => exact hmost
    | fewest =>
      refine hmost.congr fun p q => ?_
      simp only [ends, repeatEnds, List.mem_flatMap, mem_fewestEnds_iff]
    | possessive => exact absurd rfl h.1
  | atomic | backref | ifGroup | ahead | behind => exact h.elim

/-- Searching finds a regular expression in a text just where a part of the text matches it. -/
theorem search_iff_matches {r : Regex} (h : r.IsRegular) {t : List Char} :
    r.search t = true ↔ ∃ x w z, t = x ++ w ++ z ∧ r.Matches x w z := by
  have hagrees : Agrees r.ends r.Matches := agrees_of_isRegular h
  rw [search_eq_true_iff]
  constructor
  · rintro ⟨x, y, rfl, hne⟩
    obtain ⟨q, hq⟩ := List.exists_mem_of_ne_nil _ hne
    obtain ⟨w, hpass, hM⟩ := hagrees.sound (p := ⟨x.reverse, y, y.length, []⟩) rfl hq
    obtain rfl : y = w ++ q.after := hpass.after
    exact ⟨x, w, q.after, by simp, by simpa using hM⟩
  · rintro ⟨x, w, z, rfl, hM⟩
    refine ⟨x, w ++ z, by simp, ?_⟩
    obtain ⟨q, hq, -⟩ := hagrees.complete (p := ⟨x.reverse, w ++ z, (w ++ z).length, []⟩) rfl rfl
      (by simpa using hM)
    exact List.ne_nil_of_mem hq

end MailTriage.Regex
