import MailTriage.Proofs.LetterCase
import MailTriage.Proofs.Pattern.Expression
import MailTriage.Proofs.Regex.Matches

namespace MailTriage.Regex

variable {r : Regex} {rs rs' : List Regex} {t : CharTest} {v v' m x w z : List Char} {c : Char} {n k : Nat}

theorem matches_seqAll_singleton : (seqAll [r]).Matches x w z ↔ r.Matches x w z := by
  constructor
  · rintro ⟨u, v, rfl, hr, rfl⟩
    rwa [List.append_nil]
  · intro hr
    exact ⟨w, [], (List.append_nil w).symm, hr, rfl⟩

theorem matches_seqAll_append :
    (seqAll (rs ++ rs')).Matches x w z ↔
      ∃ u v, w = u ++ v ∧ (seqAll rs).Matches x u (v ++ z) ∧ (seqAll rs').Matches (x ++ u) v z := by
  induction rs generalizing x w with
  | nil =>
    constructor
    · intro h
      exact ⟨[], w, rfl, rfl, by rwa [List.append_nil]⟩
    · rintro ⟨u, v, rfl, rfl, h⟩
      rwa [List.append_nil] at h
  | cons r rs ih =>
    constructor
    · rintro ⟨s, w, rfl, hr, hw⟩
      obtain ⟨u, v, rfl, hu, hv⟩ := ih.1 hw
      rw [List.append_assoc] at hr hv
      exact ⟨s ++ u, v, (List.append_assoc ..).symm, ⟨s, u, rfl, hr, hu⟩, hv⟩
    · rintro ⟨-, v, rfl, ⟨s, u, rfl, hr, hu⟩, hv⟩
      rw [← List.append_assoc] at hv
      refine ⟨s, u ++ v, List.append_assoc .., by rwa [List.append_assoc], ih.2 ⟨u, v, rfl, hu, hv⟩⟩

theorem isRegular_seqAll (h : ∀ r ∈ rs, r.IsRegular) : (seqAll rs).IsRegular := by
  induction rs with
  | nil => trivial
  | cons r rs ih =>
    rw [List.forall_mem_cons] at h
    exact ⟨h.1, ih h.2⟩

theorem matches_chars {f : Char → CharTest} :
    (seqAll (v.map fun c => char (f c))).Matches x w z ↔
      List.Forall₂ (fun c d => (f c).holds d = true) v w := by
  induction v generalizing x w with
  | nil => exact List.forall₂_nil_left_iff.symm
  | cons c v ih =>
    rw [List.forall₂_cons_left_iff]
    constructor
    · rintro ⟨u, w, rfl, ⟨d, rfl, hd⟩, hw⟩
      exact ⟨d, w, hd, ih.1 hw, rfl⟩
    · rintro ⟨d, w, hd, hw, rfl⟩
      exact ⟨[d], w, rfl, ⟨d, rfl, hd⟩, ih.2 hw⟩

/-- The text spells the value, whatever the letter case. -/
def Spells (v m : List Char) : Prop :=
  List.Forall₂ (fun c d => sameUnder .full c.toNat d = true) v m

theorem spells_append_iff :
    Spells (v ++ v') w ↔ ∃ m m', w = m ++ m' ∧ Spells v m ∧ Spells v' m' := by
  constructor
  · intro h
    refine ⟨w.take v.length, w.drop v.length, (List.take_append_drop ..).symm, ?_, ?_⟩
    · have htake := List.forall₂_take v.length h
      rwa [List.take_left] at htake
    · have hdrop := List.forall₂_drop v.length h
      rwa [List.drop_left] at hdrop
  · rintro ⟨m, m', rfl, hm, hm'⟩
    exact List.rel_append hm hm'

theorem holds_letter {d : Char} : (CharTest.code .full false c.toNat).holds d = sameUnder .full c.toNat d := by
  rw [CharTest.holds]
  exact Bool.bne_false _

theorem matches_letters : (seqAll (v.map letter)).Matches x w z ↔ Spells v w := by
  have hchars : (seqAll (v.map letter)).Matches x w z ↔ _ := matches_chars
  simp only [holds_letter] at hchars
  exact hchars

theorem matches_literal : (literal .none v).Matches x w z ↔ w = v := by
  have hholds {c d : Char} : (CharTest.code .none false c.toNat).holds d = true ↔ c = d := by
    rw [CharTest.holds, Bool.bne_false, sameUnder, Folding.hasCase, if_neg Bool.false_ne_true, beq_iff_eq,
      Char.toNat_inj, eq_comm]
  have hchars : (literal .none v).Matches x w z ↔ _ := matches_chars
  rw [hchars]
  simp only [hholds, List.forall₂_eq_eq_eq]
  exact eq_comm

theorem matches_letter_of_caseless (h : Text.hasCase c.toNat = false) :
    (letter c).Matches x w z ↔ w = [c] := by
  simp only [letter, Matches, holds_letter, sameUnder_iff_of_caseless h, exists_eq_right]

theorem matches_opening : opening.Matches x w z ↔ x = [] ∧ w = [] ∨ w = ['<'] := by
  have hletter : (letter '<').Matches x w z ↔ w = ['<'] := matches_letter_of_caseless (by decide)
  have hanchor : (anchor .textStart).Matches x w z ↔ x = [] ∧ w = [] := by
    rw [Matches, Anchor.holds, List.isEmpty_iff, List.reverse_eq_nil_iff, and_comm]
  have halt : opening.Matches x w z ↔
      (seqAll [anchor .textStart]).Matches x w z ∨ (seqAll [letter '<']).Matches x w z :=
    matches_seqAll_singleton
  rw [halt, matches_seqAll_singleton, matches_seqAll_singleton, hanchor, hletter]

theorem matches_closing :
    (closing n).Matches x w z ↔ w = [] ∧ (z = [] ∨ z = ['\n']) ∨ w = ['>'] := by
  have hletter : (letter '>').Matches x w z ↔ w = ['>'] := matches_letter_of_caseless (by decide)
  have hanchor : (anchor .finalEnd).Matches x w z ↔ w = [] ∧ (z = [] ∨ z = ['\n']) := by
    rw [Matches, Anchor.holds, Bool.or_eq_true, List.isEmpty_iff, beq_iff_eq]
  have halt : (closing n).Matches x w z ↔
      (seqAll [anchor .finalEnd]).Matches x w z ∨ (seqAll [letter '>']).Matches x w z :=
    matches_seqAll_singleton
  rw [halt, matches_seqAll_singleton, matches_seqAll_singleton, hanchor, hletter]

theorem rounds_char : Rounds (char t).Matches n x w z ↔ w.length = n ∧ ∀ c ∈ w, t.holds c = true := by
  induction n generalizing x w with
  | zero =>
    rw [List.length_eq_zero_iff]
    constructor
    · rintro rfl
      exact ⟨rfl, by simp⟩
    · exact And.left
  | succ n ih =>
    constructor
    · rintro ⟨-, v, rfl, ⟨c, rfl, hc⟩, hv⟩
      obtain ⟨rfl, hall⟩ := ih.1 hv
      exact ⟨rfl, List.forall_mem_cons.2 ⟨hc, hall⟩⟩
    · rintro ⟨hlength, hall⟩
      obtain ⟨c, v, rfl⟩ := List.exists_cons_of_length_eq_add_one hlength
      rw [List.forall_mem_cons] at hall
      exact ⟨[c], v, rfl, ⟨c, rfl, hall.1⟩, ih.2 ⟨Nat.succ.inj hlength, hall.2⟩⟩

/-- A plus and what may follow it in a label. -/
def IsLabel (w : List Char) : Prop :=
  ∃ l, w = '+' :: l ∧ l ≠ [] ∧ '@' ∉ l

theorem matches_labelBody :
    (seqAll [letter '+', .repeat .most 1 none (seqAll [.char (.code .full true '@'.toNat)])]).Matches x w z ↔
      IsLabel w := by
  have hplus {x u z} : (letter '+').Matches x u z ↔ u = ['+'] := matches_letter_of_caseless (by decide)
  have hholds {c : Char} : (CharTest.code .full true '@'.toNat).holds c = true ↔ c ≠ '@' := by
    rw [CharTest.holds, bne_iff_ne, ne_eq, sameUnder_iff_of_caseless (by decide)]
  have hletters {x u z} :
      (Regex.repeat .most 1 none (seqAll [.char (.code .full true '@'.toNat)])).Matches x u z ↔
        u ≠ [] ∧ '@' ∉ u := by
    have hsame : (seqAll [.char (.code .full true '@'.toNat)]).Matches =
        (char (.code .full true '@'.toNat)).Matches := by
      funext x w z
      exact propext matches_seqAll_singleton
    rw [Matches, hsame]
    simp only [rounds_char, hholds]
    constructor
    · rintro ⟨n, -, hlength, hall⟩
      have hne : u ≠ [] := List.length_pos_iff.1 (by omega)
      exact ⟨hne, fun hmem => hall '@' hmem rfl⟩
    · rintro ⟨hne, hat⟩
      have hlength : 0 < u.length := List.length_pos_iff.2 hne
      exact ⟨u.length - 1, by simp, by omega, fun c hc hcat => hat (hcat ▸ hc)⟩
  constructor
  · rintro ⟨u, v, rfl, hu, hv⟩
    obtain rfl := hplus.1 hu
    exact ⟨v, rfl, hletters.1 (matches_seqAll_singleton.1 hv)⟩
  · rintro ⟨l, rfl, hl⟩
    exact ⟨['+'], l, rfl, hplus.2 rfl, matches_seqAll_singleton.2 (hletters.2 hl)⟩

theorem matches_label : (label n).Matches x w z ↔ w = [] ∨ IsLabel w := by
  have hround {x u z} : (seqAll [.group n (seqAll [letter '+',
      .repeat .most 1 none (seqAll [.char (.code .full true '@'.toNat)])])]).Matches x u z ↔ IsLabel u :=
    matches_seqAll_singleton.trans matches_labelBody
  constructor
  · rintro ⟨k, hk, hrounds⟩
    have hk : k ≤ 1 := hk 1 rfl
    obtain rfl | rfl : k = 0 ∨ k = 1 := by omega
    case inl => exact .inl hrounds
    case inr =>
      obtain ⟨u, -, rfl, hu, rfl⟩ := hrounds
      rw [List.append_nil]
      exact .inr (hround.1 hu)
  · rintro (rfl | hw)
    case inl => exact ⟨0, fun _ _ => Nat.zero_le _, rfl⟩
    case inr => exact ⟨1, by simp, w, [], (List.append_nil w).symm, hround.2 hw, rfl⟩

/-- What a whole value may stand behind: nothing, or an opening angle bracket. -/
def Opens (x : List Char) : Prop :=
  x = [] ∨ ∃ y, x = y ++ ['<']

/-- What a whole value may stand before: nothing, one last newline, or a closing angle bracket. -/
def Closes (z : List Char) : Prop :=
  z = [] ∨ z = ['\n'] ∨ ∃ y, z = '>' :: y

theorem isRegular_enclosed (h : ∀ r ∈ rs, r.IsRegular) : (enclosed n rs).IsRegular := by
  refine isRegular_seqAll ?_
  simp only [List.forall_mem_cons, List.forall_mem_append]
  refine ⟨?_, h, ?_⟩ <;> simp [opening, closing, letter, seqAll, IsRegular]

theorem search_enclosed_iff (h : ∀ r ∈ rs, r.IsRegular) {text : List Char} :
    (enclosed n rs).search text = true ↔
      ∃ x m z, text = x ++ m ++ z ∧ Opens x ∧ Closes z ∧ (seqAll rs).Matches x m z := by
  rw [search_iff_matches (isRegular_enclosed h)]
  constructor
  · rintro ⟨x, _, z, rfl, o, _, rfl, ho, hrest⟩
    obtain ⟨m, c, rfl, hm, hc⟩ := matches_seqAll_append.1 hrest
    refine ⟨x ++ o, m, c ++ z, by simp, ?_, ?_, hm⟩
    · rcases matches_opening.1 ho with ⟨rfl, rfl⟩ | rfl
      · exact .inl rfl
      · exact .inr ⟨x, rfl⟩
    · rcases matches_closing.1 (matches_seqAll_singleton.1 hc) with ⟨rfl, rfl | rfl⟩ | rfl
      · exact .inl rfl
      · exact .inr (.inl rfl)
      · exact .inr (.inr ⟨z, rfl⟩)
  · rintro ⟨x, m, z, rfl, hx, hz, hm⟩
    obtain ⟨y, o, rfl, ho⟩ : ∃ y o, x = y ++ o ∧ (y = [] ∧ o = [] ∨ o = ['<']) := by
      rcases hx with rfl | ⟨y, rfl⟩
      · exact ⟨[], [], rfl, .inl ⟨rfl, rfl⟩⟩
      · exact ⟨y, ['<'], rfl, .inr rfl⟩
    obtain ⟨c, y', rfl, hc⟩ : ∃ c y', z = c ++ y' ∧ (c = [] ∧ (y' = [] ∨ y' = ['\n']) ∨ c = ['>']) := by
      rcases hz with rfl | rfl | ⟨y', rfl⟩
      · exact ⟨[], [], rfl, .inl ⟨rfl, .inl rfl⟩⟩
      · exact ⟨[], ['\n'], rfl, .inl ⟨rfl, .inr rfl⟩⟩
      · exact ⟨['>'], y', rfl, .inr rfl⟩
    refine ⟨y, o ++ (m ++ c), y', by simp, o, m ++ c, rfl, matches_opening.2 ho, ?_⟩
    exact matches_seqAll_append.2
      ⟨m, c, rfl, hm, matches_seqAll_singleton.2 (matches_closing.2 hc)⟩

theorem isRegular_letters (v : List Char) : ∀ r ∈ v.map letter, r.IsRegular := by
  intro r hr
  obtain ⟨c, -, rfl⟩ := List.mem_map.1 hr
  trivial

theorem search_enclosed_letters_iff {text : List Char} :
    (enclosed n (v.map letter)).search text = true ↔
      ∃ x m z, text = x ++ m ++ z ∧ Opens x ∧ Closes z ∧ Spells v m := by
  simp only [search_enclosed_iff (isRegular_letters v), matches_letters]

/-- The text spells one value and then another, with a label between them or without one. -/
def SpellsAround (v v' m : List Char) : Prop :=
  ∃ m₁ l m₂, m = m₁ ++ (l ++ m₂) ∧ Spells v m₁ ∧ (l = [] ∨ IsLabel l) ∧ Spells v' m₂

theorem search_enclosed_label_iff {text : List Char} :
    (enclosed n (v.map letter ++ label k :: v'.map letter)).search text = true ↔
      ∃ x m z, text = x ++ m ++ z ∧ Opens x ∧ Closes z ∧ SpellsAround v v' m := by
  have hregular : ∀ r ∈ v.map letter ++ label k :: v'.map letter, r.IsRegular := by
    simp only [List.forall_mem_append, List.forall_mem_cons]
    refine ⟨isRegular_letters v, ?_, isRegular_letters v'⟩
    simp [label, letter, seqAll, IsRegular]
  have hmatches {x m z} : (seqAll (v.map letter ++ label k :: v'.map letter)).Matches x m z ↔
      SpellsAround v v' m := by
    rw [matches_seqAll_append]
    constructor
    · rintro ⟨m₁, -, rfl, hm₁, l, m₂, rfl, hl, hm₂⟩
      exact ⟨m₁, l, m₂, rfl, matches_letters.1 hm₁, matches_label.1 hl, matches_letters.1 hm₂⟩
    · rintro ⟨m₁, l, m₂, rfl, hm₁, hl, hm₂⟩
      exact ⟨m₁, l ++ m₂, rfl, matches_letters.2 hm₁, l, m₂, rfl, matches_label.2 hl, matches_letters.2 hm₂⟩
  simp only [search_enclosed_iff hregular, hmatches]

end MailTriage.Regex
