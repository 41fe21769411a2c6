import MailTriage.Proofs.Pattern.Found

namespace MailTriage.Regex

variable {v m : List Char} {c d : Char}

theorem mem_of_spells (h : Spells v m) (hd : d.toNat < 65) (hmem : d ∈ m) : d ∈ v := by
  induction h with
  | nil => cases hmem
  | cons hc _ ih =>
    rcases List.mem_cons.1 hmem with rfl | hmem
    · rw [eq_of_sameUnder hc hd]
      exact List.mem_cons_self
    · exact List.mem_cons_of_mem _ (ih hmem)

theorem spells_at_iff : Spells ('@' :: v) m ↔ ∃ m', m = '@' :: m' ∧ Spells v m' := by
  unfold Spells
  simp only [List.forall₂_cons_left_iff, sameUnder_iff_of_caseless (c := '@') (by decide)]
  constructor
  · rintro ⟨d, m', rfl, hm', rfl⟩
    exact ⟨m', rfl, hm'⟩
  · rintro ⟨m', rfl, hm'⟩
    exact ⟨'@', m', rfl, hm', rfl⟩

end MailTriage.Regex

namespace MailTriage.Pattern

open Regex

variable {P : List Char → Prop} {s t m name mailbox domain rest : List Char}

/-- A part of an address that has nothing in it of the signs around addresses and patterns. -/
structure IsPlain (s : List Char) : Prop where
  ne_nil : s ≠ []
  not_mem : ∀ c ∈ s, c ∉ ['@', '<', '>', '"', '/']
  not_isBlank : ∀ c ∈ s, Text.isBlank c = false

theorem isPlain_iff : IsPlain s ↔
    s ≠ [] ∧ s.all fun c => c ∉ ['@', '<', '>', '"', '/'] ∧ Text.isBlank c = false := by
  simp only [List.all_eq_true, decide_eq_true_eq]
  exact ⟨fun h => ⟨h.ne_nil, fun c hc => ⟨h.not_mem c hc, h.not_isBlank c hc⟩⟩,
    fun h => ⟨h.1, fun c hc => (h.2 c hc).1, fun c hc => (h.2 c hc).2⟩⟩

instance : Decidable (IsPlain s) :=
  decidable_of_iff' _ isPlain_iff

structure PlainAddress where
  mailbox : String
  domain : String
  mailbox_plain : IsPlain mailbox.toList
  domain_plain : IsPlain domain.toList

def PlainAddress.text (a : PlainAddress) : String :=
  a.mailbox ++ "@" ++ a.domain

theorem PlainAddress.toList_text (a : PlainAddress) :
    a.text.toList = a.mailbox.toList ++ '@' :: a.domain.toList := by
  simp [PlainAddress.text]

theorem IsPlain.ne (h : IsPlain s) {c : Char} (hc : c ∈ ['@', '<', '>', '"', '/']) : c ∉ s :=
  fun hmem => h.not_mem c hmem hc

theorem IsPlain.newline (h : IsPlain s) : '\n' ∉ s :=
  fun hmem => absurd (h.not_isBlank '\n' hmem) (by decide)

theorem PlainAddress.not_mem_text (a : PlainAddress) {c : Char} (hc : c ∈ ['<', '>', '\n']) :
    c ∉ a.text.toList := by
  have hparts : c ∉ a.mailbox.toList ∧ c ∉ a.domain.toList ∧ c ≠ '@' := by
    rcases List.mem_cons.1 hc with rfl | hc
    · exact ⟨a.mailbox_plain.ne (by simp), a.domain_plain.ne (by simp), by decide⟩
    rcases List.mem_cons.1 hc with rfl | hc
    · exact ⟨a.mailbox_plain.ne (by simp), a.domain_plain.ne (by simp), by decide⟩
    · obtain rfl := List.mem_singleton.1 hc
      exact ⟨a.mailbox_plain.newline, a.domain_plain.newline, by decide⟩
  simp [a.toList_text, hparts]

theorem PlainAddress.bare (a : PlainAddress) : Bare a.text.toList := by
  obtain ⟨c, s, hs⟩ := List.exists_cons_of_ne_nil a.mailbox_plain.ne_nil
  have htext : a.text.toList = c :: (s ++ '@' :: a.domain.toList) := by rw [a.toList_text, hs]; rfl
  have hslash : c ≠ '/' := fun hc => a.mailbox_plain.ne (c := '/') (by simp) (by simp [hs, hc])
  have hquote : c ≠ '"' := fun hc => a.mailbox_plain.ne (c := '"') (by simp) (by simp [hs, hc])
  refine bare_of (fun hempty => ?_) ?_ ?_
  · rw [hempty] at htext
    cases htext
  · rw [htext]
    exact not_isSlashed_of_head hslash
  · rw [htext]
    exact not_isQuoted_of_head hquote

/-- In a text without brackets and newlines, only the whole text is a whole value. -/
theorem whole_of_plain (hopen : '<' ∉ t) (hclose : '>' ∉ t) (hline : '\n' ∉ t) :
    (∃ x m z, t = x ++ m ++ z ∧ Opens x ∧ Closes z ∧ P m) ↔ P t := by
  constructor
  · rintro ⟨x, m, z, rfl, hx, hz, hm⟩
    obtain rfl : x = [] := by
      rcases hx with hx | ⟨y, rfl⟩
      · exact hx
      · exact absurd (by simp) hopen
    obtain rfl : z = [] := by
      rcases hz with hz | rfl | ⟨y, rfl⟩
      · exact hz
      · exact absurd (by simp) hline
      · exact absurd (by simp) hclose
    simpa using hm
  · intro ht
    exact ⟨[], t, [], by simp, .inl rfl, .inl rfl, ht⟩

/-- Behind a name, a whole value is the address between the brackets, or it goes from the start of the name
to the closing bracket. A value that could end with this bracket itself is left out. -/
theorem whole_of_named (hname : '<' ∉ name ∧ '>' ∉ name) (hs : '<' ∉ s ∧ '>' ∉ s)
    (hP : ∀ m, P m → m ≠ [] ∧ m.getLast? ≠ some '>') :
    (∃ x m z, name ++ '<' :: (s ++ ['>']) = x ++ m ++ z ∧ Opens x ∧ Closes z ∧ P m) ↔
      P s ∨ P (name ++ '<' :: s) := by
  have htext : name ++ '<' :: (s ++ ['>']) = name ++ '<' :: s ++ ['>'] := by simp
  rw [htext]
  constructor
  · rintro ⟨x, m, z, heq, hx, hz, hm⟩
    have hlast : (x ++ m ++ z).getLast? = some '>' := by rw [← heq, List.getLast?_concat]
    rcases hz with rfl | rfl | ⟨y, rfl⟩
    · obtain ⟨hne, hend⟩ := hP m hm
      rw [List.append_nil, List.getLast?_append_of_ne_nil _ hne] at hlast
      exact absurd hlast hend
    · rw [List.getLast?_concat] at hlast
      exact absurd hlast (by decide)
    · have hclose : '>' ∉ name ++ '<' :: s := by simp [hname.2, hs.2]
      obtain ⟨heq, -⟩ := (List.append_cons_inj_of_notMem hclose List.not_mem_nil).1 heq
      rcases hx with rfl | ⟨y', rfl⟩
      · right
        rw [heq]
        exact hm
      · left
        rw [List.append_assoc] at heq
        obtain ⟨-, -, rfl⟩ := (List.append_cons_inj_of_notMem hname.1 hs.1).1 heq
        exact hm
  · rintro (hm | hm)
    · exact ⟨name ++ ['<'], s, ['>'], by simp, .inr ⟨name, rfl⟩, .inr (.inr ⟨[], rfl⟩), hm⟩
    · exact ⟨[], name ++ '<' :: s, ['>'], by simp, .inl rfl, .inr (.inr ⟨[], rfl⟩), hm⟩

theorem getLast?_of_spellsAround (hdomain : '>' ∉ domain) (h : SpellsAround mailbox ('@' :: domain) m) :
    m ≠ [] ∧ m.getLast? ≠ some '>' := by
  obtain ⟨m₁, l, m₂, rfl, -, -, h₂⟩ := h
  have hne : m₂ ≠ [] := by
    rintro rfl
    cases h₂
  have hend : '>' ∉ m₂ := fun hmem => absurd (mem_of_spells h₂ (by decide) hmem) (by simp [hdomain])
  rw [← List.append_assoc, List.getLast?_append_of_ne_nil _ hne]
  exact ⟨by simp [hne], fun hlast => hend (List.mem_of_getLast? hlast)⟩

/-- A value that goes over the opening bracket does so in its label, which begins in the name. -/
theorem spellsAround_named_iff (hmailbox : '<' ∉ mailbox ∧ '@' ∉ mailbox) (hname : '@' ∉ name) (hs : '@' ∉ s) :
    SpellsAround mailbox ('@' :: domain) (name ++ '<' :: (s ++ '@' :: rest)) ↔
      ∃ l y, name = l ++ '+' :: y ∧ Spells mailbox l ∧ Spells domain rest := by
  have htext : name ++ '<' :: (s ++ '@' :: rest) = name ++ '<' :: s ++ '@' :: rest := by simp
  have hat : '@' ∉ name ++ '<' :: s := by simp [hname, hs]
  constructor
  · rintro ⟨m₁, l, _, heq, h₁, hl, hspells⟩
    obtain ⟨m₂, rfl, h₂⟩ := spells_at_iff.1 hspells
    have hopen : '<' ∉ m₁ := fun hmem => hmailbox.1 (mem_of_spells h₁ (by decide) hmem)
    have hat₁ : '@' ∉ m₁ := fun hmem => hmailbox.2 (mem_of_spells h₁ (by decide) hmem)
    have hatl : '@' ∉ l := by
      rcases hl with rfl | ⟨l, rfl, -, hl⟩
      · exact List.not_mem_nil
      · simpa using hl
    rw [htext, ← List.append_assoc] at heq
    obtain ⟨hbefore, rfl⟩ := eq_of_append_at hat (by simp [hat₁, hatl]) heq
    obtain ⟨y, rfl, rfl⟩ : ∃ y, name = m₁ ++ y ∧ l = y ++ '<' :: s := by
      rcases List.append_eq_append_iff.1 hbefore with ⟨y, rfl, hy⟩ | h
      case inr => exact h
      case inl =>
        cases y with
        | nil => exact ⟨[], by simp, hy.symm⟩
        | cons c y =>
          obtain rfl : '<' = c := (List.cons.inj hy).1
          exact absurd (by simp) hopen
    rcases hl with hl | ⟨l, hl, -⟩
    · exact absurd hl (by simp)
    · cases y with
      | nil => exact absurd (List.cons.inj hl).1 (by decide)
      | cons c y =>
        obtain rfl : c = '+' := (List.cons.inj hl).1
        exact ⟨m₁, y, rfl, h₁, h₂⟩
  · rintro ⟨l, y, rfl, hl, hrest⟩
    have hy : '@' ∉ y ++ '<' :: s := by simp_all
    exact ⟨l, '+' :: (y ++ '<' :: s), '@' :: rest, by simp, hl, .inr ⟨_, rfl, by simp, hy⟩,
      spells_at_iff.2 ⟨rest, rfl, hrest⟩⟩

theorem exists_ofText_address (p : PlainAddress) :
    ∃ pattern, ofText true p.text = .ok pattern ∧ ∀ text : String, pattern.found text = true ↔
      ∃ x m z, text.toList = x ++ m ++ z ∧ Opens x ∧ Closes z ∧
        SpellsAround p.mailbox.toList ('@' :: p.domain.toList) m := by
  have hat : '@' ∉ p.mailbox.toList := p.mailbox_plain.ne (by simp)
  exact ⟨_, ofText_eq (compile_address p.bare p.toList_text hat), fun text => search_enclosed_label_iff⟩

/-- An address behind a display name is found if it is found alone, and besides just when the name has a plus
in it, the value before the at sign of the pattern stands before this plus, and the domains agree. -/
theorem found_named_iff (p a : PlainAddress) (name : String)
    (hname : '@' ∉ name.toList ∧ '<' ∉ name.toList ∧ '>' ∉ name.toList) :
    ∃ pattern, ofText true p.text = .ok pattern ∧
      (pattern.found (name ++ "<" ++ a.text ++ ">") = true ↔
        pattern.found a.text = true ∨ ∃ l y, name.toList = l ++ '+' :: y ∧
          Spells p.mailbox.toList l ∧ Spells p.domain.toList a.domain.toList) := by
  obtain ⟨pattern, hpattern, hfound⟩ := exists_ofText_address p
  refine ⟨pattern, hpattern, ?_⟩
  have hopen : '<' ∉ a.text.toList := a.not_mem_text (by simp)
  have hclose : '>' ∉ a.text.toList := a.not_mem_text (by simp)
  have hline : '\n' ∉ a.text.toList := a.not_mem_text (by simp)
  obtain ⟨hat, hname⟩ := hname
  have htext : (name ++ "<" ++ a.text ++ ">").toList = name.toList ++ '<' :: (a.text.toList ++ ['>']) := by
    simp
  have hmailbox : '<' ∉ p.mailbox.toList ∧ '@' ∉ p.mailbox.toList :=
    ⟨p.mailbox_plain.ne (by simp), p.mailbox_plain.ne (by simp)⟩
  have hdomain : '>' ∉ p.domain.toList := p.domain_plain.ne (by simp)
  rw [hfound, hfound, htext, whole_of_plain hopen hclose hline,
    whole_of_named hname ⟨hopen, hclose⟩ fun m => getLast?_of_spellsAround hdomain, a.toList_text,
    spellsAround_named_iff hmailbox hat (a.mailbox_plain.ne (by simp))]

def boss : PlainAddress :=
  ⟨"boss", "corp.com", by decide, by decide⟩

def evil : PlainAddress :=
  ⟨"evil", "corp.com", by decide, by decide⟩

theorem found_named_of_plus :
    ('@' ∉ "boss+x".toList ∧ '<' ∉ "boss+x".toList ∧ '>' ∉ "boss+x".toList) ∧
      ∃ pattern, ofText true boss.text = .ok pattern ∧
        (pattern.found ("boss+x" ++ "<" ++ evil.text ++ ">") = true ↔
          pattern.found evil.text = true ∨ ∃ l y, "boss+x".toList = l ++ '+' :: y ∧
            Spells boss.mailbox.toList l ∧ Spells boss.domain.toList evil.domain.toList) := by
  have hname : '@' ∉ "boss+x".toList ∧ '<' ∉ "boss+x".toList ∧ '>' ∉ "boss+x".toList := by decide
  exact ⟨hname, found_named_iff boss evil "boss+x" hname⟩

/-- A name alone can make a pattern be found. -/
theorem found_only_behind_name :
    boss.text = "boss@corp.com" ∧ '+' ∉ boss.text.toList ∧ evil.text = "evil@corp.com" ∧
      ('@' ∉ "boss+x".toList ∧ '<' ∉ "boss+x".toList ∧ '>' ∉ "boss+x".toList) ∧
      ∃ pattern, ofText true boss.text = .ok pattern ∧
        pattern.found ("boss+x" ++ "<" ++ evil.text ++ ">") = true ∧ pattern.found evil.text = false := by
  have hcompile : compile true boss.text = .ok _ :=
    compile_address boss.bare boss.toList_text (boss.mailbox_plain.ne (by simp))
  refine ⟨rfl, by decide, rfl, by decide, _, ofText_eq hcompile, ?_, ?_⟩
  · decide +kernel
  · decide +kernel

end MailTriage.Pattern
