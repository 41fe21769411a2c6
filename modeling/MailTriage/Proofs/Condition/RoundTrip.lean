import MailTriage.Proofs.Condition.Layouts

/-!
A condition that was read is legible: its patterns and names are words that reading leaves as they are,
and what stands under an operator has balanced parentheses. The text of a condition is one of its
layouts, so a legible condition is read off it. `parse_toExpression` puts the two together.
-/

namespace MailTriage.Condition

open Text

def text (c : Condition) : List Char :=
  c.toExpression.toList

def afterKeyword : Condition → List Char
  | all cs | any cs => cs.flatMap fun c => ' ' :: c.text
  | not c => ' ' :: c.text
  | field _ p => ' ' :: p.source.toList
  | header name p => ' ' :: (name.toList ++ ' ' :: p.source.toList)
  | threadText t p => ' ' :: (t.name.toList ++ ' ' :: p.source.toList)
  | threadFlag f => ' ' :: f.name.toList

variable {s rest : List Char} {c : Condition} {k : Keyword} {m n fuel : Nat}

theorem upper_named {α : Type} {name : α → String} {every : List α} {capitals : List Char} {a : α}
    (h : named? name every capitals = some a) : capitals = upper (name a).toList := by
  have hf := List.find?_some h
  exact (beq_iff_eq.1 hf).symm

theorem ne_paren_of_named {word : List Char} {q : Property}
    (h : named? Property.name Property.every (upper word) = some q) : ∀ x ∈ word, x ≠ '(' ∧ x ≠ ')' :=
  (word_of_property (upper_named h)).2.2

theorem depthAfter?_splitWord (d : Nat) (rest : List Char) :
    depthAfter? d ((splitWord rest).1 ++ (splitWord rest).2) = depthAfter? d rest := by
  have hw : depthAfter? d (trimLeft rest) = depthAfter? d rest := by
    conv_rhs => rw [← List.takeWhile_append_dropWhile (p := isBlank) (l := rest)]
    exact (depthAfter?_blank_append d fun c hc => List.mem_takeWhile_imp hc).symm
  have hv : ∀ e, depthAfter? e (splitWord rest).2 =
      depthAfter? e ((trimLeft rest).dropWhile (!isBlank ·)) := fun e => depthAfter?_trim e _
  rw [← hw]
  conv_rhs => rw [← List.takeWhile_append_dropWhile (p := (!isBlank ·)) (l := trimLeft rest)]
  simp only [depthAfter?_append, hv]
  rfl

theorem not_isBlank_of_mem_splitWord : ∀ x ∈ (splitWord rest).1, ¬ isBlank x := fun x hx => by
  have h := List.mem_takeWhile_imp (p := (!isBlank ·)) hx
  simpa using h

theorem trim_splitWord (rest : List Char) : trim (splitWord rest).2 = (splitWord rest).2 :=
  trim_trim _

theorem legible_of_readLeaf (hr : trim rest = rest) (hd : depthAfter? 0 rest = some m)
    (h : readLeaf s k rest = .ok c) : ∃ n ≤ m, Legible c n := by
  obtain ⟨f, p, -, hp, rfl⟩ | ⟨p, -, hne, hp, rfl⟩ | ⟨t, p, -, hq, hp, rfl⟩ | ⟨f, -, rfl⟩ :=
    cases_of_readLeaf h
  · obtain ⟨hread, hsource⟩ := read_of_readPattern hr hp
    exact ⟨m, le_refl m, .field hread (hsource ▸ hd)⟩
  · obtain ⟨hread, hsource⟩ := read_of_readPattern (trim_splitWord rest) hp
    refine ⟨m, le_refl m, .header ?_ ?_ hread ?_⟩
    · rwa [String.toList_ofList]
    · rw [String.toList_ofList]
      exact not_isBlank_of_mem_splitWord
    · rw [String.toList_ofList, hsource, depthAfter?_splitWord, hd]
  · obtain ⟨hread, hsource⟩ := read_of_readPattern (trim_splitWord rest) hp
    have hvalue := depthAfter?_splitWord 0 rest
    rw [depthAfter?_append_of_forall 0 (ne_paren_of_named hq), ← hsource, hd] at hvalue
    exact ⟨m, le_refl m, .threadText hread hvalue⟩
  · exact ⟨0, Nat.zero_le m, .threadFlag⟩

theorem legible_of_readWith {inner : List Char} (h : readWith fuel s = .ok c)
    (hu : unwrap (trim s) = .ok inner) (hd : depthAfter? 0 inner = some m) : ∃ n ≤ m, Legible c n := by
  induction fuel generalizing s c inner m with
  | zero => simp [readWith] at h
  | succ fuel ih =>
    obtain ⟨inner', k, hu', hread⟩ := exists_of_readWith h
    obtain rfl : inner = inner' := by simpa [hu] using hu'
    obtain ⟨o, pieces, cs, rfl, hp, hcs, hc⟩ | hleaf := hread
    · -- What stands under an operator was cut at balanced parentheses, so nothing is left open there.
      have hs := split_eq_ok_iff.1 hp
      have hsub : ∀ c ∈ cs, Legible c 0 := by
        intro c hc
        obtain ⟨p, hmem, hpc⟩ : ∃ p ∈ pieces, readWith fuel p = .ok c := by
          obtain ⟨i, hi, rfl⟩ := List.getElem_of_mem hc
          have hi' : i < pieces.length := hcs.length_eq ▸ hi
          exact ⟨pieces[i], List.getElem_mem hi', hcs.get hi' hi⟩
        obtain ⟨inner, rfl, hi⟩ := hs.enclosed p hmem
        have hunwrap : unwrap (trim ('(' :: (inner ++ [')']))) = .ok inner := by
          rw [trim_enclosed, unwrap_eq_ok_iff]
          exact ⟨rfl, by rw [hi]; rfl⟩
        obtain ⟨n, hn, hl⟩ := ih hpc hunwrap hi
        rwa [Nat.le_zero.1 hn] at hl
      cases o with
      | all =>
        obtain rfl : Condition.all cs = c := by simpa [combine] using hc
        exact ⟨0, Nat.zero_le m, .all hsub⟩
      | any =>
        obtain rfl : Condition.any cs = c := by simpa [combine] using hc
        exact ⟨0, Nat.zero_le m, .any hsub⟩
      | not =>
        -- `combine` takes exactly one expression here.
        obtain _ | ⟨c', _ | ⟨d, cs⟩⟩ := cs
        · simp [combine] at hc
        · obtain rfl : Condition.not c' = c := by simpa [combine] using hc
          exact ⟨0, Nat.zero_le m, .not (hsub c' (by simp))⟩
        · simp [combine] at hc
    · refine legible_of_readLeaf (trim_splitKeyword inner) ?_ hleaf
      rw [depthAfter?_splitKeyword, hd]

theorem toList_expressions (cs : List Condition) :
    (expressions cs).toList = cs.flatMap fun c => ' ' :: c.text := by
  induction cs with
  | nil => simp [expressions]
  | cons c cs ih => simp [expressions, ih, text]

theorem text_eq (c : Condition) :
    c.text = '(' :: ([] ++ c.keyword.name.toList ++ c.afterKeyword ++ [')']) := by
  cases c <;>
    simp [text, toExpression, keyword, afterKeyword, Keyword.name, toList_expressions]

theorem gap_space : Gap [' '] :=
  ⟨blank_space, List.cons_ne_nil _ _⟩

theorem rendering_of_afterKeyword (h : Content c c.afterKeyword) : Rendering c c.text := by
  rw [text_eq]
  exact .enclosed blank_nil rfl h

mutual

theorem content_afterKeyword : ∀ c : Condition, Content c c.afterKeyword
  | all cs => .all (row_texts cs)
  | any cs => .any (row_texts cs)
  | not c => by
    have hrow : Row [c] (([' '] ++ c.text) ++ []) :=
      .cons blank_space (rendering_of_afterKeyword (content_afterKeyword c)) (.nil blank_nil)
    rw [List.append_nil] at hrow
    exact .not hrow
  | field f p => by
    have h : Content (.field f p) ([' '] ++ p.source.toList ++ []) := .field gap_space blank_nil
    rwa [List.append_nil] at h
  | header name p => by
    have h : Content (.header name p) ([' '] ++ (name.toList ++ [' '] ++ p.source.toList) ++ []) :=
      .header gap_space gap_space blank_nil
    rwa [List.append_nil, List.append_assoc] at h
  | threadText t p => by
    have h : Content (.threadText t p) ([' '] ++ (t.name.toList ++ [' '] ++ p.source.toList) ++ []) :=
      .threadText rfl gap_space gap_space blank_nil
    rwa [List.append_nil, List.append_assoc] at h
  | threadFlag f => by
    have h : Content (.threadFlag f) ([' '] ++ f.name.toList ++ []) := .threadFlag rfl gap_space blank_nil
    rwa [List.append_nil] at h

theorem row_texts : ∀ cs : List Condition, Row cs (cs.flatMap fun c => ' ' :: c.text)
  | [] => .nil blank_nil
  | c :: cs =>
    .cons blank_space (rendering_of_afterKeyword (content_afterKeyword c)) (row_texts cs)

end

/-- The text of a condition is one of those that write it out. -/
theorem rendering_text (c : Condition) : Rendering c c.text :=
  rendering_of_afterKeyword (content_afterKeyword c)

theorem Legible.readWith_text (h : Legible c n) (hf : c.text.length < fuel) :
    readWith fuel c.text = .ok c :=
  h.readWith_rendering (rendering_text c) (rendering_text c).trim_eq hf

/-- Whatever text a condition is read off, it is read again off the text it is written as. -/
theorem parse_toExpression {t : String} (h : parse t = .ok c) : parse c.toExpression = .ok c := by
  obtain ⟨inner, k, hu, -⟩ := exists_of_readWith h
  obtain ⟨-, hd⟩ := unwrap_eq_ok_iff.1 hu
  obtain ⟨m, hm⟩ := Option.isSome_iff_exists.1 hd
  obtain ⟨n, -, hl⟩ := legible_of_readWith h hu hm
  exact hl.readWith_text (Nat.lt_succ_self _)

/-- A keyword next to a parenthesis, others in capitals, white space of several kinds, parentheses inside of
a value, and text behind a property that takes none. -/
theorem parse_toExpression_of_layout :
    ∃ c, parse "\n(And(subject  a(b) c ) (thread IS_STARRED (x)))" = .ok c ∧
      c.toExpression = "(and (subject a(b) c) (thread is_starred))" ∧
      parse c.toExpression = .ok c := by
  have h : (parse "\n(And(subject  a(b) c ) (thread IS_STARRED (x)))").toOption.map toExpression =
      some "(and (subject a(b) c) (thread is_starred))" := by decide +kernel
  obtain ⟨c, hc, he⟩ := Option.map_eq_some_iff.1 h
  have hok : ∀ r : Except ConditionError Condition, r.toOption = some c → r = .ok c := by
    rintro (_ | _) hr <;> simp_all [Except.toOption]
  have hp := hok _ hc
  exact ⟨c, hp, he, parse_toExpression hp⟩

end MailTriage.Condition
