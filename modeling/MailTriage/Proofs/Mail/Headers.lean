import MailTriage.Session

namespace MailTriage

namespace MessageView

/-- Two views of a message that may differ in headers, but not in those of some names. -/
structure AgreeOn (names : List String) (m m' : MessageView) : Prop where
  header : ∀ name ∈ names, m.header? name = m'.header? name
  rest : { m with headers := [] } = { m' with headers := [] }

variable {names names' : List String} {m m' : MessageView} {name : String}

theorem AgreeOn.mono (h : AgreeOn names m m') (hsub : names' ⊆ names) : AgreeOn names' m m' :=
  ⟨fun name hname => h.header name (hsub hname), h.rest⟩

theorem AgreeOn.texts_eq (h : AgreeOn names m m') (f : Field) : m.texts f = m'.texts f := by
  have hrest := congrArg (·.texts f) h.rest
  cases f <;> exact hrest

theorem AgreeOn.threadTexts_eq (h : AgreeOn names m m') (t : ThreadText) :
    m.threadTexts t = m'.threadTexts t := by
  have hrest := congrArg (·.threadTexts t) h.rest
  cases t <;> exact hrest

theorem AgreeOn.state_eq (h : AgreeOn names m m') : m.state = m'.state :=
  congrArg (·.state) h.rest

theorem AgreeOn.list_eq (h : AgreeOn names m m') : m.list = m'.list :=
  congrArg (·.list) h.rest

theorem find?_filterMap_header (m : Message) :
    ((names.filterMap fun n => (m.header? n).map fun value => (n, value)).find? (·.1 == name)).map
      (·.2) = if name ∈ names then m.header? name else none := by
  induction names with
  | nil => rfl
  | cons n names ih =>
    by_cases hn : n = name
    · subst hn
      cases hm : m.header? n with
      | some value => simp [hm]
      | none => simpa [hm] using ih
    · have hmem : name ∈ n :: names ↔ name ∈ names := by simp [Ne.symm hn]
      simp only [hmem, ← ih]
      cases hm : m.header? n with
      | some value => simp [hm, hn]
      | none => simp [hm]

theorem agreeOn_ofMessage (names : List String) (t : Thread) (m : Message) :
    AgreeOn names (ofMessage (some names) t m) (ofMessage none t m) where
  header _ hname := (find?_filterMap_header m).trans (if_pos hname)
  rest := rfl

end MessageView

namespace Condition

open MessageView

variable {m m' : MessageView}

mutual

/-- Whether a condition holds depends on no headers but those that it looks at. -/
theorem holds_congr : ∀ {c : Condition}, AgreeOn c.headers m m' → c.holds m = c.holds m'
  | all cs, h => by
    unfold holds
    exact allHold_congr h
  | any cs, h => by
    unfold holds
    exact anyHolds_congr h
  | not c, h => by
    unfold holds
    rw [holds_congr (c := c) h]
  | field f p, h => by
    unfold holds
    rw [h.texts_eq]
  | header name p, h => by
    unfold holds
    rw [h.header name (by simp [headers])]
  | threadText t p, h => by
    unfold holds
    rw [h.threadTexts_eq]
  | threadFlag f, h => by
    unfold holds
    rw [h.state_eq]

theorem allHold_congr : ∀ {cs : List Condition}, AgreeOn (headersOf cs) m m' →
    allHold m cs = allHold m' cs
  | [], _ => rfl
  | c :: cs, h => by
    have hc : AgreeOn c.headers m m' := h.mono (by simp [headersOf])
    have hcs : AgreeOn (headersOf cs) m m' := h.mono (by simp [headersOf])
    rw [allHold, allHold, holds_congr hc, allHold_congr hcs]

theorem anyHolds_congr : ∀ {cs : List Condition}, AgreeOn (headersOf cs) m m' →
    anyHolds m cs = anyHolds m' cs
  | [], _ => rfl
  | c :: cs, h => by
    have hc : AgreeOn c.headers m m' := h.mono (by simp [headersOf])
    have hcs : AgreeOn (headersOf cs) m m' := h.mono (by simp [headersOf])
    rw [anyHolds, anyHolds, holds_congr hc, anyHolds_congr hcs]

end

end Condition

namespace Rule

open MessageView

variable {rules : List Rule} {m m' : MessageView} {first : Int} {last : Option Int} {name : String}

theorem mem_foldl_addNew {names names' : List String} :
    name ∈ names'.foldl (fun names name => if names.contains name then names else names ++ [name]) names ↔
      name ∈ names ∨ name ∈ names' := by
  induction names' generalizing names with
  | nil => simp
  | cons n names' ih =>
    rw [List.foldl_cons, ih, List.mem_cons, ← or_assoc]
    apply or_congr_left
    by_cases hn : n ∈ names
    · rw [if_pos (List.contains_iff_mem.2 hn)]
      constructor
      · exact Or.inl
      · rintro (h | rfl)
        · exact h
        · exact hn
    · rw [if_neg fun h => hn (List.contains_iff_mem.1 h), List.mem_append, List.mem_singleton]

theorem mem_requestedHeaders :
    name ∈ requestedHeaders rules ↔ ∃ r ∈ rules, name ∈ r.condition.headers := by
  rw [requestedHeaders, mem_foldl_addNew, List.mem_flatMap]
  simp

theorem isMet_eq_of_agreeOn (h : AgreeOn (requestedHeaders rules) m m') :
    ∀ r ∈ rules, r.isMet m = r.isMet m' := by
  intro r hr
  apply Condition.holds_congr
  apply h.mono
  intro name hname
  exact mem_requestedHeaders.2 ⟨r, hr, hname⟩

theorem evaluateFrom_eq_of_isMet (a : Option Action) (h : ∀ r ∈ rules, r.isMet m = r.isMet m') :
    evaluateFrom m first last a rules = evaluateFrom m' first last a rules := by
  induction rules generalizing first last a with
  | nil => rfl
  | cons r rules ih =>
    rw [List.forall_mem_cons] at h
    have hrest {first : Int} {last : Option Int} (a : Option Action) :
        evaluateFrom m first last a rules = evaluateFrom m' first last a rules := ih a h.2
    simp only [evaluateFrom, h.1, hrest]

theorem evaluate_eq_of_agreeOn (h : AgreeOn (requestedHeaders rules) m m') (a : Option Action) :
    evaluate rules m a = evaluate rules m' a := by
  unfold evaluate
  apply evaluateFrom_eq_of_isMet
  intro r hr
  exact isMet_eq_of_agreeOn h r (List.mem_mergeSort.1 hr)

theorem afterMessage_eq_of_agreeOn (config : Option Config) (a : Action)
    (h : AgreeOn (requestedHeaders rules) m m') :
    afterMessage rules config a m = afterMessage rules config a m' := by
  unfold afterMessage addListLabel
  rw [evaluate_eq_of_agreeOn h, h.list_eq]

theorem afterMessages_map_eq {α : Type} {f g : α → MessageView} (config : Option Config) (a : Action)
    (l : List α) (h : ∀ x, AgreeOn (requestedHeaders rules) (f x) (g x)) :
    afterMessages rules config a (l.map f) = afterMessages rules config a (l.map g) := by
  have hstep : (fun a x => afterMessage rules config a (f x)) =
      fun a x => afterMessage rules config a (g x) := by
    funext a x
    exact afterMessage_eq_of_agreeOn config a (h x)
  unfold afterMessages
  rw [List.foldl_map, List.foldl_map, hstep]

end Rule

/-- The headers that a session leaves out of its views are no loss to its rules: they match the same
messages, collect the same action, and find the same fault with it, if any. -/
theorem collect_requestedHeaders (s : Session) (config : Option Config) (t : Thread)
    (messages : List Message) :
    let seen (requested : Option (List String)) : PendingThread :=
      { thread := t, views := messages.map (MessageView.ofMessage requested t) }
    (∀ m a, Rule.evaluate s.rules (MessageView.ofMessage s.requestedHeaders t m) a =
        Rule.evaluate s.rules (MessageView.ofMessage none t m) a) ∧
      ((seen s.requestedHeaders).collect s.rules config).action =
        ((seen none).collect s.rules config).action ∧
      ((seen s.requestedHeaders).collect s.rules config).problem? =
        ((seen none).collect s.rules config).problem? := by
  intro seen
  have hagree (m : Message) := MessageView.agreeOn_ofMessage (Rule.requestedHeaders s.rules) t m
  have haction : ((seen s.requestedHeaders).collect s.rules config).action =
      ((seen none).collect s.rules config).action :=
    Rule.afterMessages_map_eq config .none messages hagree
  refine ⟨fun m a => Rule.evaluate_eq_of_agreeOn (hagree m) a, haction, ?_⟩
  unfold PendingThread.problem? PendingThread.unmatched
  rw [haction]
  rfl

end MailTriage
