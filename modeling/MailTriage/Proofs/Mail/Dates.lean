import Mathlib.Data.List.Basic
import MailTriage.Mail.Document
import MailTriage.Proofs.Except
import MailTriage.Proofs.Mail.Window

namespace MailTriage

/-- A moment that a clock can show: one of the calendar, with an offset of less than a day. -/
structure Moment.IsReal (m : Moment) : Prop where
  wall : Moment.isInRange m.wall
  offset : ∀ o, m.offset = some o → -Moment.dayLength < o ∧ o < Moment.dayLength

theorem Moment.isInRange_iff {wall : Int} : isInRange wall ↔ 0 ≤ wall ∧ wall < limit := by
  simp [isInRange]

namespace Calendar

variable {s : List Char} {text : String} {o : Int} {micros : Nat} {offset : Option Int} {m : Moment}

theorem bounds_of_readOffset? (h : readOffset? s = some o) :
    -Moment.dayLength < o ∧ o < Moment.dayLength := by
  have hday : 0 < Moment.dayLength := by decide
  unfold readOffset? at h
  split at h
  · split at h
    · cases h
      omega
    · cases h
  · next sign s _ =>
    obtain ⟨⟨c, more⟩, -, h⟩ := Option.bind_eq_some_iff.1 h
    dsimp only at h
    split at h
    · cases h
    · generalize hmicros : (if { c with micro := 0 }.micros = 0 then 0 else c.micros : Int) = micros at h
      have hpos : 0 ≤ micros := by
        rw [← hmicros]
        split <;> omega
      split at h
      · next hlt =>
        rw [← Option.some.inj h]
        split <;> omega
      · cases h
  · cases h

theorem bounds_of_readTime? (h : readTime? s = some (micros, some o)) :
    -Moment.dayLength < o ∧ o < Moment.dayLength := by
  unfold readTime? at h
  obtain ⟨⟨c, more⟩, -, h⟩ := Option.bind_eq_some_iff.1 h
  dsimp only at h
  split at h
  · cases h
  · split at h
    · split at h <;> cases h
    · obtain ⟨o', ho', h⟩ := Option.bind_eq_some_iff.1 h
      cases h
      exact bounds_of_readOffset? ho'

theorem isReal_of_isInRange {wall : Int}
    (hoffset : ∀ o, offset = some o → -Moment.dayLength < o ∧ o < Moment.dayLength)
    (h : (if Moment.isInRange wall then some ⟨wall, offset⟩ else none) = some m) : m.IsReal := by
  split at h
  · next hrange =>
    cases h
    exact ⟨hrange, hoffset⟩
  · cases h

/-- A text is read as a real moment, or not at all. -/
theorem isReal_of_readMoment? (h : readMoment? text = some m) : m.IsReal := by
  unfold readMoment? at h
  obtain ⟨n, -, h⟩ := Option.bind_eq_some_iff.1 h
  obtain ⟨day, -, h⟩ := Option.bind_eq_some_iff.1 h
  dsimp only at h
  split at h
  · exact isReal_of_isInRange (by simp) h
  · obtain ⟨⟨micros, offset⟩, htime, h⟩ := Option.bind_eq_some_iff.1 h
    refine isReal_of_isInRange ?_ h
    rintro o rfl
    exact bounds_of_readTime? htime

end Calendar

/-- A moment stands in a document, as a value of its own kind. -/
inductive Document.Holds (m : Moment) : Document → Prop
  | moment : Holds m (.moment m)
  | item {items : List Document} {d : Document} (hmem : d ∈ items) (h : Holds m d) : Holds m (.list items)
  | entry {entries : List (String × Document)} {e : String × Document} (hmem : e ∈ entries)
      (h : Holds m e.2) : Holds m (.map entries)

namespace Document

variable {m m' : Moment} {items : List Document} {entries : List (String × Document)}

theorem holds_moment : Holds m (.moment m') ↔ m' = m :=
  ⟨fun h => by cases h; rfl, fun h => h ▸ .moment⟩

theorem holds_list : Holds m (.list items) ↔ ∃ d ∈ items, Holds m d :=
  ⟨fun h => by cases h with | item hd h => exact ⟨_, hd, h⟩, fun ⟨_, hd, h⟩ => .item hd h⟩

theorem holds_map : Holds m (.map entries) ↔ ∃ e ∈ entries, Holds m e.2 :=
  ⟨fun h => by cases h with | entry he h => exact ⟨_, he, h⟩, fun ⟨_, he, h⟩ => .entry he h⟩

theorem not_holds_text (s : String) : ¬ Holds m (.text s) := by
  rintro ⟨⟩

end Document

namespace Mail

open Document

variable {entries e : List (String × Document)} {key : String} {d d' : Document} {od : Option Document}
  {items : List Document} {m : Moment} {msg : Message} {position : Nat} {t : Thread}
  {threads : List Thread}

theorem holds_of_lookup? (h : lookup? key entries = some d) (hm : Holds m d) : Holds m (.map entries) := by
  obtain ⟨e, he, rfl⟩ := Option.map_eq_some_iff.1 h
  exact .entry (List.mem_of_find?_eq_some he) hm

theorem exists_holds_of_itemsOf (h : itemsOf od = .ok items) (hd : d ∈ items) (hm : Holds m d) :
    ∃ d', od = some d' ∧ Holds m d' := by
  unfold itemsOf at h
  split at h
  · cases h
    cases hd
  · next d' =>
    refine ⟨d', rfl, ?_⟩
    split at h
    · cases h
      cases hd
    · split at h
      · cases h
        exact .item hd hm
      · cases h
        obtain ⟨e, -, rfl⟩ := List.mem_map.1 hd
        exact absurd hm (not_holds_text _)
      · cases h
        obtain ⟨c, -, rfl⟩ := List.mem_map.1 hd
        exact absurd hm (not_holds_text _)
      · cases h

theorem eq_map_of_entriesOf (h : entriesOf d = .ok e) : d = .map e := by
  unfold entriesOf at h
  split at h <;> cases h
  rfl

theorem isReal_or_holds_of_momentOf (h : momentOf od = .ok (some m)) :
    m.IsReal ∨ ∃ d, od = some d ∧ Holds m d := by
  unfold momentOf at h
  split at h
  · cases h
  · cases h
  · cases h
    exact .inr ⟨_, rfl, .moment⟩
  · split at h
    · cases h
    · split at h
      · next hread =>
        cases h
        exact .inl (Calendar.isReal_of_readMoment? hread)
      · cases h

theorem isReal_or_holds_of_messageOf (h : messageOf d = .ok msg) (hm : msg.date = some m) :
    m.IsReal ∨ Holds m d := by
  unfold messageOf at h
  obtain ⟨e, he, h⟩ := exists_of_bind h
  obtain ⟨date, hdate, h⟩ := exists_of_bind h
  obtain ⟨headers, -, h⟩ := exists_of_bind h
  cases h
  obtain rfl : date = some m := hm
  obtain rfl := eq_map_of_entriesOf he
  refine (isReal_or_holds_of_momentOf hdate).imp_right ?_
  rintro ⟨d, hd, hholds⟩
  exact holds_of_lookup? hd hholds

theorem exists_messages_of_threadOf (h : threadOf position d = .ok t) :
    ∃ e items, d = .map e ∧ itemsOf (lookup? "messages" e) = .ok items ∧
      items.mapM messageOf = .ok t.messages := by
  unfold threadOf at h
  obtain ⟨e, he, h⟩ := exists_of_bind h
  obtain ⟨items, hitems, h⟩ := exists_of_bind h
  obtain ⟨messages, hmessages, h⟩ := exists_of_bind h
  dsimp only at h
  by_cases hempty : messages.isEmpty
  · rw [if_pos hempty] at h
    cases h
  · rw [if_neg hempty] at h
    obtain ⟨labels, -, h⟩ := exists_of_bind h
    cases h
    exact ⟨e, items, eq_map_of_entriesOf he, hitems, hmessages⟩

theorem isReal_or_holds_of_threadOf (h : threadOf position d = .ok t) (hmsg : msg ∈ t.messages)
    (hm : msg.date = some m) : m.IsReal ∨ Holds m d := by
  obtain ⟨e, items, rfl, hitems, hmessages⟩ := exists_messages_of_threadOf h
  obtain ⟨item, hitem, hread⟩ := exists_of_mem_mapM hmessages hmsg
  refine (isReal_or_holds_of_messageOf hread hm).imp_right fun hholds => ?_
  obtain ⟨d', hd', hholds⟩ := exists_holds_of_itemsOf hitems hitem hholds
  exact holds_of_lookup? hd' hholds

theorem exists_of_mem_threadsFrom {ds : List Document} (h : threadsFrom position ds = .ok threads)
    (ht : t ∈ threads) : ∃ d ∈ ds, ∃ n, threadOf n d = .ok t := by
  induction ds generalizing position threads with
  | nil =>
    cases h
    cases ht
  | cons d ds ih =>
    unfold threadsFrom at h
    obtain ⟨first, hfirst, h⟩ := exists_of_bind h
    obtain ⟨rest, hrest, h⟩ := exists_of_bind h
    cases h
    rcases List.mem_cons.1 ht with rfl | ht
    · exact ⟨d, List.mem_cons_self, position, hfirst⟩
    · obtain ⟨d', hd', n, hn⟩ := ih hrest ht
      exact ⟨d', List.mem_cons_of_mem d hd', n, hn⟩

/-- The dates of threads that are read are real, if those are which the document holds as such. -/
theorem isReal_of_threadsOf (hreal : ∀ m, Holds m (.map entries) → m.IsReal)
    (h : threadsOf entries = .ok threads) (ht : t ∈ threads) (hmsg : msg ∈ t.messages)
    (hm : msg.date = some m) : m.IsReal := by
  unfold threadsOf at h
  obtain ⟨ds, hds, h⟩ := exists_of_bind h
  obtain ⟨d, hd, n, hread⟩ := exists_of_mem_threadsFrom h ht
  refine (isReal_or_holds_of_threadOf hread hmsg hm).elim id fun hholds => ?_
  obtain ⟨d', hd', hholds⟩ := exists_holds_of_itemsOf hds hd hholds
  exact hreal m (holds_of_lookup? hd' hholds)

end Mail

/-- A session can be built for a run that starts at a moment, and a thread can be looked at in it. -/
def Opens (c : Config) (rules : List Rule) (start : Moment) (t : Thread) : Prop :=
  ∃ s x, Session.starting c rules start = .ok s ∧
    s.oldest = ⟨start.wall - 2 * c.frequency * Moment.minute, start.offset⟩ ∧ s.pending t = .ok x

/-- The moments that the work on a thread comes to are in the calendar: the start of the window and, in
universal time, each moment that is compared with one of which the offset is not known. -/
structure Fits (c : Config) (start : Moment) (t : Thread) : Prop where
  window : 2 * c.frequency * Moment.minute ≤ start.wall
  dates : start.offset = none → ∀ m ∈ t.messages, ∀ d, m.date = some d → d.offset.isSome →
    Moment.isInRange d.instant
  opening : start.offset.isSome → (∃ m ∈ t.messages, ∃ d, m.date = some d ∧ d.offset = none) →
    Moment.isInRange (start.instant - 2 * c.frequency * Moment.minute)

variable {c : Config} {rules : List Rule} {start : Moment} {t : Thread} {s : Session}

/-- The year 2000 begins 1051371360 minutes after the calendar. -/
theorem wall_of_2000 : (Moment.ofDate ⟨2000, 1, 1⟩).wall = 1051371360 * Moment.minute := by
  decide +kernel

theorem Moment.instant_sub (m : Moment) (micros : Int) :
    Moment.instant ⟨m.wall - micros, m.offset⟩ = m.instant - micros :=
  by simp only [instant]; omega

theorem starting_eq_ok_iff (hstart : start.IsReal) : Session.starting c rules start = .ok s ↔
    2 * c.frequency * Moment.minute ≤ start.wall ∧
      s = ⟨c, rules, ⟨start.wall - 2 * c.frequency * Moment.minute, start.offset⟩⟩ := by
  have hlength : (Session.windowSeconds c * Moment.second : Int) = 2 * c.frequency * Moment.minute := by
    simp only [Session.windowSeconds, Moment.minute, Moment.second]
    omega
  have hrange : Moment.isInRange (start.wall - 2 * c.frequency * Moment.minute) ↔
      2 * c.frequency * Moment.minute ≤ start.wall := by
    have hwall := Moment.isInRange_iff.1 hstart.wall
    have hpos : 0 ≤ 2 * c.frequency * Moment.minute := by
      simp only [Moment.minute, Moment.second]
      omega
    rw [Moment.isInRange_iff]
    omega
  unfold Session.starting Moment.before?
  dsimp only
  rw [hlength]
  by_cases hwindow : 2 * c.frequency * Moment.minute ≤ start.wall
  · simp only [hrange.2 hwindow, hwindow, if_true, true_and, Except.ok.injEq, eq_comm]
  · simp [hrange, hwindow]

theorem opens_iff (hstart : start.IsReal) : Opens c rules start t ↔ Fits c start t := by
  have hinstant := Moment.instant_sub start (2 * c.frequency * Moment.minute)
  constructor
  · rintro ⟨s, x, hs, -, hx⟩
    obtain ⟨hwindow, rfl⟩ := (starting_eq_ok_iff hstart).1 hs
    have hdates := exists_pending_iff.1 ⟨x, hx⟩
    refine ⟨hwindow, fun hnone m hm d hd hsome => ?_, fun hsome ⟨m, hm, d, hd, hnone⟩ => ?_⟩
    · by_contra hrange
      exact hdates m hm d hd (.inl ⟨hsome, hnone, hrange⟩)
    · by_contra hrange
      exact hdates m hm d hd (.inr ⟨hnone, hsome, hinstant ▸ hrange⟩)
  · intro hfits
    have hdates : ∀ m ∈ t.messages, ∀ d, m.date = some d →
        ¬ Incomparable ⟨start.wall - 2 * c.frequency * Moment.minute, start.offset⟩ d := by
      rintro m hm d hd (⟨hsome, hnone, hrange⟩ | ⟨hnone, hsome, hrange⟩)
      · exact hrange (hfits.dates hnone m hm d hd hsome)
      · exact hrange (hinstant ▸ hfits.opening hsome ⟨m, hm, d, hd, hnone⟩)
    have hs : Session.starting c rules start = .ok ⟨c, rules, _⟩ :=
      (starting_eq_ok_iff hstart).2 ⟨hfits.window, rfl⟩
    obtain ⟨x, hx⟩ := (exists_pending_iff (s := ⟨c, rules, _⟩)).2 hdates
    exact ⟨_, x, hs, rfl, hx⟩

theorem Moment.IsReal.isInRange_instant {m : Moment} (h : m.IsReal) (hfirst : Moment.dayLength ≤ m.wall)
    (hlast : m.wall < Moment.limit - Moment.dayLength) : Moment.isInRange m.instant := by
  rw [Moment.isInRange_iff, Moment.instant]
  have hwall := Moment.isInRange_iff.1 h.wall
  cases hoffset : m.offset with
  | none => simpa using hwall
  | some o =>
    obtain ⟨hlow, hhigh⟩ := h.offset o hoffset
    rw [Option.getD_some]
    omega

theorem fits_of_inner (hstart : start.IsReal) (hyear : (Moment.ofDate ⟨2000, 1, 1⟩).wall ≤ start.wall)
    (hlast : start.wall < Moment.limit - Moment.dayLength) (hfrequency : c.frequency ≤ 525684960)
    (hdates : ∀ m ∈ t.messages, ∀ d, m.date = some d → Moment.isInRange d.instant) : Fits c start t := by
  rw [wall_of_2000] at hyear
  -- The window starts a day after the calendar at the earliest.
  have hfirst : Moment.dayLength ≤ start.wall - 2 * c.frequency * Moment.minute := by
    simp only [Moment.dayLength, Moment.minute, Moment.second] at hyear ⊢
    omega
  have hwindow : 0 ≤ 2 * c.frequency * Moment.minute := by
    simp only [Moment.minute, Moment.second]
    omega
  have hday : 0 < Moment.dayLength := by decide
  have hrange := Moment.isInRange_iff.1 hstart.wall
  have hopening : Moment.IsReal ⟨start.wall - 2 * c.frequency * Moment.minute, start.offset⟩ :=
    ⟨Moment.isInRange_iff.2 (by dsimp only; omega), hstart.offset⟩
  refine ⟨by omega, fun _ m hm d hd _ => hdates m hm d hd, fun _ _ => ?_⟩
  rw [← Moment.instant_sub]
  exact hopening.isInRange_instant hfirst (by dsimp only; omega)

variable {entries : List (String × Document)} {threads : List Thread}

/-- A thread that was read can be worked on just where the calendar has room for it. In runs from the year
2000 on there is room for all dates but those of the first and the last day of the calendar, as long as a
period is not over 525684960 minutes, half of what lies between the second day and that year. -/
theorem opens_iff_fits (hreal : ∀ m, Document.Holds m (.map entries) → m.IsReal)
    (hthreads : Mail.threadsOf entries = .ok threads) (ht : t ∈ threads) (hstart : start.IsReal)
    (hyear : (Moment.ofDate ⟨2000, 1, 1⟩).wall ≤ start.wall) :
    (Opens c rules start t ↔ Fits c start t) ∧
      (c.frequency ≤ 525684960 → start.wall < Moment.limit - Moment.dayLength →
        (∀ m ∈ t.messages, ∀ d, m.date = some d →
          Moment.dayLength ≤ d.wall ∧ d.wall < Moment.limit - Moment.dayLength) →
        Opens c rules start t) := by
  refine ⟨opens_iff hstart, fun hfrequency hlast hinner => ?_⟩
  rw [opens_iff hstart]
  refine fits_of_inner hstart hyear hlast hfrequency fun m hm d hd => ?_
  obtain ⟨hfirst, hlast⟩ := hinner m hm d hd
  exact (Mail.isReal_of_threadsOf hreal hthreads ht hm hd).isInRange_instant hfirst hlast

def datedEntries (dates : List Document) : List (String × Document) :=
  [("threads", .list [.map [("messages", .list (dates.map fun date => .map [("date", date)]))]])]

def datedThread (dates : List Document) : Thread :=
  ((Mail.threadsOf (datedEntries dates)).toOption.getD []).headD ⟨"", [], [], {}⟩

/-- A noon of our time, by a clock of which the offset is not known. -/
def noon : Moment :=
  (Calendar.readMoment? "2024-03-01T12:00:00").getD ⟨0, none⟩

theorem isReal_noon : noon.IsReal := by
  have hread : Calendar.readMoment? "2024-03-01T12:00:00" = some noon := by decide +kernel
  exact Calendar.isReal_of_readMoment? hread

/-- The second day of the calendar, and half past nine on a day of our time. -/
def openDates : List Document :=
  [.text "0001-01-02T00:00:00+23:59", .moment ⟨63844968600000000, some (-12600000000)⟩]

theorem opens_iff_fits_of_days : ∃ threads, Mail.threadsOf (datedEntries openDates) = .ok threads ∧
    datedThread openDates ∈ threads ∧
      Opens { frequency := 525684960 } [] noon (datedThread openDates) := by
  have hreal : ∀ m, Document.Holds m (.map (datedEntries openDates)) → m.IsReal := by
    intro m hm
    simp only [datedEntries, openDates, Document.holds_map, Document.holds_list, Document.holds_moment,
      Document.not_holds_text, List.map_cons, List.map_nil, List.mem_cons, List.not_mem_nil, or_false,
      exists_eq_left, exists_eq_or_imp, false_or] at hm
    rw [← hm]
    exact ⟨by decide +kernel, fun o ho => by rw [← Option.some.inj ho]; decide⟩
  have hthreads : Mail.threadsOf (datedEntries openDates) = .ok _ := eq_ok_of_isSome (by decide +kernel)
  have ht : datedThread openDates ∈ (Mail.threadsOf (datedEntries openDates)).toOption.getD [] := by
    decide +kernel
  have hinner : ∀ m ∈ (datedThread openDates).messages, ∀ d ∈ m.date,
      Moment.dayLength ≤ d.wall ∧ d.wall < Moment.limit - Moment.dayLength := by decide +kernel
  have hopens : Opens { frequency := 525684960 } [] noon (datedThread openDates) :=
    (opens_iff_fits hreal hthreads ht isReal_noon (by decide +kernel)).2 (by decide) (by decide +kernel) hinner
  exact ⟨_, hthreads, ht, hopens⟩

/-- Dates of the first hours of the calendar are read, and frequencies are whatever their size. -/
theorem not_opens_of_early_date :
    (∃ c threads t, Config.ofDocument none = .ok c ∧
      Mail.threadsOf (datedEntries [.text "0001-01-01T00:00:00+05:00"]) = .ok threads ∧ t ∈ threads ∧
        ¬ Opens c [] noon t) ∧
    ∃ c threads t,
      Config.ofDocument (some (.map [("processing_frequency_in_minutes", .int 600000000)])) = .ok c ∧
        Mail.threadsOf (datedEntries [.text "2024-03-01"]) = .ok threads ∧ t ∈ threads ∧
          ¬ Opens c [] noon t := by
  constructor
  · refine ⟨_, _, datedThread [.text "0001-01-01T00:00:00+05:00"], rfl, eq_ok_of_isSome (by decide +kernel),
      by decide +kernel, fun hopens => ?_⟩
    have hdates : ∀ m ∈ (datedThread [.text "0001-01-01T00:00:00+05:00"]).messages, ∀ d ∈ m.date,
        d.offset.isSome → Moment.isInRange d.instant :=
      ((opens_iff isReal_noon).1 hopens).dates (by decide +kernel)
    revert hdates
    decide +kernel
  · refine ⟨_, _, datedThread [.text "2024-03-01"], rfl, eq_ok_of_isSome (by decide +kernel),
      by decide +kernel, fun hopens => ?_⟩
    have hwindow := ((opens_iff isReal_noon).1 hopens).window
    revert hwindow
    decide +kernel

end MailTriage
