import Mathlib.Data.List.Basic
import MailTriage.Calendar.Iso
import MailTriage.Session

namespace MailTriage

/-- A date that cannot be compared with the start of the window: only one of them has an offset, and that
one is no moment of the calendar in universal time. -/
def Incomparable (oldest d : Moment) : Prop :=
  (d.offset.isSome ∧ oldest.offset = none ∧ ¬ Moment.isInRange d.instant) ∨
    (d.offset = none ∧ oldest.offset.isSome ∧ ¬ Moment.isInRange oldest.instant)

instance (oldest d : Moment) : Decidable (Incomparable oldest d) :=
  inferInstanceAs (Decidable (_ ∨ _))

def Message.isSince (oldest : Moment) (m : Message) : Bool :=
  m.date.all fun d => oldest.instant < d.instant

variable {oldest d : Moment} {date : Option Moment} {ms : List Message} {s : Session} {t : Thread}

theorem Moment.instant_of_offset_eq_none (h : d.offset = none) : d.instant = d.wall := by
  rw [instant, h, Option.getD_none, Int.sub_zero]

theorem isNewer_eq_error_iff :
    isNewer oldest date = .error .outOfRange ↔ ∃ d, date = some d ∧ Incomparable oldest d := by
  cases date with
  | none => simp [isNewer]
  | some d =>
    simp only [isNewer, Incomparable, Moment.universal?, Option.some.injEq, exists_eq_left']
    cases d.offset with
    | none =>
      cases oldest.offset with
      | none => simp
      | some _ => cases Moment.isInRange oldest.instant <;> simp
    | some _ =>
      cases oldest.offset with
      | none => cases Moment.isInRange d.instant <;> simp
      | some _ => simp

/-- Whatever clocks two moments were read off, they are compared as moments of universal time. -/
theorem isNewer_eq_ok (h : ∀ d, date = some d → ¬ Incomparable oldest d) :
    isNewer oldest date = .ok (date.all fun d => oldest.instant < d.instant) := by
  cases date with
  | none => rfl
  | some d =>
    have hd : ¬ Incomparable oldest d := h d rfl
    rw [Option.all_some]
    cases hoffset : d.offset with
    | none =>
      cases hopening : oldest.offset with
      | none => simp only [isNewer, hoffset, hopening]
      | some _ =>
        have hrange : Moment.isInRange oldest.instant := by simpa [Incomparable, hoffset, hopening] using hd
        simp only [isNewer, hoffset, hopening, Moment.universal?, hrange, if_true,
          Moment.instant_of_offset_eq_none hoffset]
    | some _ =>
      cases hopening : oldest.offset with
      | none =>
        have hrange : Moment.isInRange d.instant := by simpa [Incomparable, hoffset, hopening] using hd
        simp only [isNewer, hoffset, hopening, Moment.universal?, hrange, if_true,
          Moment.instant_of_offset_eq_none hopening]
      | some _ => simp only [isNewer, hoffset, hopening]

theorem newerMessages_eq_error_iff : newerMessages oldest ms = .error .outOfRange ↔
    ∃ m ∈ ms, ∃ d, m.date = some d ∧ Incomparable oldest d := by
  induction ms with
  | nil => simp [newerMessages]
  | cons m ms ih =>
    rw [List.exists_mem_cons_iff, ← isNewer_eq_error_iff, ← ih, newerMessages]
    cases isNewer oldest m.date with
    | error e =>
      cases e
      simp [bind, Except.bind]
    | ok newer => cases newerMessages oldest ms <;> simp [bind, Except.bind, pure, Except.pure]

theorem newerMessages_eq_ok (h : ∀ m ∈ ms, ∀ d, m.date = some d → ¬ Incomparable oldest d) :
    newerMessages oldest ms = .ok (ms.filter (·.isSince oldest)) := by
  induction ms with
  | nil => rfl
  | cons m ms ih =>
    rw [List.forall_mem_cons] at h
    rw [newerMessages, isNewer_eq_ok h.1, ih h.2, List.filter_cons]
    rfl

theorem messagesToShow_eq_error_iff : messagesToShow oldest ms = .error .outOfRange ↔
    ∃ m ∈ ms, ∃ d, m.date = some d ∧ Incomparable oldest d := by
  rw [← newerMessages_eq_error_iff, messagesToShow]
  cases newerMessages oldest ms <;> simp [bind, Except.bind, pure, Except.pure]

/-- A thread can be looked at unless one of its dates cannot be compared. -/
theorem pending_eq_error_iff : s.pending t = .error .outOfRange ↔
    ∃ m ∈ t.messages, ∃ d, m.date = some d ∧ Incomparable s.oldest d := by
  rw [← messagesToShow_eq_error_iff, Session.pending, PendingThread.ofThread]
  cases messagesToShow s.oldest t.messages <;> simp [bind, Except.bind, pure, Except.pure]

theorem exists_pending_iff : (∃ x, s.pending t = .ok x) ↔
    ∀ m ∈ t.messages, ∀ d, m.date = some d → ¬ Incomparable s.oldest d := by
  have herror : (∃ x, s.pending t = .ok x) ↔ ¬ s.pending t = .error .outOfRange := by
    cases s.pending t with
    | error e =>
      cases e
      simp
    | ok x => simp
  rw [herror, pending_eq_error_iff]
  push Not
  rfl

/-- A thread of which some messages are looked at. That others are left out is told, with their number. -/
structure Shows (s : Session) (t : Thread) (shown : List Message) (x : PendingThread) : Prop where
  thread : x.thread = t
  views : x.views = shown.map (MessageView.ofMessage (some s.requestedHeaders) t)
  notes : ∃ dropped, dropped + shown.length = t.messages.length ∧
    x.notes = (shown.filter MessageView.isCut).map PendingThread.cutNote ++
      if dropped = 0 then [] else [PendingThread.dropNote dropped t]

theorem messagesToShow_eq_ok (h : ∀ m ∈ ms, ∀ d, m.date = some d → ¬ Incomparable oldest d) :
    messagesToShow oldest ms = .ok (if ms.filter (·.isSince oldest) = [] then ms.getLast?.toList
      else ms.filter (·.isSince oldest)) := by
  simp only [messagesToShow, newerMessages_eq_ok h, ← List.isEmpty_iff]
  rfl

theorem exists_shows_of_messagesToShow {shown : List Message}
    (h : messagesToShow s.oldest t.messages = .ok shown) (hlength : shown.length ≤ t.messages.length) :
    ∃ x, s.pending t = .ok x ∧ Shows s t shown x := by
  refine ⟨_, by rw [Session.pending, PendingThread.ofThread, h]; rfl, rfl, rfl, _, ?_, rfl⟩
  exact Nat.sub_add_cancel hlength

/-- Where all dates can be compared, the messages without a date and those that came after the window opened
are looked at, in their order. If there are none of these, the last message is. -/
theorem pending_shows (hdates : ∀ m ∈ t.messages, ∀ d, m.date = some d → ¬ Incomparable s.oldest d) :
    ∃ shown x, s.pending t = .ok x ∧ Shows s t shown x ∧
      ((∃ m ∈ t.messages, m.isSince s.oldest) → shown = t.messages.filter (·.isSince s.oldest)) ∧
      ((∀ m ∈ t.messages, ¬ m.isSince s.oldest) → shown = t.messages.getLast?.toList) := by
  have hshown := messagesToShow_eq_ok hdates
  by_cases hnone : t.messages.filter (·.isSince s.oldest) = []
  · rw [if_pos hnone] at hshown
    have hlength : t.messages.getLast?.toList.length ≤ t.messages.length := by
      cases t.messages with
      | nil => simp
      | cons m ms => simp [List.getLast?_cons]
    obtain ⟨x, hx, hshows⟩ := exists_shows_of_messagesToShow hshown hlength
    refine ⟨_, x, hx, hshows, fun ⟨m, hm, hsince⟩ => ?_, fun _ => rfl⟩
    exact absurd hsince (List.filter_eq_nil_iff.1 hnone m hm)
  · rw [if_neg hnone] at hshown
    obtain ⟨x, hx, hshows⟩ := exists_shows_of_messagesToShow hshown (List.length_filter_le _ _)
    exact ⟨_, x, hx, hshows, fun _ => rfl, fun hall => absurd (List.filter_eq_nil_iff.2 hall) hnone⟩

/-- Two messages that came as the window opened, two that came a second later, and one without a date. The
clocks of the second and the third are ahead of universal time. -/
def clocksThread : Thread where
  id := "1"
  messages := [
    { author := "a", date := Calendar.readMoment? "2024-03-01T11:50:00" },
    { author := "b", date := Calendar.readMoment? "2024-03-01T13:50:00+02:00" },
    { author := "c", date := Calendar.readMoment? "2024-03-01T13:50:01+02:00" },
    { author := "d" },
    { author := "e", date := Calendar.readMoment? "2024-03-01T11:50:01" }]

def noonSession : Session where
  config := {}
  rules := []
  oldest := (Calendar.readMoment? "2024-03-01T07:50:00-04:00").getD ⟨0, none⟩

theorem pending_shows_of_clocks : ∃ shown x, noonSession.pending clocksThread = .ok x ∧
    Shows noonSession clocksThread shown x ∧ shown.map (·.author) = ["c", "d", "e"] := by
  have hdates : ∀ m ∈ clocksThread.messages, ∀ d ∈ m.date, ¬ Incomparable noonSession.oldest d := by
    decide +kernel
  obtain ⟨shown, x, hx, hshows, hsince, -⟩ := pending_shows hdates
  exact ⟨shown, x, hx, hshows, by rw [hsince (by decide +kernel)]; decide +kernel⟩

end MailTriage
