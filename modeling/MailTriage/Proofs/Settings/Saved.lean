import MailTriage.Command.Run
import MailTriage.Proofs.Files
import MailTriage.Proofs.Settings.Config

namespace MailTriage

namespace Settings

variable {k : Coercion}

/-- The name of a label is what is read of itself; no other text is. -/
theorem readLabel_text_iff {name : String} :
    readLabel k (.text name) = .ok name ↔ Label.IsName name := by
  refine ⟨isName_of_readLabel, fun ⟨htrimmed, hne⟩ => ?_⟩
  have hempty : ¬ name.isEmpty := by simpa using hne
  have hread : k.text (trimText (.text name)) = .ok name :=
    (k.text_eq_ok_iff _ _).2 (by rw [trimText, htrimmed])
  simp only [readLabel, hread, bind, Except.bind, if_neg hempty]
  rfl

theorem readBounded_int_iff {least : Int} {most : Option Int} {n : Nat} (hleast : 0 ≤ least) :
    readBounded k least most (.int n) = .ok n ↔ least ≤ n ∧ ∀ m ∈ most, n ≤ m := by
  refine ⟨bounds_of_readBounded hleast, fun ⟨hn, hmost⟩ => ?_⟩
  have hlarge : ¬ most.any (· < (n : Int)) := by
    cases most with
    | none => simp
    | some m => simpa using hmost m rfl
  simp only [readBounded, k.int_int, bind, Except.bind, if_neg (Int.not_lt.2 hn), if_neg hlarge]
  rfl

end Settings

namespace Config

open Settings

variable {k : Coercion} {entries : List (String × Document)} {c : Config}

theorem ofEntries_toEntries_iff : ofEntries c.toEntries k = .ok c ↔ c.Sound := by
  refine ⟨sound_of_ofEntries, fun hc => ofEntries_eq_ok_iff.2 ?_⟩
  have hfrequency := hc.frequency
  have hhour := hc.checkHour
  have hthreads := hc.maxThreads
  have htext (s : String) : k.text (.text s) = .ok s := (k.text_eq_ok_iff _ _).2 rfl
  refine ⟨?_, ?_, ?_, ?_, ?_, htext c.link, ?_, htext c.listParent, k.bool_bool c.parentLabels, ?_⟩
  · exact readLabel_text_iff.2 hc.unprocessedLabel
  · exact readLabel_text_iff.2 hc.processedLabel
  · exact readLabel_text_iff.2 hc.failedLabel
  · exact (readBounded_int_iff (by decide)).2 ⟨by omega, by simp⟩
  · refine (readBounded_int_iff (by decide)).2 ⟨by omega, ?_⟩
    rintro m ⟨⟩
    omega
  · refine (readBounded_int_iff (by decide)).2 ⟨by omega, ?_⟩
    rintro m ⟨⟩
    omega
  · have hkeys : c.toEntries.map (·.1) = keys := rfl
    exact fun e he => hkeys ▸ List.mem_map_of_mem he

theorem unknownField_mem_of_ofEntries {e : String × Document} (he : e ∈ entries) (hkey : e.1 ∉ keys) :
    ∃ problems, ofEntries entries k = .error problems ∧ (e.1, .unknownField) ∈ problems := by
  cases h : ofEntries entries k with
  | ok c =>
    obtain ⟨-, -, -, -, -, -, -, -, -, hkeys⟩ := ofEntries_eq_ok_iff.1 h
    exact absurd (hkeys e he) hkey
  | error problems =>
    refine ⟨problems, rfl, ?_⟩
    dsimp only [ofEntries] at h
    split_ifs at h
    cases h
    refine List.mem_append_right _ (List.mem_map_of_mem (List.mem_filter.2 ⟨?_, ?_⟩))
    · exact List.mem_map_of_mem he
    · simpa using hkey

theorem ofDocument_map : ofDocument (some (.map entries)) k = (ofEntries entries k).mapError .invalid := by
  cases entries with
  | nil => rfl
  | cons e es => rfl

/-- The document that options are saved as gives them, if and only if they are within their bounds. -/
theorem ofDocument_toDocument_iff : ofDocument (some c.toDocument) k = .ok c ↔ c.Sound := by
  rw [toDocument, ofDocument_map]
  exact ⟨fun h => ofEntries_toEntries_iff.1 (eq_ok_of_mapError h), fun h => by
    rw [ofEntries_toEntries_iff.2 h]
    rfl⟩

end Config

namespace Command

variable {k : Settings.Coercion} {α β : Type} {d d' : Desk} {p : Path} {c : Config} {title : String}

/-- What a task gives, and the desk that it leaves behind. -/
def Task.result (t : Task α) (d : Desk) : Except Ending α × Desk :=
  (t.run.run d).run

theorem result_bind (t : Task α) (next : α → Task β) :
    (t >>= next).result d =
      match t.result d with
      | (.ok a, d') => (next a).result d'
      | (.error e, d') => (.error e, d') := by
  have h : (t >>= next).result d = match t.result d with
      | (r, d') => ((ExceptT.bindCont next r).run d').run := rfl
  rw [h]
  obtain ⟨r, d'⟩ := t.result d
  cases r <;> rfl

theorem result_changeFiles (change : Files → Except FileError Files) :
    (changeFiles change).result d =
      match change d.files with
      | .ok f => (.ok (), { d with files := f })
      | .error e => (.error (.broken (.file e)), d) := by
  have h : (changeFiles change).result d =
      (lift .file (change d.files) >>= setFiles).result d := rfl
  rw [h, result_bind]
  cases change d.files <;> rfl

theorem result_saveConfig_iff : (saveConfig p c).result d = (.ok (), d') ↔
    ∃ f f', d.files.makeFolder p.parent = .ok f ∧ f.write p (.document c.toDocument) = .ok f' ∧
      d' = { d with files := f' } := by
  rw [saveConfig, result_bind, result_changeFiles]
  cases d.files.makeFolder p.parent with
  | error e => simp
  | ok f =>
    simp only [result_changeFiles]
    cases hwrite : f.write p (.document c.toDocument) with
    | error e => simp [hwrite]
    | ok f' => simp [hwrite, eq_comm]

theorem result_loadConfig (hthere : d.files.isThere p) {doc : Document}
    (hread : d.files.read p = .ok (.document doc)) (hc : Config.ofDocument (some doc) k = .ok c) :
    (loadConfig title p k).result d = (.ok c, d) := by
  have hcontent : (content? p).result d = (.ok (some (.document doc)), d) := by
    have h : (content? p).result d = Task.result (if d.files.isThere p then do
        return some (← lift .file (d.files.read p)) else return none) d := rfl
    rw [h, if_pos hthere, hread]
    rfl
  have hdocument : (document? p).result d = (.ok (some doc), d) := by
    rw [document?, result_bind, hcontent]
    rfl
  rw [loadConfig, result_bind, hdocument]
  simp only [hc]
  rfl

/-- What was saved is loaded, and saving it once more leaves the files as they are. -/
theorem loadConfig_of_saveConfig (hc : c.Sound) (h : (saveConfig p c).result d = (.ok (), d')) :
    (loadConfig title p k).result d' = (.ok c, d') ∧
      ∃ d'', (saveConfig p c).result d' = (.ok (), d'') ∧ d''.files.entries = d'.files.entries := by
  obtain ⟨f, f', hfolder, hwrite, rfl⟩ := result_saveConfig_iff.1 h
  obtain ⟨hthere, hread⟩ := Files.read_of_write hwrite
  obtain ⟨f₃, f₄, hfolder', hwrite', hentries⟩ := Files.exists_write_again hfolder hwrite
  exact ⟨result_loadConfig hthere hread (Config.ofDocument_toDocument_iff.2 hc),
    _, result_saveConfig_iff.2 ⟨f₃, f₄, hfolder', hwrite', rfl⟩, hentries⟩

end Command

namespace Config

open Settings Command

/-- Options that a document gives are within their bounds, whatever passes for what in it. What they are
saved as gives the same options; wherever they were saved, they are loaded from there, and saving them once
more changes no file. A document with an unknown key gives no options. -/
theorem kept_of_ofDocument (k : Coercion) (entries : List (String × Document)) :
    (∀ c, ofDocument (some (.map entries)) k = .ok c →
      c.Sound ∧ ofDocument (some c.toDocument) k = .ok c ∧
        ∀ title p d d', (saveConfig p c).result d = (.ok (), d') →
          (loadConfig title p k).result d' = (.ok c, d') ∧
            ∃ d'', (saveConfig p c).result d' = (.ok (), d'') ∧ d''.files.entries = d'.files.entries) ∧
    ∀ e ∈ entries, e.1 ∉ keys →
      ∃ problems, ofDocument (some (.map entries)) k = .error (.invalid problems) ∧
        (e.1, .unknownField) ∈ problems := by
  rw [ofDocument_map]
  refine ⟨fun c h => ?_, fun e he hkey => ?_⟩
  · have hc : c.Sound := sound_of_ofEntries (eq_ok_of_mapError h)
    exact ⟨hc, ofDocument_toDocument_iff.2 hc, fun _ _ _ _ hsaved => loadConfig_of_saveConfig hc hsaved⟩
  · obtain ⟨problems, h, hmem⟩ := unknownField_mem_of_ofEntries he hkey
    exact ⟨problems, by rw [h]; rfl, hmem⟩

/-- Entries in which nothing is written as it is saved. -/
def spelledEntries : List (String × Document) :=
  [("parent_labeling", .text "OFF"), ("max_threads", .text "1_0"),
    ("hour_of_day_to_run_sanity_checking", .float (.ofRatio false 7 1)),
    ("processing_frequency_in_minutes", .text "+5"), ("processed_label", .text "\u2003all done\n")]

def spelledConfig : Config where
  processedLabel := "all done"
  checkHour := 7
  maxThreads := 10
  parentLabels := false

theorem kept_of_ofDocument_spelled :
    let p : Path := ⟨"/", ["home", "config.yaml"]⟩
    let d : Desk := { files := { here := [] } }
    ofDocument (some (.map spelledEntries)) = .ok spelledConfig ∧ spelledConfig.Sound ∧
      (∃ d', (saveConfig p spelledConfig).result d = (.ok (), d') ∧
        (loadConfig "" p).result d' = (.ok spelledConfig, d')) ∧
      ∃ problems, ofDocument (some (.map (("max_thread", .int 5) :: spelledEntries))) =
        .error (.invalid problems) ∧ ("max_thread", .unknownField) ∈ problems := by
  intro p d
  have h : ofDocument (some (.map spelledEntries)) = .ok spelledConfig := by decide +kernel
  obtain ⟨hsound, -, hkept⟩ := (kept_of_ofDocument .lax spelledEntries).1 _ h
  have hsaved : (saveConfig p spelledConfig).result d = (.ok (), _) := rfl
  refine ⟨h, hsound, ⟨_, hsaved, (hkept "" p d _ hsaved).1⟩, ?_⟩
  exact (kept_of_ofDocument .lax _).2 ("max_thread", .int 5) List.mem_cons_self (by decide)

end Config

end MailTriage
