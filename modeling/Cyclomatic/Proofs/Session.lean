import Cyclomatic.Proofs.Json.Text
import Cyclomatic.Proofs.Menu.Dialogue
import Cyclomatic.Proofs.Report
import Cyclomatic.Session

/-!
# What a session shows

A project can be shown as a report, as a listing, in the menu, or by its token profiles. The first three
show the same files: those that rank first by the criterion of the settings (`ShowsFiles`). A file whose
average complexity has no value can break all three of them off (`BreaksOff`), each at the place where it
needs the value. `modes_agree` puts the modes side by side.
-/

set_option autoImplicit false

namespace Cyclomatic.Session

open Console (Answer)

/-! ## Modes -/

/-- The settings for a report. -/
def asReport (settings : Settings) : Settings :=
  { settings with tokens := false, interactive := false, json := true }

/-- The settings for a listing. -/
def asListing (settings : Settings) : Settings :=
  { settings with tokens := false, interactive := false, json := false }

/-- The settings for the menu. -/
def asMenu (settings : Settings) : Settings := { settings with tokens := false, interactive := true }

/-- The settings for the token profiles. -/
def asProfiles (settings : Settings) : Settings := { settings with tokens := true }

variable {m : Type → Type} [Monad m] {host : Host m} {settings : Settings} {c : Criterion}
  {p : Project} {ranked : List SourceFile} {n : Amount}

/-! ## Counts -/

theorem firstItems_amount (n : Amount) (files : List SourceFile) :
    Listing.firstItems n.value files = files.take n.value.toNat := by
  rw [Listing.firstItems, if_pos (by have := n.value_pos; omega)]

theorem count?_eq (hn : settings.topFiles? = some n) : count? settings = some n.value := by
  rw [count?, hn]
  rfl

theorem selected?_view (hn : settings.topFiles? = some n) (files : List SourceFile) :
    Listing.selected? (view settings) files = some (files.take n.value.toNat) := by
  rw [← firstItems_amount, Listing.selected?, view, count?_eq hn]
  rfl

/-! ## Reports and listings -/

theorem showReport_ok {report : String → Json} (hn : settings.topFiles? = some n)
    (h : ∀ date, Report.document date p.index (p.files.take n.value.toNat) = .ok (report date)) :
    showReport host settings p = (do
      let date ← host.date
      host.print (Json.indented 2 (report date) ++ "\n")
      pure (.ok ())) := by
  rw [showReport, count?_eq hn]
  simp only [firstItems_amount, reportText, h, Except.map]

theorem showReport_error (hn : settings.topFiles? = some n)
    (h : ∃ f ∈ p.files.take n.value.toNat, ¬ f.Measurable) :
    showReport host settings p = (do
      let _ ← host.date
      pure (.error (.broken (.metric .tooLarge)))) := by
  rw [showReport, count?_eq hn]
  simp only [firstItems_amount, reportText, Report.document_error h, Except.map]

theorem printListing_ok {printed : Listing.Printed} (h : printed.fault? = none) :
    printListing host printed = (do
      host.print printed.text
      pure (.ok ())) := by
  rw [printListing, h]

theorem printListing_error {printed : Listing.Printed} {fault : Listing.Fault}
    (h : printed.fault? = some fault) :
    printListing host printed = (do
      host.print printed.text
      pure (.error (.broken (.ofListing fault)))) := by
  rw [printListing, h]

/-! ## What is shown -/

section

variable [Console.Terminal]

/-- Logs a ranking of the files of a project. -/
def logRanking (host : Host m) (settings : Settings) (c : Criterion) (p : Project) : m Unit :=
  (tools host settings).emit (Criterion.record (some c) p.files.length)

/-- The report, the listing, and the menu at its first option show these files of a project, in this
order, and no others. -/
structure ShowsFiles (host : Host m) (settings : Settings) (c : Criterion) (p : Project)
    (shown : List SourceFile) : Prop where
  report : ∃ (report : String → Json) (text : String → String),
    (∀ date, Report.Lists p.index shown (report date) ∧
      Json.IsText (report date) (text date).toList) ∧
    render host (asReport settings) p = (do
      logRanking host settings c p
      let date ← host.date
      host.print (text date ++ "\n")
      pure (.ok none))
  listing : ∃ listed : Listing.Listed, listed.Shows (view settings) p.index shown ∧
    (render host (asListing settings) p = do
      logRanking host settings c p
      host.print listed.text
      pure (.ok none)) ∧
    ∃ opened ranked, render host (asMenu settings) p = pure (.ok (some opened)) ∧
      (Menu.start opened).stand = .asking .main ranked ∧
      ∀ text, Text.Writes text 1 →
        answer host settings (.text text) (Menu.start opened).stand = do
          host.print (Console.line "" ++ listed.text ++ Menu.Prompt.main.text (view settings))
          pure (.asking .main ranked)

/-- The report, the listing, and the menu at its first option break off for want of a value. -/
structure BreaksOff (host : Host m) (settings : Settings) (p : Project) : Prop where
  report : ∃ before : m Unit, render host (asReport settings) p = (do
    before
    pure (.error (.broken (.metric .tooLarge))))
  listing : ∃ before : m Unit, render host (asListing settings) p = (do
    before
    pure (.error (.broken (.metric .tooLarge))))
  menu : ∃ opened, render host (asMenu settings) p = pure (.ok (some opened)) ∧
    ∀ text, Text.Writes text 1 →
      ∃ s, (Menu.play (Menu.start opened) [.text text]).turn.stand = .failed (.metric .tooLarge) s

/-- The profiles of these files of a project are shown, numbered from one, and no others. -/
structure ShowsProfiles (host : Host m) (settings : Settings) (p : Project)
    (shown : List SourceFile) : Prop where
  profiles : render host (asProfiles settings) p = do
    logRanking host settings .tokenCount p
    host.print (Console.title "Perfil de tokens" ++
      String.join ((shown.zipIdx 1).map fun (f, rank) => Listing.profile rank f))
    pure (.ok none)
  heads : ∀ f rank, (f, rank) ∈ shown.zipIdx 1 →
    Listing.HeadsProfile rank f (Listing.profile rank f)

/-! ## Outcomes of the modes -/

section

variable [LawfulMonad m]

theorem render_unranked {e : MetricError} (hc : settings.criterion? = some c)
    (ht : settings.tokens = false) (hi : settings.interactive = false)
    (h : p.rankedBy (some c) = .error e) :
    render host settings p = pure (.error (.broken (.metric e))) := by
  rw [render, ht, hi]
  simp only [showRanked, rank, hc, h, pure_bind, Except.map, Bool.false_eq_true, if_false]

section

variable (h : p.rankedBy (some c) = .ok { p with files := ranked }) (hp : ranked.Perm p.files)
  (hc : settings.criterion? = some c) (ht : settings.tokens = false)
  (hi : settings.interactive = false)
include h hp hc ht hi

/-- Without profiles or a menu, the ranking is logged and then the report or the listing is shown. -/
theorem render_ranked :
    render host settings p = (do
      logRanking host settings c p
      (if settings.json then showReport host settings { p with files := ranked }
        else showListing host settings { p with files := ranked }) >>= fun outcome =>
          pure (outcome.map fun _ => none)) := by
  have hshow : showRanked host settings p = (do
      logRanking host settings c p
      if settings.json then showReport host settings { p with files := ranked }
      else showListing host settings { p with files := ranked }) := by
    simp only [showRanked, rank, hc, h, logRanking, hp.length_eq, bind_assoc, pure_bind]
  rw [render, ht, hi, if_neg Bool.false_ne_true, if_neg Bool.false_ne_true, hshow, bind_assoc]

theorem report_ok {report : String → Json} (hn : settings.topFiles? = some n)
    (hj : settings.json = true)
    (hr : ∀ date, Report.document date p.index (ranked.take n.value.toNat) = .ok (report date)) :
    render host settings p = (do
      logRanking host settings c p
      let date ← host.date
      host.print (Json.indented 2 (report date) ++ "\n")
      pure (.ok none)) := by
  rw [render_ranked h hp hc ht hi, if_pos hj, showReport_ok hn hr]
  simp only [bind_assoc, pure_bind, Except.map]

theorem report_error (hn : settings.topFiles? = some n) (hj : settings.json = true)
    (hf : ∃ f ∈ ranked.take n.value.toNat, ¬ f.Measurable) :
    render host settings p = (do
      (do logRanking host settings c p; let _ ← host.date)
      pure (.error (.broken (.metric .tooLarge)))) := by
  rw [render_ranked h hp hc ht hi, if_pos hj,
    showReport_error (p := { p with files := ranked }) hn hf]
  simp only [bind_assoc, pure_bind, Except.map]

theorem listing_ok (hj : settings.json = false)
    (hl : (Listing.files (view settings) p.index ranked).fault? = none) :
    render host settings p = (do
      logRanking host settings c p
      host.print (Listing.files (view settings) p.index ranked).text
      pure (.ok none)) := by
  rw [render_ranked h hp hc ht hi, if_neg (by simp [hj]), showListing, printListing_ok hl]
  simp only [bind_assoc, pure_bind, Except.map]

theorem listing_error (hj : settings.json = false)
    (hl : (Listing.files (view settings) p.index ranked).fault? = some (.metric .tooLarge)) :
    render host settings p = (do
      (do
        logRanking host settings c p
        host.print (Listing.files (view settings) p.index ranked).text)
      pure (.error (.broken (.metric .tooLarge)))) := by
  rw [render_ranked h hp hc ht hi, if_neg (by simp [hj]), showListing, printListing_error hl]
  simp only [bind_assoc, pure_bind, Except.map, Breakdown.ofListing]

end

/-- The profiles of the files that have most tokens are shown. -/
theorem showsProfiles (hn : settings.topFiles? = some n)
    (h : p.rankedBy (some .tokenCount) = .ok { p with files := ranked })
    (hp : ranked.Perm p.files) :
    ShowsProfiles host settings p (ranked.take n.value.toNat) := by
  have hn : (asProfiles settings).topFiles? = some n := hn
  refine ⟨?_, fun f rank _ => Listing.headsProfile_profile rank f⟩
  rw [render, if_pos (show (asProfiles settings).tokens = true from rfl)]
  simp only [showProfiles, rank, h, hp.length_eq, bind_assoc, pure_bind, count?_eq hn,
    Listing.profiles, firstItems_amount, Listing.profilesFrom_eq, printListing, Except.map]
  -- the mode of the settings does not matter to the log
  rfl

end

/-! ## The menu -/

/-- The menu as it is opened on a project. -/
def opened (settings : Settings) (p : Project) : Menu.State :=
  { project := p, view := view settings, criterion? := settings.criterion? }

theorem render_menu (ht : settings.tokens = false) (hi : settings.interactive = true) :
    render host settings p = pure (.ok (some (opened settings p))) := by
  rw [render, ht, hi]
  rfl

theorem stand_start (hc : settings.criterion? = some c)
    (h : p.rankedBy (some c) = .ok { p with files := ranked }) :
    (Menu.start (opened settings p)).stand =
      .asking .main (opened settings { p with files := ranked }) := by
  simp only [Menu.start, opened, hc, h]
  rfl

theorem step_list {text : String} (h : Text.Writes text 1) (s : Menu.State) :
    Menu.step s .main (.text text) = Menu.list s s (Console.line "") := by
  have hone : Console.readNumber text = .ok 1 := Console.readNumber_eq_ok_iff.2 h
  exact Menu.step_number (by decide) hone

theorem answer_list [LawfulMonad m] {text : String} {s : Menu.State}
    (h : Text.Writes text 1)
    (hl : (Listing.files s.view s.project.index s.project.files).fault? = none) :
    answer host settings (.text text) (.asking .main s) = (do
      host.print (Console.line "" ++
        (Listing.files s.view s.project.index s.project.files).text ++
        Menu.Prompt.main.text s.view)
      pure (.asking .main s)) := by
  rw [answer, step_list h, Menu.list]
  simp only [hl, Menu.ask, follow, List.forM_eq_forM, List.forM_nil, pure_bind]

theorem stand_list_error {text : String} {s : Menu.State} {fault : Listing.Fault} {turn : Menu.Turn}
    (h : Text.Writes text 1) (ht : turn.stand = .asking .main s)
    (hl : (Listing.files s.view s.project.index s.project.files).fault? = some fault) :
    (Menu.play turn [.text text]).turn.stand = .failed fault s := by
  rw [Menu.play_of_asking ht, step_list h, Menu.list]
  simp only [hl]
  rfl

theorem stand_unranked {a : Answer} {e : MetricError} (hc : settings.criterion? = some c)
    (h : p.rankedBy (some c) = .error e) :
    (Menu.play (Menu.start (opened settings p)) [a]).turn.stand =
      .failed (.metric e) (opened settings p) := by
  simp only [Menu.start, opened, hc, h, Menu.play]

/-! ## All modes -/

section

variable [LawfulMonad m]

/-- If the files that rank first have average complexities, every mode shows them. -/
theorem showsFiles (hc : settings.criterion? = some c) (hn : settings.topFiles? = some n)
    (h : p.rankedBy (some c) = .ok { p with files := ranked }) (hp : ranked.Perm p.files)
    (hm : ∀ f ∈ ranked.take n.value.toNat, f.Measurable) :
    ShowsFiles host settings c p (ranked.take n.value.toNat) := by
  choose report hreport hlists using @Report.exists_document p.index _ hm
  have htext (date : String) := Json.isText_indented 2 (report date)
  have hshows : (Listing.files (view settings) p.index ranked).Shows _ _ _ :=
    Listing.files_shows (selected?_view hn ranked) hm
  have hl := hshows.fault
  have hreport : render host (asReport settings) p = _ :=
    report_ok h hp (by exact hc) rfl rfl (by exact hn) rfl hreport
  have hstand : (Menu.start (opened (asMenu settings) p)).stand = _ := stand_start hc h
  have hlisting : render host (asListing settings) p = _ :=
    listing_ok h hp (by exact hc) rfl rfl rfl hl
  refine ⟨⟨report, _, fun date => ⟨hlists date, htext date⟩, hreport⟩, _, hshows, hlisting,
    opened (asMenu settings) p, _, render_menu rfl rfl, hstand, fun text ht => ?_⟩
  rw [hstand]
  exact answer_list ht hl

/-- If one of them has none, every mode breaks off. -/
theorem breaksOff (hc : settings.criterion? = some c) (hn : settings.topFiles? = some n)
    (h : p.rankedBy (some c) = .ok { p with files := ranked }) (hp : ranked.Perm p.files)
    (hm : ∃ f ∈ ranked.take n.value.toNat, ¬ f.Measurable) :
    BreaksOff host settings p := by
  have hfault : (Listing.files (view (asListing settings)) p.index ranked).fault? =
      some (.metric .tooLarge) :=
    Listing.fault?_files (selected?_view hn ranked) hm
  exact ⟨⟨_, report_error h hp hc rfl rfl hn rfl hm⟩, ⟨_, listing_error h hp hc rfl rfl rfl hfault⟩,
    opened (asMenu settings) p, render_menu rfl rfl, fun text ht =>
      ⟨_, stand_list_error ht (stand_start hc h) hfault⟩⟩

theorem breaksOff_of_unranked (hc : settings.criterion? = some c)
    (h : p.rankedBy (some c) = .error .tooLarge) : BreaksOff host settings p := by
  have hnone (s : Settings) (hc : s.criterion? = some c) (ht : s.tokens = false)
      (hi : s.interactive = false) : ∃ before : m Unit, render host s p = (do
        before
        pure (.error (.broken (.metric .tooLarge)))) :=
    ⟨pure (), by rw [render_unranked hc ht hi h, pure_bind]⟩
  exact ⟨hnone _ hc rfl rfl, hnone _ hc rfl rfl, opened (asMenu settings) p, render_menu rfl rfl,
    fun _ _ => ⟨_, stand_unranked hc h⟩⟩

/-- **All modes show the same files**: the first of the project in descending order of the criterion,
files with equal keys as the project has them. Listings number them, and tell how many they are. -/
theorem modes_agree (host : Host m) (settings : Settings) (p : Project)
    (hc : settings.criterion? = some c) (hn : settings.topFiles? = some n) :
    ((∃ ranked, c.Known p.index p.files ∧ Ranks (c.value p.index) p.files ranked ∧
        ShowsFiles host settings c p (ranked.take n.value.toNat)) ∨
      (∃ f ∈ p.files, ¬ f.Measurable) ∧ BreaksOff host settings p) ∧
    (∃ ranked, Ranks (Criterion.tokenCount.value p.index) p.files ranked ∧
      ShowsProfiles host settings p (ranked.take n.value.toNat)) ∧
    ∀ view files shown, Listing.selected? view files = some shown →
      (∀ f ∈ shown, f.Measurable) → (Listing.files view p.index files).Shows view p.index shown := by
  refine ⟨?_, ?_, fun view files shown => Listing.files_shows⟩
  · rcases Project.rankedBy_ok_or_error c p with ⟨ranked, hk, hr, h⟩ | ⟨hf, h⟩
    -- only the files that are shown need averages; the others need them for the ranking, if at all
    · by_cases hm : ∀ f ∈ ranked.take n.value.toNat, f.Measurable
      · exact .inl ⟨ranked, hk, hr, showsFiles hc hn h hr.perm hm⟩
      · push Not at hm
        obtain ⟨f, hf, hfm⟩ := hm
        exact .inr ⟨⟨f, hr.perm.mem_iff.1 (List.mem_of_mem_take hf), hfm⟩,
          breaksOff hc hn h hr.perm ⟨f, hf, hfm⟩⟩
    · exact .inr ⟨hf, breaksOff_of_unranked hc h⟩
  · obtain ⟨ranked, h, hr⟩ := Project.exists_rankedBy (c := .tokenCount) (p := p) fun _ _ => ⟨_, rfl⟩
    exact ⟨ranked, hr, showsProfiles hn h hr.perm⟩

end

end

/-- A machine without files, whose terminal keeps what it shows. -/
def machine : Host (StateM String) where
  access :=
    { directory? := fun _ => pure none
      isDirectory := fun _ => pure (.ok false)
      read := fun path => pure (.error ⟨.missing, path⟩)
      makeDirectory := fun path => pure (.error ⟨.missing, path⟩)
      write := fun path _ => pure (.error ⟨.missing, path⟩)
      append := fun path _ => pure (.error ⟨.missing, path⟩)
      now := pure 0 }
  here := "/"
  clock := pure 0
  memory := pure none
  newOperation := pure "1"
  time := pure ""
  moment := pure ""
  date := pure ""
  print s := modify (· ++ s)
  complain s := modify (· ++ s)

/-- One file is to be shown, by dependencies. -/
def oneByDependencies : Settings :=
  { criterion? := some .dependencies, topFiles? := some ⟨1, by decide⟩ }

theorem modes_agree_of_twoFiles :
    ShowsFiles machine oneByDependencies .dependencies Menu.twoFiles.project
      (Menu.twoFiles.project.files.drop 1) := by
  obtain ⟨⟨ranked, -, hr, hshows⟩ | ⟨⟨f, hf, hn⟩, -⟩, -⟩ :=
    modes_agree machine oneByDependencies Menu.twoFiles.project rfl rfl
  · have hreverse : Ranks (Criterion.dependencies.value Menu.twoFiles.project.index)
        Menu.twoFiles.project.files Menu.twoFiles.project.files.reverse := by
      refine ⟨List.reverse_perm _, by decide +kernel, fun k => ?_⟩
      -- the keys are 0 and 1, so no more than one file has the key
      rcases (by omega : k = 0 ∨ k = 1 ∨ (0 ≠ k ∧ 1 ≠ k)) with rfl | rfl | ⟨h0, h1⟩
      · rfl
      · rfl
      · simp [Menu.twoFiles, Project.ofFiles, Criterion.value, h0, h1]
    rw [hr.unique hreverse] at hshows
    exact hshows
  · exact absurd (Menu.measurable_twoFiles f hf) hn

end Cyclomatic.Session
