import BoundedPipelining.Demo.Outcome
import BoundedPipelining.Proofs.Demo.Progress
import BoundedPipelining.Proofs.Settings.Loading
import BoundedPipelining.Proofs.Settings.Rules

/-!
# The report of a command line

What the program ends with, for every number of requests and every depth, and for every order in
which the background tasks are polled. `outcomeOf` spells out what the report says of each request,
`Report.IsExpected` the report as a whole, and `Demo.ReachesReport` in which sense a demonstration
gets there: no order of events leads to another report, none leads to a dead end, and every fair one
leads to the report.

Around the demonstration stand the checks of the depth. A configuration is checked as it is read,
and an option that takes the place of its depth comes too late for that; the connection checks the
depth that results. Between the two the log and the metrics are set up, which can fail, and there is
no report on more requests than there is memory for.
-/

namespace BoundedPipelining

/-! ## Texts as bytes -/

namespace Demo

/-- A text of small characters is read back from its bytes. -/
theorem asciiText_asciiBytes {text : String} (h : ∀ c ∈ text.toList, c.toNat < 256) :
    asciiText (asciiBytes text) = text := by
  have hbytes : (asciiBytes text).map (fun x ↦ Char.ofNat x.toNat) = text.toList := by
    rw [asciiBytes, List.map_map]
    refine (List.map_congr_left fun c hc ↦ ?_).trans (List.map_id _)
    rw [Function.comp_apply, UInt8.toNat_ofNat_of_lt' (h c hc), Char.ofNat_toNat]
    rfl
  rw [asciiText, hbytes, String.ofList_toList]

theorem toNat_lt_of_mem_toString {n : Nat} {c : Char} (h : c ∈ (toString n).toList) :
    c.toNat < 256 := by
  rw [Nat.toString_eq_repr, Nat.toList_repr] at h
  have hdigit := Nat.isDigit_of_mem_toDigits (by decide) (by decide) h
  have hle : c.val ≤ '9'.val := by
    rw [Char.isDigit, Bool.and_eq_true, decide_eq_true_iff, decide_eq_true_iff] at hdigit
    exact hdigit.2
  exact Nat.lt_of_le_of_lt (UInt32.le_iff_toNat_le.mp hle) (by decide)

theorem asciiText_answerTo (request : Nat) :
    asciiText (answerTo (requestOf request)) = "payload for /item/" ++ toString request := by
  have htext : "payload for " ++ target request = "payload for /item/" ++ toString request := by
    rw [target, ← String.append_assoc]
    rfl
  rw [answerTo, requestOf, htext]
  refine asciiText_asciiBytes fun c hc ↦ ?_
  rw [String.toList_append, List.mem_append] at hc
  rcases hc with hliteral | hnumber
  · have hsmall : ("payload for /item/".toList.all fun c ↦ decide (c.toNat < 256)) = true := by
      decide +kernel
    exact of_decide_eq_true (List.all_eq_true.mp hsmall c hliteral)
  · exact toNat_lt_of_mem_toString hnumber

/-! ## What the report says -/

/-- What the report of a scenario says of a request, on a connection of depth `depth`. -/
def outcomeOf (x : Scenario) (depth request : Nat) : String :=
  if depth ≤ request then
    "LimitExceeded (retryable: false): max pipelined requests exceeded: " ++ toString depth
      ++ " already in flight on conn-1"
  else
    match x with
    | .drain => "ok: payload for /item/" ++ toString request
    | .graceful =>
      if request = 0 then "ok: last one"
      else "GracefulCloseInterrupted (retryable: true): connection closed: graceful peer close, "
        ++ "request interrupted (retryable: true)"
    | .abrupt =>
      "AbruptChannelClosed (retryable: true): connection closed: abrupt channel close "
        ++ "(retryable: true)"

theorem failedWith_limitExceeded (max : Nat) : failedWith (.limitExceeded ⟨max⟩) =
    "LimitExceeded (retryable: false): max pipelined requests exceeded: " ++ toString max
      ++ " already in flight on conn-1" := by
  -- The texts around the number are evaluated apart from it.
  have hregroup (a b c d e : String) : a ++ (b ++ c ++ d ++ e) = a ++ b ++ c ++ (d ++ e) := by
    simp only [String.append_assoc]
  have hhead : "LimitExceeded" ++ " (retryable: " ++ toString false ++ "): "
      ++ "max pipelined requests exceeded: "
      = "LimitExceeded (retryable: false): max pipelined requests exceeded: " := by
    decide +kernel
  have htail : " already in flight on " ++ connectionId.text = " already in flight on conn-1" := by
    decide +kernel
  rw [← hhead, ← htail]
  exact hregroup _ _ _ _ _

theorem answeredWith_lastOne : answeredWith (asciiBytes "last one") = "ok: last one" := by
  decide +kernel

theorem failedWith_graceful : failedWith (.closed (closeError .graceful)) =
    "GracefulCloseInterrupted (retryable: true): connection closed: graceful peer close, "
      ++ "request interrupted (retryable: true)" := by
  decide +kernel

theorem failedWith_abrupt : failedWith (.closed (closeError .abrupt)) =
    "AbruptChannelClosed (retryable: true): connection closed: abrupt channel close "
      ++ "(retryable: true)" := by
  decide +kernel

variable {x : Scenario} {m : Depth} {n r : Nat} {d : Demo}

/-- What is noted of a request is what the report has to say of it. -/
theorem noted_eq_outcomeOf {request : Nat} (h : request < n) :
    noted x m n request = outcomeOf x m.val request := by
  unfold noted outcomeOf
  by_cases hm : m.val ≤ request
  · rw [if_pos hm, if_pos hm, failedWith_limitExceeded]
  · rw [if_neg hm, if_neg hm]
    cases x with
    | drain =>
      have hserved : request < served .drain m n := Nat.lt_min.mpr ⟨h, Nat.not_le.mp hm⟩
      rw [if_pos hserved, answeredWith, bodyOf, asciiText_answerTo, ← String.append_assoc]
      rfl
    | graceful =>
      have hserved : served .graceful m n = 1 := Nat.min_eq_right (Nat.zero_lt_of_lt h)
      simp only [hserved, Nat.lt_one_iff]
      by_cases hzero : request = 0
      · rw [if_pos hzero, if_pos hzero]
        exact answeredWith_lastOne
      · rw [if_neg hzero, if_neg hzero]
        exact failedWith_graceful
    | abrupt =>
      have hserved : ¬ request < served .abrupt m n := Nat.not_lt_zero request
      rw [if_neg hserved]
      exact failedWith_abrupt

end Demo

/-- The report that a scenario of `n` requests has to end with on a connection of depth `depth`. -/
structure Report.IsExpected (x : Scenario) (depth n : Nat) (r : Report) : Prop where
  scenario : r.scenario = x
  outcomes : r.outcomes = (List.range n).map (Demo.outcomeOf x depth)
  before : r.before =
    { state := .opened
      inFlight := min n depth
      max := depth
      pending := (List.range (min n depth)).map fun i ↦ ⟨⟨i + 1⟩, .dispatched⟩ }
  inFlight : r.after.inFlight = 0
  pending : r.after.pending = []

/-! ## Getting there -/

namespace Demo

/-- However its moves and the polls of its background tasks follow one another, a demonstration gets
to a report with a property: it has the property if it is reached, it is reached under every fair
schedule, and the demonstration can be played to it from wherever it has come. -/
structure ReachesReport (d : Demo) (P : Report → Prop) : Prop where
  reached : ∀ events, (d.run events).stage = .done → P (.ofDemo (d.run events))
  eventually : ∀ σ, Fair d.requests σ →
    ∃ k, ∀ k' ≥ k, (d.run (prefixOf σ k')).stage = .done ∧ P (.ofDemo (d.run (prefixOf σ k')))
  finish : ∀ events, (d.run events).finish.stage = .done ∧ P (.ofDemo (d.run events).finish)

theorem served_le (x : Scenario) (m : Depth) (n : Nat) : served x m n ≤ n := by
  cases x with
  | drain | graceful => exact Nat.min_le_left _ _
  | abrupt => exact Nat.zero_le n

namespace Course

theorem requests_eq (h : Course x m n d r) : d.requests = n := by
  cases h <;> rfl

/-- A demonstration that has come to its end has the report that it has to end with. -/
theorem report (h : Course x m n d r) (hdone : d.stage = .done) :
    (Report.ofDemo d).IsExpected x m.val n := by
  cases h with
  | done h =>
    exact {
      scenario := rfl
      outcomes := List.map_congr_left fun i hi ↦ noted_eq_outcomeOf (List.mem_range.mp hi)
      before := rfl
      inFlight := h.idle rfl
      pending := h.pendingExchanges_eq_nil rfl }
  | issuing | answering | turning | awaiting | draining | resting => cases hdone

end Course

/-- On a fresh connection every demonstration gets to the report that it has to end with. -/
theorem reachesReport_ofDepth (x : Scenario) (m : Depth) (n : Nat) (policy : ClosingPolicy) :
    ReachesReport { scenario := x, requests := n, connection := Connection.ofDepth m policy }
      (Report.IsExpected x m.val n) := by
  have hstart := course_start x m n policy
  refine ⟨fun events hdone ↦ ?_, fun σ hfair ↦ ?_, fun events ↦ ?_⟩
  · obtain ⟨r, -, h⟩ := hstart.run events
    exact h.report hdone
  · obtain ⟨k, hk⟩ := hstart.eventually_done hfair
    refine ⟨k, fun k' hle ↦ ?_⟩
    have hdone := (hk k' hle).stage_eq_done_iff.mpr rfl
    exact ⟨hdone, (hk k' hle).report hdone⟩
  · obtain ⟨r, hle, h⟩ := hstart.run events
    have hserved := served_le x m n
    have henough : r ≤ 5 * n + 6 := by omega
    have hfinished := h.play henough
    rw [finish, moveCount, h.requests_eq]
    have hdone := hfinished.stage_eq_done_iff.mpr rfl
    exact ⟨hdone, hfinished.report hdone⟩

/-- The schedule that comes to everyone in turn. -/
def roundRobin (p k : Nat) : Event :=
  match k % (p + 2) with
  | 0 => .move
  | 1 => .poll .monitor
  | i + 2 => .poll (.dispatch i)

theorem fair_roundRobin (p : Nat) : Fair p (roundRobin p) := by
  -- Everyone's turn comes once in every round, and a round begins after every point.
  have hturn (i : Nat) (hi : i < p + 2) (k : Nat) : ∃ k' ≥ k, k' % (p + 2) = i := by
    refine ⟨(p + 2) * k + i, ?_, ?_⟩
    · exact Nat.le_trans (Nat.le_mul_of_pos_left k (Nat.succ_pos _)) (Nat.le_add_right _ _)
    · rw [Nat.mul_add_mod, Nat.mod_eq_of_lt hi]
  refine ⟨fun k ↦ ?_, fun k ↦ ?_, fun i hi k ↦ ?_⟩
  · obtain ⟨k', hle, hk'⟩ := hturn 0 (Nat.succ_pos _) k
    exact ⟨k', hle, by rw [roundRobin, hk']⟩
  · obtain ⟨k', hle, hk'⟩ := hturn 1 (by omega) k
    exact ⟨k', hle, by rw [roundRobin, hk']⟩
  · obtain ⟨k', hle, hk'⟩ := hturn (i + 2) (by omega) k
    exact ⟨k', hle, by rw [roundRobin, hk']⟩

end Demo

/-! ## The depth -/

/-- The settings that a configuration file gives, be they valid or not. -/
def FileContent.settings? : FileContent → Option Settings
  | .missing | .directory => none
  | .bytes content => do
    let text ← String.fromUTF8? content
    let table ← Toml.read? text
    (Settings.ofTable table).toOption

theorem Settings.ofFile_of_settings? {content : FileContent} {s : Settings}
    (h : content.settings? = some s) : Settings.ofFile content = s.checked := by
  cases content with
  | missing | directory => cases h
  | bytes content =>
    obtain ⟨text, htext, h⟩ := Option.bind_eq_some_iff.mp h
    obtain ⟨table, htable, h⟩ := Option.bind_eq_some_iff.mp h
    rw [Settings.ofFile, htext]
    simp only [Settings.ofText, htable]
    cases hs : Settings.ofTable table with
    | error e =>
      rw [hs] at h
      cases h
    | ok s' =>
      rw [hs] at h
      cases h
      rfl

/-- Settings without room for any exchange are refused, for that reason before any other. -/
theorem Settings.checked_of_zero {s : Settings} {es : List ValidationError}
    (h : s.connection.maxPipelined = 0) (hvalidate : s.validate = .ok es) :
    ∃ es', es = .zeroPipelineDepth :: es' ∧ s.checked = .error (.invalid es) := by
  have hdepth : s.depthErrors = [.zeroPipelineDepth] := by
    simp [depthErrors, ConnectionSettings.depth, ConnectionSettings.depth?, Depth.ofNat?, h]
  have hes : ∃ es', es = .zeroPipelineDepth :: es' := by
    rw [validate, hdepth] at hvalidate
    cases hfilter : s.filterErrors with
    | error c =>
      rw [hfilter] at hvalidate
      cases hvalidate
    | ok filter =>
      rw [hfilter] at hvalidate
      cases hvalidate
      exact ⟨filter ++ s.addressErrors, rfl⟩
  obtain ⟨es', rfl⟩ := hes
  exact ⟨es', rfl, checked_of_ne_nil hvalidate (List.cons_ne_nil _ _)⟩

theorem Connection.ofSettings_zero (s : ConnectionSettings) :
    Connection.ofSettings { s with maxPipelined := 0 } = .error .zeroPipelineDepth := rfl

/-! ## Setting up -/

/-- Where every piece of a log filter can be read, none is cut inside a character. -/
theorem FilterDirective.exists_soundOfText_eq {filter : String} {ds : List FilterDirective}
    (h : listOfText filter = .ok ds) : ∃ ds', soundOfText filter = .ok ds' := by
  have hsound : ∃ ds', (pieces filter).mapM ofSoundText = .ok ds' := by
    refine exists_mapM_eq_ok_iff.mpr fun p hp ↦ ?_
    obtain ⟨d, hd⟩ := exists_mapM_eq_ok_iff.mp ⟨ds, h⟩ p hp
    exact ⟨some d, by rw [ofSoundText, hd]⟩
  obtain ⟨ds', hds'⟩ := hsound
  refine ⟨ds'.reduceOption, ?_⟩
  rw [soundOfText, ← pieces, hds']
  rfl

namespace Surroundings

variable {w : Surroundings} {s : Settings} {n : Nat}

/-- The log filter of the environment, if it has one, is not cut inside a character. -/
def IsJudgeable (w : Surroundings) : Prop :=
  ∀ text, w.filter = some text → ∀ offset cut,
    FilterDirective.listOfText text ≠ .error (.splitsCharacter offset cut)

/-- The log can be installed and, where metrics are wanted, their address be listened on. -/
structure Suits (w : Surroundings) (s : ObservabilitySettings) : Prop where
  log : w.logError? s.logFormat = none
  listener : s.metricsEnabled = true → ∀ a, SocketAddress.ofText? s.metricsAddress.toList = some a →
    w.listenError? a = none

/-- So many requests meet no shortage, except perhaps at a list that is too long. -/
def HasRoomFor (w : Surroundings) (n : Nat) : Prop :=
  ∀ u, w.shortage? u n = none

theorem exists_logFilter_eq (hw : w.IsJudgeable) (hs : s.validate = .ok []) :
    ∃ ds, w.logFilter s.observability = .ok ds := by
  have hconfigured : ∃ ds, FilterDirective.soundOfText s.observability.logLevel = .ok ds := by
    have hfilter := (Settings.validate_eq_nil_iff.mp hs).2.1
    rw [Settings.filterErrors] at hfilter
    split at hfilter
    · rename_i ds hds
      exact FilterDirective.exists_soundOfText_eq hds
    · cases hfilter
    · cases hfilter
  unfold logFilter
  cases hown : w.filter with
  | none => exact hconfigured
  | some text =>
    cases hread : FilterDirective.listOfText text with
    | ok ds => exact ⟨ds, by simp only [Option.map_some, hread]⟩
    | error e =>
      cases e with
      | splitsCharacter offset cut => exact absurd hread (hw text hown offset cut)
      | malformed | unknownLevel => simpa only [Option.map_some, hread] using hconfigured

/-- The log comes first. -/
theorem setUp_of_logError (hw : w.IsJudgeable) (hs : s.validate = .ok []) {e : String}
    (he : w.logError? s.observability.logFormat = some e) :
    w.setUp s.observability = .error (.log e) := by
  obtain ⟨ds, hds⟩ := exists_logFilter_eq hw hs
  simp only [setUp, initLog, hds, he]

theorem setUp_of_listenError (hw : w.IsJudgeable) (hs : s.validate = .ok []) {a : SocketAddress}
    {e : String} (hlog : w.logError? s.observability.logFormat = none)
    (hwanted : s.observability.metricsEnabled = true)
    (ha : SocketAddress.ofText? s.observability.metricsAddress.toList = some a)
    (he : w.listenError? a = some e) : w.setUp s.observability = .error (.metrics e) := by
  obtain ⟨ds, hds⟩ := exists_logFilter_eq hw hs
  have hmetrics : w.metricsError? s.observability = some e := by
    rw [metricsError?, if_pos hwanted, ha, Option.bind_some, he]
  simp only [setUp, initLog, hds, hlog, hmetrics]

theorem Suits.exists_setUp_eq (hw : w.IsJudgeable) (hs : s.validate = .ok [])
    (h : w.Suits s.observability) : ∃ ds, w.setUp s.observability = .ok ds := by
  obtain ⟨ds, hds⟩ := exists_logFilter_eq hw hs
  have hmetrics : w.metricsError? s.observability = none := by
    rw [metricsError?]
    split
    · rename_i hwanted
      exact Option.bind_eq_none_iff.mpr (h.listener hwanted)
    · rfl
  exact ⟨ds, by simp only [setUp, initLog, hds, h.log, hmetrics]⟩

/-! ## Memory -/

/-- The least number of requests that there cannot be a list of texts for. -/
def capacity : Nat := 384307168202282326

theorem shortageAt?_eq_none_iff {u : Storage} :
    w.shortageAt? n u = none ↔ u.listBytes n ≤ maxBytes ∧ w.shortage? u n = none := by
  rw [shortageAt?]
  split
  · rename_i hlong
    exact iff_of_false nofun fun h ↦ Nat.not_le.mpr hlong h.1
  · rename_i hfits
    rw [and_iff_right (Nat.not_lt.mp hfits)]

/-- A text takes more bytes than a response, so the list of the texts sets the bound. -/
theorem forall_listBytes_le_iff : (∀ u : Storage, u.listBytes n ≤ maxBytes) ↔ n < capacity := by
  refine ⟨fun h ↦ ?_, fun h u ↦ ?_⟩
  · have htexts := h .outcomes
    simp only [Storage.listBytes, maxBytes] at htexts
    simp only [capacity]
    omega
  · simp only [capacity] at h
    cases u with
    | responses | exchanges | outcomes | report =>
      simp only [Storage.listBytes, maxBytes]
      omega

theorem firstShortage?_eq_none_iff :
    w.firstShortage? n = none ↔ n < capacity ∧ w.HasRoomFor n := by
  have hall (u : Storage) :
      u ∈ ([.responses, .exchanges, .outcomes, .report] : List Storage) := by
    cases u <;> decide
  rw [firstShortage?, List.findSome?_eq_none_iff, ← forall_listBytes_le_iff, HasRoomFor,
    ← forall_and]
  exact forall_congr' fun u ↦ ⟨fun h ↦ shortageAt?_eq_none_iff.mp (h (hall u)),
    fun h _ ↦ shortageAt?_eq_none_iff.mpr h⟩

end Surroundings

/-! ## The command line -/

namespace Outcome

/-- The settings that a command line starts from, be they valid or not: those of its configuration,
or the defaults. -/
def read? (files : String → FileContent) (o : Options) : Option Settings :=
  match o.config with
  | none => some {}
  | some path => (files path).settings?

variable {files : String → FileContent} {o : Options} {loaded : Settings}

theorem withDepth_eq (s : Settings) (depth? : Option Nat) : withDepth s depth? =
    { s with connection :=
      { s.connection with maxPipelined := depth?.getD s.connection.maxPipelined } } := by
  cases depth? <;> rfl

/-- What is read is checked before an option takes the place of its depth. -/
theorem settingsOf_eq (h : read? files o = some loaded) :
    settingsOf files o = loaded.checked.map fun s ↦ withDepth s o.maxPipelined := by
  rw [settingsOf]
  rw [read?] at h
  cases hconfig : o.config with
  | none =>
    rw [hconfig] at h
    cases h
    rw [Settings.checked_eq_ok_iff.mpr ⟨rfl, by decide +kernel⟩]
  | some path =>
    rw [hconfig] at h
    simp only [Settings.ofFile_of_settings? h]

/-- Valid settings go through the checks unchanged. -/
theorem ofCommand_of_valid (hread : read? files o = some loaded) (hvalid : loaded.validate = .ok [])
    (w : Surroundings) (x : Scenario) : ofCommand files (some (.run o x)) w =
      ofSettings w { loaded with connection := { loaded.connection with
        maxPipelined := o.maxPipelined.getD loaded.connection.maxPipelined } }
        x o.requestCount := by
  have hsettings := settingsOf_eq hread
  rw [Settings.checked_eq_ok_iff.mpr ⟨rfl, hvalid⟩, Except.map, withDepth_eq] at hsettings
  simp only [ofCommand, hsettings]

section Settings

variable {w : Surroundings} {s : ObservabilitySettings} {filter : List FilterDirective}
  {depth n : Nat}

theorem ofSettings_of_setUp_error {e : SetupError} (h : w.setUp s = .error e)
    (c : ConnectionSettings) (x : Scenario) (n : Nat) : ofSettings w ⟨c, s⟩ x n = .notSetUp e := by
  simp only [ofSettings, h]

theorem ofSettings_zero (h : w.setUp s = .ok filter) (c : ConnectionSettings) (x : Scenario)
    (n : Nat) :
    ofSettings w ⟨{ c with maxPipelined := 0 }, s⟩ x n = .badDepth .zeroPipelineDepth := by
  simp only [ofSettings, h, Connection.ofSettings_zero]

theorem exists_ofSettings_eq_report (h : w.setUp s = .ok filter) (c : ConnectionSettings)
    (x : Scenario) (hdepth : 0 < depth) (hroom : w.firstShortage? n = none) :
    ∃ logged, ofSettings w ⟨{ c with maxPipelined := depth }, s⟩ x n = .report (.ofDemo (Demo.finish
      { scenario := x, requests := n,
        connection := Connection.ofDepth ⟨depth, hdepth⟩ c.closingPolicy })) logged := by
  simp only [ofSettings, h, Connection.ofSettings_of_pos c hdepth, hroom, report.injEq, true_and,
    exists_eq']

theorem ofSettings_of_shortage {why : Shortage} (h : w.setUp s = .ok filter)
    (c : ConnectionSettings) (x : Scenario) (hdepth : 0 < depth)
    (hshort : w.firstShortage? n = some why) :
    ofSettings w ⟨{ c with maxPipelined := depth }, s⟩ x n = .noMemory why := by
  simp only [ofSettings, h, Connection.ofSettings_of_pos c hdepth, hshort]

end Settings

/-- What the program ends with, from the settings that it starts from. -/
theorem ofCommand_of_read (w : Surroundings) (x : Scenario) (h : read? files o = some loaded) :
    let n := o.requestCount
    let depth := o.maxPipelined.getD loaded.connection.maxPipelined
    let setup := Connection.ofSettings { loaded.connection with maxPipelined := depth }
    let outcome := ofCommand files (some (.run o x)) w
    (loaded.validate = .ok [] → w.IsJudgeable →
      (∀ e, w.logError? loaded.observability.logFormat = some e → outcome = .notSetUp (.log e)) ∧
      (∀ a e, w.logError? loaded.observability.logFormat = none →
        loaded.observability.metricsEnabled = true →
        SocketAddress.ofText? loaded.observability.metricsAddress.toList = some a →
        w.listenError? a = some e → outcome = .notSetUp (.metrics e)) ∧
      (w.Suits loaded.observability →
        (depth = 0 → setup = .error .zeroPipelineDepth ∧ outcome = .badDepth .zeroPipelineDepth) ∧
        (1 ≤ depth → n < Surroundings.capacity → w.HasRoomFor n →
          (∃ r logged, outcome = .report r logged ∧ r.IsExpected x depth n) ∧
          ∃ c, setup = .ok c ∧
            Demo.ReachesReport { scenario := x, requests := n, connection := c }
              (Report.IsExpected x depth n)) ∧
        (1 ≤ depth → ¬ (n < Surroundings.capacity ∧ w.HasRoomFor n) →
          ∃ why, outcome = .noMemory why))) ∧
    (loaded.connection.maxPipelined = 0 → ∀ es, loaded.validate = .ok es →
      ∃ es', es = .zeroPipelineDepth :: es' ∧ outcome = .badSettings (.invalid es)) := by
  intro n depth setup outcome
  refine ⟨fun hvalid hw ↦ ?_, fun hzero es hes ↦ ?_⟩
  · have houtcome : outcome = _ := ofCommand_of_valid h hvalid w x
    refine ⟨fun e he ↦ ?_, fun a e hlog hwanted ha he ↦ ?_, fun hsuits ↦ ?_⟩
    · have hsetup := Surroundings.setUp_of_logError hw hvalid he
      exact houtcome.trans (ofSettings_of_setUp_error hsetup _ x n)
    · have hsetup := Surroundings.setUp_of_listenError hw hvalid hlog hwanted ha he
      exact houtcome.trans (ofSettings_of_setUp_error hsetup _ x n)
    · obtain ⟨filter, hfilter⟩ := hsuits.exists_setUp_eq hw hvalid
      refine ⟨fun hdepth ↦ ?_, fun hdepth hn hroom ↦ ?_, fun hdepth hfull ↦ ?_⟩
      · have hzero := ofSettings_zero hfilter loaded.connection x n
        rw [← hdepth] at hzero
        refine ⟨?_, houtcome.trans hzero⟩
        simp only [setup, hdepth, Connection.ofSettings_zero]
      · have hreaches :=
          Demo.reachesReport_ofDepth x ⟨depth, hdepth⟩ n loaded.connection.closingPolicy
        obtain ⟨logged, hreport⟩ :=
          exists_ofSettings_eq_report hfilter loaded.connection x hdepth
            (Surroundings.firstShortage?_eq_none_iff.mpr ⟨hn, hroom⟩)
        exact ⟨⟨_, logged, houtcome.trans hreport, (hreaches.finish []).2⟩, _,
          Connection.ofSettings_of_pos loaded.connection hdepth, hreaches⟩
      · obtain ⟨why, hshort⟩ := Option.ne_none_iff_exists'.mp
          (mt Surroundings.firstShortage?_eq_none_iff.mp hfull)
        have hends := ofSettings_of_shortage hfilter loaded.connection x hdepth hshort
        exact ⟨why, houtcome.trans hends⟩
  · obtain ⟨es', rfl, hchecked⟩ := Settings.checked_of_zero hzero hes
    have hsettings := settingsOf_eq h
    rw [hchecked, Except.map] at hsettings
    refine ⟨es', rfl, ?_⟩
    simp only [outcome, ofCommand, hsettings]

/-- A configuration with room for two, the defaults, an option that takes the room away, a listener
that cannot be had, more requests than there can be lists for, and a configuration without room. -/
theorem ofCommand_of_read_at_depths :
    (∃ r logged,
      ofCommand (fun _ ↦ .bytes "[connection]\nmax_pipelined_requests = 2\n".toUTF8)
        (some (.run { config := some "pipeline.toml" } .graceful)) = .report r logged ∧
      r.outcomes = ["ok: last one",
        "GracefulCloseInterrupted (retryable: true): connection closed: graceful peer close, "
          ++ "request interrupted (retryable: true)",
        "LimitExceeded (retryable: false): max pipelined requests exceeded: 2 already in flight "
          ++ "on conn-1"]) ∧
    (∃ k, ∀ k' ≥ k, (Demo.run
      { scenario := .abrupt, requests := 3,
        connection := Connection.ofDepth ⟨1, by decide⟩ .accept }
      (Demo.prefixOf (Demo.roundRobin 3) k')).stage = .done) ∧
    ofCommand (fun _ ↦ .missing) (some (.run { maxPipelined := some 0 } .drain))
      = .badDepth .zeroPipelineDepth ∧
    ofCommand (fun _ ↦ .bytes "[observability]\nmetrics_enabled = true\n".toUTF8)
      (some (.run { config := some "pipeline.toml" } .drain))
      { listenError? := fun _ ↦ some "FailedToCreateHTTPListener" }
      = .notSetUp (.metrics "FailedToCreateHTTPListener") ∧
    (∃ why, ofCommand (fun _ ↦ .missing)
      (some (.run { requests := some 384307168202282326 } .drain)) = .noMemory why) ∧
    ∃ es, ofCommand (fun _ ↦ .bytes "[connection]\nmax_pipelined_requests = 0\n".toUTF8)
      (some (.run { config := some "pipeline.toml" } .drain))
        = .badSettings (.invalid (.zeroPipelineDepth :: es)) := by
  have hvalid : ({} : Settings).validate = .ok [] := by decide +kernel
  have hjudgeable (w : Surroundings) (h : w.filter = none) : w.IsJudgeable := by
    intro text htext
    cases h.symm.trans htext
  have hsuits (s : ObservabilitySettings) : Surroundings.Suits {} s := ⟨rfl, fun _ _ _ ↦ rfl⟩
  have hroom (n : Nat) : Surroundings.HasRoomFor {} n := fun _ ↦ rfl
  refine ⟨?_, ?_, ?_, ?_, ?_, ?_⟩
  · have hread : read? (fun _ ↦ .bytes "[connection]\nmax_pipelined_requests = 2\n".toUTF8)
        { config := some "pipeline.toml" } = some { connection := { maxPipelined := 2 } } := by
      decide +kernel
    obtain ⟨-, -, hstarts⟩ :=
      (ofCommand_of_read {} .graceful hread).1 (by decide +kernel) (hjudgeable {} rfl)
    obtain ⟨-, hreports, -⟩ := hstarts (hsuits _)
    obtain ⟨⟨r, logged, houtcome, hr⟩, -⟩ := hreports (by decide) (by decide) (hroom _)
    exact ⟨r, logged, houtcome, hr.outcomes.trans (by decide +kernel)⟩
  · have hread : read? (fun _ ↦ .missing) {} = some {} := rfl
    obtain ⟨-, -, hstarts⟩ := (ofCommand_of_read {} .abrupt hread).1 hvalid (hjudgeable {} rfl)
    obtain ⟨-, hreports, -⟩ := hstarts (hsuits _)
    obtain ⟨-, c, hc, hreaches⟩ := hreports (by decide) (by decide) (hroom _)
    cases hc
    obtain ⟨k, hk⟩ := hreaches.eventually _ (Demo.fair_roundRobin 3)
    exact ⟨k, fun k' hle ↦ (hk k' hle).1⟩
  · have hread : read? (fun _ ↦ .missing) { maxPipelined := some 0 } = some {} := rfl
    obtain ⟨-, -, hstarts⟩ := (ofCommand_of_read {} .drain hread).1 hvalid (hjudgeable {} rfl)
    obtain ⟨hzero, -⟩ := hstarts (hsuits _)
    exact (hzero rfl).2
  · have hread : read? (fun _ ↦ .bytes "[observability]\nmetrics_enabled = true\n".toUTF8)
        { config := some "pipeline.toml" }
        = some { observability := { metricsEnabled := true } } := by
      decide +kernel
    obtain ⟨-, hlistener, -⟩ := (ofCommand_of_read
      { listenError? := fun _ ↦ some "FailedToCreateHTTPListener" } .drain hread).1
      (by decide +kernel) (hjudgeable _ rfl)
    exact hlistener (.four [127, 0, 0, 1] 9090) _ rfl rfl (by decide +kernel) rfl
  · have hread : read? (fun _ ↦ .missing) { requests := some 384307168202282326 } = some {} := rfl
    obtain ⟨-, -, hstarts⟩ := (ofCommand_of_read {} .drain hread).1 hvalid (hjudgeable {} rfl)
    obtain ⟨-, -, hends⟩ := hstarts (hsuits _)
    exact hends (Nat.le_refl 1) fun h ↦ Nat.lt_irrefl Surroundings.capacity h.1
  · have hread : read? (fun _ ↦ .bytes "[connection]\nmax_pipelined_requests = 0\n".toUTF8)
        { config := some "pipeline.toml" } = some { connection := { maxPipelined := 0 } } := by
      decide +kernel
    obtain ⟨es, -, hes⟩ := (ofCommand_of_read {} .drain hread).2 rfl [.zeroPipelineDepth]
      (by decide +kernel)
    exact ⟨_, hes⟩

/-- A depth given as an option does not make up for a configuration without room, there is no report
where the metrics cannot be published, and none on more requests than there can be lists for. -/
theorem ofCommand_without_report :
    ofCommand (fun _ ↦ .bytes "[connection]\nmax_pipelined_requests = 0\n".toUTF8)
        (some (.run
          { config := some "pipeline.toml", requests := some 1, maxPipelined := some 2 } .drain))
      = .badSettings (.invalid [.zeroPipelineDepth]) ∧
    ofCommand (fun _ ↦ .bytes "[observability]\nmetrics_enabled = true\n".toUTF8)
        (some (.run { config := some "pipeline.toml" } .drain))
        { listenError? := fun _ ↦ some "FailedToCreateHTTPListener" }
      = .notSetUp (.metrics "FailedToCreateHTTPListener") ∧
    ofCommand (fun _ ↦ .missing) (some (.run { requests := some 384307168202282326 } .drain))
      = .noMemory .tooLong ∧
    ofCommand (fun _ ↦ .missing) (some (.run { requests := some 576460752303423488 } .drain))
      = .noMemory .tooLong := by
  refine ⟨?_, ?_, rfl, rfl⟩
  · have hsettings : settingsOf
        (fun _ ↦ .bytes "[connection]\nmax_pipelined_requests = 0\n".toUTF8)
        { config := some "pipeline.toml", requests := some 1, maxPipelined := some 2 }
        = .error (.invalid [.zeroPipelineDepth]) := by
      decide +kernel
    rw [ofCommand, hsettings]
  · have hsettings : settingsOf
        (fun _ ↦ .bytes "[observability]\nmetrics_enabled = true\n".toUTF8)
        { config := some "pipeline.toml" }
        = .ok { observability := { metricsEnabled := true } } := by
      decide +kernel
    have hsetup : Surroundings.setUp
        { listenError? := fun _ ↦ some "FailedToCreateHTTPListener" } { metricsEnabled := true }
        = .error (.metrics "FailedToCreateHTTPListener") := by
      decide +kernel
    simp only [ofCommand, hsettings, ofSettings, hsetup]

end Outcome

end BoundedPipelining
