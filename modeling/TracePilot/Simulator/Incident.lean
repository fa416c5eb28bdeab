import TracePilot.Backend.Bursts
import TracePilot.Backend.Destinations
import TracePilot.Collector.Recorded
import TracePilot.Library.Counting

/-!
# The simulated incident

The simulator makes up one process: ten connections to a known destination two hours ago, and then
120 in one minute, 90 of them to one new destination and 30 to one other each.  It posts them as one
batch.

* **`generateEvents_stored`** — the API takes the batch, and the table gets one row for each
  connection.
* **`incident_detected`** — whatever else is in the table, both burst detectors and the endpoint for
  many destinations find the process, and both searches for new destinations find each of the 31
  that the process did not connect to in the baseline.
-/

namespace TracePilot

/-! ## The generator -/

/-- `SIMULATED_PID`. -/
def simulatedPid : ℕ := 4242

/-- `make_event`. -/
def makeEvent (timestamp : Datetime) (destinationIp : String) (destinationPort : ℕ := 443) :
    ApiEvent where
  timestamp := timestamp.isoformat
  pid := simulatedPid
  processName := "python3"
  uid := 1000
  destinationIp := destinationIp
  destinationPort := destinationPort
  ipVersion := 4
  durationMs := 10
  source := "simulator"

/-- `generate_events`, at the instant `now`. -/
def generateEvents (now : ℤ) : List ApiEvent :=
  let baselineTime := now - 7200000000
  let baselineEvents := (List.range 10).map fun i : ℕ =>
    makeEvent (.utc (baselineTime + i * 1000000)) "198.51.100.10"
  -- `now.replace(second=0, microsecond=0)`
  let burstStart := now - now % 60000000
  let burstEvents := (List.range 120).map fun i : ℕ =>
    let destinationIp :=
      if i < 90 then "203.0.113.50" else "203.0.113." ++ toString (100 + (i - 90))
    makeEvent (.utc (burstStart + i * 100000)) destinationIp
  baselineEvents ++ burstEvents

/-! ## The incident -/

/-- A connection that is made up: its instant and its address. -/
structure Simulated where
  instant : ℤ
  address : BitVec 32

/-- The event that is posted for it. -/
def Simulated.event (x : Simulated) : ApiEvent :=
  makeEvent (.utc x.instant) (IpAddress.v4 x.address).inetText

/-- The connections from before the lookback. -/
def simulatedBaseline (now : ℤ) : List Simulated :=
  (List.range 10).map fun i : ℕ => ⟨now - 7200000000 + i * 1000000, 0xC633640A⟩

/-- The address of a connection of the burst. -/
def burstAddress (i : ℕ) : BitVec 32 :=
  if i < 90 then 0xCB007132 else BitVec.ofNat 32 (0xCB007164 + (i - 90))

/-- The connections of the burst. -/
def simulatedBurst (now : ℤ) : List Simulated :=
  (List.range 120).map fun i : ℕ => ⟨startOfMinute now + i * 100000, burstAddress i⟩

lemma burstAddress_text : ∀ i < 120, (IpAddress.v4 (burstAddress i)).inetText
    = if i < 90 then "203.0.113.50" else "203.0.113." ++ toString (100 + (i - 90)) := by
  decide +kernel

lemma generateEvents_eq (now : ℤ) :
    generateEvents now = (simulatedBaseline now ++ simulatedBurst now).map Simulated.event := by
  rw [List.map_append, simulatedBaseline, simulatedBurst, List.map_map, List.map_map]
  refine congrArg₂ (· ++ ·) ?_ ?_
  · have htext : (IpAddress.v4 0xC633640A).inetText = "198.51.100.10" := by decide
    refine List.map_congr_left fun i _ => ?_
    exact congrArg (makeEvent _) htext.symm
  · refine List.map_congr_left fun i hi => ?_
    exact congrArg (makeEvent _) (burstAddress_text i (List.mem_range.mp hi)).symm

lemma length_simulated (now : ℤ) : (simulatedBaseline now ++ simulatedBurst now).length = 130 := by
  simp [simulatedBaseline, simulatedBurst]

/-- The simulator runs at an instant whose two hours before and whose minute a `datetime` can
hold. -/
def SimulatorRuns (now : ℤ) : Prop :=
  Datetime.representable (now - 7200000000) ∧ Datetime.representable (now + 60000000)

lemma representable_simulated {now : ℤ} (hnow : SimulatorRuns now) {x : Simulated}
    (hx : x ∈ simulatedBaseline now ++ simulatedBurst now) :
    Datetime.representable x.instant := by
  obtain ⟨hfirst, hlast⟩ := hnow
  rcases List.mem_append.mp hx with hx | hx
  · obtain ⟨i, hi, rfl⟩ := List.mem_map.mp hx
    have hi := List.mem_range.mp hi
    unfold Datetime.representable at *
    dsimp only
    omega
  · obtain ⟨i, hi, rfl⟩ := List.mem_map.mp hx
    have hi := List.mem_range.mp hi
    unfold Datetime.representable at *
    unfold startOfMinute
    dsimp only
    omega

/-! ## What is stored -/

/-- The row of a connection that was made up. -/
structure RowOfSimulated (x : Simulated) (row : StoredEvent) : Prop where
  timestamp : row.timestamp = x.instant
  pid : row.pid = simulatedPid
  processName : row.processName = "python3"
  destination : destination row = (.v4 x.address, 443)

section Stored

variable {py : Pydantic}

/-- The API takes the event of a connection, and its columns take the row. -/
lemma Simulated.storedRow (hpy : py.Lawful) (hread : py.ReadsTexts) {x : Simulated}
    (hx : Datetime.representable x.instant) :
    ∃ c, ConnectionEventCreate.validate py x.event.json = some c ∧ ∀ id created, ∃ row,
      c.storedRow id created = some row ∧ row.id = id ∧ RowOfSimulated x row := by
  obtain ⟨address, haddress⟩ := hpy.ip_text (.v4 x.address)
  obtain rfl : address = .v4 x.address :=
    IpAddress.packed_injective ((hread.ip_bytes _ _ haddress).trans (addressBytes_inetText _))
  let c : ConnectionEventCreate := {
    timestamp := .utc x.instant
    pid := ⟨4242, by decide⟩
    processName := ⟨"python3", by decide⟩
    uid := ⟨1000, by decide⟩
    destinationIp := (.v4 x.address, "")
    destinationPort := ⟨443, by decide⟩
    ipVersion := ⟨4, by decide⟩
    durationMs := some ⟨.finite 10, by decide⟩
    source := ⟨"simulator", by decide⟩ }
  have hvalidate := (validate_json (e := x.event) hpy (hread.datetime_isoformat hx) haddress c).mpr
    ⟨rfl, rfl, rfl, rfl, rfl, rfl, rfl, rfl, rfl⟩
  refine ⟨c, hvalidate, fun id created => ?_⟩
  have hname : varchar 64 "python3" = true := by decide
  have hsource : varchar 20 "simulator" = true := by decide
  have hsent : (Datetime.utc x.instant).encodable := (Datetime.encodable_utc _).mpr hx
  obtain ⟨row, hrow, hfits⟩ := (row_fits_iff (c := c) rfl).mpr
    ⟨hsent, rfl, hname, rfl, rfl, rfl, hsource⟩ id created
  have hmade : c.row id created = some row := hrow
  rw [ConnectionEventCreate.row, if_pos ⟨rfl, hsent⟩] at hmade
  refine ⟨⟨row, hfits⟩, ?_, ?_, ?_⟩
  · rw [ConnectionEventCreate.storedRow, hrow, Option.bind_some, dif_pos hfits]
  all_goals
    obtain rfl := Option.some.inj hmade
  · rfl
  · exact ⟨Datetime.instant_utc _, rfl, rfl, rfl⟩

/-- The rows of a list of connections. -/
lemma batchRows_simulated (hpy : py.Lawful) (hread : py.ReadsTexts) {xs : List Simulated}
    (hxs : ∀ x ∈ xs, Datetime.representable x.instant) :
    ∃ batch, xs.mapM (fun x => ConnectionEventCreate.validate py x.event.json) = some batch
      ∧ ∀ defaults : List (Uuid × ℤ), defaults.length = xs.length → ∃ rows,
        batchRows batch defaults = some rows ∧ rows.map (fun row => row.id) = defaults.map Prod.fst
          ∧ List.Forall₂ RowOfSimulated xs rows := by
  induction xs with
  | nil =>
      refine ⟨[], rfl, fun defaults hlength => ?_⟩
      obtain rfl := List.length_eq_zero_iff.mp hlength
      exact ⟨[], rfl, rfl, .nil⟩
  | cons x xs ih =>
      obtain ⟨c, hc, hrow⟩ := x.storedRow hpy hread (hxs x List.mem_cons_self)
      obtain ⟨batch, hbatch, hrows⟩ := ih fun y hy => hxs y (List.mem_cons_of_mem _ hy)
      refine ⟨c :: batch, ?_, fun defaults hlength => ?_⟩
      · rw [List.mapM_cons, hc, hbatch]
        rfl
      · cases defaults with
        | nil => cases hlength
        | cons default defaults =>
            obtain ⟨row, hstored, hid, hmade⟩ := hrow default.1 default.2
            obtain ⟨rows, hbatchRows, hids, hmades⟩ := hrows defaults (Nat.succ.inj hlength)
            refine ⟨row :: rows, ?_, ?_, .cons hmade hmades⟩
            · rw [batchRows, hstored, hbatchRows]
              rfl
            · rw [List.map_cons, List.map_cons, hid, hids]

/-- **The incident is stored**: with 130 new keys the API takes the batch and inserts one row for
each connection, in order. -/
theorem generateEvents_stored (hpy : py.Lawful) (hread : py.ReadsTexts) {now : ℤ}
    (hnow : SimulatorRuns now) {stored : List StoredEvent} {defaults : List (Uuid × ℤ)}
    (hlength : defaults.length = 130)
    (hkeys : ((stored.map fun row => row.id) ++ defaults.map Prod.fst).Nodup) :
    ∃ rows, createEventBatch py ((generateEvents now).map ApiEvent.json) defaults stored = some rows
      ∧ List.Forall₂ RowOfSimulated (simulatedBaseline now ++ simulatedBurst now) rows := by
  obtain ⟨batch, hbatch, hrows⟩ :=
    batchRows_simulated hpy hread fun _ => representable_simulated hnow
  obtain ⟨rows, hbatchRows, hids, hmade⟩ := hrows defaults
    (hlength.trans (length_simulated now).symm)
  have hvalidate : ConnectionEventBatch.validate py ((generateEvents now).map ApiEvent.json)
      = some batch := by
    have hbounds : batchMinLength ≤ ((generateEvents now).map ApiEvent.json).length
        ∧ ((generateEvents now).map ApiEvent.json).length ≤ batchMaxLength := by
      rw [List.length_map, generateEvents_eq, List.length_map, length_simulated]
      decide
    rw [ConnectionEventBatch.validate, if_pos hbounds, generateEvents_eq, List.map_map,
      List.mapM_map]
    exact hbatch
  refine ⟨rows, ?_, hmade⟩
  rw [createEventBatch, hvalidate, Option.bind_eq_bind, Option.bind_some, hbatchRows,
    Option.bind_eq_bind, Option.bind_some, if_pos]
  rw [List.map_append, hids]
  exact hkeys

end Stored

/-! ## What is found -/

/-- **Every detector finds the incident**, with every threshold below its size and every lookback
that reaches its minute. -/
structure IncidentFound (l : Session) (s : Server) (now : ℤ) : Prop where
  bursts : ∀ a : ConnectionBurstsArguments, a.threshold.1 < 120 →
    s.clock - minutes a.minutes ≤ startOfMinute now →
    ReturnsBurst ((findConnectionBursts a).run l s).1 simulatedPid "python3"
  endpointBursts : ∀ q : ConnectionBurstsQuery, q.threshold.1 < 120 →
    s.clock - minutes q.minutes ≤ startOfMinute now →
    Endpoint.ReturnsBurst ((Endpoint.findConnectionBursts q).run l s).1 simulatedPid "python3"
  manyDestinations : ∀ q : HighUniqueDestinationsQuery, q.threshold.1 < 31 →
    s.clock - minutes q.minutes ≤ startOfMinute now →
    ∃ found, ((Endpoint.findHighUniqueDestinations q).run l s).1 = .ok found
      ∧ ∃ r ∈ found, r.pid = simulatedPid ∧ r.processName = "python3"
  newDestinations : ∀ a : UnusualDestinationsArguments, a.pid.1 = simulatedPid →
    s.clock - minutes 60 ≤ startOfMinute now → startOfMinute now + 12000000 ≤ s.clock.1 →
    ∃ found : List UnusualDestinationResponse,
      ((findUnusualDestinations a).run l s).1 = .ok (.obj [
        ("pid", .int a.pid),
        ("recent_minutes", .int 60),
        ("baseline_minutes", .int 1440),
        ("unusual_destinations", .arr (found.map fun r => r.toolItem))])
      ∧ ∀ x ∈ simulatedBurst now, (.v4 x.address, 443)
          ∉ (baselineEvents s.db.connectionEvents s.clock simulatedPid 60 1440).map destination →
        ∃ r ∈ found, r.destination = (.v4 x.address, 443)
  endpointNewDestinations : ∀ q : UnusualDestinationsQuery, q.pid.1 = simulatedPid →
    s.clock - minutes q.recentMinutes ≤ startOfMinute now →
    startOfMinute now + 12000000 ≤ s.clock.1 →
    ∃ found, ((Endpoint.findUnusualDestinations q).run l s).1 = .ok found
      ∧ ∀ x ∈ simulatedBurst now, (.v4 x.address, 443) ∉ (baselineEvents s.db.connectionEvents
          s.clock simulatedPid q.recentMinutes q.baselineMinutes).map destination →
        ∃ r ∈ found, r.destination = (.v4 x.address, 443)

section Found

variable {now : ℤ}

/-- The burst stays in its minute. -/
lemma burst_bounds {x : Simulated} (hx : x ∈ simulatedBurst now) :
    startOfMinute now ≤ x.instant ∧ x.instant < startOfMinute now + 12000000
      ∧ startOfMinute x.instant = startOfMinute now := by
  obtain ⟨i, hi, rfl⟩ := List.mem_map.mp hx
  have hi := List.mem_range.mp hi
  dsimp only
  unfold startOfMinute
  omega

/-- The destinations of the burst. -/
def burstDestinations : Finset (IpAddress × ℤ) :=
  ((List.range 120).map fun i => (IpAddress.v4 (burstAddress i), (443 : ℤ))).toFinset

lemma card_burstDestinations : burstDestinations.card = 31 := by decide +kernel

lemma mem_burstDestinations (now : ℤ) {d : IpAddress × ℤ} :
    d ∈ burstDestinations ↔ ∃ x ∈ simulatedBurst now, (.v4 x.address, 443) = d := by
  simp [burstDestinations, simulatedBurst]

variable {rows events : List StoredEvent}
  (hrows : List.Forall₂ RowOfSimulated (simulatedBaseline now ++ simulatedBurst now) rows)
  (hsub : rows.Subperm events)

include hrows hsub

/-- A connection of the burst is in the table. -/
lemma exists_row {x : Simulated} (hx : x ∈ simulatedBurst now) :
    ∃ row ∈ events, RowOfSimulated x row := by
  obtain ⟨row, hrow, hmade⟩ := Counting.exists_mem_of_forall₂ hrows (List.mem_append_right _ hx)
  exact ⟨row, hsub.subset hrow, hmade⟩

/-- 120 events of the process lie in the minute. -/
lemma length_eventsInMinute {clock lookback : ℤ}
    (hsince : clock - minutes lookback ≤ startOfMinute now) :
    120 ≤ (eventsInMinute events clock lookback simulatedPid "python3"
      (startOfMinute now)).length := by
  let counts : Simulated → Bool := fun x => decide
    (startOfMinute now ≤ x.instant ∧ startOfMinute x.instant = startOfMinute now)
  have hburst : (simulatedBurst now).countP counts = 120 := by
    refine (List.countP_eq_length.mpr fun x hx => ?_).trans (by simp [simulatedBurst])
    obtain ⟨hlo, -, hminute⟩ := burst_bounds hx
    exact decide_eq_true ⟨hlo, hminute⟩
  rw [eventsInMinute, ← List.countP_eq_length_filter]
  calc 120 ≤ (simulatedBaseline now ++ simulatedBurst now).countP counts := by
        rw [List.countP_append, hburst]
        exact Nat.le_add_left ..
    _ ≤ rows.countP _ := by
        refine Counting.countP_le_of_forall₂ (fun row x hmade hx => ?_) hrows.flip
        obtain ⟨hlo, hminute⟩ := of_decide_eq_true hx
        refine decide_eq_true ⟨?_, hmade.pid, hmade.processName, ?_⟩
        · rw [hmade.timestamp]
          exact hsince.trans hlo
        · rw [hmade.timestamp]
          exact hminute
    _ ≤ events.countP _ := hsub.countP_le _

/-- They have 31 destinations. -/
lemma distinctDestinations_burst {clock lookback : ℤ}
    (hsince : clock - minutes lookback ≤ startOfMinute now) :
    31 ≤ distinctDestinations (Table.groupOf processKey (eventsSince events clock lookback)
      ((simulatedPid : ℤ), "python3")) := by
  rw [← card_burstDestinations, distinctDestinations]
  refine Finset.card_le_card fun d hd => ?_
  obtain ⟨x, hx, rfl⟩ := (mem_burstDestinations now).mp hd
  obtain ⟨row, hrow, hmade⟩ := exists_row hrows hsub hx
  refine List.mem_toFinset.mpr (List.mem_map.mpr ⟨row, Table.mem_groupOf.mpr ⟨?_, ?_⟩,
    hmade.destination⟩)
  · refine List.mem_filter.mpr ⟨hrow, decide_eq_true ?_⟩
    rw [hmade.timestamp]
    exact hsince.trans (burst_bounds hx).1
  · exact Prod.ext hmade.pid hmade.processName

/-- Each new one among them is found. -/
lemma exists_response {clock recentMinutes : ℤ} {baseline : List StoredEvent}
    (hsince : clock - minutes recentMinutes ≤ startOfMinute now)
    (hpast : startOfMinute now + 12000000 ≤ clock) {x : Simulated} (hx : x ∈ simulatedBurst now)
    (hnew : (.v4 x.address, 443) ∉ baseline.map destination) :
    ∃ r ∈ (unusualGroups baseline (recentEvents events clock simulatedPid recentMinutes)).map
      (destinationResponse simulatedPid), r.destination = (.v4 x.address, 443) := by
  obtain ⟨row, hrow, hmade⟩ := exists_row hrows hsub hx
  obtain ⟨hlo, hhi, -⟩ := burst_bounds hx
  have hrecent : (.v4 x.address, 443)
      ∈ (recentEvents events clock simulatedPid recentMinutes).map destination := by
    refine List.mem_map.mpr ⟨row, List.mem_filter.mpr ⟨hrow, decide_eq_true ?_⟩, hmade.destination⟩
    rw [hmade.timestamp]
    exact ⟨hmade.pid, hsince.trans hlo, hhi.le.trans hpast⟩
  have hgroup : ((.v4 x.address, 443), Table.groupOf destination
        (recentEvents events clock simulatedPid recentMinutes) (.v4 x.address, 443))
      ∈ unusualGroups baseline (recentEvents events clock simulatedPid recentMinutes) :=
    mem_unusualGroups.mpr ⟨rfl, hrecent, hnew⟩
  exact ⟨_, List.mem_map_of_mem hgroup, rfl⟩

end Found

section Found

variable {py : Pydantic} {now : ℤ} {l : Session} {s : Server} {rows : List StoredEvent}

/-- A table with the rows of the incident. -/
lemma incidentFound (hl : l.unusable = false)
    (hrows : List.Forall₂ RowOfSimulated (simulatedBaseline now ++ simulatedBurst now) rows)
    (hsub : rows.Subperm s.db.connectionEvents) : IncidentFound l s now where
  bursts a hthreshold hsince := by
    have hmany := length_eventsInMinute hrows hsub hsince
    exact (returnsBurst_iff hl a).mpr ⟨_, lt_of_lt_of_le (by omega) hmany⟩
  endpointBursts q hthreshold hsince := by
    have hmany := length_eventsInMinute hrows hsub hsince
    exact (endpoint_returnsBurst_iff hl q).mpr ⟨_, lt_of_lt_of_le (by omega) hmany⟩
  manyDestinations q hthreshold hsince := by
    obtain ⟨found, hrun, hfound⟩ := findHighUniqueDestinations_run (s := s) hl q
    have hmany := distinctDestinations_burst hrows hsub hsince
    have hlarge : q.threshold.1 < distinctDestinations (Table.groupOf processKey
        (eventsSince s.db.connectionEvents s.clock q.minutes) ((simulatedPid : ℤ), "python3")) := by
      omega
    obtain ⟨f, hf, hkey⟩ := (Table.exists_finding_iff (distinctDestinations_nil_le q.threshold.2.1)
      (fun e : StoredEvent => e.id) (p := fun k => k = ((simulatedPid : ℤ), "python3"))).mpr
      ⟨_, hlarge, rfl⟩
    rw [← hfound] at hf
    obtain ⟨r, hr, rfl⟩ := List.mem_map.mp hf
    exact ⟨found, hrun, r, hr, congrArg Prod.fst hkey, congrArg Prod.snd hkey⟩
  newDestinations a hpid hsince hpast := by
    have hint : int4 a.pid = true := by
      rw [hpid]
      rfl
    have hrun := run_readInTwo (baselineClause a) (lastHourClause a) (unusualDestinationsResult a)
      hl ((baselineClause_binds a s.clock).trans hint) ((lastHourClause_binds a s.clock).trans hint)
    rw [unusualDestinationsResult_eq, baselineClause_eq, lastHourClause_eq,
      filter_baselineClause, filter_endpoint_recentClause] at hrun
    refine ⟨_, hrun, fun x hx hnew => ?_⟩
    change ∃ r ∈ (unusualGroups (baselineEvents _ _ a.pid.1 60 1440)
      (recentEvents _ _ a.pid.1 60)).map (destinationResponse a.pid.1), _
    rw [hpid]
    exact exists_response hrows hsub hsince hpast hx hnew
  endpointNewDestinations q hpid hsince hpast := by
    have hint : int4 q.pid = true := by
      rw [hpid]
      rfl
    have hrun := run_readInTwo (Endpoint.baselineClause q) (Endpoint.recentClause q)
      (Endpoint.unusualDestinations q) hl ((endpoint_baselineClause_binds q s.clock).trans hint)
      ((endpoint_recentClause_binds q s.clock).trans hint)
    rw [unusualDestinations_eq, filter_baselineClause, filter_endpoint_recentClause, hpid] at hrun
    exact ⟨_, hrun, fun x hx hnew => exists_response hrows hsub hsince hpast hx hnew⟩

/-- **The simulated incident is found.**  The batch of the simulator is stored in full, and on every
table that holds its rows, whatever else it holds and whenever it is asked, every detector finds the
incident. -/
theorem incident_detected (hpy : py.Lawful) (hread : py.ReadsTexts) (hnow : SimulatorRuns now)
    {stored : List StoredEvent} {defaults : List (Uuid × ℤ)} (hlength : defaults.length = 130)
    (hkeys : ((stored.map fun row => row.id) ++ defaults.map Prod.fst).Nodup) :
    ∃ rows, createEventBatch py ((generateEvents now).map ApiEvent.json) defaults stored = some rows
      ∧ List.Forall₂ RowOfSimulated (simulatedBaseline now ++ simulatedBurst now) rows
      ∧ ∀ (l : Session) (s : Server), l.unusable = false → rows.Subperm s.db.connectionEvents →
        IncidentFound l s now := by
  obtain ⟨rows, hcreate, hrows⟩ := generateEvents_stored hpy hread hnow hlength hkeys
  exact ⟨rows, hcreate, hrows, fun l s hl hsub => incidentFound hl hrows hsub⟩

end Found

/-- 130 keys. -/
def simulatedKeys : List (Uuid × ℤ) := (List.range 130).map fun i => (BitVec.ofNat 128 (i + 1), 0)

/-- An empty table, with the default threshold and lookback. -/
theorem incident_detected_sample :
    ∃ rows, createEventBatch .reading ((generateEvents 1700000000000000).map ApiEvent.json)
        simulatedKeys [] = some rows
      ∧ rows.length = 130
      ∧ ReturnsBurst ((findConnectionBursts ⟨⟨100, by decide⟩, ⟨60, by decide⟩⟩).run {}
        (.holding rows)).1 4242 "python3" := by
  have hnow : SimulatorRuns 1700000000000000 := by constructor <;> decide
  have hlength : simulatedKeys.length = 130 := by simp [simulatedKeys]
  have hkeys : (([] : List StoredEvent).map (fun row => row.id)
      ++ simulatedKeys.map Prod.fst).Nodup := by
    decide +kernel
  have hsince : (Clock.sample : ℤ) - minutes 60 ≤ startOfMinute 1700000000000000 := by decide
  obtain ⟨rows, hcreate, hrows, hfound⟩ := incident_detected Pydantic.reading_lawful
    Pydantic.reading_readsTexts hnow hlength hkeys
  refine ⟨rows, hcreate, hrows.length_eq.symm.trans (length_simulated _), ?_⟩
  exact (hfound {} (.holding rows) rfl (.refl _)).bursts _ (by decide) hsince

end TracePilot
