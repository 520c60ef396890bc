import WebrtcApp.Runs.Interleaving

/-!
# The reports of the stats callback

`getIceCandidatePairStatsCallback` under any interleaving with the application, and with any answers
of `rtcPeerConnectionGetMetrics`.  A session is reported on with what its counters gained since its
last report, over the whole seconds since then; a query that fails, or that comes less than a second
after the last report, leaves the session's history for the next one.  The runs end before `freeApp`
(`Runs.Teardown` has what comes after).

    reports_add_up     the gains add up to the counters of the last report
    durations_add_up   the seconds add up to the time of the last report, but for less than a second
                       at each report
-/

namespace WebrtcApp

/-! ## The callback -/

/-- The counters that the callback compares. -/
inductive PairCounter
  | packetsSent
  | packetsReceived
  | bytesSent
  | bytesReceived
  | packetsDiscardedOnSend
  deriving DecidableEq

structure RtcMetricsHistory where
  prevNumberOfPacketsSent : UInt64
  prevNumberOfPacketsReceived : UInt64
  prevNumberOfBytesSent : UInt64
  prevNumberOfBytesReceived : UInt64
  prevPacketsDiscardedOnSend : UInt64
  prevTs : UInt64
  deriving DecidableEq

/-- What `rtcPeerConnectionGetMetrics` gives for the candidate pair. -/
structure RtcIceCandidatePairStats where
  timestamp : UInt64
  packetsSent : UInt64
  packetsReceived : UInt64
  bytesSent : UInt64
  bytesReceived : UInt64
  packetsDiscardedOnSend : UInt64
  deriving DecidableEq

def RtcMetricsHistory.prev (h : RtcMetricsHistory) : PairCounter → UInt64
  | .packetsSent => h.prevNumberOfPacketsSent
  | .packetsReceived => h.prevNumberOfPacketsReceived
  | .bytesSent => h.prevNumberOfBytesSent
  | .bytesReceived => h.prevNumberOfBytesReceived
  | .packetsDiscardedOnSend => h.prevPacketsDiscardedOnSend

def RtcIceCandidatePairStats.counter (m : RtcIceCandidatePairStats) : PairCounter → UInt64
  | .packetsSent => m.packetsSent
  | .packetsReceived => m.packetsReceived
  | .bytesSent => m.bytesSent
  | .bytesReceived => m.bytesReceived
  | .packetsDiscardedOnSend => m.packetsDiscardedOnSend

/-- The rates that are logged of a session are these gains (for the bytes, eight times them) over
`currentMeasureDuration`. -/
structure PairReport where
  session : PStreamingSession
  currentMeasureDuration : UInt64
  gained : PairCounter → UInt64

/-- The whole seconds since the last report. -/
def RtcMetricsHistory.measureDuration (h : RtcMetricsHistory) (m : RtcIceCandidatePairStats) : UInt64 :=
  (m.timestamp - h.prevTs) / hundredsOfNanosInASecond

def RtcMetricsHistory.update (m : RtcIceCandidatePairStats) : RtcMetricsHistory where
  prevNumberOfPacketsSent := m.packetsSent
  prevNumberOfPacketsReceived := m.packetsReceived
  prevNumberOfBytesSent := m.bytesSent
  prevNumberOfBytesReceived := m.bytesReceived
  prevPacketsDiscardedOnSend := m.packetsDiscardedOnSend
  prevTs := m.timestamp

@[simp] theorem RtcMetricsHistory.prev_update (m : RtcIceCandidatePairStats) (c : PairCounter) :
    (RtcMetricsHistory.update m).prev c = m.counter c := by
  cases c <;> rfl

/-- The history of a new session, whose memory is zero but for the time. -/
def RtcMetricsHistory.create (now : UInt64) : RtcMetricsHistory := ⟨0, 0, 0, 0, 0, now⟩

/-- `history p` is `rtcMetricsHistory` of the session at `p`. -/
structure StatsRun where
  world : World
  history : PStreamingSession → RtcMetricsHistory
  reports : List PairReport

/-- What the timer queue or another thread does next. -/
inductive StatsEvent
  | app (a : Action)
  | statsTimer (metrics : PStreamingSession → Option RtcIceCandidatePairStats)

namespace StatsRun

/-- `createdAt p` is the time at which the session at `p` is created. -/
def start (latched : Bool) (createdAt : PStreamingSession → UInt64) : StatsRun :=
  ⟨World.start latched, fun p => RtcMetricsHistory.create (createdAt p), []⟩

/-- One round of the loop of `getIceCandidatePairStatsCallback`. -/
def statsRound (metrics : PStreamingSession → Option RtcIceCandidatePairStats) (s : StatsRun)
    (p : PStreamingSession) : StatsRun :=
  let s := { s with world := { s.world with app := s.world.app.touchSession p } }
  match metrics p with
  | none => s
  | some m =>
    let currentMeasureDuration := (s.history p).measureDuration m
    if currentMeasureDuration > 0 then
      { s with
        history := Function.update s.history p (RtcMetricsHistory.update m)
        reports := s.reports ++
          [⟨p, currentMeasureDuration, fun c => m.counter c - (s.history p).prev c⟩] }
    else s

def getIceCandidatePairStatsCallback
    (metrics : PStreamingSession → Option RtcIceCandidatePairStats) (s : StatsRun) : StatsRun :=
  s.world.app.streamingSessionList.foldl (statsRound metrics) s

/-- The callback waits for `appConfigurationObjLock`. -/
def step (s : StatsRun) : StatsEvent → StatsRun
  | .app a => { s with world := s.world.step a }
  | .statsTimer metrics =>
    match s.world.holder with
    | .idle => getIceCandidatePairStatsCallback metrics s
    | _ => s

/-- The reports on `p`. -/
def reportsOn (s : StatsRun) (p : PStreamingSession) : List PairReport :=
  s.reports.filter (·.session = p)

/-- What the reports on `p` say the counter gained. -/
def gained (s : StatsRun) (p : PStreamingSession) (c : PairCounter) : UInt64 :=
  ((s.reportsOn p).map (·.gained c)).sum

/-! ## A round -/

section
variable {metrics : PStreamingSession → Option RtcIceCandidatePairStats} {s : StatsRun}
  {p q : PStreamingSession}

/-- A round with a live session leaves the world, and the other sessions' histories and reports. -/
theorem statsRound_others (metrics : PStreamingSession → Option RtcIceCandidatePairStats)
    (hp : s.world.app.sessions.live p = true) :
    (statsRound metrics s p).world = s.world ∧
      ∀ q, q ≠ p → (statsRound metrics s p).history q = s.history q ∧
        (statsRound metrics s p).reportsOn q = s.reportsOn q := by
  have htouch : ({ s.world with app := s.world.app.touchSession p } : World) = s.world := by
    rw [touchSession_of_live hp]
  unfold statsRound
  simp only [htouch]
  split
  · exact ⟨rfl, fun q _ => ⟨rfl, rfl⟩⟩
  · split
    · refine ⟨rfl, fun q hq => ⟨Function.update_of_ne hq _ _, ?_⟩⟩
      rw [reportsOn, reportsOn, List.filter_append]
      simp [Ne.symm hq]
    · exact ⟨rfl, fun q _ => ⟨rfl, rfl⟩⟩

/-- A round reports on its session and remembers the answer, or leaves it as it is. -/
theorem statsRound_self (metrics : PStreamingSession → Option RtcIceCandidatePairStats)
    (s : StatsRun) (p : PStreamingSession) :
    (∃ m, metrics p = some m ∧ 0 < (s.history p).measureDuration m ∧
        (statsRound metrics s p).history p = RtcMetricsHistory.update m ∧
        (statsRound metrics s p).reportsOn p = s.reportsOn p ++
          [⟨p, (s.history p).measureDuration m, fun c => m.counter c - (s.history p).prev c⟩]) ∨
      (∀ m, metrics p = some m → (s.history p).measureDuration m = 0) ∧
        (statsRound metrics s p).history p = s.history p ∧
        (statsRound metrics s p).reportsOn p = s.reportsOn p := by
  unfold statsRound
  simp only
  split
  · next hnone =>
    refine Or.inr ⟨fun m hm => ?_, rfl, rfl⟩
    rw [hnone] at hm
    cases hm
  · next m hm =>
    split
    · next hpos =>
      refine Or.inl ⟨m, hm, hpos, Function.update_self _ _ _, ?_⟩
      rw [reportsOn, reportsOn, List.filter_append]
      simp
    · next hzero =>
      refine Or.inr ⟨fun m' hm' => ?_, rfl, rfl⟩
      cases Option.some.inj (hm.symm.trans hm')
      exact UInt64.le_zero_iff.mp (UInt64.not_lt.mp hzero)

/-- A round depends on nothing but its own session. -/
theorem statsRound_congr (metrics : PStreamingSession → Option RtcIceCandidatePairStats)
    {s' : StatsRun} (hh : s'.history p = s.history p)
    (hr : s'.reportsOn p = s.reportsOn p) :
    (statsRound metrics s' p).history p = (statsRound metrics s p).history p ∧
      (statsRound metrics s' p).reportsOn p = (statsRound metrics s p).reportsOn p := by
  rcases statsRound_self metrics s p with
    ⟨m, hm, hpos, hhist, hrep⟩ | ⟨hzero, hhist, hrep⟩
  · rcases statsRound_self metrics s' p with
      ⟨m', hm', -, hhist', hrep'⟩ | ⟨hzero', -, -⟩
    · cases Option.some.inj (hm.symm.trans hm')
      rw [hhist', hhist, hrep', hrep, hh, hr]
      exact ⟨rfl, rfl⟩
    · exact absurd (hh ▸ hzero' m hm) (UInt64.ne_of_lt hpos).symm
  · rcases statsRound_self metrics s' p with
      ⟨m', hm', hpos', -, -⟩ | ⟨-, hhist', hrep'⟩
    · exact absurd (hzero m' hm') (UInt64.ne_of_lt (hh ▸ hpos')).symm
    · rw [hhist', hhist, hrep', hrep, hh, hr]
      exact ⟨rfl, rfl⟩

/-- The loop makes one round with each of the sessions, in a world that it leaves. -/
theorem foldl_statsRound (metrics : PStreamingSession → Option RtcIceCandidatePairStats)
    {l : List PStreamingSession} (hnd : l.Nodup)
    (hlive : ∀ p ∈ l, s.world.app.sessions.live p = true) :
    (l.foldl (statsRound metrics) s).world = s.world ∧
      ∀ q, (q ∈ l →
          (l.foldl (statsRound metrics) s).history q = (statsRound metrics s q).history q ∧
          (l.foldl (statsRound metrics) s).reportsOn q = (statsRound metrics s q).reportsOn q) ∧
        (q ∉ l → (l.foldl (statsRound metrics) s).history q = s.history q ∧
          (l.foldl (statsRound metrics) s).reportsOn q = s.reportsOn q) := by
  induction l generalizing s with
  | nil => exact ⟨rfl, fun q => ⟨fun h => absurd h List.not_mem_nil, fun _ => ⟨rfl, rfl⟩⟩⟩
  | cons p l ih =>
    obtain ⟨hp, hnd⟩ := List.nodup_cons.mp hnd
    obtain ⟨hworld, hothers⟩ :=
      statsRound_others metrics (hlive p List.mem_cons_self)
    obtain ⟨hw, hl⟩ := ih (s := statsRound metrics s p) hnd fun q hq => by
      rw [hworld]
      exact hlive q (List.mem_cons_of_mem _ hq)
    refine ⟨hw.trans hworld, fun q => ⟨fun hq => ?_, fun hq => ?_⟩⟩
    · rcases List.mem_cons.mp hq with rfl | hq
      · -- its own round, and no other one
        exact (hl q).2 hp
      · have hne : q ≠ p := fun h => hp (h ▸ hq)
        have hcongr := statsRound_congr metrics (hothers q hne).1 (hothers q hne).2
        exact ⟨((hl q).1 hq).1.trans hcongr.1, ((hl q).1 hq).2.trans hcongr.2⟩
    · obtain ⟨hne, hq⟩ := List.ne_and_not_mem_of_not_mem_cons hq
      exact ⟨((hl q).2 hq).1.trans (hothers q hne).1, ((hl q).2 hq).2.trans (hothers q hne).2⟩

/-- What the callback does to the world and to one session. -/
theorem callback_eq (metrics : PStreamingSession → Option RtcIceCandidatePairStats)
    (hw : WorldOk s.world) (q : PStreamingSession) :
    (getIceCandidatePairStatsCallback metrics s).world = s.world ∧
      (q ∈ s.world.app.streamingSessionList →
        (getIceCandidatePairStatsCallback metrics s).history q = (statsRound metrics s q).history q ∧
        (getIceCandidatePairStatsCallback metrics s).reportsOn q =
          (statsRound metrics s q).reportsOn q) ∧
      (q ∉ s.world.app.streamingSessionList →
        (getIceCandidatePairStatsCallback metrics s).history q = s.history q ∧
        (getIceCandidatePairStatsCallback metrics s).reportsOn q = s.reportsOn q) := by
  have h := foldl_statsRound metrics hw.sessions.nodup
    fun p hp => hw.sessions.listed_live hp
  exact ⟨h.1, h.2 q⟩

end

end StatsRun

/-! ## The gains -/

/-- The reports on a session add up to what its history holds. -/
structure ReportsOk (s : StatsRun) : Prop where
  world : WorldOk s.world
  gained : ∀ p c, s.gained p c = (s.history p).prev c

namespace ReportsOk

variable {s : StatsRun} {metrics : PStreamingSession → Option RtcIceCandidatePairStats}

theorem start (latched : Bool) (createdAt : PStreamingSession → UInt64) :
    ReportsOk (StatsRun.start latched createdAt) where
  world := WorldOk.start latched
  gained _ c := by cases c <;> rfl

/-- A report adds what was gained since the last one. -/
theorem gained_statsRound (h : ReportsOk s) (p : PStreamingSession) (c : PairCounter) :
    (((StatsRun.statsRound metrics s p).reportsOn p).map (·.gained c)).sum =
      ((StatsRun.statsRound metrics s p).history p).prev c := by
  rcases StatsRun.statsRound_self metrics s p with
    ⟨m, -, -, hhist, hrep⟩ | ⟨-, hhist, hrep⟩
  · have hsum := h.gained p c
    rw [StatsRun.gained] at hsum
    rw [hhist, hrep, List.map_append, List.sum_append, hsum, RtcMetricsHistory.prev_update]
    simp
  · rw [hhist, hrep]
    exact h.gained p c

theorem step (h : ReportsOk s) (e : StatsEvent) : ReportsOk (s.step e) := by
  cases e with
  | app a => exact ⟨h.world.step a, h.gained⟩
  | statsTimer metrics =>
    simp only [StatsRun.step]
    split
    · refine ⟨(StatsRun.callback_eq _ h.world 0).1 ▸ h.world, fun p c => ?_⟩
      obtain ⟨-, hin, hout⟩ := StatsRun.callback_eq metrics h.world p
      rw [StatsRun.gained]
      by_cases hp : p ∈ s.world.app.streamingSessionList
      · rw [(hin hp).1, (hin hp).2]
        exact h.gained_statsRound p c
      · rw [(hout hp).1, (hout hp).2]
        exact h.gained p c
    · exact h

end ReportsOk

/-- In every run up to `freeApp` the gains reported on a session add up to the counters of its last
report: with queries that fail, and with those that come too soon, nothing is lost and nothing
reported twice.  No callback touches a session that is not live, and one whose query is answered a
second or more after the last report brings the sum to the counters of the answer. -/
theorem reports_add_up (latched : Bool) (createdAt : PStreamingSession → UInt64)
    (es : List StatsEvent) (p : PStreamingSession) :
    let s := Run.exec StatsRun.step (StatsRun.start latched createdAt) es
    (∀ c, s.gained p c = (s.history p).prev c) ∧ s.world.app.sessions.misused = false ∧
      ∀ metrics m, s.world.holder = .idle → p ∈ s.world.app.streamingSessionList →
        metrics p = some m → 0 < (s.history p).measureDuration m →
        ∀ c, (s.step (.statsTimer metrics)).gained p c = m.counter c := by
  intro s
  have h : ReportsOk s := Run.exec_invariant (I := ReportsOk) (fun _ e h => h.step e)
    (ReportsOk.start latched createdAt) es
  refine ⟨h.gained p, ?_, fun metrics m hidle hp hm hpos c => ?_⟩
  · obtain ⟨leaked, ho, -⟩ := h.world.sessions.owned
    exact ho.unmisused
  · obtain ⟨-, hin, -⟩ := StatsRun.callback_eq metrics h.world p
    have hhist : ((s.step (.statsTimer metrics)).history p) = RtcMetricsHistory.update m := by
      simp only [StatsRun.step, hidle]
      rw [(hin hp).1]
      rcases StatsRun.statsRound_self metrics s p with
        ⟨m', hm', -, hhist, -⟩ | ⟨hzero, -, -⟩
      · cases Option.some.inj (hm.symm.trans hm')
        exact hhist
      · exact absurd (hzero m hm) (UInt64.ne_of_lt hpos).symm
    rw [(h.step (.statsTimer metrics)).gained, hhist, RtcMetricsHistory.prev_update]

/-! ## The seconds -/

/-- The seconds that the reports cover. -/
def secondsOf (reports : List PairReport) : Nat :=
  (reports.map (·.currentMeasureDuration.toNat)).sum

theorem secondsOf_snoc (reports : List PairReport) (r : PairReport) :
    secondsOf (reports ++ [r]) = secondsOf reports + r.currentMeasureDuration.toNat := by
  simp [secondsOf]

namespace StatsRun

/-- The timestamps of a session do not go back. -/
def InOrder (s : StatsRun) : StatsEvent → Prop
  | .app _ => True
  | .statsTimer metrics => ∀ p ∈ s.world.app.streamingSessionList, ∀ m ∈ metrics p,
      (s.history p).prevTs ≤ m.timestamp

instance decidableInOrder (s : StatsRun) : ∀ e, Decidable (s.InOrder e)
  | .app _ => isTrue trivial
  | .statsTimer metrics =>
    inferInstanceAs (Decidable (∀ p ∈ s.world.app.streamingSessionList, ∀ m ∈ metrics p,
      (s.history p).prevTs ≤ m.timestamp))

end StatsRun

/-- With its timestamps in order, the duration is the whole seconds since the last report. -/
theorem RtcMetricsHistory.toNat_measureDuration {h : RtcMetricsHistory} {m : RtcIceCandidatePairStats}
    (hle : h.prevTs ≤ m.timestamp) :
    (h.measureDuration m).toNat = (m.timestamp.toNat - h.prevTs.toNat) / 10000000 := by
  rw [measureDuration, UInt64.toNat_div, UInt64.toNat_sub_of_le _ _ hle]
  rfl

/-- The seconds reported of a session, and the time from its creation to its last report. -/
structure DurationsOk (createdAt : UInt64) (h : RtcMetricsHistory) (reports : List PairReport) :
    Prop where
  le : createdAt.toNat + secondsOf reports * 10000000 ≤ h.prevTs.toNat
  ge : h.prevTs.toNat ≤ createdAt.toNat + secondsOf reports * 10000000 + reports.length * 9999999

theorem DurationsOk.snoc {createdAt : UInt64} {h : RtcMetricsHistory} {reports : List PairReport}
    (hd : DurationsOk createdAt h reports) {m : RtcIceCandidatePairStats}
    (hle : h.prevTs ≤ m.timestamp) (p : PStreamingSession) (gained : PairCounter → UInt64) :
    DurationsOk createdAt (RtcMetricsHistory.update m)
      (reports ++ [⟨p, h.measureDuration m, gained⟩]) := by
  have hdur := RtcMetricsHistory.toNat_measureDuration hle
  have hle' : h.prevTs.toNat ≤ m.timestamp.toNat := UInt64.le_iff_toNat_le.mp hle
  have hlo := hd.le
  have hhi := hd.ge
  have hts : (RtcMetricsHistory.update m).prevTs.toNat = m.timestamp.toNat := rfl
  -- the part of a second that the duration leaves out
  have hfloor := Nat.div_mul_le_self (m.timestamp.toNat - h.prevTs.toNat) 10000000
  have hrest : m.timestamp.toNat - h.prevTs.toNat <
      (m.timestamp.toNat - h.prevTs.toNat) / 10000000 * 10000000 + 10000000 :=
    Nat.lt_div_mul_add (by decide)
  rw [← hdur] at hfloor hrest
  constructor
  · rw [secondsOf_snoc, hts, Nat.add_mul, ← Nat.add_assoc]
    calc createdAt.toNat + secondsOf reports * 10000000 + (h.measureDuration m).toNat * 10000000
        ≤ h.prevTs.toNat + (m.timestamp.toNat - h.prevTs.toNat) := Nat.add_le_add hlo hfloor
      _ = m.timestamp.toNat := Nat.add_sub_cancel' hle'
  · rw [secondsOf_snoc, hts, List.length_append, List.length_singleton]
    show _ ≤ _ + (_ + (h.measureDuration m).toNat) * _ + _
    omega

/-- Where the timestamps of each session never go back, the seconds reported on a session fall
short of the time from its creation to its last report, by less than a second for each report. -/
theorem durations_add_up (latched : Bool) (createdAt : PStreamingSession → UInt64)
    (es : List StatsEvent)
    (h : Run.Along StatsRun.step StatsRun.InOrder (StatsRun.start latched createdAt) es)
    (p : PStreamingSession) :
    let s := Run.exec StatsRun.step (StatsRun.start latched createdAt) es
    (createdAt p).toNat + secondsOf (s.reportsOn p) * 10000000 ≤ (s.history p).prevTs.toNat ∧
      (s.history p).prevTs.toNat ≤ (createdAt p).toNat +
        secondsOf (s.reportsOn p) * 10000000 + (s.reportsOn p).length * 9999999 := by
  intro s
  have hinv : WorldOk s.world ∧ DurationsOk (createdAt p) (s.history p) (s.reportsOn p) := by
    refine h.invariant (I := fun s => WorldOk s.world ∧
      DurationsOk (createdAt p) (s.history p) (s.reportsOn p)) ?_ fun s e hs he => ?_
    · refine ⟨WorldOk.start latched, ?_, ?_⟩
      · exact Nat.le_of_eq (by
          simp [StatsRun.start, StatsRun.reportsOn, RtcMetricsHistory.create, secondsOf])
      · exact Nat.le_of_eq (by
          simp [StatsRun.start, StatsRun.reportsOn, RtcMetricsHistory.create, secondsOf])
    · cases e with
      | app a => exact ⟨hs.1.step a, hs.2⟩
      | statsTimer metrics =>
        simp only [StatsRun.step]
        split
        · obtain ⟨hworld, hin, hout⟩ := StatsRun.callback_eq metrics hs.1 p
          refine ⟨hworld ▸ hs.1, ?_⟩
          by_cases hp : p ∈ s.world.app.streamingSessionList
          · rw [(hin hp).1, (hin hp).2]
            rcases StatsRun.statsRound_self metrics s p with
              ⟨m, hm, -, hhist, hrep⟩ | ⟨-, hhist, hrep⟩
            · rw [hhist, hrep]
              exact hs.2.snoc (he p hp m hm) p _
            · rw [hhist, hrep]
              exact hs.2
          · rw [(hout hp).1, (hout hp).2]
            exact hs.2
        · exact hs
  exact ⟨hinv.2.le, hinv.2.ge⟩

/-- A session created at 1 s, and the answers at 2.5 s, at 3.2 s (too soon) and at 4.9 s. -/
def statsOfOneSession : List StatsEvent :=
  let answer (timestamp packets : UInt64) : StatsEvent :=
    .statsTimer fun _ => some ⟨timestamp, packets, 0, 0, 0, 0⟩
  [.app (.receive Env.allOk (offerOf clientA)), .app .advance, .app .advance, .app .advance,
    .app .advance, answer 25000000 10, answer 32000000 20, answer 49000000 30]

theorem durations_add_up_oneSession :
    let s := Run.exec StatsRun.step (StatsRun.start true fun _ => 10000000) statsOfOneSession
    10000000 + secondsOf (s.reportsOn 0) * 10000000 ≤ (s.history 0).prevTs.toNat ∧
      (s.history 0).prevTs.toNat ≤
        10000000 + secondsOf (s.reportsOn 0) * 10000000 + (s.reportsOn 0).length * 9999999 :=
  durations_add_up true (fun _ => 10000000) statsOfOneSession (by decide +kernel) 0

end WebrtcApp
