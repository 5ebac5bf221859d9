import MoistureLoop.StateMachine.SessionChange

/-! # The freshness watchdog

An AUTO pulse may flow until its freshness deadline.  VALID reports move the deadline, each
with a new generation, and the controller accepts the callback of the token that it armed
last.  Arming is an action of a decision: it follows the write of the hazard intent, so that
between the two the token of an earlier pulse is still the armed one. -/

open MoistureLoop.Action

namespace MoistureLoop

def Action.watchdogToken : Action → Option WatchdogToken
  | .armWatchdog token => some token
  | _ => none

/-- The token that the actions of a decision arm. -/
def Decision.watchdogToken (decision : Decision) : Option WatchdogToken :=
  decision.actions.findSome? Action.watchdogToken

def Decision.CommitsStale (decision : Decision) : Prop :=
  decision.fault = some .sensorStale ∧ ∃ session, decision.session = some session ∧
    session.pendingTerminationReason = some .sensorFault

/-- The token of the generation and the deadline of the session. -/
def SessionContext.watchdogToken (session : SessionContext) : Option WatchdogToken :=
  session.sensorFreshUntilUtc.map (WatchdogToken.mk session.sensorFreshnessWatchdogGeneration)

def ControllerEvent.expiry (maxAge : Seconds) : ControllerEvent → Option Instant
  | .moistureReport ⟨_, .valid, reportedAtUtc⟩ => reportedAtUtc.map (· + maxAge)
  | _ => none

namespace StateMachine

variable {inp : TransitionInput} {decision : Decision} {session : SessionContext}
  {deadline : Instant}

/-! ## What a decision does with a flowing AUTO pulse -/

/-- The deadline and the generation are as they were. -/
def SameFreshness (before after : SessionContext) : Prop :=
  after.sensorFreshUntilUtc = before.sensorFreshUntilUtc ∧
    after.sensorFreshnessWatchdogGeneration = before.sensorFreshnessWatchdogGeneration

/-- The ways a decision goes on with an uncommitted AUTO pulse: it processes a VALID report or
the callback of the armed token, or leaves the freshness alone. -/
inductive FreshnessOutcome (inp : TransitionInput) (session : SessionContext) (deadline : Instant)
    (decision : Decision) : Prop where
  | extended {expiry : Instant} : inp.event.expiry inp.config.sensorMaxAgeS = some expiry →
      deadline ≤ expiry → decision.watchdogToken =
        some ⟨session.sensorFreshnessWatchdogGeneration + 1, expiry⟩ →
      decision.fault = none → decision.noOp = false → decision.session = some { session with
        sensorFreshUntilUtc := some expiry
        sensorFreshnessWatchdogGeneration := session.sensorFreshnessWatchdogGeneration + 1 } →
      FreshnessOutcome inp session deadline decision
  | replayed {expiry : Instant} : inp.event.expiry inp.config.sensorMaxAgeS = some expiry →
      expiry < deadline → decision = noOp → FreshnessOutcome inp session deadline decision
  | rearmed {token : WatchdogToken} : inp.event = .watchdogFired token →
      inp.armedWatchdog = some token → inp.nowUtc < deadline →
      decision = { actions :=
        [armWatchdog ⟨session.sensorFreshnessWatchdogGeneration, deadline⟩] } →
      FreshnessOutcome inp session deadline decision
  | expired {token : WatchdogToken} : inp.event = .watchdogFired token →
      inp.armedWatchdog = some token → deadline ≤ inp.nowUtc →
      decision = commitTermination session .sensorFault (some .sensorStale) →
      FreshnessOutcome inp session deadline decision
  | untouched : inp.event.expiry inp.config.sensorMaxAgeS = none →
      (∀ token, inp.event = .watchdogFired token → inp.armedWatchdog ≠ some token) →
      decision.watchdogToken = none → ¬ decision.CommitsStale →
      (∀ after, decision.session = some after → SameFreshness session after) →
      FreshnessOutcome inp session deadline decision

/-- An event that is neither a VALID report nor an accepted callback. -/
structure Unrelated (inp : TransitionInput) : Prop where
  expiry : inp.event.expiry inp.config.sensorMaxAgeS = none
  callback : ∀ token, inp.event = .watchdogFired token → inp.armedWatchdog ≠ some token

/-- A decision without a session leaves the freshness alone if it arms nothing. -/
theorem FreshnessOutcome.silent (unrelated : Unrelated inp) (unarmed : decision.watchdogToken = none)
    (none' : decision.session = none) : FreshnessOutcome inp session deadline decision :=
  .untouched unrelated.expiry unrelated.callback unarmed (by simp [Decision.CommitsStale, none'])
    (by simp [none'])

/-- A decision that changes neither deadline nor generation leaves the freshness alone. -/
theorem FreshnessOutcome.kept {after : SessionContext} (unrelated : Unrelated inp)
    (unarmed : decision.watchdogToken = none) (other : decision.fault ≠ some .sensorStale)
    (left : decision.session = some after) (same : SameFreshness session after) :
    FreshnessOutcome inp session deadline decision := by
  refine .untouched unrelated.expiry unrelated.callback unarmed (fun stale => other stale.1) ?_
  rintro after' left'
  obtain rfl := Option.some.inj (left.symm.trans left')
  exact same

/-- Another termination leaves the freshness alone. -/
theorem FreshnessOutcome.committed {reason : CompletionReason} {fault : Option FaultCode}
    {defensive : Bool} (unrelated : Unrelated inp) (other : fault ≠ some .sensorStale) :
    FreshnessOutcome inp session deadline (commitTermination session reason fault defensive) := by
  refine .kept unrelated ?_ other rfl ⟨rfl, rfl⟩
  cases fault <;> rfl

/-- Finalizing a session arms nothing. -/
theorem finalizeWatering_unarmed {reason : CompletionReason} {offAt : Instant}
    {extraActions : List Action} (extra : extraActions.findSome? Action.watchdogToken = none)
    (decided : finalizeWatering inp session reason offAt extraActions = .ok decision) :
    decision.watchdogToken = none ∧ decision.session = none := by
  simp only [finalizeWatering] at decided
  split at decided
  · obtain rfl := Except.ok.inj decided
    unfold finalizeManualComplete Decision.watchdogToken
    cases (closeRuntime session offAt reason).retainedSensorFault with
    | none => simp [List.findSome?_append, extra, Action.watchdogToken]
    | some retained =>
      by_cases fresh : freshValid inp = true <;>
        simp [fresh, List.findSome?_append, extra, Action.watchdogToken]
  · split at decided
    · cases decided
    · obtain rfl := Except.ok.inj decided
      have cleared : (postDestination inp (closeRuntime session offAt reason)
          reason).2.2.1.findSome? Action.watchdogToken = none := by
        simp only [postDestination]
        repeat'
          split
        all_goals rfl
      refine ⟨?_, rfl⟩
      simp only [Decision.watchdogToken, List.findSome?_append, extra, cleared]
      rfl

/-- A report is VALID and moves or keeps the deadline, or it has nothing to do with it. -/
theorem wateringMoisture_freshness {observation : MoistureObservation}
    (event : inp.event = .moistureReport observation) (auto : session.mode = .auto)
    (uncommitted : session.pendingTerminationReason = none)
    (fresh : session.sensorFreshUntilUtc = some deadline)
    (decided : wateringMoisture inp session observation = .ok decision) :
    FreshnessOutcome inp session deadline decision := by
  obtain ⟨value, classification, reportedAtUtc⟩ := observation
  have callback : ∀ token, inp.event = .watchdogFired token → inp.armedWatchdog ≠ some token :=
    fun token fires => by simp [event] at fires
  simp only [wateringMoisture, auto, uncommitted, Option.isSome_none, fresh, Option.any_some,
    decide_eq_true_eq, reduceCtorEq, Bool.false_eq_true, if_false] at decided
  cases classification with
  | valid =>
    cases reportedAtUtc with
    | none => cases decided
    | some reportedAt =>
      have expiry : inp.event.expiry inp.config.sensorMaxAgeS =
          some (reportedAt + inp.config.sensorMaxAgeS) := by simp [event, ControllerEvent.expiry]
      simp only at decided
      split at decided
      · rename_i older
        exact .replayed expiry older (Except.ok.inj decided).symm
      · rename_i newer
        obtain rfl := Except.ok.inj decided
        exact .extended expiry (not_lt.mp newer) rfl rfl rfl (by simp [auto, uncommitted])
  | invalid | unavailable =>
    obtain rfl := Except.ok.inj decided
    exact .committed ⟨by simp [event, ControllerEvent.expiry], callback⟩ (by simp)
  | stale =>
    obtain rfl := Except.ok.inj decided
    exact .silent ⟨by simp [event, ControllerEvent.expiry], callback⟩ rfl rfl

/-- A callback is accepted by its token, and expires the pulse only after its deadline. -/
theorem watchdogFiredRow_freshness {token : WatchdogToken}
    (event : inp.event = .watchdogFired token) (auto : session.mode = .auto)
    (uncommitted : session.pendingTerminationReason = none)
    (fresh : session.sensorFreshUntilUtc = some deadline)
    (decided : watchdogFiredRow inp session token = .ok decision) :
    FreshnessOutcome inp session deadline decision := by
  simp only [watchdogFiredRow, auto, uncommitted, Option.isSome_none, fresh, ne_eq,
    not_true_eq_false, Bool.false_eq_true, if_false] at decided
  split at decided
  · rename_i superseded
    obtain rfl := Except.ok.inj decided
    refine .silent ⟨by simp [event, ControllerEvent.expiry], ?_⟩ rfl rfl
    intro token' event' armed
    obtain rfl : token = token' := by simpa [event] using event'
    exact superseded armed
  · rename_i armed
    split at decided
    · rename_i early
      exact .rearmed event (not_not.mp armed) early (Except.ok.inj decided).symm
    · rename_i late
      exact .expired event (not_not.mp armed) (not_lt.mp late) (Except.ok.inj decided).symm

/-- What a decision does with the freshness of an uncommitted AUTO pulse. -/
theorem decide_freshness (flowing : inp.state = .watering) (held : inp.session = some session)
    (auto : session.mode = .auto) (uncommitted : session.pendingTerminationReason = none)
    (fresh : session.sensorFreshUntilUtc = some deadline) (decided : decide inp = .ok decision) :
    FreshnessOutcome inp session deadline decision := by
  unfold decide at decided
  split at decided
  · rename_i event
    obtain rfl := Except.ok.inj decided
    exact .silent ⟨by simp [event, ControllerEvent.expiry], by simp [event]⟩ rfl rfl
  · rename_i event
    obtain rfl := Except.ok.inj decided
    exact .silent ⟨by simp [event, ControllerEvent.expiry], by simp [event]⟩ rfl rfl
  simp only [flowing, decideWatering, held, auto, uncommitted, Option.isSome_none, Bool.false_or,
    Bool.false_eq_true, if_false, reduceCtorEq, false_and, true_and, if_true] at decided
  split at decided
  case h_5 observation event =>
    exact wateringMoisture_freshness event auto uncommitted fresh decided
  case h_6 token event => exact watchdogFiredRow_freshness event auto uncommitted fresh decided
  case h_1 atUtc event =>
    have unrelated : Unrelated inp := ⟨by simp [event, ControllerEvent.expiry], by simp [event]⟩
    unfold onConfirmedRow at decided
    split at decided
    · cases decided
    · obtain rfl := Except.ok.inj decided
      refine .kept unrelated ?_ (by simp) rfl ⟨rfl, rfl⟩
      split <;> rfl
  case h_18 noReport noCallback _ _ _ _ _ _ _ _ _ _ _ =>
    obtain rfl := Except.ok.inj decided
    refine .silent ⟨?_, fun token fires => absurd fires (noCallback token)⟩ rfl rfl
    unfold ControllerEvent.expiry
    split
    · exact absurd ‹_› (noReport _)
    · rfl
  all_goals
    rename_i event
    have unrelated : Unrelated inp := ⟨by simp [event, ControllerEvent.expiry], by simp [event]⟩
  case h_2 =>
    split at decided <;> obtain rfl := Except.ok.inj decided
    · exact .silent unrelated rfl rfl
    · exact .committed unrelated (by simp)
  case h_13 =>
    obtain ⟨unarmed, none'⟩ := finalizeWatering_unarmed rfl decided
    exact .silent unrelated unarmed none'
  case h_14 | h_15 =>
    obtain rfl := Except.ok.inj decided
    exact .kept unrelated rfl (fun stale => by cases stale) rfl ⟨rfl, rfl⟩
  case h_16 =>
    unfold startupPersistedWateringRow at decided
    split at decided
    · obtain ⟨unarmed, none'⟩ := finalizeWatering_unarmed rfl decided
      exact .silent unrelated unarmed none'
    · obtain rfl := Except.ok.inj decided
      exact .kept unrelated rfl (fun stale => by cases stale) rfl ⟨rfl, rfl⟩
  case h_3 | h_4 | h_17 =>
    obtain rfl := Except.ok.inj decided
    exact .silent unrelated rfl rfl
  case h_7 | h_8 | h_9 | h_10 | h_11 | h_12 =>
    obtain rfl := Except.ok.inj decided
    exact .committed unrelated (by simp)

/-! ## What the pulse rests on -/

/-- A flowing AUTO pulse without a committed reason. -/
structure Flows (state : ControllerState) (session : SessionContext) : Prop where
  watering : state = .watering
  auto : session.mode = .auto
  uncommitted : session.pendingTerminationReason = none

/-- The deadlines with that of the decision: a start begins with that of its observation, and
each VALID report that is processed brings its own, a replayed one too. -/
def noted (deadlines : List Instant) (inp : TransitionInput) (decision : Decision) :
    List Instant :=
  if turnOn ∈ decision.actions then
    (inp.observation.reportedAtUtc.map (· + inp.config.sensorMaxAgeS)).toList
  else if inp.state = .watering then
    (inp.event.expiry inp.config.sensorMaxAgeS).toList ++ deadlines
  else deadlines

structure Watches (deadlines : List Instant) (token : Option WatchdogToken)
    (session : SessionContext) : Prop where
  latest : session.sensorFreshUntilUtc = deadlines.max?
  shown : token = session.watchdogToken
  bounded : token.isSome = true

variable {deadlines : List Instant} {token : Option WatchdogToken} {before after : SessionContext}

theorem Watches.expires (watches : Watches deadlines token session) :
    ∃ deadline, session.sensorFreshUntilUtc = some deadline ∧
      token = some ⟨session.sensorFreshnessWatchdogGeneration, deadline⟩ := by
  have bounded := watches.bounded
  rw [watches.shown, SessionContext.watchdogToken, Option.isSome_map] at bounded
  obtain ⟨deadline, fresh⟩ := Option.isSome_iff_exists.mp bounded
  exact ⟨deadline, fresh, by rw [watches.shown, SessionContext.watchdogToken, fresh]; rfl⟩

/-- What leaves the freshness alone leaves the pulse with its deadline and its token. -/
theorem Watches.same (watches : Watches deadlines token before)
    (same : SameFreshness before after) : Watches deadlines token after where
  latest := same.1.trans watches.latest
  shown := by
    rw [watches.shown, SessionContext.watchdogToken, SessionContext.watchdogToken, same.1, same.2]
  bounded := watches.bounded

theorem noted_unrelated (silent : turnOn ∉ decision.actions)
    (unrelated : inp.event.expiry inp.config.sensorMaxAgeS = none) :
    noted deadlines inp decision = deadlines := by
  simp [noted, silent, unrelated]

theorem noted_expiry (flowing : inp.state = .watering) (silent : turnOn ∉ decision.actions)
    {expiry : Instant} (expires : inp.event.expiry inp.config.sensorMaxAgeS = some expiry) :
    noted deadlines inp decision = expiry :: deadlines := by
  simp [noted, silent, expires, flowing]

/-- A decision that goes on with the pulse leaves it with the latest deadline and its token. -/
theorem Watches.decided (watches : Watches deadlines token before)
    (flowing : inp.state = .watering) (silent : turnOn ∉ decision.actions)
    (fresh : before.sensorFreshUntilUtc = some deadline)
    (outcome : FreshnessOutcome inp before deadline decision)
    (left : decision.session.or (some before) = some after)
    (uncommitted : after.pendingTerminationReason = none) :
    Watches (noted deadlines inp decision) (decision.watchdogToken.or token) after := by
  have latest : deadlines.max? = some deadline := watches.latest.symm.trans fresh
  cases outcome with
  | extended expires later arms _ _ updated =>
    rw [updated, Option.some_or] at left
    obtain rfl := Option.some.inj left
    rw [arms, Option.some_or, noted_expiry flowing silent expires]
    exact ⟨by simp [latest, later], rfl, rfl⟩
  | replayed expires older noOp' =>
    subst noOp'
    obtain rfl := Option.some.inj left
    rw [noted_expiry flowing silent expires]
    refine ⟨?_, watches.shown, watches.bounded⟩
    rw [fresh, List.max?_cons, latest]
    exact congrArg some (max_eq_right older.le).symm
  | rearmed event _ _ rearms =>
    subst rearms
    obtain rfl := Option.some.inj left
    rw [noted_unrelated silent (by simp [event, ControllerEvent.expiry])]
    refine ⟨watches.latest, ?_, rfl⟩
    simp [Decision.watchdogToken, Action.watchdogToken, SessionContext.watchdogToken, fresh]
  | expired _ _ _ expires =>
    subst expires
    obtain rfl := Option.some.inj left
    cases uncommitted
  | untouched unrelated _ unarmed _ kept =>
    rw [noted_unrelated silent unrelated, unarmed, Option.none_or]
    cases changed : decision.session with
    | none =>
      rw [changed, Option.none_or] at left
      obtain rfl := Option.some.inj left
      exact watches
    | some updated =>
      rw [changed, Option.some_or] at left
      obtain rfl := Option.some.inj left
      exact watches.same (kept _ changed)

/-- A decision that is ignored leaves the pulse as it is. -/
theorem Watches.ignored (watches : Watches deadlines token session)
    (flowing : inp.state = .watering) (silent : turnOn ∉ decision.actions)
    (fresh : session.sensorFreshUntilUtc = some deadline)
    (outcome : FreshnessOutcome inp session deadline decision) (ignored : decision.noOp = true) :
    Watches (noted deadlines inp decision) token session := by
  cases outcome with
  | extended _ _ _ _ acts => simp [acts] at ignored
  | replayed expires older noOp' =>
    subst noOp'
    rw [noted_expiry flowing silent expires]
    refine ⟨?_, watches.shown, watches.bounded⟩
    rw [List.max?_cons, ← watches.latest, fresh]
    exact congrArg some (max_eq_right older.le).symm
  | rearmed _ _ _ rearms => simp [rearms] at ignored
  | expired _ _ _ expires => simp [expires, commitTermination] at ignored
  | untouched unrelated _ _ _ _ =>
    rw [noted_unrelated silent unrelated]
    exact watches

/-- A pulse that goes on after a decision that starts none was flowing before it. -/
theorem flows_before (decided : decide inp = .ok decision) (silent : turnOn ∉ decision.actions)
    (left : decision.session.or inp.session = some after)
    (flows : Flows (decision.newState.getD inp.state) after) :
    ∃ before, inp.session = some before ∧ Flows inp.state before ∧
      decision.session.or (some before) = some after := by
  obtain ⟨watering, auto, uncommitted⟩ := flows
  have rested (none' : decision.session = none) (rests : StaysOrRests inp decision) :
      ∃ before, inp.session = some before ∧ Flows inp.state before ∧
        decision.session.or (some before) = some after := by
    rw [none', Option.none_or] at left
    refine ⟨after, left, ⟨?_, auto, uncommitted⟩, by rw [none', Option.none_or]⟩
    rcases rests with same | ⟨away, -⟩
    · exact same.symm.trans watering
    · exact absurd watering away
  cases decide_outcome decided with
  | starts start => exact absurd (turnOn_of_pulseStart start) silent
  | ends _ none' _ _ _ rests => exact rested none' rests
  | keeps none' _ _ _ rests => exact rested none' rests
  | @changes before updated held changed _ _ _ change =>
    rw [changed, Option.some_or] at left
    obtain rfl := Option.some.inj left
    refine ⟨before, held, ?_, by rw [changed, Option.some_or]⟩
    cases change with
    | confirmed state => exact ⟨state, auto, uncommitted⟩
    | committed | recovering | unproven | interfered => cases uncommitted
    | refreshed state mode pending => exact ⟨state, mode, pending⟩
    | soaked _ _ _ _ soaks => simp [soaks] at watering
    | rechecked state _ _ none' => simp [state, none'] at watering
    | adopted _ _ _ soaks => simp [soaks] at watering

/-- A start leaves a pulse with the deadline of its observation. -/
theorem Watches.started (decided : decide inp = .ok decision) (starts : turnOn ∈ decision.actions)
    (left : decision.session.or inp.session = some after) (auto : after.mode = .auto) :
    Watches (noted deadlines inp decision) (decision.watchdogToken.or token) after := by
  have begins : noted deadlines inp decision =
      (inp.observation.reportedAtUtc.map (· + inp.config.sensorMaxAgeS)).toList := if_pos starts
  rw [begins]
  cases decide_start decided starts with
  | first reportedAt identity _ _ _ reported _ _ started =>
    rw [started.session, Option.some_or] at left
    obtain rfl := Option.some.inj left
    rw [Decision.watchdogToken, started.actions, reported]
    exact ⟨rfl, rfl, rfl⟩
  | next session reportedAt value _ _ _ _ _ reported _ started =>
    rw [started.session, Option.some_or] at left
    obtain rfl := Option.some.inj left
    rw [Decision.watchdogToken, started.actions, reported]
    exact ⟨rfl, rfl, rfl⟩
  | manual _ _ _ _ _ _ started =>
    rw [started.session, Option.some_or] at left
    obtain rfl := Option.some.inj left
    cases auto

/-! ## What the watchdog commits -/

/-- SENSOR_STALE is committed by the callback of the armed token, once the deadline is over. -/
theorem FreshnessOutcome.commitsStale_iff
    (outcome : FreshnessOutcome inp session deadline decision) :
    decision.CommitsStale ↔ ∃ token, inp.event = .watchdogFired token ∧
      inp.armedWatchdog = some token ∧ deadline ≤ inp.nowUtc := by
  constructor
  · intro stale
    cases outcome with
    | extended _ _ _ unfaulted =>
      rw [Decision.CommitsStale, unfaulted] at stale
      cases stale.1
    | replayed _ _ ignored =>
      rw [ignored] at stale
      cases stale.1
    | rearmed _ _ _ rearms =>
      rw [rearms] at stale
      cases stale.1
    | @expired token event armed late => exact ⟨token, event, armed, late⟩
    | untouched _ _ _ other => exact absurd stale other
  · rintro ⟨token, event, armed, late⟩
    have unreported : inp.event.expiry inp.config.sensorMaxAgeS = none := by
      simp [event, ControllerEvent.expiry]
    cases outcome with
    | extended expires | replayed expires => simp [unreported] at expires
    | rearmed _ _ early => exact absurd late (not_le.mpr early)
    | expired _ _ _ expires =>
      rw [expires]
      exact ⟨rfl, _, rfl, rfl⟩
    | untouched _ superseded => exact absurd armed (superseded token event)

/-- No decision brings the deadline forward. -/
theorem FreshnessOutcome.deadline_le (outcome : FreshnessOutcome inp session deadline decision)
    (fresh : session.sensorFreshUntilUtc = some deadline) (left : decision.session = some after) :
    ∃ later, after.sensorFreshUntilUtc = some later ∧ deadline ≤ later := by
  cases outcome with
  | extended _ later _ _ _ updated =>
    obtain rfl := Option.some.inj (updated.symm.trans left)
    exact ⟨_, rfl, later⟩
  | replayed _ _ ignored =>
    rw [ignored] at left
    cases left
  | rearmed _ _ _ rearms =>
    rw [rearms] at left
    cases left
  | expired _ _ _ expires =>
    rw [expires] at left
    obtain rfl := Option.some.inj left
    exact ⟨deadline, fresh, le_rfl⟩
  | untouched _ _ _ _ kept => exact ⟨deadline, (kept _ left).1.trans fresh, le_rfl⟩

/-- A STALE report decides nothing while an AUTO pulse flows. -/
theorem staleReport_ignored {observation : MoistureObservation} (flows : Flows inp.state session)
    (held : inp.session = some session) (event : inp.event = .moistureReport observation)
    (stale : observation.classification = .stale) (decided : decide inp = .ok decision) :
    decision = noOp := by
  simp only [decide, event, flows.watering, decideWatering, held, wateringMoisture, flows.auto,
    flows.uncommitted, stale, Option.isSome_none, reduceCtorEq, Bool.false_eq_true, if_false]
    at decided
  exact (Except.ok.inj decided).symm

end StateMachine

/-! ## Zones with their watchdog -/

/-- A zone with the token that the controller has armed, the token that the last decision asked
to arm while this is still ahead, and the deadlines of the reports of the pulse. -/
structure WatchedZone where
  zone : Zone
  armed : Option WatchdogToken := none
  arming : Option WatchdogToken := none
  deadlines : List Instant := []
  deriving DecidableEq, Repr

/-- A step of the zone, or the execution of the `ArmWatchdog` that is ahead. -/
inductive WatchedLabel where
  | zone (label : ZoneLabel)
  | arm
  deriving DecidableEq, Repr

/-- A compensation reports the observation only when it is not VALID. -/
def TransitionInput.compensable (input : TransitionInput) : Bool :=
  match input.event with
  | .moistureReport observation =>
    observation = input.observation ∧ observation.classification ≠ .valid
  | _ => true

namespace WatchedZone

def shows (watched : WatchedZone) : ZoneLabel → Bool
  | .decide input | .setEnabled _ input => input.armedWatchdog = watched.armed
  | .compensate input => input.armedWatchdog = watched.armed ∧ input.compensable
  | .commanded _ _ | .writeFailed => true

/-- A decision: its token is to be armed, unless it is a no-op. -/
def decided (watched : WatchedZone) (input : TransitionInput) : WatchedZone :=
  match StateMachine.decide input with
  | .error _ => watched
  | .ok decision => { watched with
      arming := if decision.noOp then watched.arming else decision.watchdogToken.or watched.arming
      deadlines := StateMachine.noted watched.deadlines input decision }

/-- What a step of the zone does to the watchdog: a failed write drops the actions ahead, and
compensations arm nothing. -/
def note (watched : WatchedZone) : ZoneLabel → WatchedZone
  | .decide input | .setEnabled _ input => watched.decided input
  | .writeFailed => { watched with arming := none }
  | .compensate _ | .commanded _ _ => watched

def step (watched : WatchedZone) : WatchedLabel → Option WatchedZone
  | .zone label =>
    if watched.shows label then
      (watched.zone.step label).map fun zone => { watched.note label with zone := zone }
    else none
  | .arm => some { watched with armed := watched.arming.or watched.armed, arming := none }

def system : LabelledSystem WatchedZone WatchedLabel := ⟨step⟩

/-! ## The watchdog of every run -/

open StateMachine

variable {watched next start finish : WatchedZone} {label : WatchedLabel} {zone : Zone}
  {input : TransitionInput} {decision : Decision}

/-- The pulse that the zone is in, if one flows, has its latest deadline and the token that is
armed once the actions ahead are executed. -/
def WatchesZone (watched : WatchedZone) (zone : Zone) : Prop :=
  ∀ session, zone.session = some session → Flows zone.state session →
    Watches watched.deadlines (watched.arming.or watched.armed) session

theorem silent_of_noOp (decided : decide input = .ok decision) (ignored : decision.noOp = true) :
    turnOn ∉ decision.actions := by
  intro starts
  cases decide_start decided starts with
  | first _ _ _ _ _ _ _ _ started | next _ _ _ _ _ _ _ _ _ _ started
  | manual _ _ _ _ _ _ started => simp [started.acts] at ignored

/-- A compensation starts no pulse and brings no deadline. -/
theorem silent_of_compensates {mode : SessionMode} (decided : decide input = .ok decision)
    (compensates : input.event.compensates mode = true) (allowed : input.compensable = true) :
    turnOn ∉ decision.actions ∧ input.event.expiry input.config.sensorMaxAgeS = none := by
  have unfresh (observation : MoistureObservation)
      (event : input.event = .moistureReport observation) :
      observation = input.observation ∧ observation.classification ≠ .valid := by
    simpa [TransitionInput.compensable, event] using allowed
  constructor
  · intro starts
    cases decide_effect decided with
    | starts _ _ _ _ _ permitted =>
      obtain ⟨may, ⟨requested, event⟩ | fresh⟩ := permitted
      · simp [event, ControllerEvent.compensates] at compensates
      · cases event : input.event <;> simp [event, mayStart] at may <;>
          simp [event, ControllerEvent.compensates] at compensates
        rename_i observation
        obtain ⟨rfl, invalid⟩ := unfresh observation event
        simp [freshValid, invalid] at fresh
    | clears _ _ _ silent => exact silent starts
    | updates _ _ _ _ _ _ _ silent => exact silent starts
    | keeps _ _ silent => exact silent starts
  · unfold ControllerEvent.expiry
    split
    · rename_i event
      exact absurd rfl (unfresh _ event).2
    · rfl

theorem WatchesZone.decideWith (holds : watched.WatchesZone zone) (feeds : zone.Feeds input) :
    (watched.decided input).WatchesZone (zone.decideWith input Zone.adopt) := by
  obtain ⟨state, -, same, -⟩ := feeds
  unfold WatchedZone.decided Zone.decideWith
  cases decided : decide input with
  | error err => exact holds
  | ok decision =>
    simp only
    split
    · rename_i ignored
      intro session held flows
      have silent := silent_of_noOp decided ignored
      have watches := holds session held flows
      obtain ⟨deadline, fresh, -⟩ := watches.expires
      have flowing := state.trans flows.watering
      exact watches.ignored flowing silent fresh
        (decide_freshness flowing (same.trans held) flows.auto flows.uncommitted fresh decided)
        ignored
    · intro session left flows
      simp only [Zone.adopt] at left flows
      split at left
      · cases left
      · rw [Option.or_assoc]
        rw [← same] at left
        rw [← state] at flows
        by_cases starts : turnOn ∈ decision.actions
        · exact .started decided starts left flows.auto
        · obtain ⟨before, held, flowing, kept⟩ := flows_before decided starts left flows
          have watches := holds before (same.symm.trans held) (by rwa [← state])
          obtain ⟨deadline, fresh, -⟩ := watches.expires
          exact watches.decided flowing.watering starts fresh
            (decide_freshness flowing.watering held flowing.auto flowing.uncommitted fresh decided)
            kept flows.uncommitted

/-- A compensation commits a reason, or leaves the pulse with its deadline and its token. -/
theorem WatchesZone.commit (holds : watched.WatchesZone zone) (feeds : zone.Feeds input)
    {mode : SessionMode} (compensates : input.event.compensates mode = true)
    (allowed : input.compensable = true) :
    watched.WatchesZone (zone.decideWith input Zone.commit) := by
  obtain ⟨state, -, same, -⟩ := feeds
  unfold Zone.decideWith
  cases decided : decide input with
  | error err => exact holds
  | ok decision =>
    simp only
    split
    · exact holds
    · intro session left flows
      simp only [Zone.commit] at left flows
      rw [← same] at left
      rw [← state] at flows
      obtain ⟨silent, unreported⟩ := silent_of_compensates decided compensates allowed
      obtain ⟨before, held, flowing, kept⟩ := flows_before decided silent left flows
      have watches := holds before (same.symm.trans held) (by rwa [← state])
      obtain ⟨deadline, fresh, shown⟩ := watches.expires
      have outcome :=
        decide_freshness flowing.watering held flowing.auto flowing.uncommitted fresh decided
      have went := watches.decided flowing.watering silent fresh outcome kept flows.uncommitted
      rw [noted_unrelated silent unreported] at went
      -- A callback that comes too early asks for the token that is armed already.
      have same' : decision.watchdogToken.or (watched.arming.or watched.armed) =
          watched.arming.or watched.armed := by
        cases outcome with
        | extended expires | replayed expires => simp [unreported] at expires
        | rearmed _ _ _ rearms =>
          rw [rearms, shown]
          rfl
        | expired _ _ _ expires =>
          rw [expires]
          rfl
        | untouched _ _ unarmed => rw [unarmed, Option.none_or]
      rwa [same'] at went

theorem WatchesZone.step (holds : watched.WatchesZone watched.zone)
    (stepped : watched.step label = some next) : next.WatchesZone next.zone := by
  cases label with
  | arm =>
    obtain rfl := Option.some.inj stepped
    exact holds
  | zone label =>
    obtain ⟨shown, ran⟩ := Option.ite_none_right_eq_some.mp stepped
    obtain ⟨zone, moved, rfl⟩ := Option.map_eq_some_iff.mp ran
    clear ran stepped
    cases label with
    | decide input =>
      obtain ⟨⟨feeds, -⟩, same⟩ := Option.ite_none_right_eq_some.mp moved
      obtain rfl := Option.some.inj same
      exact holds.decideWith feeds
    | setEnabled enabled input =>
      obtain ⟨⟨feeds, -⟩, same⟩ := Option.ite_none_right_eq_some.mp moved
      obtain rfl := Option.some.inj same
      have toggled : watched.WatchesZone { watched.zone with enabled := enabled } := holds
      exact toggled.decideWith feeds
    | compensate input =>
      simp only [Zone.step] at moved
      split at moved
      · cases moved
      · obtain ⟨⟨feeds, compensates⟩, same⟩ := Option.ite_none_right_eq_some.mp moved
        obtain rfl := Option.some.inj same
        have marked : watched.WatchesZone watched.zone.markEstimated := by
          intro session left flows
          obtain ⟨before, held, rfl⟩ := Option.map_eq_some_iff.mp left
          obtain ⟨watering, auto, uncommitted⟩ := flows
          split at auto <;> rename_i estimated <;> simp only [estimated] at uncommitted ⊢
          · exact holds before held ⟨watering, auto, uncommitted⟩
          · exact (holds before held ⟨watering, auto, uncommitted⟩).same ⟨rfl, rfl⟩
        simp only [shows, Bool.decide_and, Bool.decide_eq_true, Bool.and_eq_true] at shown
        exact marked.commit feeds compensates shown.2
    | commanded sessionId atUtc =>
      obtain rfl := Option.some.inj moved
      intro session left flows
      obtain ⟨before, held, rfl⟩ := Option.map_eq_some_iff.mp left
      obtain ⟨watering, auto, uncommitted⟩ := flows
      split at auto <;> rename_i own <;> simp only [own] at uncommitted ⊢
      · exact (holds before held ⟨watering, auto, uncommitted⟩).same ⟨rfl, rfl⟩
      · exact holds before held ⟨watering, auto, uncommitted⟩
    | writeFailed =>
      obtain rfl := Option.some.inj moved
      intro session left flows
      cases flows.watering

/-- In every run: a flowing AUTO pulse without a committed reason has the latest deadline of its
starting observation and of its VALID reports, and the token of its generation and of this
deadline is armed, or about to be.  SENSOR_STALE is committed by the callback of the armed
token after the deadline, by nothing else; a STALE report decides nothing, and no report
brings the deadline forward. -/
theorem watchdogExact_of_run (reached : system.Run (fun _ _ _ => True) start finish)
    (resting : start.zone.state ≠ .watering) {session : SessionContext}
    (held : finish.zone.session = some session) (flows : Flows finish.zone.state session) :
    ∃ deadline, session.sensorFreshUntilUtc = some deadline ∧
      finish.deadlines.max? = some deadline ∧
      (finish.arming = none →
        finish.armed = some ⟨session.sensorFreshnessWatchdogGeneration, deadline⟩) ∧
      (∀ token, finish.arming = some token →
        token = ⟨session.sensorFreshnessWatchdogGeneration, deadline⟩) ∧
      ∀ input decision, finish.zone.Feeds input → input.armedWatchdog = finish.armed →
        decide input = .ok decision →
        (decision.CommitsStale ↔ ∃ token, input.event = .watchdogFired token ∧
          finish.armed = some token ∧ deadline ≤ input.nowUtc) ∧
        (∀ observation, input.event = .moistureReport observation →
          observation.classification = .stale → decision = noOp) ∧
        ∀ after, decision.session = some after →
          ∃ later, after.sensorFreshUntilUtc = some later ∧ deadline ≤ later := by
  have initial : start.WatchesZone start.zone := fun _ _ flows => absurd flows.watering resting
  have holds : finish.WatchesZone finish.zone :=
    reached.preserves initial fun _ _ _ holds stepped _ => WatchesZone.step holds stepped
  have watches := holds session held flows
  obtain ⟨deadline, fresh, shown⟩ := watches.expires
  refine ⟨deadline, fresh, watches.latest.symm.trans fresh, ?_, ?_, ?_⟩
  · intro none'
    rwa [none', Option.none_or] at shown
  · intro token ahead
    rw [ahead, Option.some_or] at shown
    exact Option.some.inj shown
  · rintro input decision ⟨state, -, same, -⟩ armed decided
    have flowing : Flows input.state session := by rwa [state]
    have outcome := decide_freshness flowing.watering (same.trans held) flows.auto
      flows.uncommitted fresh decided
    refine ⟨?_, ?_, fun after left => outcome.deadline_le fresh left⟩
    · rw [← armed]
      exact outcome.commitsStale_iff
    · intro observation event stale
      exact staleReport_ignored flowing (same.trans held) event stale decided

/-- An automatic start of a zone at rest. -/
def startLabel : WatchedLabel := .zone (.decide (Zone.atRest.sampleInput .autoEvaluate))

/-- The pulse that it starts. -/
def flowing : Zone := Zone.atRest.decideWith (Zone.atRest.sampleInput .autoEvaluate) Zone.adopt

/-- A report half a minute later. -/
def reportLabel : WatchedLabel :=
  .zone (.decide { flowing.sampleInput (.moistureReport ⟨some 10, .valid, some 130⟩) with
    nowUtc := 130
    armedWatchdog := some ⟨1, 3700⟩ })

/-- The report moves the deadline and is watched under the second token. -/
theorem watchdogExact_of_run_report :
    ∃ finish session deadline, system.run ⟨Zone.atRest, none, none, []⟩
        [startLabel, .arm, reportLabel, .arm] = some finish ∧
      finish.zone.session = some session ∧ session.sensorFreshUntilUtc = some deadline ∧
      finish.deadlines.max? = some deadline ∧ finish.armed = some ⟨2, 3730⟩ := by
  obtain ⟨finish, executed, ends⟩ := (Option.any_eq_true _ _).mp
    (show ((system.run ⟨Zone.atRest, none, none, []⟩
      [startLabel, .arm, reportLabel, .arm]).any fun finish =>
        decide (finish.zone.state = .watering ∧ finish.armed = some ⟨2, 3730⟩) &&
        finish.zone.session.any fun session =>
          decide (session.mode = .auto ∧ session.pendingTerminationReason = none)) = true by
            decide +kernel)
  simp only [Bool.and_eq_true, decide_eq_true_eq] at ends
  obtain ⟨⟨watering, armed⟩, flows⟩ := ends
  obtain ⟨session, held, flows⟩ := (Option.any_eq_true _ _).mp flows
  obtain ⟨auto, uncommitted⟩ := of_decide_eq_true flows
  obtain ⟨deadline, fresh, latest, -⟩ := watchdogExact_of_run (.of_run executed)
    (show Zone.atRest.state ≠ .watering by decide) held ⟨watering, auto, uncommitted⟩
  exact ⟨finish, session, deadline, executed, held, fresh, latest, armed⟩

/-- While the hazard intent is being written, the pulse flows for the state machine and its
token is not armed. -/
theorem not_armed_starting :
    ¬ ∀ (start finish : WatchedZone) (session : SessionContext),
      system.Run (fun _ _ _ => True) start finish → start.zone.state ≠ .watering →
      finish.zone.session = some session → Flows finish.zone.state session →
      finish.armed = session.watchdogToken := by
  intro claimed
  obtain ⟨finish, executed, ends⟩ := (Option.any_eq_true _ _).mp
    (show ((system.run ⟨Zone.atRest, none, none, []⟩ [startLabel]).any fun finish =>
        decide (finish.zone.state = .watering ∧ finish.armed = none) &&
        finish.zone.session.any fun session =>
          decide (session.mode = .auto ∧ session.pendingTerminationReason = none ∧
            session.watchdogToken.isSome = true)) = true by decide +kernel)
  simp only [Bool.and_eq_true, decide_eq_true_eq] at ends
  obtain ⟨⟨watering, unarmed⟩, flows⟩ := ends
  obtain ⟨session, held, flows⟩ := (Option.any_eq_true _ _).mp flows
  obtain ⟨auto, uncommitted, token⟩ := of_decide_eq_true flows
  have armed := claimed _ finish session (.of_run executed)
    (show Zone.atRest.state ≠ .watering by decide) held ⟨watering, auto, uncommitted⟩
  rw [← armed, unarmed] at token
  cases token

end WatchedZone

end MoistureLoop
