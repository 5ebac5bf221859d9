import MoistureLoop.Controller.State
import MoistureLoop.StateMachine.StoredZone

/-! # Creating and attaching a controller

A controller is created for a safety record of the loaded store, with fail-closed defaults.
Attaching replaces them by what the store holds of the record and of its zone history, and
fails where the two do not belong together. -/

namespace MoistureLoop

/-- What a controller is created with. -/
structure Creation where
  zoneId : String
  safetyRecordId : String
  configFingerprint : String
  config : ZoneConfig
  today : LocalDate
  deriving DecidableEq, Repr

namespace ZoneController

/-- `ZoneController.__init__` for a record of the store. -/
def create (creation : Creation) (runId : String) (record : SafetyRecord) : ZoneController where
  zoneId := creation.zoneId
  safetyRecordId := creation.safetyRecordId
  zoneHistoryId := record.zoneHistoryId
  runId := runId
  configFingerprint := creation.configFingerprint
  config := creation.config
  runtimeLifecycle := record.runtimeLifecycle
  runtimeEligible := record.runtimeLifecycle = .active
  daily := ⟨creation.today, 0⟩

/-- What `async_attach` adopts from the canonical owners. -/
def restore (controller : ZoneController) (record : SafetyRecord) (history : ZoneHistory)
    (assessment : ActuatorAssessment) (observation : MoistureObservation) : ZoneController :=
  let runtime := history.zoneRuntime
  let faults := attachedFaults record.actuatorFault runtime.zoneFault runtime.secondaryFault
  { controller with
    state := runtime.state
    enabled := runtime.enabled
    activeFault := faults.1
    secondaryFault := faults.2
    lastSessionEnd := history.lastSessionEndUtc
    lastAutoSessionStart := history.lastAutoSessionStartUtc
    lastSummary := runtime.lastSessionSummary
    daily := match history.daily with
      | some daily => ⟨daily.dateLocal, daily.runtimeS⟩
      | none => controller.daily
    session := runtime.session.map PersistedSession.context
    assessment := assessment
    observation := observation }

/-- `async_attach`, with what the actuator and the sensor read then. -/
def attach (controller : ZoneController) (store : StoreData) (assessment : ActuatorAssessment)
    (observation : MoistureObservation) : Except PyError ZoneController :=
  match store.safetyRecords.get? controller.safetyRecordId,
      store.zoneHistories.get? controller.zoneHistoryId with
  | none, _ => .error (.storeWriteVerification "controller canonical ownership is unavailable")
  | some record, history =>
    if record.zoneHistoryId ≠ controller.zoneHistoryId then
      .error (.storeWriteVerification "controller canonical ownership is unavailable")
    else
      match history with
      | none => .error (.storeWriteVerification "controller zone history is unavailable")
      | some history =>
        if history.zoneRuntime.session.any fun persisted =>
            persisted.ownerSafetyRecordId ≠ controller.safetyRecordId then
          .error (.storeWriteVerification "persisted session owner does not match controller")
        else .ok (controller.restore record history assessment observation)

variable {controller next : ZoneController} {store : StoreData} {assessment : ActuatorAssessment}
  {observation : MoistureObservation}

theorem attach_eq_ok_iff : controller.attach store assessment observation = .ok next ↔
    ∃ record history, store.safetyRecords.get? controller.safetyRecordId = some record ∧
      record.zoneHistoryId = controller.zoneHistoryId ∧
      store.zoneHistories.get? controller.zoneHistoryId = some history ∧
      (∀ persisted, history.zoneRuntime.session = some persisted →
        persisted.ownerSafetyRecordId = controller.safetyRecordId) ∧
      next = controller.restore record history assessment observation := by
  unfold attach
  cases foundRecord : store.safetyRecords.get? controller.safetyRecordId with
  | none => simp
  | some record =>
    by_cases refers : record.zoneHistoryId = controller.zoneHistoryId
    · cases foundHistory : store.zoneHistories.get? controller.zoneHistoryId with
      | none => simp [refers]
      | some history =>
        cases held : history.zoneRuntime.session with
        | none => simp [refers, held, eq_comm]
        | some persisted =>
          by_cases owned : persisted.ownerSafetyRecordId = controller.safetyRecordId
          · simp [refers, held, owned, eq_comm]
          · simp [refers, held, owned]
    · simp [refers]

end ZoneController

end MoistureLoop
