import MoistureLoop.Foundations.Stateful
import MoistureLoop.Store.Migration
import MoistureLoop.Store.Transactions

/-! # The safety store and its backend

`SafetyStore` over a backend of which nothing is assumed: a save may raise, be dropped or
store something else, and a load may return any payload or raise.  Every operation holds
the store's lock and ends by `_save_and_verify_locked`, so one lemma about that method and
one about the setup decision matrix cover every place where an operation can fail. -/

namespace MoistureLoop

/-! ## Python's equality of stored values -/

def Payload.number? : Payload → Option ℚ
  | .bool value => some (if value then 1 else 0)
  | .int value => some value
  | .float value => some value
  | _ => none

def Payload.isNull : Payload → Bool
  | .null => true
  | _ => false

mutual

/-- Python's `==`; the entries of a dictionary have no order. -/
def Payload.equals : Payload → Payload → Bool
  | .null, .null => true
  | .str text, .str other => text = other
  | .list items, .list others => Payload.equalItems items others
  | .dict entries, .dict others =>
    entries.length = others.length && Payload.equalEntries entries others
  | value, other =>
    match value.number?, other.number? with
    | some number, some same => number = same
    | _, _ => false

def Payload.equalItems : List Payload → List Payload → Bool
  | [], [] => true
  | item :: items, other :: others => Payload.equals item other && Payload.equalItems items others
  | _, _ => false

def Payload.equalEntries : List (String × Payload) → List (String × Payload) → Bool
  | [], _ => true
  | (key, value) :: entries, others =>
    (match others.lookup key with
      | some other => Payload.equals value other
      | none => false) && Payload.equalEntries entries others

end

/-! ## The backend -/

/-- How a call of Home Assistant's `Store` ends. -/
inductive BackendCall (α : Type) where
  | returned (value : α)
  /-- `NotImplementedError`: the payload has another major version. -/
  | notImplemented
  | raised (repr : String)
  /-- An exception that `except Exception` does not catch. -/
  | cancelled

/-- The wrappers that `_load_current_or_schema1_locked` tries in turn. -/
inductive StoreReader where
  | current | prior | schema1
  deriving DecidableEq

/-- What the backend answers during one operation.  The read-back need not be what was
saved. -/
structure Backend where
  cancelledAtLock : Bool
  load : StoreReader → BackendCall Payload
  save : BackendCall Unit
  readBack : BackendCall Payload

/-! ## The store -/

/-- `SafetyStore`: `data` is the last verified snapshot. -/
structure SafetyStore where
  generationId : String
  data : Option StoreData

/-- `SafetyStore(hass, entry_id, generation_id)`. -/
def SafetyStore.opened (generationId : String) : SafetyStore := ⟨generationId, none⟩

/-- What an operation raises. -/
inductive StoreError where
  | store (err : PyError)
  | codec (err : DecodeError)
  | cancelled

abbrev StoreM := Stateful SafetyStore StoreError

/-- `async with self._lock`. -/
def acquireLock (backend : Backend) : StoreM Unit :=
  Stateful.require (!backend.cancelledAtLock) .cancelled

/-- `self.data`. -/
def loadedData (store : SafetyStore) : Except StoreError StoreData :=
  match store.data with
  | some data => .ok data
  | none => .error (.store (.storeNotLoaded "safety store has no verified snapshot"))

/-- An `Exception` of the backend is a failed write; a cancellation stays one. -/
def BackendCall.orFailedWrite {α : Type} (call : BackendCall α) (context : String) :
    Except StoreError α :=
  match call with
  | .returned value => .ok value
  | .notImplemented =>
    .error (.store (.storeWriteVerification (context ++ "NotImplementedError()")))
  | .raised repr => .error (.store (.storeWriteVerification (context ++ repr)))
  | .cancelled => .error .cancelled

/-- `except StoreDataError`. -/
def DecodeError.isStoreDataError : DecodeError → Bool
  | .malformed _ | .futureVersion _ => true
  | .value _ | .overflow => false

/-- `except (StoreDataError, ValueError)`. -/
def DecodeError.isValueError : DecodeError → Bool
  | .malformed _ | .futureVersion _ | .value _ => true
  | .overflow => false

def DecodeError.message : DecodeError → String
  | .malformed message | .futureVersion message | .value message => message
  | .overflow => "int too large to convert to float"

section Operations

variable (py : PyRuntime) (stableMigrationId integrityId : String → String → String → String)

/-! ## Verified writes -/

/-- The parse of the read-back; only a `StoreDataError` becomes a failed write. -/
def parseReadBack (raw : Payload) : Except StoreError StoreData :=
  match storeDataFromDict py raw with
  | .ok loaded => .ok loaded
  | .error err =>
    if err.isStoreDataError then
      .error (.store (.storeWriteVerification ("read-back malformed: " ++ err.message)))
    else .error (.codec err)

def serialize (data : StoreData) : Except StoreError Payload :=
  (storeDataToDict py data.toStoreFields).mapError .codec

def failedWrite (message : String) : StoreError := .store (.storeWriteVerification message)

/-- `_save_and_verify_locked`.  The parsed schema version is fixed by the type of a
snapshot. -/
def saveAndVerifyLocked (data : StoreData) (backend : Backend) : StoreM Unit := do
  let payload ← Stateful.ofExcept (serialize py data)
  let _ ← Stateful.ofExcept (backend.save.orFailedWrite "safety write failed: ")
  let raw ← Stateful.ofExcept (backend.readBack.orFailedWrite "read-back load failed: ")
  Stateful.require (!raw.isNull) (failedWrite "read-back returned no data")
  let loaded ← Stateful.ofExcept (parseReadBack py raw)
  Stateful.require (loaded.generationId = data.generationId)
    (failedWrite "read-back generation mismatch")
  Stateful.require (loaded.storeRevision = data.storeRevision)
    (failedWrite "read-back revision mismatch")
  let again ← Stateful.ofExcept (serialize py loaded)
  Stateful.require (again.equals payload) (failedWrite "read-back payload mismatch")
  let store ← get
  set { store with data := some data }

/-! ## Transactions over the loaded snapshot -/

/-- Save the snapshot a transaction made; without one the loaded snapshot is returned. -/
def commit (before : StoreData) (next : Option StoreData) (backend : Backend) : StoreM StoreData :=
  match next with
  | none => pure before
  | some data => do
    saveAndVerifyLocked py data backend
    pure data

/-- The common shape of the operations over a loaded snapshot: the snapshot before and
after. -/
def transact (transaction : StoreData → Except PyError (Option StoreData)) (backend : Backend) :
    StoreM (StoreData × StoreData) := do
  acquireLock backend
  let store ← get
  let before ← Stateful.ofExcept (loadedData store)
  let next ← Stateful.ofExcept ((transaction before).mapError .store)
  let after ← commit py before next backend
  pure (before, after)

/-- The operations that start the store anew: the snapshot they write. -/
def replaceSnapshot (snapshot : String → Except DecodeError StoreData) (backend : Backend) :
    StoreM StoreData := do
  acquireLock backend
  let store ← get
  let data ← Stateful.ofExcept ((snapshot store.generationId).mapError .codec)
  saveAndVerifyLocked py data backend
  pure data

/-! ## The setup decision matrix -/

inductive SetupClassification where
  | firstInstall | interruptedInitialization | initializedOk | integrityLoss
  deriving DecidableEq, Repr

/-- `_load_current_or_schema1_locked`: the first reader that knows the payload's version. -/
def firstSupported : List (BackendCall Payload) → BackendCall Payload
  | [] => .raised "MalformedStoreData('no supported Store schema reader accepted the payload')"
  | .notImplemented :: rest => firstSupported rest
  | answer :: _ => answer

def loadCurrentOrSchema1Locked (backend : Backend) : BackendCall Payload :=
  firstSupported [backend.load .current, backend.load .prior, backend.load .schema1]

/-- `try … except …: return INTEGRITY_LOSS`; none is the loss. -/
def orLoss {α : Type} (result : Except DecodeError α) (caught : DecodeError → Bool)
    (rest : α → StoreM (Option StoreData)) : StoreM (Option StoreData) :=
  match result with
  | .ok value => rest value
  | .error err => if caught err then pure none else throw (.codec err)

/-- The contexts of the zones that the schema-1 payload knows. -/
def relevantRecords (migrationRecords : Dict String MigrationRecordContext)
    (legacy : Schema1StoreData) : Dict String MigrationRecordContext where
  entries := migrationRecords.entries.filter fun entry => entry.1 ∈ legacy.zones.keys
  nodup := migrationRecords.nodup.sublist (List.filter_sublist.map Prod.fst)

/-- Write the migrated snapshot, if its generation is the store's. -/
def saveMigratedLocked (data : StoreData) (backend : Backend) : StoreM (Option StoreData) := do
  saveAndVerifyLocked py data backend
  pure (some data)

/-- A payload of schema 1. -/
def migrateLegacyLocked (raw : Payload) (migrationRecords : Dict String MigrationRecordContext)
    (backend : Backend) : StoreM (Option StoreData) :=
  orLoss (schema1StoreDataFromDict py raw) DecodeError.isStoreDataError fun legacy => do
    let store ← get
    if legacy.generationId = store.generationId then
      orLoss (migrateSchema1ToSchema2 py stableMigrationId legacy
          (relevantRecords migrationRecords legacy)) DecodeError.isValueError
        fun migrated => saveMigratedLocked py migrated backend
    else pure none

/-- A payload of schema 2. -/
def upgradePriorLocked (raw : Payload) (backend : Backend) : StoreM (Option StoreData) :=
  orLoss (migrateSchema2ToSchema3 py raw) DecodeError.isStoreDataError fun upgraded => do
    let store ← get
    if upgraded.generationId = store.generationId then saveMigratedLocked py upgraded backend
    else pure none

/-- The snapshot that a stored object stands for, if it has a supported schema. -/
def setupSnapshot (entries : List (String × Payload))
    (migrationRecords : Dict String MigrationRecordContext) (backend : Backend) :
    StoreM (Option StoreData) :=
  if equalsInt (Payload.field entries "version") legacyStoreSchemaVersion then
    migrateLegacyLocked py stableMigrationId (.dict entries) migrationRecords backend
  else if equalsInt (Payload.field entries "version") priorStoreSchemaVersion then
    upgradePriorLocked py (.dict entries) backend
  else
    orLoss (storeDataFromDict py (.dict entries)) DecodeError.isStoreDataError fun parsed =>
      pure (some parsed)

/-- The last rows of the matrix: adopt a snapshot of the store's generation. -/
def adopt (runtimeStoreInitialized : Bool) (found : Option StoreData) :
    StoreM (SetupClassification × Option StoreData) :=
  match found with
  | none => pure (.integrityLoss, none)
  | some parsed => do
    let store ← get
    if parsed.generationId = store.generationId then do
      set { store with data := some parsed }
      pure (if runtimeStoreInitialized then .initializedOk else .interruptedInitialization,
        some parsed)
    else pure (.integrityLoss, none)

def classifyLoaded (loaded : BackendCall Payload) (runtimeStoreInitialized : Bool)
    (migrationRecords : Dict String MigrationRecordContext) (backend : Backend) :
    StoreM (SetupClassification × Option StoreData) :=
  match loaded with
  | .cancelled => throw .cancelled
  | .returned .null =>
    pure (if runtimeStoreInitialized then .integrityLoss else .firstInstall, none)
  | .returned (.dict entries) => do
    let found ← setupSnapshot py stableMigrationId entries migrationRecords backend
    adopt runtimeStoreInitialized found
  | _ => pure (.integrityLoss, none)

/-- `async_classify_setup`. -/
def classifySetup (runtimeStoreInitialized : Bool)
    (migrationRecords : Dict String MigrationRecordContext) (backend : Backend) :
    StoreM (SetupClassification × Option StoreData) := do
  acquireLock backend
  classifyLoaded py stableMigrationId (loadCurrentOrSchema1Locked backend) runtimeStoreInitialized
    migrationRecords backend

/-! ## The operations -/

/-- The operations of `SafetyStore` with their arguments. -/
inductive StoreOperation where
  | classifySetup (runtimeStoreInitialized : Bool)
      (migrationRecords : Dict String MigrationRecordContext)
  | firstInitialize
  | reconstructAfterIntegrityLoss (zoneBudgets : Dict String Int) (detectionDateLocal : LocalDate)
  | beginNewRun (newActiveRunId : String)
  | markCleanShutdown
  | updateControllerRuntime (safetyRecordId zoneHistoryId : String) (update : ControllerUpdate)
  | acknowledgeActuatorFault (safetyRecordId safetyLineageId : String) (expectedFault : FaultCode)
  | acknowledgeRemovedActuator (safetyRecordId safetyLineageId registryEntryId : String)
      (acknowledgedAtUtc : Instant)
  | reconcile (mutator : StoreData →
      Except PyError (Dict String SafetyRecord × Dict String ZoneHistory))
  | setRecordBlocker (safetyRecordId : String) (reason : BlockerReason) (active : Bool)
  | mergeZoneHistoryForRecord (continuingZoneHistoryId retainedSafetyRecordId : String)
  | rebaseSoakingOwnerForRecord (safetyRecordId newRunId : String)

/-- What an operation returns. -/
inductive StoreResult where
  | classified (classification : SetupClassification) (data : Option StoreData)
  | previousRun (run : RunIds)
  | snapshot (data : StoreData)
  | done

def perform (operation : StoreOperation) (backend : Backend) : StoreM StoreResult :=
  match operation with
  | .classifySetup initialized migrationRecords => do
    let answer ← classifySetup py stableMigrationId initialized migrationRecords backend
    pure (.classified answer.1 answer.2)
  | .firstInitialize => do
    let data ← replaceSnapshot py (fun generationId =>
      (firstSnapshot generationId).mapError DecodeError.ofPyError) backend
    pure (.snapshot data)
  | .reconstructAfterIntegrityLoss zoneBudgets detectionDateLocal => do
    let data ← replaceSnapshot py (fun generationId =>
      reconstructedSnapshot py integrityId generationId zoneBudgets detectionDateLocal) backend
    pure (.snapshot data)
  | .beginNewRun newActiveRunId => do
    let snapshots ← transact py (fun data => (beginNewRun data newActiveRunId).map some) backend
    pure (.previousRun snapshots.1.run)
  | .markCleanShutdown => do
    let _ ← transact py (fun data => (markCleanShutdown data).map some) backend
    pure .done
  | .updateControllerRuntime safetyRecordId zoneHistoryId update => do
    let snapshots ← transact py (fun data =>
      (updateControllerRuntime data safetyRecordId zoneHistoryId update).map some) backend
    pure (.snapshot snapshots.2)
  | .acknowledgeActuatorFault safetyRecordId safetyLineageId expectedFault => do
    let snapshots ← transact py (fun data =>
      (acknowledgeActuatorFault data safetyRecordId safetyLineageId expectedFault).map some) backend
    pure (.snapshot snapshots.2)
  | .acknowledgeRemovedActuator safetyRecordId safetyLineageId registryEntryId acknowledgedAtUtc =>
    do
    let snapshots ← transact py (fun data =>
      (acknowledgeRemovedActuator data safetyRecordId safetyLineageId registryEntryId
        acknowledgedAtUtc).map some) backend
    pure (.snapshot snapshots.2)
  | .reconcile mutator => do
    let snapshots ← transact py (fun data => (reconcile data mutator).map some) backend
    pure (.snapshot snapshots.2)
  | .setRecordBlocker safetyRecordId reason active => do
    let snapshots ← transact py (fun data => setRecordBlocker data safetyRecordId reason active)
      backend
    pure (.snapshot snapshots.2)
  | .mergeZoneHistoryForRecord continuingZoneHistoryId retainedSafetyRecordId => do
    let snapshots ← transact py (fun data =>
      mergeZoneHistoryForRecord data continuingZoneHistoryId retainedSafetyRecordId) backend
    pure (.snapshot snapshots.2)
  | .rebaseSoakingOwnerForRecord safetyRecordId newRunId => do
    let snapshots ← transact py (fun data =>
      (rebaseSoakingOwnerForRecord data safetyRecordId newRunId).map some) backend
    pure (.snapshot snapshots.2)

end Operations

end MoistureLoop
