import MoistureLoop.Store.SafetyStore

/-! # Verified writes

Whatever the backend answers, the snapshot of the store is replaced only by one that was
read back as it was written, or at setup by a strictly parsed payload of the store's
generation, and an operation that raises leaves the store as it was.  The transactions
over a loaded snapshot advance the revision by one; first initialization and the
reconstruction start it at one, and the setup matrix takes the revision it finds. -/

namespace MoistureLoop

open Stateful (Ends)

variable {py : PyRuntime} {stableMigrationId integrityId : String → String → String → String}
variable {store : SafetyStore} {backend : Backend} {data : StoreData}

/-- The backend read back what was written: the strict reader accepts it with the same
generation and revision, and it is written again as the same payload. -/
structure WrittenAndRead (py : PyRuntime) (data : StoreData) (backend : Backend)
    (payload raw again : Payload) (loaded : StoreData) : Prop where
  written : storeDataToDict py data.toStoreFields = .ok payload
  saved : backend.save = .returned ()
  returned : backend.readBack = .returned raw
  present : raw.isNull = false
  accepted : storeDataFromDict py raw = .ok loaded
  generation : loaded.generationId = data.generationId
  revision : loaded.storeRevision = data.storeRevision
  rewritten : storeDataToDict py loaded.toStoreFields = .ok again
  same : again.equals payload = true

def Verified (py : PyRuntime) (data : StoreData) (backend : Backend) : Prop :=
  ∃ payload raw again loaded, WrittenAndRead py data backend payload raw again loaded

def SafetyStore.holding (store : SafetyStore) (data : StoreData) : SafetyStore :=
  { store with data := some data }

/-! ## The write core -/

theorem mapError_eq_ok_iff {ε ε' α : Type} {result : Except ε α} {f : ε → ε'} {value : α} :
    result.mapError f = .ok value ↔ result = .ok value := by
  cases result <;> simp [Except.mapError]

theorem orFailedWrite_eq_ok_iff {α : Type} {call : BackendCall α} {context : String} {value : α} :
    call.orFailedWrite context = .ok value ↔ call = .returned value := by
  cases call <;> simp [BackendCall.orFailedWrite]

theorem parseReadBack_eq_ok_iff {raw : Payload} {loaded : StoreData} :
    parseReadBack py raw = .ok loaded ↔ storeDataFromDict py raw = .ok loaded := by
  simp only [parseReadBack]
  cases storeDataFromDict py raw with
  | ok parsed => simp
  | error err => dsimp only; split <;> simp

/-- The assignment is the last step: a write that returns has verified its snapshot, and a
write that raises has changed nothing. -/
theorem saveAndVerifyLocked_ends :
    Ends (saveAndVerifyLocked py data backend) store
      (fun _ after => after = store.holding data ∧ Verified py data backend)
      (fun _ after => after = store) := by
  refine .bind (.ofExcept (fun payload written => ?_) fun _ _ => rfl)
  refine .bind (.ofExcept (fun _ saved => ?_) fun _ _ => rfl)
  refine .bind (.ofExcept (fun raw returned => ?_) fun _ _ => rfl)
  refine .bind (.require (fun present => ?_) fun _ => rfl)
  refine .bind (.ofExcept (fun loaded accepted => ?_) fun _ _ => rfl)
  refine .bind (.require (fun generation => ?_) fun _ => rfl)
  refine .bind (.require (fun revision => ?_) fun _ => rfl)
  refine .bind (.ofExcept (fun again rewritten => ?_) fun _ _ => rfl)
  refine .bind (.require (fun same => ?_) fun _ => rfl)
  refine .bind (.get (.set ⟨rfl, payload, raw, again, loaded, ?_⟩))
  exact
    { written := mapError_eq_ok_iff.mp written
      saved := orFailedWrite_eq_ok_iff.mp saved
      returned := orFailedWrite_eq_ok_iff.mp returned
      present := by simpa using present
      accepted := parseReadBack_eq_ok_iff.mp accepted
      generation := by simpa using generation
      revision := by simpa using revision
      rewritten := mapError_eq_ok_iff.mp rewritten
      same := same }

/-! ## Transactions -/

/-- What a transaction over a loaded snapshot leaves: nothing changed where it made no
snapshot, else its own verified one. -/
def Transacted (py : PyRuntime) (transaction : StoreData → Except PyError (Option StoreData))
    (store : SafetyStore) (backend : Backend) (before after : StoreData) (finish : SafetyStore) :
    Prop :=
  store.data = some before ∧
    ((transaction before = .ok none ∧ after = before ∧ finish = store) ∨
      transaction before = .ok (some after) ∧ finish = store.holding after ∧
        Verified py after backend)

theorem loadedData_eq_ok_iff : loadedData store = .ok data ↔ store.data = some data := by
  simp only [loadedData]
  cases store.data <;> simp

theorem transact_ends {transaction : StoreData → Except PyError (Option StoreData)} :
    Ends (transact py transaction backend) store
      (fun snapshots finish => Transacted py transaction store backend snapshots.1 snapshots.2 finish)
      (fun _ finish => finish = store) := by
  refine .bind (.require (fun _ => ?_) fun _ => rfl)
  refine .bind (.get ?_)
  refine .bind (.ofExcept (fun before loaded => ?_) fun _ _ => rfl)
  refine .bind (.ofExcept (fun next made => ?_) fun _ _ => rfl)
  have held := loadedData_eq_ok_iff.mp loaded
  have computed := mapError_eq_ok_iff.mp made
  cases next with
  | none => exact .bind (.pure (.pure ⟨held, .inl ⟨computed, rfl, rfl⟩⟩))
  | some after =>
    refine .bind (.bind (saveAndVerifyLocked_ends.mono ?_ fun _ _ unchanged => unchanged))
    rintro _ finish ⟨rfl, verified⟩
    exact .pure (.pure ⟨held, .inr ⟨computed, rfl, verified⟩⟩)

theorem replaceSnapshot_ends {snapshot : String → Except DecodeError StoreData} :
    Ends (replaceSnapshot py snapshot backend) store
      (fun data finish => snapshot store.generationId = .ok data ∧ finish = store.holding data ∧
        Verified py data backend)
      (fun _ finish => finish = store) := by
  refine .bind (.require (fun _ => ?_) fun _ => rfl)
  refine .bind (.get ?_)
  refine .bind (.ofExcept (fun data made => ?_) fun _ _ => rfl)
  refine .bind (saveAndVerifyLocked_ends.mono ?_ fun _ _ unchanged => unchanged)
  rintro _ finish ⟨rfl, verified⟩
  exact .pure ⟨mapError_eq_ok_iff.mp made, rfl, verified⟩

/-! ## The setup matrix -/

inductive AdoptedFrom (py : PyRuntime) (store : SafetyStore) (backend : Backend)
    (data : StoreData) : Prop where
  /-- A payload of the current schema, as it was parsed. -/
  | current {raw : Payload} (loaded : loadCurrentOrSchema1Locked backend = .returned raw)
      (parsed : storeDataFromDict py raw = .ok data)
  /-- A payload of schema 1, migrated and verified. -/
  | legacy {raw : Payload} {old : Schema1StoreData}
      (loaded : loadCurrentOrSchema1Locked backend = .returned raw)
      (parsed : schema1StoreDataFromDict py raw = .ok old)
      (revision : data.storeRevision = old.storeRevision + 1) (verified : Verified py data backend)
  /-- A payload of schema 2, upgraded and verified. -/
  | prior {raw : Payload} (loaded : loadCurrentOrSchema1Locked backend = .returned raw)
      (upgraded : migrateSchema2ToSchema3 py raw = .ok data) (verified : Verified py data backend)

/-- A snapshot found at setup, before it is adopted. -/
def Found (py : PyRuntime) (store : SafetyStore) (backend : Backend) (found : Option StoreData)
    (finish : SafetyStore) : Prop :=
  match found with
  | none => finish = store
  | some data => AdoptedFrom py store backend data ∧
      (finish = store ∨ finish = store.holding data ∧ data.generationId = store.generationId)

theorem orLoss_ends {α : Type} {result : Except DecodeError α} {caught : DecodeError → Bool}
    {rest : α → StoreM (Option StoreData)}
    (continues : ∀ value, result = .ok value → Ends (rest value) store (Found py store backend)
      (fun _ finish => finish = store)) :
    Ends (orLoss result caught rest) store (Found py store backend)
      (fun _ finish => finish = store) := by
  cases result with
  | ok value => exact continues value rfl
  | error err =>
    simp only [orLoss]
    split
    · exact .pure rfl
    · exact .throw rfl

theorem saveMigratedLocked_ends (generation : data.generationId = store.generationId)
    (adopted : Verified py data backend → AdoptedFrom py store backend data) :
    Ends (saveMigratedLocked py data backend) store (Found py store backend)
      (fun _ finish => finish = store) := by
  refine .bind (saveAndVerifyLocked_ends.mono ?_ fun _ _ unchanged => unchanged)
  rintro _ finish ⟨rfl, verified⟩
  exact .pure ⟨adopted verified, .inr ⟨rfl, generation⟩⟩

theorem migrateLegacyLocked_ends {raw : Payload}
    {migrationRecords : Dict String MigrationRecordContext}
    (loaded : loadCurrentOrSchema1Locked backend = .returned raw) :
    Ends (migrateLegacyLocked py stableMigrationId raw migrationRecords backend) store
      (Found py store backend) (fun _ finish => finish = store) := by
  refine orLoss_ends fun legacy parsed => .bind (.get ?_)
  split
  · rename_i generation
    refine orLoss_ends fun migrated made => ?_
    obtain ⟨maps, -, same⟩ := migrateSchema1ToSchema2_eq_ok made
    refine saveMigratedLocked_ends (by rw [same]; exact generation) fun verified => ?_
    exact .legacy loaded parsed (by rw [same]) verified
  · exact .pure rfl

theorem upgradePriorLocked_ends {raw : Payload}
    (loaded : loadCurrentOrSchema1Locked backend = .returned raw) :
    Ends (upgradePriorLocked py raw backend) store (Found py store backend)
      (fun _ finish => finish = store) := by
  refine orLoss_ends fun upgraded made => .bind (.get ?_)
  split
  · rename_i generation
    exact saveMigratedLocked_ends generation fun verified => .prior loaded made verified
  · exact .pure rfl

theorem setupSnapshot_ends {entries : List (String × Payload)}
    {migrationRecords : Dict String MigrationRecordContext}
    (loaded : loadCurrentOrSchema1Locked backend = .returned (.dict entries)) :
    Ends (setupSnapshot py stableMigrationId entries migrationRecords backend) store
      (Found py store backend) (fun _ finish => finish = store) := by
  unfold setupSnapshot
  split
  · exact migrateLegacyLocked_ends loaded
  · split
    · exact upgradePriorLocked_ends loaded
    · exact orLoss_ends fun parsed accepted => .pure ⟨.current loaded accepted, .inl rfl⟩

/-- What the setup matrix leaves: no snapshot and the store as it was, or the adopted
snapshot of the store's generation. -/
def Classified (py : PyRuntime) (store : SafetyStore) (backend : Backend)
    (found : Option StoreData) (finish : SafetyStore) : Prop :=
  match found with
  | none => finish = store
  | some data => finish = store.holding data ∧ data.generationId = store.generationId ∧
      AdoptedFrom py store backend data

theorem adopt_ends {initialized : Bool} {found : Option StoreData} {middle : SafetyStore}
    (located : Found py store backend found middle) :
    Ends (adopt initialized found) middle
      (fun answer finish => Classified py store backend answer.2 finish)
      (fun _ finish => finish = store) := by
  cases found with
  | none => exact .pure located
  | some parsed =>
    obtain ⟨source, reached⟩ := located
    have generation : middle.generationId = store.generationId := by
      rcases reached with rfl | ⟨rfl, -⟩ <;> rfl
    refine .bind (.get ?_)
    split
    · rename_i same
      refine .bind (.set (.pure ⟨?_, same.trans generation, source⟩))
      rcases reached with rfl | ⟨rfl, -⟩ <;> rfl
    · rename_i differs
      refine .pure ?_
      rcases reached with rfl | ⟨rfl, owned⟩
      · exact rfl
      · exact absurd owned differs

theorem classifySetup_ends {initialized : Bool}
    {migrationRecords : Dict String MigrationRecordContext} :
    Ends (classifySetup py stableMigrationId initialized migrationRecords backend) store
      (fun answer finish => Classified py store backend answer.2 finish)
      (fun _ finish => finish = store) := by
  refine .bind (.require (fun _ => ?_) fun _ => rfl)
  unfold classifyLoaded
  split
  · exact .throw rfl
  · exact .pure rfl
  · rename_i loaded
    refine .bind ((setupSnapshot_ends loaded).mono ?_ fun _ _ unchanged => unchanged)
    exact fun found middle located => adopt_ends located
  · exact .pure rfl

/-! ## Operations -/

/-- The returns without a write: the record lists exactly the requested blockers, or refers
to the history that continues. -/
def StoreOperation.NoChange (operation : StoreOperation) (data : StoreData) : Prop :=
  match operation with
  | .setRecordBlocker safetyRecordId reason active =>
    ∃ record, data.safetyRecords.get? safetyRecordId = some record ∧
      (record.withBlocker reason active).blockerReasons = record.blockerReasons
  | .mergeZoneHistoryForRecord continuingZoneHistoryId retainedSafetyRecordId =>
    ∃ record, data.safetyRecords.get? retainedSafetyRecordId = some record ∧
      record.zoneHistoryId = continuingZoneHistoryId
  | _ => False

/-- What a transaction over the loaded snapshot may do when it returns: nothing, as its
documentation says, or a verified write of the next revision. -/
def Advanced (py : PyRuntime) (operation : StoreOperation) (store : SafetyStore)
    (backend : Backend) (finish : SafetyStore) : Prop :=
  ∃ before, store.data = some before ∧ ((finish = store ∧ operation.NoChange before) ∨
    ∃ after, finish = store.holding after ∧ Succeeds before after ∧ Verified py after backend)

/-- A verified write of the first revision of the store's generation. -/
def StartedAnew (py : PyRuntime) (store : SafetyStore) (backend : Backend)
    (finish : SafetyStore) : Prop :=
  ∃ data, finish = store.holding data ∧ data.generationId = store.generationId ∧
    data.storeRevision = 1 ∧ Verified py data backend

def Returned (py : PyRuntime) (operation : StoreOperation) (store : SafetyStore)
    (backend : Backend) (finish : SafetyStore) : Prop :=
  match operation with
  | .classifySetup .. => ∃ found, Classified py store backend found finish
  | .firstInitialize | .reconstructAfterIntegrityLoss .. => StartedAnew py store backend finish
  | operation => Advanced py operation store backend finish

/-- The snapshot that is returned is the one the store holds. -/
def StoreResult.Reports (result : StoreResult) (finish : SafetyStore) : Prop :=
  match result with
  | .classified _ (some data) | .snapshot data => finish.data = some data
  | _ => True

theorem Transacted.reports {transaction : StoreData → Except PyError (Option StoreData)}
    {before after : StoreData} {finish : SafetyStore}
    (transacted : Transacted py transaction store backend before after finish) :
    (StoreResult.snapshot after).Reports finish := by
  obtain ⟨held, ⟨-, rfl, rfl⟩ | ⟨-, rfl, -⟩⟩ := transacted
  · exact held
  · exact rfl

/-- A transaction advances the store if its snapshots succeed the one before, and if it
makes none only where its operation documents that. -/
theorem Transacted.advanced {operation : StoreOperation}
    {transaction : StoreData → Except PyError (Option StoreData)}
    {before after : StoreData} {finish : SafetyStore}
    (transacted : Transacted py transaction store backend before after finish)
    (succeeds : ∀ {data data' : StoreData}, transaction data = .ok (some data') →
      Succeeds data data')
    (unchanged : transaction before = .ok none → operation.NoChange before) :
    Advanced py operation store backend finish := by
  obtain ⟨held, ⟨nothing, rfl, rfl⟩ | ⟨made, rfl, verified⟩⟩ := transacted
  · exact ⟨after, held, .inl ⟨rfl, unchanged nothing⟩⟩
  · exact ⟨before, held, .inr ⟨after, rfl, succeeds made, verified⟩⟩

/-- The operations that always write: their transaction makes a snapshot or raises. -/
theorem transact_always_ends {operation : StoreOperation}
    {transaction : StoreData → Except PyError StoreData} {result : StoreData × StoreData → StoreResult}
    (succeeds : ∀ {data data' : StoreData}, transaction data = .ok data' → Succeeds data data')
    (reports : ∀ before after finish, (StoreResult.snapshot after).Reports finish →
      (result (before, after)).Reports finish) :
    Ends (do
        let snapshots ← transact py (fun data => (transaction data).map some) backend
        pure (result snapshots)) store
      (fun result finish => Advanced py operation store backend finish ∧ result.Reports finish)
      (fun _ finish => finish = store) := by
  refine .bind (transact_ends.mono ?_ fun _ _ unchanged => unchanged)
  rintro ⟨before, after⟩ finish transacted
  refine .pure ⟨transacted.advanced (fun made => succeeds ?_) fun nothing => ?_,
    reports before after finish transacted.reports⟩
  · rename_i data data'
    cases computed : transaction data with
    | error err => simp [computed, Except.map] at made
    | ok value =>
      obtain rfl : value = data' := by simpa [computed, Except.map] using made
      rfl
  · cases computed : transaction before with
    | error err => simp [computed, Except.map] at nothing
    | ok value => simp [computed, Except.map] at nothing

/-- Every operation, whatever the backend answers. -/
theorem perform_ends (operation : StoreOperation) :
    Ends (perform py stableMigrationId integrityId operation backend) store
      (fun result finish => Returned py operation store backend finish ∧ result.Reports finish)
      (fun _ finish => finish = store) := by
  have same : ∀ (before after : StoreData) (finish : SafetyStore),
      (StoreResult.snapshot after).Reports finish → (StoreResult.snapshot after).Reports finish :=
    fun _ _ _ reported => reported
  cases operation with
  | classifySetup initialized migrationRecords =>
    refine .bind (classifySetup_ends.mono ?_ fun _ _ unchanged => unchanged)
    rintro ⟨classification, found⟩ finish classified
    refine .pure ⟨⟨found, classified⟩, ?_⟩
    cases found with
    | none => trivial
    | some data =>
      obtain ⟨rfl, -, -⟩ := classified
      rfl
  | firstInitialize =>
    refine .bind (replaceSnapshot_ends.mono ?_ fun _ _ unchanged => unchanged)
    rintro data finish ⟨made, rfl, verified⟩
    obtain ⟨generation, revision⟩ := revision_of_firstSnapshot (mapError_eq_ok_iff.mp made)
    exact .pure ⟨⟨data, rfl, generation, revision, verified⟩, rfl⟩
  | reconstructAfterIntegrityLoss zoneBudgets detectionDateLocal =>
    refine .bind (replaceSnapshot_ends.mono ?_ fun _ _ unchanged => unchanged)
    rintro data finish ⟨made, rfl, verified⟩
    obtain ⟨generation, revision⟩ := revision_of_reconstructedSnapshot made
    exact .pure ⟨⟨data, rfl, generation, revision, verified⟩, rfl⟩
  | beginNewRun newActiveRunId =>
    exact transact_always_ends beginNewRun_succeeds fun _ _ _ _ => trivial
  | markCleanShutdown =>
    exact transact_always_ends markCleanShutdown_succeeds fun _ _ _ _ => trivial
  | updateControllerRuntime safetyRecordId zoneHistoryId update =>
    exact transact_always_ends updateControllerRuntime_succeeds same
  | acknowledgeActuatorFault safetyRecordId safetyLineageId expectedFault =>
    exact transact_always_ends acknowledgeActuatorFault_succeeds same
  | acknowledgeRemovedActuator safetyRecordId safetyLineageId registryEntryId at_ =>
    exact transact_always_ends acknowledgeRemovedActuator_succeeds same
  | reconcile mutator => exact transact_always_ends reconcile_succeeds same
  | rebaseSoakingOwnerForRecord safetyRecordId newRunId =>
    exact transact_always_ends rebaseSoakingOwnerForRecord_succeeds same
  | setRecordBlocker safetyRecordId reason active =>
    refine .bind (transact_ends.mono ?_ fun _ _ unchanged => unchanged)
    rintro ⟨before, after⟩ finish transacted
    exact .pure ⟨transacted.advanced setRecordBlocker_succeeds setRecordBlocker_unchanged,
      transacted.reports⟩
  | mergeZoneHistoryForRecord continuingZoneHistoryId retainedSafetyRecordId =>
    refine .bind (transact_ends.mono ?_ fun _ _ unchanged => unchanged)
    rintro ⟨before, after⟩ finish transacted
    exact .pure ⟨transacted.advanced mergeZoneHistoryForRecord_succeeds
      mergeZoneHistoryForRecord_unchanged, transacted.reports⟩

/-! ## Sequences of operations -/

/-- One call and what the backend answers during it. -/
structure StoreCall where
  operation : StoreOperation
  backend : Backend

def StoreCall.outcome (py : PyRuntime)
    (stableMigrationId integrityId : String → String → String → String) (call : StoreCall)
    (store : SafetyStore) : Except StoreError StoreResult × SafetyStore :=
  (perform py stableMigrationId integrityId call.operation call.backend).outcome store

/-- The store after some calls; a caller goes on after a raise. -/
def SafetyStore.afterCalls (py : PyRuntime)
    (stableMigrationId integrityId : String → String → String → String) (store : SafetyStore)
    (calls : List StoreCall) : SafetyStore :=
  calls.foldl (fun store call => (call.outcome py stableMigrationId integrityId store).2) store

/-- What a snapshot needs to become the store's: it was verified during the call, or it is a
strictly parsed payload of the store's generation. -/
def StoreCall.Accepts (py : PyRuntime) (call : StoreCall) (generationId : String)
    (data : StoreData) : Prop :=
  Verified py data call.backend ∨
    (∃ initialized migrationRecords,
      call.operation = .classifySetup initialized migrationRecords) ∧
    data.generationId = generationId ∧ ∃ raw,
      loadCurrentOrSchema1Locked call.backend = .returned raw ∧ storeDataFromDict py raw = .ok data

/-- A call that keeps the contract of verified writes. -/
structure Atomic (py : PyRuntime)
    (stableMigrationId integrityId : String → String → String → String) (store : SafetyStore)
    (call : StoreCall) : Prop where
  replaced : ∀ data, (call.outcome py stableMigrationId integrityId store).2.data = some data →
    store.data ≠ some data → call.Accepts py store.generationId data
  returned : ∀ result, (call.outcome py stableMigrationId integrityId store).1 = .ok result →
    Returned py call.operation store call.backend
      (call.outcome py stableMigrationId integrityId store).2 ∧
    result.Reports (call.outcome py stableMigrationId integrityId store).2
  raised : ∀ err, (call.outcome py stableMigrationId integrityId store).1 = .error err →
    (call.outcome py stableMigrationId integrityId store).2 = store

/-- The snapshot, if it was replaced, was accepted during the call, and it has the
generation of the store or of the snapshot before it. -/
def Placed (py : PyRuntime) (call : StoreCall) (store finish : SafetyStore) : Prop :=
  finish = store ∨ ∃ data, finish = store.holding data ∧
    call.Accepts py store.generationId data ∧ (data.generationId = store.generationId ∨
      ∃ before, store.data = some before ∧ data.generationId = before.generationId)

variable {call : StoreCall} {finish : SafetyStore}

theorem StartedAnew.placed (anew : StartedAnew py store call.backend finish) :
    Placed py call store finish := by
  obtain ⟨data, rfl, generation, -, verified⟩ := anew
  exact .inr ⟨data, rfl, .inl verified, .inl generation⟩

theorem Advanced.placed (advanced : Advanced py call.operation store call.backend finish) :
    Placed py call store finish := by
  obtain ⟨before, held, ⟨rfl, -⟩ | ⟨after, rfl, succeeds, verified⟩⟩ := advanced
  · exact .inl rfl
  · exact .inr ⟨after, rfl, .inl verified, .inr ⟨before, held, succeeds.generation⟩⟩

theorem Classified.placed {found : Option StoreData} {initialized : Bool}
    {migrationRecords : Dict String MigrationRecordContext}
    (setup : call.operation = .classifySetup initialized migrationRecords)
    (classified : Classified py store call.backend found finish) : Placed py call store finish := by
  cases found with
  | none => exact .inl classified
  | some data =>
    obtain ⟨rfl, generation, source⟩ := classified
    refine .inr ⟨data, rfl, ?_, .inl generation⟩
    cases source with
    | current loaded parsed =>
      exact .inr ⟨⟨initialized, migrationRecords, setup⟩, generation, _, loaded, parsed⟩
    | legacy _ _ _ verified => exact .inl verified
    | prior _ _ verified => exact .inl verified

theorem Returned.placed (returned : Returned py call.operation store call.backend finish) :
    Placed py call store finish := by
  cases operation : call.operation with
  | classifySetup initialized migrationRecords =>
    rw [operation] at returned
    obtain ⟨found, classified⟩ := returned
    exact classified.placed operation
  | firstInitialize =>
    rw [operation] at returned
    exact StartedAnew.placed returned
  | reconstructAfterIntegrityLoss zoneBudgets detectionDateLocal =>
    rw [operation] at returned
    exact StartedAnew.placed returned
  | _ =>
    refine Advanced.placed ?_
    rw [operation] at returned ⊢
    exact returned

/-- A call ends in a state that it may leave, and a raise leaves the store as it was. -/
theorem StoreCall.outcome_cases (call : StoreCall) (store : SafetyStore) :
    (∃ result, (call.outcome py stableMigrationId integrityId store).1 = .ok result ∧
      Returned py call.operation store call.backend
        (call.outcome py stableMigrationId integrityId store).2 ∧
      result.Reports (call.outcome py stableMigrationId integrityId store).2) ∨
    ∃ err, (call.outcome py stableMigrationId integrityId store).1 = .error err ∧
      (call.outcome py stableMigrationId integrityId store).2 = store :=
  (perform_ends call.operation).of_outcome rfl

theorem StoreCall.outcome_placed (call : StoreCall) (store : SafetyStore) :
    Placed py call store (call.outcome py stableMigrationId integrityId store).2 := by
  rcases call.outcome_cases store with ⟨_, -, returned, -⟩ | ⟨_, -, unchanged⟩
  · exact returned.placed
  · exact .inl unchanged

/-- One call keeps the contract from every state of the store. -/
theorem atomic (store : SafetyStore) (call : StoreCall) :
    Atomic py stableMigrationId integrityId store call where
  replaced data held differs := by
    rcases call.outcome_placed store with unchanged | ⟨other, made, accepts, -⟩
    · rw [unchanged] at held
      exact absurd held differs
    · rw [made] at held
      obtain rfl := Option.some.inj held
      exact accepts
  returned result ended := by
    rcases call.outcome_cases store with ⟨other, same, returned⟩ | ⟨err, raised, -⟩
    · obtain rfl := Except.ok.inj (same.symm.trans ended)
      exact returned
    · cases raised.symm.trans ended
  raised err ended := by
    rcases call.outcome_cases store with ⟨result, returned, -⟩ | ⟨_, -, unchanged⟩
    · cases returned.symm.trans ended
    · exact unchanged

/-- The snapshot that a store holds was accepted during one of the calls. -/
structure HoldsAccepted (py : PyRuntime) (calls : List StoreCall) (generationId : String)
    (store : SafetyStore) : Prop where
  generation : store.generationId = generationId
  owned : ∀ data, store.data = some data → data.generationId = generationId
  accepted : ∀ data, store.data = some data → ∃ call ∈ calls, call.Accepts py generationId data

/-- One more call keeps it. -/
theorem HoldsAccepted.extend {calls : List StoreCall} {generationId : String}
    (holds : HoldsAccepted py calls generationId store) (call : StoreCall) :
    HoldsAccepted py (calls ++ [call]) generationId
      (call.outcome py stableMigrationId integrityId store).2 := by
  rcases call.outcome_placed store with unchanged | ⟨data, made, accepts, source⟩
  · rw [unchanged]
    refine ⟨holds.generation, holds.owned, fun data held => ?_⟩
    obtain ⟨earlier, member, accepts⟩ := holds.accepted data held
    exact ⟨earlier, List.mem_append_left _ member, accepts⟩
  · rw [made]
    rw [holds.generation] at accepts source
    refine ⟨holds.generation, fun other held => ?_, fun other held => ?_⟩
    · obtain rfl := Option.some.inj held
      rcases source with same | ⟨before, heldBefore, same⟩
      · exact same
      · rw [same, holds.owned before heldBefore]
    · obtain rfl := Option.some.inj held
      exact ⟨call, by simp, accepts⟩

theorem holdsAccepted_afterCalls (generationId : String) (calls : List StoreCall) :
    HoldsAccepted py calls generationId
      ((SafetyStore.opened generationId).afterCalls py stableMigrationId integrityId calls) := by
  induction calls using List.reverseRecOn with
  | nil => exact ⟨rfl, fun _ held => (nomatch held), fun _ held => (nomatch held)⟩
  | append_singleton calls call ih =>
    rw [SafetyStore.afterCalls, List.foldl_append]
    exact ih.extend call

/-- After any calls, whatever the backend answered, the store holds an accepted snapshot of its
generation or none, and the next call keeps the contract. -/
theorem verifiedWrites_of_calls (py : PyRuntime)
    (stableMigrationId integrityId : String → String → String → String) (generationId : String)
    (calls : List StoreCall) (call : StoreCall) :
    HoldsAccepted py calls generationId
        ((SafetyStore.opened generationId).afterCalls py stableMigrationId integrityId calls) ∧
      Atomic py stableMigrationId integrityId
        ((SafetyStore.opened generationId).afterCalls py stableMigrationId integrityId calls) call :=
  ⟨holdsAccepted_afterCalls generationId calls, atomic _ call⟩

/-! ## A store that starts over -/

def soundBackend (stored : StoreFields) : Backend where
  cancelledAtLock := false
  load _ := .returned (.dict (storeEntries epochRuntime stored))
  save := .returned ()
  readBack := .returned (.dict (storeEntries epochRuntime stored))

def emptyFields (storeRevision : ℕ) (activeRunId : Option String) : StoreFields where
  generationId := "generation"
  storeRevision := storeRevision
  run := ⟨activeRunId, none⟩
  zoneHistories := Dict.empty
  safetyRecords := Dict.empty

/-- First initialization, and the begin of a run. -/
def firstCalls : List StoreCall :=
  [⟨.firstInitialize, soundBackend (emptyFields 1 none)⟩,
   ⟨.beginNewRun "run", soundBackend (emptyFields 2 (some "run"))⟩]

/-- First initialization once more. -/
def initializedAgain : StoreCall := ⟨.firstInitialize, soundBackend (emptyFields 1 none)⟩

/-- The store of a first installation, its run begun. -/
def startedStore : SafetyStore :=
  (SafetyStore.opened "generation").afterCalls epochRuntime bedMigrationId bedMigrationId firstCalls

/-- A success changes nothing or advances the revision by exactly one. -/
def AdvancesByOne (py : PyRuntime) (stableMigrationId integrityId : String → String → String → String)
    (store : SafetyStore) (call : StoreCall) : Prop :=
  ∀ result, (call.outcome py stableMigrationId integrityId store).1 = .ok result →
    (call.outcome py stableMigrationId integrityId store).2 = store ∨
    ∃ before after, store.data = some before ∧
      (call.outcome py stableMigrationId integrityId store).2.data = some after ∧
      after.storeRevision = before.storeRevision + 1

/-- A second initialization takes a loaded store from its second revision to the first. -/
theorem not_advancesByOne_initializedAgain :
    ¬ AdvancesByOne epochRuntime bedMigrationId bedMigrationId startedStore initializedAgain := by
  intro advances
  have revisions : startedStore.data.map (fun data => data.storeRevision) = some 2 ∧
      (initializedAgain.outcome epochRuntime bedMigrationId bedMigrationId startedStore).2.data.map
        (fun data => data.storeRevision) = some 1 := by
    decide +kernel
  obtain ⟨loaded, restarted⟩ := revisions
  have succeeded : (initializedAgain.outcome epochRuntime bedMigrationId bedMigrationId
      startedStore).1.toOption.isSome = true := by
    decide +kernel
  cases ended : (initializedAgain.outcome epochRuntime bedMigrationId bedMigrationId
      startedStore).1 with
  | error err => simp [ended, Except.toOption] at succeeded
  | ok result =>
    rcases advances result ended with unchanged | ⟨before, after, held, holds, next⟩
    · rw [unchanged, loaded] at restarted
      simp at restarted
    · rw [held, Option.map_some, Option.some.injEq] at loaded
      rw [holds, Option.map_some, Option.some.injEq] at restarted
      omega

end MoistureLoop
