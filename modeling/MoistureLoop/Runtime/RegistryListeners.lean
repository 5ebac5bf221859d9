import MoistureLoop.Foundations.Guarded
import MoistureLoop.Runtime.Resolution

/-! # Listeners on the Entity Registry

A rename runs the callbacks that listen on the old entity ID before anything else happens, and
they look the new one up in the registry as it is then.  The registry is whatever `async_get`
reads; `RegistryUpdate.Lawful` is what is relied on of its updates. -/

namespace MoistureLoop

/-- `_verified_rename_target`. -/
def verifiedRenameTarget (lookup : RegistryLookup) (durable : Option String)
    (current newEntityId : String) : Bool :=
  durable.any fun durable => (lookup newEntityId).any fun entry =>
    entry.id = durable && entityPrefix entry.entityId = entityPrefix current

/-- `_on_actuator_registry_update` and `_on_sensor_renamed`: the entity ID that the controller
addresses after a rename. -/
def followRename (lookup : RegistryLookup) (durable : Option String)
    (current newEntityId : String) : String :=
  if newEntityId = current then current
  else if verifiedRenameTarget lookup durable current newEntityId then newEntityId
  else current

/-- An update of the registry, with the `old_entity_id` and the `entity_id` of its event when an
entity ID changes. -/
structure RegistryUpdate (R : Type) where
  registry : R
  renamed : Option (String × String)

/-- An entry is found under its ID and under its entity ID. -/
structure RegistryLookup.FindsEntries (lookup : RegistryLookup) : Prop where
  indexed : lookup.Indexed
  byId : ∀ key entry, lookup key = some entry → lookup entry.id = some entry

section Updates

variable {R κ : Type} (asyncGet : R → RegistryLookup)

/-- A rename gives one entry another entity ID of its domain, and the others keep theirs as long
as they are registered. -/
structure RegistryUpdate.Lawful (before : R) (update : RegistryUpdate R) : Prop where
  finds : (asyncGet update.registry).FindsEntries
  renames : ∀ old new, update.renamed = some (old, new) →
    ∃ id, asyncGet before old = some ⟨id, old⟩ ∧
      asyncGet update.registry new = some ⟨id, new⟩ ∧ entityPrefix new = entityPrefix old
  keeps : ∀ id entityId, asyncGet before id = some ⟨id, entityId⟩ →
    (∀ new, update.renamed ≠ some (entityId, new)) →
    asyncGet update.registry id = some ⟨id, entityId⟩ ∨ asyncGet update.registry id = none

/-- The registry and the addresses that listeners have on it.  `durable` is the registry ID
that the Store keeps for the entity of each listener. -/
structure RegistryListeners (R κ : Type) where
  registry : R
  durable : κ → Option String
  address : κ → String

namespace RegistryListeners

/-- One update of the registry, with the callbacks it runs. -/
def step (listeners : RegistryListeners R κ) (update : RegistryUpdate R) :
    Option (RegistryListeners R κ) :=
  some { listeners with
    registry := update.registry
    address := fun key =>
      match update.renamed with
      | some (old, new) =>
        if old = listeners.address key then
          followRename (asyncGet update.registry) (listeners.durable key)
            (listeners.address key) new
        else listeners.address key
      | none => listeners.address key }

def system : LabelledSystem (RegistryListeners R κ) (RegistryUpdate R) := ⟨step asyncGet⟩

variable {asyncGet} {listeners next : RegistryListeners R κ} {update : RegistryUpdate R} {key : κ}
  {id : String}

/-- Whatever happens to the registry, a listener addresses its entity after every rename of it,
however the other entries swap or take over names. -/
theorem address_of_step (finds : (asyncGet listeners.registry).FindsEntries)
    (lawful : update.Lawful asyncGet listeners.registry)
    (stepped : listeners.step asyncGet update = some next)
    (durable : listeners.durable key = some id)
    (held : asyncGet listeners.registry id = some ⟨id, listeners.address key⟩)
    (kept : asyncGet update.registry id ≠ none) :
    asyncGet next.registry id = some ⟨id, next.address key⟩ ∧
      entityPrefix (next.address key) = entityPrefix (listeners.address key) := by
  obtain rfl := Option.some.inj stepped
  have unrenamed : (∀ new, update.renamed ≠ some (listeners.address key, new)) →
      asyncGet update.registry id = some ⟨id, listeners.address key⟩ :=
    fun other => (lawful.keeps id _ held other).resolve_right kept
  cases renamed : update.renamed with
  | none => exact ⟨unrenamed (by simp [renamed]), rfl⟩
  | some names =>
    obtain ⟨old, new⟩ := names
    by_cases called : old = listeners.address key
    · obtain ⟨id', before, after, domain⟩ := lawful.renames old new renamed
      -- The entity ID that was renamed is that of the listener's entry.
      have own := (finds.indexed _ _ held).1
      rw [← called, before] at own
      obtain ⟨rfl, -⟩ := RegistryEntry.mk.inj (Option.some.inj own)
      have followed : followRename (asyncGet update.registry) (listeners.durable key)
          (listeners.address key) new = new := by
        rw [followRename]
        split
        · rename_i same
          exact same.symm
        · rw [if_pos]
          simp [verifiedRenameTarget, durable, after, domain, called]
      simp only [if_pos called, followed]
      exact ⟨lawful.finds.byId _ _ after, called ▸ domain⟩
    · simp only [if_neg called]
      refine ⟨unrenamed fun other same => called ?_, trivial⟩
      rw [renamed] at same
      exact (Prod.mk.inj (Option.some.inj same)).1

end RegistryListeners

end Updates

end MoistureLoop
