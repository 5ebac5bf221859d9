import MoistureLoop.Runtime.ApplyPass

/-! # One listening controller for a safety record

A controller that is attached listens to its entities and commands its actuator.  A pass hands
records from one controller to another: from a binding to the retained controllers, from these
to a new binding, or to nobody.  Whatever comes in between, no record has two controllers that
listen, and every one that listens is registered or in the hands of the worker. -/

namespace MoistureLoop

def PassPosition.hand : PassPosition → Option Nat
  | .preparing controller _ | .starting controller _ | .detaching controller _ => some controller
  | _ => none

namespace RuntimeRegistry

variable (registry : RuntimeRegistry)

def inHand : Option Nat := registry.pass.bind fun pass => pass.2.hand

def listener? (controller : Nat) : Option (String × Bool) :=
  registry.controllers[controller]?.map fun seen => (seen.safetyRecordId, seen.attached)

/-- The record and the controller of a binding. -/
def bound? (subentryId : String) : Option (String × Nat) :=
  (registry.bindings.get? subentryId).map fun binding =>
    (binding.safetyRecordId, binding.controller)

def Held (safetyRecordId : String) (controller : Nat) : Prop :=
  (∃ subentryId, registry.bound? subentryId = some (safetyRecordId, controller)) ∨
    registry.retained.get? safetyRecordId = some controller

/-- Who listens in a registry. -/
structure OneListener : Prop where
  unique : ∀ safetyRecordId controller other,
    registry.listener? controller = some (safetyRecordId, true) →
    registry.listener? other = some (safetyRecordId, true) → controller = other
  registered : ∀ safetyRecordId controller,
    registry.listener? controller = some (safetyRecordId, true) →
    registry.Held safetyRecordId controller ∨ registry.inHand = some controller
  listening : registry.unloading = none → ∀ safetyRecordId controller,
    registry.Held safetyRecordId controller →
    registry.listener? controller = some (safetyRecordId, true)
  unloaded : registry.unloading = some [] → ∀ safetyRecordId controller,
    registry.listener? controller ≠ some (safetyRecordId, true)

/-! ## The invariant -/

def Free (safetyRecordId : String) : Prop := ∀ controller, ¬ registry.Held safetyRecordId controller

def OwnedBy (safetyRecordId subentryId : String) : Prop :=
  ∃ record, registry.store.safetyRecords.get? safetyRecordId = some record ∧
    record.activeSubentryId = some subentryId

/-- The bindings but those of `rest` are for the records of their subentries. -/
def BindingsOwned (rest : List String) : Prop :=
  ∀ subentryId safetyRecordId controller,
    registry.bound? subentryId = some (safetyRecordId, controller) → subentryId ∉ rest →
    registry.OwnedBy safetyRecordId subentryId

/-- `bound` has the records of all bindings. -/
def Covers (bound : List String) : Prop :=
  ∀ subentryId safetyRecordId controller,
    registry.bound? subentryId = some (safetyRecordId, controller) → safetyRecordId ∈ bound

/-- A zone whose record waits for a controller. -/
structure Vacant (subentryId safetyRecordId : String) : Prop where
  owned : registry.BindingsOwned []
  record : registry.OwnedBy safetyRecordId subentryId
  free : registry.Free safetyRecordId
  unbound : registry.bound? subentryId = none

/-- The two maps agree with the controllers; the one in `hand` may be in neither. -/
structure Kept (hand : Option Nat) : Prop where
  boundOnce : ∀ subentryId other safetyRecordId controller controller',
    registry.bound? subentryId = some (safetyRecordId, controller) →
    registry.bound? other = some (safetyRecordId, controller') → subentryId = other
  apart : ∀ subentryId safetyRecordId controller,
    registry.bound? subentryId = some (safetyRecordId, controller) →
    registry.retained.get? safetyRecordId = none
  listening : registry.unloading = none → ∀ safetyRecordId controller,
    registry.Held safetyRecordId controller →
    registry.listener? controller = some (safetyRecordId, true)
  registered : ∀ safetyRecordId controller,
    registry.listener? controller = some (safetyRecordId, true) →
    registry.Held safetyRecordId controller ∨ hand = some controller

def AfterSound (safetyRecordId : String) : AfterStart → Prop
  | .displaced _ => True
  | .live zone record _ _ =>
    record.safetyRecordId = safetyRecordId ∧ registry.Vacant zone.subentryId safetyRecordId
  | .retained bound _ => registry.Covers bound

def PositionSound : PassPosition → Prop
  | .dropping rest => registry.BindingsOwned rest
  | .creating _ => registry.BindingsOwned []
  | .making zone record _ => registry.Vacant zone.subentryId record.safetyRecordId
  | .preparing controller after => ∃ safetyRecordId,
      registry.listener? controller = some (safetyRecordId, false) ∧
        registry.Free safetyRecordId ∧ registry.AfterSound safetyRecordId after
  | .starting controller after => ∃ safetyRecordId,
      registry.listener? controller = some (safetyRecordId, true) ∧
        registry.Free safetyRecordId ∧ registry.AfterSound safetyRecordId after
  | .detaching controller (.dropped rest) =>
    (∃ safetyRecordId, registry.listener? controller = some (safetyRecordId, true) ∧
      registry.Free safetyRecordId) ∧ registry.BindingsOwned rest
  | .detaching controller (.replaced zone record _) =>
    registry.listener? controller = some (record.safetyRecordId, true) ∧
      registry.Vacant zone.subentryId record.safetyRecordId
  | .detaching controller (.released safetyRecordId bound _) =>
    registry.retained.get? safetyRecordId = some controller ∧ registry.Covers bound
  | .detaching controller (.retired safetyRecordId _) =>
    registry.retained.get? safetyRecordId = some controller
  | .releasing bound _ | .observing bound _ => registry.Covers bound
  | _ => True

structure Sound : Prop where
  kept : registry.Kept registry.inHand
  position : ∀ snapshot position, registry.pass = some (snapshot, position) →
    registry.PositionSound position
  unloading : ∀ rest, registry.unloading = some rest → registry.pass = none ∧
    ∀ safetyRecordId controller,
      registry.listener? controller = some (safetyRecordId, true) → controller ∈ rest

variable {registry} {registry' : RuntimeRegistry} {hand : Option Nat}
  {snapshot : ImmutableEntrySnapshot} {subentryId safetyRecordId : String} {controller : Nat}

theorem Kept.held_unique (kept : registry.Kept hand) {other : Nat}
    (held : registry.Held safetyRecordId controller) (held' : registry.Held safetyRecordId other) :
    controller = other := by
  obtain ⟨subentryId, bound⟩ | retained := held
  · obtain ⟨subentryId', bound'⟩ | retained' := held'
    · obtain rfl := kept.boundOnce _ _ _ _ _ bound bound'
      exact (Prod.mk.inj (Option.some.inj (bound.symm.trans bound'))).2
    · rw [kept.apart _ _ _ bound] at retained'
      cases retained'
  · obtain ⟨subentryId', bound'⟩ | retained' := held'
    · rw [kept.apart _ _ _ bound'] at retained
      cases retained
    · exact Option.some.inj (retained.symm.trans retained')

/-- Nothing is unloaded during a pass. -/
theorem Sound.loaded (sound : registry.Sound) {position : PassPosition}
    (at' : registry.pass = some (snapshot, position)) : registry.unloading = none := by
  cases unloading : registry.unloading with
  | none => rfl
  | some rest =>
    rw [(sound.unloading rest unloading).1] at at'
    cases at'

theorem Sound.alone (sound : registry.Sound) {position : PassPosition} {other : Nat}
    (at' : registry.pass = some (snapshot, position)) (mine : position.hand = some controller)
    (listens : registry.listener? controller = some (safetyRecordId, true))
    (held : registry.Held safetyRecordId other) : controller = other := by
  have fixed := sound.position snapshot position at'
  have unheld : ∀ own, registry.listener? controller = some (own, true) → registry.Free own →
      controller = other := by
    intro own same free
    obtain rfl := (Prod.mk.inj (Option.some.inj (same.symm.trans listens))).1
    exact absurd held (free other)
  have registered : ∀ own, registry.retained.get? own = some controller → controller = other := by
    intro own retained
    have same := sound.kept.listening (sound.loaded at') own controller (.inr retained)
    obtain rfl := (Prod.mk.inj (Option.some.inj (same.symm.trans listens))).1
    exact sound.kept.held_unique (.inr retained) held
  cases position with
  | preparing _ after =>
    obtain rfl := Option.some.inj mine
    obtain ⟨own, idle, -⟩ := fixed
    rw [idle] at listens
    cases (Prod.mk.inj (Option.some.inj listens)).2
  | starting _ after =>
    obtain rfl := Option.some.inj mine
    obtain ⟨own, same, free, -⟩ := fixed
    exact unheld own same free
  | detaching _ after =>
    obtain rfl := Option.some.inj mine
    cases after with
    | dropped rest =>
      obtain ⟨⟨own, same, free⟩, -⟩ := fixed
      exact unheld own same free
    | replaced zone record rest => exact unheld _ fixed.1 fixed.2.free
    | released own bound rest => exact registered own fixed.1
    | retired own rest => exact registered own fixed
  | _ => cases mine

/-- The invariant says who listens. -/
theorem Sound.oneListener (sound : registry.Sound) : registry.OneListener where
  unique := by
    have worked : ∀ own first second, registry.listener? first = some (own, true) →
        registry.inHand = some first → registry.Held own second → first = second := by
      intro own first second listens mine held
      obtain ⟨⟨snapshot, position⟩, at', mine⟩ := Option.bind_eq_some_iff.mp mine
      exact sound.alone at' mine listens held
    intro own first second listens listens'
    obtain held | mine := sound.kept.registered own first listens
    · obtain held' | mine' := sound.kept.registered own second listens'
      · exact sound.kept.held_unique held held'
      · exact (worked own second first listens' mine' held).symm
    · obtain held' | mine' := sound.kept.registered own second listens'
      · exact worked own first second listens mine held'
      · exact Option.some.inj (mine.symm.trans mine')
  registered := sound.kept.registered
  listening := sound.kept.listening
  unloaded := by
    intro unloading own first listens
    have mine := (sound.unloading [] unloading).2 own first listens
    cases mine

/-! ## What the invariant reads -/

structure SameMaps (registry registry' : RuntimeRegistry) : Prop where
  bound : ∀ subentryId, registry'.bound? subentryId = registry.bound? subentryId
  retained : registry'.retained = registry.retained
  owners : ∀ safetyRecordId subentryId, registry.OwnedBy safetyRecordId subentryId →
    registry'.OwnedBy safetyRecordId subentryId

/-- Nothing that the invariant reads is lost. -/
structure Same (registry registry' : RuntimeRegistry) : Prop extends
    registry.SameMaps registry' where
  listener : ∀ controller, registry'.listener? controller = registry.listener? controller
  unloading : registry'.unloading = registry.unloading

namespace SameMaps

variable (same : registry.SameMaps registry')

include same

theorem held_iff :
    registry'.Held safetyRecordId controller ↔ registry.Held safetyRecordId controller := by
  simp only [Held, same.bound, same.retained]

theorem free (free : registry.Free safetyRecordId) : registry'.Free safetyRecordId :=
  fun controller held => free controller (same.held_iff.mp held)

theorem bindingsOwned {rest : List String} (owned : registry.BindingsOwned rest) :
    registry'.BindingsOwned rest := by
  intro subentryId safetyRecordId controller bound outside
  rw [same.bound] at bound
  exact same.owners _ _ (owned _ _ _ bound outside)

theorem covers {bound : List String} (covers : registry.Covers bound) :
    registry'.Covers bound := by
  intro subentryId safetyRecordId controller found
  rw [same.bound] at found
  exact covers _ _ _ found

theorem vacant (vacant : registry.Vacant subentryId safetyRecordId) :
    registry'.Vacant subentryId safetyRecordId :=
  ⟨same.bindingsOwned vacant.owned, same.owners _ _ vacant.record, same.free vacant.free,
    (same.bound _).trans vacant.unbound⟩

theorem afterSound {after : AfterStart} (sound : registry.AfterSound safetyRecordId after) :
    registry'.AfterSound safetyRecordId after := by
  cases after with
  | displaced => trivial
  | live zone record => exact ⟨sound.1, same.vacant sound.2⟩
  | retained bound => exact same.covers sound

end SameMaps

namespace Same

theorem trans {registry'' : RuntimeRegistry} (first : registry.Same registry')
    (second : registry'.Same registry'') : registry.Same registry'' where
  bound subentryId := (second.bound subentryId).trans (first.bound subentryId)
  retained := second.retained.trans first.retained
  owners _ _ owned := second.owners _ _ (first.owners _ _ owned)
  listener controller := (second.listener controller).trans (first.listener controller)
  unloading := second.unloading.trans first.unloading

variable (same : registry.Same registry')

include same

theorem positionSound {position : PassPosition} (sound : registry.PositionSound position) :
    registry'.PositionSound position := by
  cases position with
  | dropping | creating => exact same.bindingsOwned sound
  | making => exact same.vacant sound
  | preparing controller | starting controller =>
    obtain ⟨own, listens, free, after⟩ := sound
    exact ⟨own, (same.listener controller).trans listens, same.free free, same.afterSound after⟩
  | detaching controller after =>
    cases after with
    | dropped =>
      obtain ⟨⟨own, listens, free⟩, owned⟩ := sound
      exact ⟨⟨own, (same.listener controller).trans listens, same.free free⟩,
        same.bindingsOwned owned⟩
    | replaced => exact ⟨(same.listener controller).trans sound.1, same.vacant sound.2⟩
    | released own =>
      have retained : registry'.retained.get? own = some controller := by
        rw [same.retained]
        exact sound.1
      exact ⟨retained, same.covers sound.2⟩
    | retired own =>
      show registry'.retained.get? own = some controller
      rw [same.retained]
      exact sound
  | releasing | observing => exact same.covers sound
  | _ => trivial

theorem kept (kept : registry.Kept hand) : registry'.Kept hand where
  boundOnce := by
    intro first second own controller controller' bound bound'
    rw [same.bound] at bound bound'
    exact kept.boundOnce _ _ _ _ _ bound bound'
  apart := by
    intro first own controller bound
    rw [same.bound] at bound
    rw [same.retained]
    exact kept.apart _ _ _ bound
  listening := by
    intro loaded own controller held
    rw [same.unloading] at loaded
    rw [same.listener]
    exact kept.listening loaded _ _ (same.held_iff.mp held)
  registered := by
    intro own controller listens
    rw [same.listener] at listens
    exact (kept.registered _ _ listens).imp_left same.held_iff.mpr

/-- The invariant is kept where the pass stays where it is. -/
theorem sound (unmoved : registry'.pass = registry.pass) (sound : registry.Sound) :
    registry'.Sound where
  kept := by
    have hand : registry'.inHand = registry.inHand := by
      unfold inHand
      rw [unmoved]
    rw [hand]
    exact same.kept sound.kept
  position := by
    intro snapshot position at'
    rw [unmoved] at at'
    exact same.positionSound (sound.position _ _ at')
  unloading := by
    intro rest unloading
    rw [same.unloading] at unloading
    obtain ⟨idle, listed⟩ := sound.unloading rest unloading
    refine ⟨unmoved.trans idle, fun own controller listens => ?_⟩
    rw [same.listener] at listens
    exact listed own controller listens

end Same

theorem same_pass (pass : Option (ImmutableEntrySnapshot × PassPosition)) :
    registry.Same { registry with pass := pass } :=
  ⟨⟨fun _ => rfl, rfl, fun _ _ owned => owned⟩, fun _ => rfl, rfl⟩

/-- The pass goes on. -/
theorem Kept.at' {position : PassPosition} (kept : registry.Kept position.hand)
    (loaded : registry.unloading = none) (sound : registry.PositionSound position) :
    (registry.at' snapshot position).Sound where
  kept := (same_pass _).kept kept
  position := by
    intro snapshot' position' moved
    obtain ⟨rfl, rfl⟩ := Prod.mk.inj (Option.some.inj moved)
    exact (same_pass _).positionSound sound
  unloading := by
    intro rest unloading
    have unloading : registry.unloading = some rest := unloading
    rw [loaded] at unloading
    cases unloading

/-- The pass ends. -/
theorem Kept.leave (kept : registry.Kept none) (loaded : registry.unloading = none) :
    registry.leave.Sound where
  kept := (same_pass _).kept kept
  position := by
    intro snapshot position moved
    cases moved
  unloading := by
    intro rest unloading
    have unloading : registry.unloading = some rest := unloading
    rw [loaded] at unloading
    cases unloading

/-! ## Operations on the controllers -/

theorem listener?_modify {change : RuntimeController → RuntimeController}
    {heard : Bool → Bool}
    (changes : ∀ seen, (change seen).safetyRecordId = seen.safetyRecordId ∧
      (change seen).attached = heard seen.attached) (other : Nat) :
    (registry.modify controller change).listener? other =
      if controller = other then
        (registry.listener? other).map fun listener => (listener.1, heard listener.2)
      else registry.listener? other := by
  simp only [listener?, modify, List.getElem?_modify]
  cases registry.controllers[other]? with
  | none => split <;> rfl
  | some seen =>
    split
    · simp [(changes seen).1, (changes seen).2]
    · rfl

/-- A change of a controller that the invariant does not see. -/
theorem same_modify {change : RuntimeController → RuntimeController}
    (changes : ∀ seen, (change seen).safetyRecordId = seen.safetyRecordId ∧
      (change seen).attached = seen.attached) :
    registry.Same (registry.modify controller change) where
  bound _ := rfl
  retained := rfl
  listener := by
    intro other
    rw [@listener?_modify registry controller change id changes]
    split
    · cases registry.listener? other <;> rfl
    · rfl
  unloading := rfl
  owners _ _ owned := owned

theorem bound?_unbind (other : String) :
    (registry.unbind subentryId).bound? other =
      if other = subentryId then none else registry.bound? other := by
  simp only [bound?, unbind]
  split
  · rename_i same
    rw [same, Dict.get?_erase_self]
    rfl
  · rename_i differs
    rw [Dict.get?_erase_of_ne _ differs]

theorem bound?_bind' {binding : RuntimeControllerBinding Nat} (other : String) :
    (registry.bind' subentryId binding).bound? other =
      if other = subentryId then some (binding.safetyRecordId, binding.controller)
      else registry.bound? other := by
  simp only [bound?, bind', Dict.get?_set]
  split <;> rfl

theorem same_bind' {binding : RuntimeControllerBinding Nat}
    (bound : registry.bound? subentryId = some (binding.safetyRecordId, binding.controller)) :
    registry.Same (registry.bind' subentryId binding) where
  bound := by
    intro other
    rw [bound?_bind']
    split
    · rename_i same
      rw [same, bound]
    · rfl
  retained := rfl
  listener _ := rfl
  unloading := rfl
  owners _ _ owned := owned

namespace Kept

/-- A controller loses its binding. -/
theorem unbind (kept : registry.Kept none) (loaded : registry.unloading = none)
    (bound : registry.bound? subentryId = some (safetyRecordId, controller)) :
    (registry.unbind subentryId).Kept (some controller) ∧
      (registry.unbind subentryId).Free safetyRecordId ∧
      (registry.unbind subentryId).listener? controller = some (safetyRecordId, true) := by
  have fewer : ∀ other own acting,
      (registry.unbind subentryId).bound? other = some (own, acting) →
      other ≠ subentryId ∧ registry.bound? other = some (own, acting) := by
    intro other own acting found
    rw [bound?_unbind] at found
    split at found
    · cases found
    · rename_i differs
      exact ⟨differs, found⟩
  refine ⟨⟨?_, ?_, ?_, ?_⟩, ?_, kept.listening loaded _ _ (.inl ⟨_, bound⟩)⟩
  · intro first second own acting acting' found found'
    exact kept.boundOnce _ _ _ _ _ (fewer _ _ _ found).2 (fewer _ _ _ found').2
  · intro first own acting found
    exact kept.apart _ _ _ (fewer _ _ _ found).2
  · intro loaded own acting held
    refine kept.listening loaded own acting ?_
    obtain ⟨other, found⟩ | retained := held
    · exact .inl ⟨other, (fewer _ _ _ found).2⟩
    · exact .inr retained
  · intro own acting listens
    obtain held | none' := kept.registered own acting listens
    · obtain ⟨other, found⟩ | retained := held
      · by_cases here : other = subentryId
        · subst here
          exact .inr (congrArg some (Prod.mk.inj (Option.some.inj (bound.symm.trans found))).2)
        · refine .inl (.inl ⟨other, ?_⟩)
          rwa [bound?_unbind, if_neg here]
      · exact .inl (.inr retained)
    · cases none'
  · rintro other (⟨subentryId', found⟩ | retained)
    · obtain ⟨differs, found⟩ := fewer _ _ _ found
      exact differs (kept.boundOnce _ _ _ _ _ found bound)
    · have unretained := kept.apart _ _ _ bound
      rw [show registry.retained.get? safetyRecordId = some other from retained] at unretained
      cases unretained

/-- A retained controller is let go. -/
theorem release (kept : registry.Kept none) (loaded : registry.unloading = none)
    (retained : registry.retained.get? safetyRecordId = some controller) :
    (registry.release safetyRecordId).Kept (some controller) ∧
      (registry.release safetyRecordId).Free safetyRecordId ∧
      (registry.release safetyRecordId).listener? controller = some (safetyRecordId, true) := by
  have fewer : ∀ own acting,
      (registry.release safetyRecordId).retained.get? own = some acting →
      own ≠ safetyRecordId ∧ registry.retained.get? own = some acting := by
    intro own acting found
    by_cases same : own = safetyRecordId
    · subst same
      rw [show (registry.release own).retained.get? own = none from Dict.get?_erase_self ..]
        at found
      cases found
    · exact ⟨same, (Dict.get?_erase_of_ne _ same).symm.trans found⟩
  refine ⟨⟨kept.boundOnce, ?_, ?_, ?_⟩, ?_, kept.listening loaded _ _ (.inr retained)⟩
  · intro first own acting found
    cases found' : (registry.release safetyRecordId).retained.get? own with
    | none => rfl
    | some other =>
      have unretained := (fewer _ _ found').2
      rw [kept.apart _ _ _ found] at unretained
      cases unretained
  · intro loaded own acting held
    refine kept.listening loaded own acting ?_
    obtain bound | found := held
    · exact .inl bound
    · exact .inr (fewer _ _ found).2
  · intro own acting listens
    obtain held | none' := kept.registered own acting listens
    · obtain bound | found := held
      · exact .inl (.inl bound)
      · by_cases here : own = safetyRecordId
        · subst here
          exact .inr (congrArg some (Option.some.inj (retained.symm.trans found)))
        · exact .inl (.inr ((Dict.get?_erase_of_ne _ here).trans found))
    · cases none'
  · rintro other (⟨subentryId', found⟩ | found)
    · rw [kept.apart _ _ _ found] at retained
      cases retained
    · exact (fewer _ _ found).1 rfl

theorem retain (kept : registry.Kept (some controller))
    (listens : registry.listener? controller = some (safetyRecordId, true))
    (free : registry.Free safetyRecordId) :
    (registry.retain safetyRecordId controller).Kept none := by
  have more : ∀ own acting,
      (registry.retain safetyRecordId controller).retained.get? own = some acting →
      own = safetyRecordId ∧ acting = controller ∨
        own ≠ safetyRecordId ∧ registry.retained.get? own = some acting := by
    intro own acting found
    by_cases same : own = safetyRecordId
    · subst same
      exact .inl ⟨rfl, Option.some.inj (found.symm.trans (Dict.get?_set_self ..))⟩
    · exact .inr ⟨same, (Dict.get?_set_of_ne _ _ same).symm.trans found⟩
  refine ⟨kept.boundOnce, ?_, ?_, ?_⟩
  · intro first own acting found
    by_cases same : own = safetyRecordId
    · subst same
      exact absurd (.inl ⟨_, found⟩) (free acting)
    · exact (Dict.get?_set_of_ne _ _ same).trans (kept.apart _ _ _ found)
  · intro loaded own acting held
    obtain bound | found := held
    · exact kept.listening loaded _ _ (.inl bound)
    · obtain ⟨rfl, rfl⟩ | ⟨-, found⟩ := more _ _ found
      · exact listens
      · exact kept.listening loaded _ _ (.inr found)
  · intro own acting listens'
    refine .inl ?_
    obtain held | mine := kept.registered own acting listens'
    · obtain bound | found := held
      · exact .inl bound
      · have differs : own ≠ safetyRecordId := by
          rintro rfl
          exact free acting (.inr found)
        exact .inr ((Dict.get?_set_of_ne _ _ differs).trans found)
    · obtain rfl := Option.some.inj mine
      obtain rfl := (Prod.mk.inj (Option.some.inj (listens'.symm.trans listens))).1
      exact .inr (Dict.get?_set_self ..)

/-- A controller that listens for a free record is bound to an unbound subentry. -/
theorem bind' {binding : RuntimeControllerBinding Nat}
    (kept : registry.Kept (some binding.controller))
    (listens : registry.listener? binding.controller = some (binding.safetyRecordId, true))
    (free : registry.Free binding.safetyRecordId) (unbound : registry.bound? subentryId = none) :
    (registry.bind' subentryId binding).Kept none := by
  have more : ∀ other own acting,
      (registry.bind' subentryId binding).bound? other = some (own, acting) →
      other = subentryId ∧ own = binding.safetyRecordId ∧ acting = binding.controller ∨
        registry.bound? other = some (own, acting) := by
    intro other own acting found
    rw [bound?_bind'] at found
    split at found
    · rename_i here
      obtain ⟨rfl, rfl⟩ := Prod.mk.inj (Option.some.inj found)
      exact .inl ⟨here, rfl, rfl⟩
    · exact .inr found
  refine ⟨?_, ?_, ?_, ?_⟩
  · intro first second own acting acting' found found'
    obtain ⟨rfl, rfl, rfl⟩ | old := more _ _ _ found
    · obtain ⟨rfl, -, rfl⟩ | old' := more _ _ _ found'
      · rfl
      · exact absurd (.inl ⟨_, old'⟩) (free acting')
    · obtain ⟨rfl, rfl, rfl⟩ | old' := more _ _ _ found'
      · exact absurd (.inl ⟨_, old⟩) (free acting)
      · exact kept.boundOnce _ _ _ _ _ old old'
  · intro first own acting found
    obtain ⟨rfl, rfl, rfl⟩ | found := more _ _ _ found
    · cases retained : registry.retained.get? binding.safetyRecordId with
      | none => exact retained
      | some other => exact absurd (.inr retained) (free other)
    · exact kept.apart _ _ _ found
  · intro loaded own acting held
    obtain ⟨other, found⟩ | found := held
    · obtain ⟨rfl, rfl, rfl⟩ | found := more _ _ _ found
      · exact listens
      · exact kept.listening loaded _ _ (.inl ⟨_, found⟩)
    · exact kept.listening loaded _ _ (.inr found)
  · intro own acting listens'
    refine .inl ?_
    obtain held | mine := kept.registered own acting listens'
    · obtain ⟨other, found⟩ | found := held
      · have differs : other ≠ subentryId := by
          rintro rfl
          rw [unbound] at found
          cases found
        exact .inl ⟨other, by rwa [bound?_bind', if_neg differs]⟩
      · exact .inr found
    · obtain rfl := Option.some.inj mine
      obtain rfl := (Prod.mk.inj (Option.some.inj (listens'.symm.trans listens))).1
      exact .inl ⟨subentryId, by rw [bound?_bind', if_pos rfl]⟩

/-- The controller in hand starts to listen. -/
theorem attach (kept : registry.Kept (some controller))
    (idle : registry.listener? controller = some (safetyRecordId, false)) :
    (registry.modify controller ({ · with attached := true })).Kept (some controller) ∧
      (registry.modify controller ({ · with attached := true })).listener? controller =
        some (safetyRecordId, true) := by
  have heard := @listener?_modify registry controller ({ · with attached := true })
    (fun _ => true) (fun _ => ⟨rfl, rfl⟩)
  refine ⟨⟨kept.boundOnce, kept.apart, ?_, ?_⟩, ?_⟩
  · intro loaded own acting held
    have listens := kept.listening loaded own acting held
    have differs : controller ≠ acting := by
      rintro rfl
      rw [idle] at listens
      cases (Prod.mk.inj (Option.some.inj listens)).2
    rw [heard, if_neg differs, listens]
  · intro own acting listens
    by_cases mine : controller = acting
    · exact .inr (congrArg some mine)
    · rw [heard, if_neg mine] at listens
      exact kept.registered own acting listens
  · rw [heard, if_pos rfl, idle]
    rfl

/-- A controller in hand that nobody is registered with stops to listen. -/
theorem detach (kept : registry.Kept (some controller))
    (listens : registry.listener? controller = some (safetyRecordId, true))
    (free : registry.Free safetyRecordId) :
    (registry.modify controller ({ · with quiescing := true, attached := false })).Kept none := by
  have heard := @listener?_modify registry controller
    ({ · with quiescing := true, attached := false }) (fun _ => false) (fun _ => ⟨rfl, rfl⟩)
  refine ⟨kept.boundOnce, kept.apart, ?_, ?_⟩
  · intro loaded own acting held
    have listens' := kept.listening loaded own acting held
    have differs : controller ≠ acting := by
      rintro rfl
      obtain rfl := (Prod.mk.inj (Option.some.inj (listens.symm.trans listens'))).1
      exact free controller held
    rw [heard, if_neg differs, listens']
  · intro own acting listens'
    rw [heard] at listens'
    split at listens'
    · obtain ⟨listener, -, same⟩ := Option.map_eq_some_iff.mp listens'
      cases (Prod.mk.inj same).2
    · rename_i differs
      obtain held | mine := kept.registered own acting listens'
      · exact .inl held
      · exact absurd (Option.some.inj mine) differs

/-- A new controller, which does not listen yet. -/
theorem create {created : RuntimeController} (kept : registry.Kept none)
    (idle : created.attached = false) :
    ({ registry with controllers := registry.controllers ++ [created] }).Kept
        (some registry.controllers.length) ∧
      ({ registry with controllers := registry.controllers ++ [created] }).listener?
        registry.controllers.length = some (created.safetyRecordId, false) := by
  refine ⟨⟨kept.boundOnce, kept.apart, ?_, ?_⟩, ?_⟩
  · intro loaded own acting held
    have listens := kept.listening loaded own acting held
    obtain ⟨seen, found, same⟩ := Option.map_eq_some_iff.mp listens
    obtain ⟨present, -⟩ := List.getElem?_eq_some_iff.mp found
    simp only [listener?, List.getElem?_append_left present]
    exact listens
  · intro own acting listens
    by_cases present : acting < registry.controllers.length
    · simp only [listener?, List.getElem?_append_left present] at listens
      exact kept.registered own acting listens |>.imp_right fun none' => by cases none'
    · obtain ⟨seen, found, same⟩ := Option.map_eq_some_iff.mp listens
      obtain ⟨bounded, -⟩ := List.getElem?_eq_some_iff.mp found
      have last : acting = registry.controllers.length := by
        have short := bounded
        simp only [List.length_append, List.length_singleton] at short
        omega
      exact .inr (congrArg some last.symm)
  · simp [listener?, idle]

end Kept

end RuntimeRegistry

end MoistureLoop
