import MoistureLoop.Foundations.Checked
import MoistureLoop.Foundations.Dict

/-! # Strict decoders and their encoders

Enumerations written by name, and the rules that carry a decoder's laws through
lists and dictionaries: a decoder that gives back what was encoded does so for
every member, and what holds of each decoded member holds of the whole. -/

universe u v w

/-- An enumeration whose members are written as texts. -/
class StrEnum (α : Type u) where
  className : String
  members : List α
  value : α → String
  complete : ∀ member, member ∈ members
  nodup : (members.map value).Nodup

namespace StrEnum

variable {α : Type u} [StrEnum α]

/-- The member written as `text`. -/
def ofValue? (text : String) : Option α :=
  (members : List α).find? fun member => value member = text

/-- Reading a member's text gives the member. -/
@[simp] theorem ofValue?_value (member : α) : ofValue? (value member) = some member := by
  have found : ((members : List α).find? fun other => value other = value member).isSome := by
    rw [List.find?_isSome]
    exact ⟨member, complete member, by simp⟩
  obtain ⟨other, finds⟩ := Option.isSome_iff_exists.mp found
  have same : value other = value member := by simpa using List.find?_some finds
  rw [ofValue?, finds,
    List.inj_on_of_nodup_map nodup (complete other) (complete member) same]

end StrEnum

namespace Except

variable {ε : Type u} {α β : Type v}

@[simp] theorem ok_bind (value : α) (rest : α → Except ε β) :
    (Except.ok value >>= rest) = rest value := rfl

@[simp] theorem error_bind (err : ε) (rest : α → Except ε β) :
    (Except.error err >>= rest) = .error err := rfl

@[simp] theorem pure_eq_ok (value : α) : (pure value : Except ε α) = .ok value := rfl

end Except

namespace Codec

variable {ε : Type u} {α β γ : Type v}

theorem mapM_map_eq_ok {decode : β → Except ε γ} {encode : α → β} {normal : α → γ}
    {items : List α} (inverts : ∀ item ∈ items, decode (encode item) = .ok (normal item)) :
    (items.map encode).mapM decode = .ok (items.map normal) := by
  induction items with
  | nil => rfl
  | cons item rest ih =>
    have others := ih fun other member => inverts other (List.mem_cons_of_mem _ member)
    rw [List.map_cons, List.mapM_cons, inverts item List.mem_cons_self, others]
    rfl

/-- What holds of each decoded member holds of every member of a decoded list. -/
theorem forall_of_mapM_eq_ok {decode : β → Except ε γ} {P : γ → Prop} {raw : List β}
    {items : List γ} (sound : ∀ member item, decode member = .ok item → P item)
    (decoded : raw.mapM decode = .ok items) : ∀ item ∈ items, P item := by
  induction raw generalizing items with
  | nil =>
    obtain rfl : [] = items := by simpa using decoded
    simp
  | cons member rest ih =>
    rw [List.mapM_cons] at decoded
    obtain ⟨item, first, others⟩ := Except.bind_eq_ok_iff.mp decoded
    obtain ⟨tail, following, built⟩ := Except.bind_eq_ok_iff.mp others
    obtain rfl : item :: tail = items := by simpa using built
    intro other member'
    rcases List.mem_cons.mp member' with rfl | later
    · exact sound _ _ first
    · exact ih following other later

theorem mapM_eq_ok_iff {decode : β → Except ε γ} {raw : List β} {items : List γ} :
    raw.mapM decode = .ok items ↔
      List.Forall₂ (fun member item => decode member = .ok item) raw items := by
  induction raw generalizing items with
  | nil => simp [eq_comm]
  | cons member rest ih =>
    rw [List.mapM_cons, Except.bind_eq_ok_iff]
    constructor
    · rintro ⟨item, first, others⟩
      obtain ⟨tail, following, built⟩ := Except.bind_eq_ok_iff.mp others
      obtain rfl : item :: tail = items := by simpa using built
      exact .cons first (ih.mp following)
    · intro paired
      cases paired with
      | cons first following =>
        exact ⟨_, first, Except.bind_eq_ok_iff.mpr ⟨_, ih.mpr following, rfl⟩⟩

theorem exists_of_mapM_eq_ok {decode : β → Except ε γ} {raw : List β} {items : List γ} {item : γ}
    (decoded : raw.mapM decode = .ok items) (inside : item ∈ items) :
    ∃ member ∈ raw, decode member = .ok item := by
  induction mapM_eq_ok_iff.mp decoded with
  | nil => cases inside
  | cons first following ih =>
    rcases List.mem_cons.mp inside with rfl | later
    · exact ⟨_, List.mem_cons_self, first⟩
    · obtain ⟨member, among, decodes⟩ := ih (mapM_eq_ok_iff.mpr following) later
      exact ⟨member, List.mem_cons_of_mem _ among, decodes⟩

/-- A decoder that agrees on every member, as far as a view shows, decodes the same view. -/
theorem mapM_map_congr {δ : Type v} {decode decode' : β → Except ε γ} {view : γ → δ} {raw : List β}
    {items : List γ}
    (agree : ∀ member ∈ raw, ∀ item, decode member = .ok item →
      ∃ item', decode' member = .ok item' ∧ view item' = view item)
    (decoded : raw.mapM decode = .ok items) :
    ∃ items', raw.mapM decode' = .ok items' ∧ items'.map view = items.map view := by
  induction mapM_eq_ok_iff.mp decoded with
  | nil => exact ⟨[], rfl, rfl⟩
  | cons first following ih =>
    obtain ⟨tail, tailed, viewed⟩ := ih
      (fun member among => agree member (List.mem_cons_of_mem _ among)) (mapM_eq_ok_iff.mpr following)
    obtain ⟨item, decodes, same⟩ := agree _ List.mem_cons_self _ first
    exact ⟨item :: tail, mapM_eq_ok_iff.mpr (.cons decodes (mapM_eq_ok_iff.mp tailed)),
      by rw [List.map_cons, List.map_cons, same, viewed]⟩

end Codec

namespace Dict

variable {ε : Type u} {K : Type v} {V : Type w} {R : Type v}

def sortedEntries [LinearOrder K] (d : Dict K V) : List (K × V) :=
  d.entries.insertionSort fun left right => left.1 ≤ right.1

theorem sortedEntries_perm [LinearOrder K] (d : Dict K V) : d.sortedEntries.Perm d.entries :=
  List.perm_insertionSort _ _

theorem mem_sortedEntries_iff [DecidableEq K] [LinearOrder K] {d : Dict K V} {k : K} {v : V} :
    (k, v) ∈ d.sortedEntries ↔ d.get? k = some v := by
  rw [get?_eq_some_iff]
  exact d.sortedEntries_perm.mem_iff

theorem nodup_sortedEntries [LinearOrder K] (d : Dict K V) :
    (d.sortedEntries.map Prod.fst).Nodup :=
  (d.sortedEntries_perm.map Prod.fst).nodup_iff.mpr d.nodup

/-- Build a dictionary entry by entry; the first failure ends the walk. -/
def ofEntriesM [DecidableEq K] (read : K → R → Except ε V) (entries : List (K × R)) : Except ε (Dict K V) :=
  entries.foldlM (fun built entry => (read entry.1 entry.2).map (built.set entry.1)) empty

variable [DecidableEq K]

theorem get?_of_ofEntriesM {read : K → R → Except ε V} {entries : List (K × R)} {d : Dict K V}
    (built : ofEntriesM read entries = .ok d) {k : K} {v : V} (held : d.get? k = some v) :
    ∃ raw, (k, raw) ∈ entries ∧ read k raw = .ok v := by
  let Read (d : Dict K V) : Prop :=
    ∀ k v, d.get? k = some v → ∃ raw, (k, raw) ∈ entries ∧ read k raw = .ok v
  have every : Read d := by
    refine @Checked.foldlM_invariant _ _ _ _ Read _ _ _
      (fun before entry after member kept stepped => ?_) ?_ built
    · intro k v held
      cases reads : read entry.1 entry.2 with
      | error err => simp [reads, Except.map] at stepped
      | ok value =>
        obtain rfl : before.set entry.1 value = after := by
          simpa [reads, Except.map] using stepped
        rw [get?_set] at held
        split at held
        · rename_i same
          obtain rfl := Option.some.inj held
          exact ⟨entry.2, by rw [same]; exact member, by rw [same]; exact reads⟩
        · exact kept k v held
    · intro k v held
      rw [get?_empty] at held
      cases held
  exact every k v held

/-- What is read back from encoded entries: the same keys, with values in normal form. -/
theorem ofEntriesM_map {W : Type w} {read : K → R → Except ε W} {encode : V → R}
    {normal : V → W} {entries : List (K × V)} (nodup : (entries.map Prod.fst).Nodup)
    (inverts : ∀ k v, (k, v) ∈ entries → read k (encode v) = .ok (normal v)) :
    ∃ built, ofEntriesM read (entries.map fun entry => (entry.1, encode entry.2)) = .ok built ∧
      ∀ k w, built.get? k = some w ↔ ∃ v, (k, v) ∈ entries ∧ w = normal v := by
  -- the values written before the walk stay where no entry overwrites them
  have walk : ∀ (entries : List (K × V)) (before : Dict K W), (entries.map Prod.fst).Nodup →
      (∀ k v, (k, v) ∈ entries → read k (encode v) = .ok (normal v)) →
      ∃ built, (entries.map fun entry => (entry.1, encode entry.2)).foldlM
          (fun built entry => (read entry.1 entry.2).map (built.set entry.1)) before = .ok built ∧
        ∀ k w, built.get? k = some w ↔ (∃ v, (k, v) ∈ entries ∧ w = normal v) ∨
          (k ∉ entries.map Prod.fst ∧ before.get? k = some w) := by
    intro entries
    induction entries with
    | nil => exact fun before _ _ => ⟨before, rfl, by simp⟩
    | cons entry rest ih =>
      obtain ⟨key, value⟩ := entry
      intro before nodup inverts
      obtain ⟨fresh, distinct⟩ := List.nodup_cons.mp nodup
      obtain ⟨built, folded, found⟩ := ih (before.set key (normal value)) distinct
        fun k v member => inverts k v (List.mem_cons_of_mem _ member)
      refine ⟨built, ?_, fun k w => ?_⟩
      · rw [List.map_cons, List.foldlM_cons, inverts key value List.mem_cons_self]
        exact folded
      · rw [found, get?_set]
        by_cases same : k = key
        · subst same
          have absent : ∀ v, (k, v) ∉ rest := fun v member =>
            fresh (List.mem_map.mpr ⟨_, member, rfl⟩)
          simp [absent, eq_comm]
        · simp [same]
  obtain ⟨built, folded, found⟩ := walk entries empty nodup inverts
  refine ⟨built, folded, fun k w => ?_⟩
  rw [found]
  simp

end Dict
