import Mathlib

/-! # Insertion-ordered dictionaries

A finite map that iterates in the order in which its keys were first written:
overwriting a key keeps its place and a new key goes last.  (`AList.insert` of
Mathlib moves an overwritten key to the front.)  `get?_eq_some_iff` reduces every
lookup to membership of an entry, and one membership lemma describes each
update. -/

universe u v

/-- Entries in insertion order, one for each key. -/
structure Dict (K : Type u) (V : Type v) where
  entries : List (K × V)
  nodup : (entries.map Prod.fst).Nodup
  deriving DecidableEq

namespace Dict

variable {K : Type u} {V : Type v}

def empty : Dict K V := ⟨[], List.nodup_nil⟩

def keys (d : Dict K V) : List K := d.entries.map Prod.fst

def values (d : Dict K V) : List V := d.entries.map Prod.snd

/-- A key determines its entry. -/
theorem value_unique (d : Dict K V) {k : K} {v w : V} (left : (k, v) ∈ d.entries)
    (right : (k, w) ∈ d.entries) : v = w := by
  have same := List.inj_on_of_nodup_map d.nodup left right rfl
  exact congrArg Prod.snd same

theorem mem_keys_iff {d : Dict K V} {k : K} : k ∈ d.keys ↔ ∃ v, (k, v) ∈ d.entries := by
  simp [keys]

theorem mem_values_iff {d : Dict K V} {v : V} : v ∈ d.values ↔ ∃ k, (k, v) ∈ d.entries := by
  simp [values]

variable [DecidableEq K]

def get? (d : Dict K V) (k : K) : Option V := d.entries.lookup k

/-- Overwrite in place, or append a new key. -/
def set (d : Dict K V) (k : K) (v : V) : Dict K V where
  entries :=
    if k ∈ d.keys then d.entries.map fun entry => if entry.1 = k then (k, v) else entry
    else d.entries ++ [(k, v)]
  nodup := by
    split
    · rename_i present
      have unchanged : (d.entries.map fun entry => if entry.1 = k then (k, v) else entry).map
          Prod.fst = d.entries.map Prod.fst := by
        rw [List.map_map]
        refine List.map_congr_left fun entry _ => ?_
        by_cases same : entry.1 = k <;> simp [same]
      rw [unchanged]
      exact d.nodup
    · rename_i absent
      rw [List.map_append, List.nodup_append]
      refine ⟨d.nodup, by simp, ?_⟩
      intro a member b last equal
      simp only [List.map_cons, List.map_nil, List.mem_singleton] at last
      exact absent (by rw [← last, ← equal]; exact member)

def erase (d : Dict K V) (k : K) : Dict K V where
  entries := d.entries.filter fun entry => entry.1 ≠ k
  nodup := d.nodup.sublist (List.filter_sublist.map Prod.fst)

def mapValues (d : Dict K V) (f : K → V → V) : Dict K V where
  entries := d.entries.map fun entry => (entry.1, f entry.1 entry.2)
  nodup := by
    rw [List.map_map]
    exact d.nodup

/-! ## Lookups are entries -/

private theorem lookup_eq_some_iff {entries : List (K × V)}
    (nodup : (entries.map Prod.fst).Nodup) {k : K} {v : V} :
    entries.lookup k = some v ↔ (k, v) ∈ entries := by
  induction entries with
  | nil => simp
  | cons entry rest ih =>
    obtain ⟨key, value⟩ := entry
    simp only [List.map_cons, List.nodup_cons] at nodup
    by_cases same : k = key
    · subst same
      have fresh : ∀ w, (k, w) ∉ rest := fun w member =>
        nodup.1 (List.mem_map.mpr ⟨_, member, rfl⟩)
      simp [fresh, eq_comm]
    · have differs : (k == key) = false := by simpa using same
      simp [List.lookup_cons, differs, ih nodup.2, same]

theorem get?_eq_some_iff {d : Dict K V} {k : K} {v : V} :
    d.get? k = some v ↔ (k, v) ∈ d.entries :=
  lookup_eq_some_iff d.nodup

theorem get?_eq_none_iff {d : Dict K V} {k : K} : d.get? k = none ↔ k ∉ d.keys := by
  rw [Option.eq_none_iff_forall_not_mem, mem_keys_iff]
  simp [Option.mem_def, get?_eq_some_iff]

theorem isSome_get?_iff {d : Dict K V} {k : K} : (d.get? k).isSome ↔ k ∈ d.keys := by
  rw [Option.isSome_iff_exists, mem_keys_iff]
  simp only [get?_eq_some_iff]

theorem mem_values_iff_get? {d : Dict K V} {v : V} : v ∈ d.values ↔ ∃ k, d.get? k = some v := by
  simp only [mem_values_iff, get?_eq_some_iff]

/-! ## One membership lemma for each update -/

theorem mem_entries_set {d : Dict K V} {k k' : K} {v v' : V} :
    (k', v') ∈ (d.set k v).entries ↔ (k' = k ∧ v' = v) ∨ (k' ≠ k ∧ (k', v') ∈ d.entries) := by
  by_cases present : k ∈ d.keys
  · simp only [set, if_pos present, List.mem_map, Prod.exists]
    constructor
    · rintro ⟨key, value, member, equal⟩
      by_cases same : key = k
      · simp only [same, if_true, Prod.mk.injEq] at equal
        exact .inl ⟨equal.1.symm, equal.2.symm⟩
      · simp only [same, if_false, Prod.mk.injEq] at equal
        obtain ⟨rfl, rfl⟩ := equal
        exact .inr ⟨same, member⟩
    · rintro (⟨rfl, rfl⟩ | ⟨differs, member⟩)
      · obtain ⟨old, member⟩ := mem_keys_iff.mp present
        exact ⟨_, old, member, by simp⟩
      · exact ⟨k', v', member, by simp [differs]⟩
  · simp only [set, if_neg present, List.mem_append, List.mem_singleton, Prod.mk.injEq]
    constructor
    · rintro (member | added)
      · refine .inr ⟨?_, member⟩
        rintro rfl
        exact present (mem_keys_iff.mpr ⟨v', member⟩)
      · exact .inl added
    · rintro (added | ⟨_, member⟩)
      · exact .inr added
      · exact .inl member

theorem mem_entries_erase {d : Dict K V} {k k' : K} {v' : V} :
    (k', v') ∈ (d.erase k).entries ↔ k' ≠ k ∧ (k', v') ∈ d.entries := by
  simp [erase, and_comm]

@[simp] theorem get?_empty (k : K) : (empty : Dict K V).get? k = none := rfl

@[simp] theorem get?_set_self (d : Dict K V) (k : K) (v : V) : (d.set k v).get? k = some v := by
  simp [get?_eq_some_iff, mem_entries_set]

theorem get?_set_of_ne (d : Dict K V) {k k' : K} (v : V) (differs : k' ≠ k) :
    (d.set k v).get? k' = d.get? k' := by
  ext w
  simp [get?_eq_some_iff, mem_entries_set, differs]

theorem get?_set (d : Dict K V) (k k' : K) (v : V) :
    (d.set k v).get? k' = if k' = k then some v else d.get? k' := by
  by_cases same : k' = k
  · subst same
    simp
  · simp [same, get?_set_of_ne]

@[simp] theorem get?_erase_self (d : Dict K V) (k : K) : (d.erase k).get? k = none := by
  ext w
  simp [get?_eq_some_iff, mem_entries_erase]

theorem get?_erase_of_ne (d : Dict K V) {k k' : K} (differs : k' ≠ k) :
    (d.erase k).get? k' = d.get? k' := by
  ext w
  simp [get?_eq_some_iff, mem_entries_erase, differs]

theorem mem_keys_set {d : Dict K V} {k k' : K} {v : V} :
    k' ∈ (d.set k v).keys ↔ k' = k ∨ k' ∈ d.keys := by
  rw [← isSome_get?_iff, ← isSome_get?_iff, get?_set]
  by_cases same : k' = k <;> simp [same]

/-- Overwriting a present key keeps the key list. -/
theorem keys_set_of_mem {d : Dict K V} {k : K} {v : V} (present : k ∈ d.keys) :
    (d.set k v).keys = d.keys := by
  have inPlace : (d.set k v).entries =
      d.entries.map fun entry => if entry.1 = k then (k, v) else entry := if_pos present
  rw [keys, inPlace, List.map_map, keys]
  refine List.map_congr_left fun entry _ => ?_
  by_cases same : entry.1 = k <;> simp [same]

/-- Writing the value that is there changes nothing. -/
theorem set_eq_self {d : Dict K V} {k : K} {v : V} (present : d.get? k = some v) :
    d.set k v = d := by
  have inside := get?_eq_some_iff.mp present
  have member : k ∈ d.keys := mem_keys_iff.mpr ⟨v, inside⟩
  have unchanged : (d.entries.map fun entry => if entry.1 = k then (k, v) else entry) =
      d.entries := by
    refine (List.map_congr_left fun entry held => ?_).trans (List.map_id _)
    split
    · rename_i same
      obtain rfl : v = entry.2 := d.value_unique inside (same ▸ held)
      rw [← same]
      rfl
    · rfl
  have entries : (d.set k v).entries = d.entries := (if_pos member).trans unchanged
  cases d
  simpa [set, member] using entries

/-- A property of the value at one key only. -/
theorem length_filter_values_le_one {d : Dict K V} {p : V → Bool} {k : K}
    (only : ∀ k' v, d.get? k' = some v → p v = true → k' = k) :
    (d.values.filter p).length ≤ 1 := by
  have filtered : d.values.filter p = (d.entries.filter fun entry => p entry.2).map Prod.snd := by
    rw [values, List.filter_map]
    rfl
  have same : ∀ entry ∈ d.entries.filter (fun entry => p entry.2), entry.1 = k := by
    rintro ⟨k', v⟩ member
    obtain ⟨inside, holds⟩ := List.mem_filter.mp member
    exact only k' v (get?_eq_some_iff.mpr inside) holds
  have distinct : ((d.entries.filter fun entry => p entry.2).map Prod.fst).Nodup :=
    d.nodup.sublist (List.filter_sublist.map Prod.fst)
  rw [filtered, List.length_map]
  cases found : d.entries.filter (fun entry => p entry.2) with
  | nil => simp
  | cons first rest =>
    cases rest with
    | nil => simp
    | cons second rest =>
      rw [found] at same distinct
      simp only [List.map_cons, List.nodup_cons, List.mem_cons, not_or] at distinct
      exact absurd ((same first (by simp)).trans (same second (by simp)).symm) distinct.1.1

theorem get?_mapValues (d : Dict K V) (f : K → V → V) (k : K) :
    (d.mapValues f).get? k = (d.get? k).map (f k) := by
  ext w
  rw [get?_eq_some_iff, Option.map_eq_some_iff]
  simp only [mapValues, List.mem_map, Prod.exists, Prod.mk.injEq, get?_eq_some_iff]
  constructor
  · rintro ⟨key, value, member, rfl, rfl⟩
    exact ⟨value, member, rfl⟩
  · rintro ⟨value, member, rfl⟩
    exact ⟨k, value, member, rfl, rfl⟩

/-! ## Pairs of distinct keys -/

/-- A symmetric relation between the values at distinct keys. -/
theorem pairwise_values_iff {d : Dict K V} {R : V → V → Prop}
    (symmetric : ∀ v w, R v w → R w v) :
    d.values.Pairwise R ↔
      ∀ k k' v v', d.get? k = some v → d.get? k' = some v' → k ≠ k' → R v v' := by
  simp only [get?_eq_some_iff]
  rw [values, List.pairwise_map]
  constructor
  · intro pairwise k k' v v' left right differs
    have both : Std.Symm (α := K × V) fun a b => R a.2 b.2 :=
      ⟨fun a b => symmetric a.2 b.2⟩
    exact pairwise.forall left right (by simp [differs])
  · intro related
    have distinct : d.entries.Pairwise fun a b => a.1 ≠ b.1 := List.pairwise_map.mp d.nodup
    exact distinct.imp_of_mem fun left right differs => related _ _ _ _ left right differs

/-- A projection without repetitions tells the keys apart. -/
theorem nodup_map_values_iff {d : Dict K V} {α : Type*} {f : V → α} :
    (d.values.map f).Nodup ↔
      ∀ k k' v v', d.get? k = some v → d.get? k' = some v' → f v = f v' → k = k' := by
  rw [List.Nodup, List.pairwise_map, pairwise_values_iff fun v w differs => differs.symm]
  constructor
  · intro separated k k' v v' left right same
    by_contra differs
    exact separated k k' v v' left right differs same
  · intro injective k k' v v' left right differs same
    exact differs (injective k k' v v' left right same)

/-- A partial projection without repetitions tells the keys apart. -/
theorem nodup_filterMap_values_iff {d : Dict K V} {α : Type*} {f : V → Option α} :
    (d.values.filterMap f).Nodup ↔
      ∀ k k' v v' a, d.get? k = some v → d.get? k' = some v' → f v = some a → f v' = some a →
        k = k' := by
  rw [List.Nodup, List.pairwise_filterMap, pairwise_values_iff]
  · constructor
    · intro separated k k' v v' a left right first second
      by_contra differs
      exact separated k k' v v' left right differs a first a second rfl
    · rintro injective k k' v v' left right differs a first b second rfl
      exact differs (injective k k' v v' a left right first second)
  · intro v w separated a first b second same
    exact separated b second a first same.symm

/-- Lists without repetitions that share no element between distinct keys. -/
theorem nodup_flatMap_values_iff {d : Dict K V} {α : Type*} {f : V → List α} :
    (d.values.flatMap f).Nodup ↔
      (∀ k v, d.get? k = some v → (f v).Nodup) ∧
      ∀ k k' v v' a, d.get? k = some v → d.get? k' = some v' → a ∈ f v → a ∈ f v' → k = k' := by
  rw [List.nodup_flatMap, pairwise_values_iff]
  · simp only [mem_values_iff_get?, forall_exists_index]
    refine and_congr ⟨fun each k v => each v k, fun each v k => each k v⟩ ?_
    constructor
    · intro disjoint k k' v v' a left right first second
      by_contra differs
      exact disjoint k k' v v' left right differs first second
    · intro shared k k' v v' left right differs a first second
      exact differs (shared k k' v v' a left right first second)
  · intro v w disjoint
    exact disjoint.symm

/-! ## Rewriting that may fail -/

variable {ε : Type*}

/-- Rewrite the values one after the other; the first failure ends the walk. -/
def rewriteM (d : Dict K V) (f : K → V → Except ε V) : Except ε (Dict K V) :=
  d.entries.foldlM (fun rewritten entry => (f entry.1 entry.2).map (rewritten.set entry.1)) d

private theorem foldlM_set {f : K → V → Except ε V} {entries : List (K × V)}
    (nodup : (entries.map Prod.fst).Nodup) {d d' : Dict K V}
    (held : ∀ entry ∈ entries, d.get? entry.1 = some entry.2)
    (folded : entries.foldlM (fun rewritten entry =>
      (f entry.1 entry.2).map (rewritten.set entry.1)) d = .ok d') (k : K) :
    (k ∉ entries.map Prod.fst → d'.get? k = d.get? k) ∧
      ∀ v, (k, v) ∈ entries → ∃ w, f k v = .ok w ∧ d'.get? k = some w := by
  induction entries generalizing d with
  | nil =>
    obtain rfl : d = d' := by simpa [pure, Except.pure] using folded
    simp
  | cons entry rest ih =>
    obtain ⟨key, value⟩ := entry
    obtain ⟨fresh, distinct⟩ := List.nodup_cons.mp nodup
    rw [List.foldlM_cons] at folded
    cases rewrites : f key value with
    | error err => simp [rewrites, Except.map, bind, Except.bind] at folded
    | ok w =>
      simp only [rewrites, Except.map, bind, Except.bind] at folded
      have others : ∀ entry ∈ rest, (d.set key w).get? entry.1 = some entry.2 := by
        intro entry member
        have other : entry.1 ≠ key := fun same => fresh (List.mem_map.mpr ⟨entry, member, same⟩)
        rw [get?_set_of_ne _ _ other]
        exact held entry (List.mem_cons_of_mem _ member)
      obtain ⟨away, inside⟩ := ih distinct others folded
      refine ⟨fun absent => ?_, fun v member => ?_⟩
      · simp only [List.map_cons, List.mem_cons, not_or] at absent
        rw [away absent.2, get?_set_of_ne _ _ absent.1]
      · rcases List.mem_cons.mp member with same | member
        · obtain ⟨rfl, rfl⟩ := Prod.mk.inj same
          exact ⟨w, rewrites, by rw [away fresh, get?_set_self]⟩
        · exact inside v member

/-- A walk that does not fail rewrites each value and keeps the keys. -/
theorem get?_of_rewriteM {d d' : Dict K V} {f : K → V → Except ε V}
    (rewritten : d.rewriteM f = .ok d') (k : K) :
    (d.get? k = none → d'.get? k = none) ∧
      ∀ v, d.get? k = some v → ∃ w, f k v = .ok w ∧ d'.get? k = some w := by
  obtain ⟨away, inside⟩ := foldlM_set d.nodup
    (fun _ member => get?_eq_some_iff.mpr member) rewritten k
  refine ⟨fun absent => ?_, fun v held => inside v (get?_eq_some_iff.mp held)⟩
  rw [away (get?_eq_none_iff.mp absent), absent]

end Dict
