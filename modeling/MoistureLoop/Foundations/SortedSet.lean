import Mathlib

/-! # Lists as sorted sets

A set that is stored as a list: every element once, in the order of a key.  Where the key
tells the elements apart, the list depends on the elements only (`sortedSet_congr`), so that
operations on the sets commute, associate and repeat as set operations do. -/

universe u v

section Keys

variable {α : Type u} {K : Type v} {key : α → K} {items others : List α}

/-- The key tells the elements apart. -/
def KeyedBy (key : α → K) (items : List α) : Prop :=
  ∀ left ∈ items, ∀ right ∈ items, key left = key right → left = right

theorem KeyedBy.mono (keyed : KeyedBy key items) (among : ∀ item ∈ others, item ∈ items) :
    KeyedBy key others :=
  fun left member right member' => keyed left (among left member) right (among right member')

/-- Elements apart by their keys have every key once. -/
theorem KeyedBy.nodup_map (keyed : KeyedBy key items) (distinct : items.Nodup) :
    (items.map key).Nodup :=
  List.Nodup.map_on (fun left member right member' => keyed left member right member') distinct

end Keys

variable {α : Type u} [DecidableEq α] {K : Type v} [LinearOrder K] {key : α → K}
  {items others : List α}

/-- `sorted(set(items), key=key)`. -/
def sortedSet (key : α → K) (items : List α) : List α :=
  items.dedup.insertionSort fun left right => key left ≤ key right

@[simp] theorem mem_sortedSet {item : α} : item ∈ sortedSet key items ↔ item ∈ items := by
  rw [sortedSet, List.mem_insertionSort, List.mem_dedup]

theorem perm_sortedSet : (sortedSet key items).Perm items.dedup :=
  List.perm_insertionSort _ _

theorem nodup_sortedSet : (sortedSet key items).Nodup :=
  perm_sortedSet.nodup_iff.mpr (List.nodup_dedup _)

theorem pairwise_sortedSet :
    (sortedSet key items).Pairwise fun left right => key left ≤ key right := by
  have total : Std.Total fun left right : α => key left ≤ key right :=
    ⟨fun left right => le_total (key left) (key right)⟩
  have transitive : IsTrans α fun left right => key left ≤ key right :=
    ⟨fun _ _ _ first second => first.trans second⟩
  exact List.pairwise_insertionSort _ _

/-- The list of a set depends on its elements only. -/
theorem sortedSet_congr (keyed : KeyedBy key items)
    (same : ∀ item, item ∈ items ↔ item ∈ others) :
    sortedSet key items = sortedSet key others := by
  have perm : (sortedSet key items).Perm (sortedSet key others) :=
    (List.perm_ext_iff_of_nodup nodup_sortedSet nodup_sortedSet).mpr fun item => by
      rw [mem_sortedSet, mem_sortedSet, same]
  refine perm.eq_of_pairwise (fun left right member member' first second => ?_)
    pairwise_sortedSet pairwise_sortedSet
  exact keyed left (mem_sortedSet.mp member) right ((same right).mpr (mem_sortedSet.mp member'))
    (le_antisymm first second)
