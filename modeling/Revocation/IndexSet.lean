/-!
Finite sets of revocation indices, kept as their members in ascending order, so that equal sets are
equal values. Main statement: `ext_mem`; every operation has its lemma on `∈`.
-/
namespace Revocation

structure IndexSet where
  toList : List Int
  ascending : toList.Pairwise (· < ·)
deriving DecidableEq

namespace IndexSet

def empty : IndexSet := ⟨[], .nil⟩

instance : EmptyCollection IndexSet := ⟨empty⟩
instance : Inhabited IndexSet := ⟨empty⟩
instance : Membership Int IndexSet := ⟨fun s i => i ∈ s.toList⟩
instance (i : Int) (s : IndexSet) : Decidable (i ∈ s) := inferInstanceAs (Decidable (i ∈ s.toList))

theorem mem_def {i : Int} {s : IndexSet} : i ∈ s ↔ i ∈ s.toList := Iff.rfl

def isEmpty (s : IndexSet) : Bool := s.toList.isEmpty

/-- Puts `i` in its place in an ascending row. -/
def place (i : Int) : List Int → List Int
  | [] => [i]
  | j :: js => if i < j then i :: j :: js else if i = j then j :: js else j :: place i js

theorem mem_place {i k : Int} {js : List Int} : k ∈ place i js ↔ k = i ∨ k ∈ js := by
  induction js with
  | nil => simp [place]
  | cons j js ih => grind [place]

theorem place_ascending {i : Int} {js : List Int} (h : js.Pairwise (· < ·)) :
    (place i js).Pairwise (· < ·) := by
  induction js with
  | nil => simp [place]
  | cons j js ih =>
    obtain ⟨hj, hs⟩ := List.pairwise_cons.mp h
    rw [place]
    split
    · refine List.pairwise_cons.mpr ⟨fun k hk => ?_, h⟩
      rcases List.mem_cons.mp hk with rfl | hk
      · assumption
      · exact Int.lt_trans ‹i < j› (hj k hk)
    · split
      · exact h
      · refine List.pairwise_cons.mpr ⟨fun k hk => ?_, ih hs⟩
        rcases mem_place.mp hk with rfl | hk
        · omega
        · exact hj k hk

def insert (i : Int) (s : IndexSet) : IndexSet := ⟨place i s.toList, place_ascending s.ascending⟩

def ofList (is : List Int) : IndexSet := is.foldr insert ∅

def union (s t : IndexSet) : IndexSet := t.toList.foldr insert s

def filter (p : Int → Bool) (s : IndexSet) : IndexSet := ⟨s.toList.filter p, s.ascending.filter p⟩

def inter (s t : IndexSet) : IndexSet := s.filter (· ∈ t)

def diff (s t : IndexSet) : IndexSet := s.filter (· ∉ t)

def erase (s : IndexSet) (i : Int) : IndexSet := s.filter (· ≠ i)

/-- The indices `1, …, n`. -/
def upTo (n : Nat) : IndexSet where
  toList := (List.range n).map fun k : Nat => (k : Int) + 1
  ascending := by
    refine List.pairwise_map.mpr (List.pairwise_lt_range.imp ?_)
    intro a b h
    omega

@[simp] theorem not_mem_empty (i : Int) : ¬ i ∈ (∅ : IndexSet) := List.not_mem_nil

@[simp] theorem mem_insert {i k : Int} {s : IndexSet} : k ∈ s.insert i ↔ k = i ∨ k ∈ s := mem_place

@[simp] theorem mem_ofList {k : Int} {is : List Int} : k ∈ ofList is ↔ k ∈ is := by
  induction is with
  | nil => simp [ofList]
  | cons i is ih => rw [ofList, List.foldr_cons, ← ofList, mem_insert, ih, List.mem_cons]

@[simp] theorem mem_union {k : Int} {s t : IndexSet} : k ∈ s.union t ↔ k ∈ s ∨ k ∈ t := by
  rw [union, mem_def (s := t)]
  induction t.toList with
  | nil => simp
  | cons i is ih => rw [List.foldr_cons, mem_insert, ih, List.mem_cons]; grind

@[simp] theorem mem_filter {k : Int} {p : Int → Bool} {s : IndexSet} :
    k ∈ s.filter p ↔ k ∈ s ∧ p k = true := List.mem_filter

@[simp] theorem mem_inter {k : Int} {s t : IndexSet} : k ∈ s.inter t ↔ k ∈ s ∧ k ∈ t := by
  simp [inter]

@[simp] theorem mem_diff {k : Int} {s t : IndexSet} : k ∈ s.diff t ↔ k ∈ s ∧ ¬ k ∈ t := by
  simp [diff]

@[simp] theorem mem_erase {k i : Int} {s : IndexSet} : k ∈ s.erase i ↔ k ∈ s ∧ k ≠ i := by
  simp [erase]

@[simp] theorem mem_upTo {k : Int} {n : Nat} : k ∈ upTo n ↔ 1 ≤ k ∧ k ≤ n := by
  simp only [mem_def, upTo, List.mem_map, List.mem_range]
  constructor
  · rintro ⟨j, hj, rfl⟩
    omega
  · rintro ⟨h1, h2⟩
    exact ⟨(k - 1).toNat, by omega, by omega⟩

theorem isEmpty_iff {s : IndexSet} : s.isEmpty = true ↔ ∀ i, ¬ i ∈ s := by
  rw [isEmpty, List.isEmpty_iff, List.eq_nil_iff_forall_not_mem]
  exact Iff.rfl

private theorem eq_of_mem_iff : ∀ {is js : List Int}, is.Pairwise (· < ·) → js.Pairwise (· < ·) →
    (∀ k, k ∈ is ↔ k ∈ js) → is = js
  | [], js, _, _, h =>
    (List.eq_nil_iff_forall_not_mem.mpr fun k hk => by simpa using (h k).mpr hk).symm
  | i :: is, [], _, _, h => by simpa using (h i).mp (by simp)
  | i :: is, j :: js, hi, hj, h => by
    obtain ⟨hi, his⟩ := List.pairwise_cons.mp hi
    obtain ⟨hj, hjs⟩ := List.pairwise_cons.mp hj
    have hij : i = j := by
      have h1 := (h i).mp (by simp)
      have h2 := (h j).mpr (by simp)
      rcases List.mem_cons.mp h1 with h1 | h1
      · exact h1
      · rcases List.mem_cons.mp h2 with h2 | h2
        · exact h2.symm
        · have := hi j h2
          have := hj i h1
          omega
    subst hij
    congr 1
    refine eq_of_mem_iff his hjs fun k => ⟨fun hk => ?_, fun hk => ?_⟩
    · have := hi k hk
      rcases List.mem_cons.mp ((h k).mp (List.mem_cons_of_mem _ hk)) with h | h
      · omega
      · exact h
    · have := hj k hk
      rcases List.mem_cons.mp ((h k).mpr (List.mem_cons_of_mem _ hk)) with h | h
      · omega
      · exact h

/-- A set is given by its members. -/
theorem ext_mem {s t : IndexSet} (h : ∀ k, k ∈ s ↔ k ∈ t) : s = t := by
  have := eq_of_mem_iff s.ascending t.ascending h
  cases s
  cases t
  simp_all

theorem ofList_toList (s : IndexSet) : ofList s.toList = s :=
  ext_mem fun k => by rw [mem_ofList, mem_def]

end IndexSet
end Revocation
