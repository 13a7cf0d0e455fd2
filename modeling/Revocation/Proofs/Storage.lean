import Revocation.FileStore

/-!
Files that are written. What is written at a path is read back at the same path, also where the path
leads up through directories, and no other file changes. Main statements: `write_eq_ok` and
`read_of_write`.
-/
namespace Revocation.FileStore

/-- The key of a file that is there, or that can be put there. -/
def Node.key? : Node → Option (List String)
  | .file key => some key
  | .free key => some key
  | .directory => none

/-- A walk from a directory to where a file is or can be put. -/
inductive Leads (store : FileStore) : (here parts key : List String) → Prop
  | up {here rest key : List String} (next : Leads store (above here) rest key) :
      Leads store here (".." :: rest) key
  | into {here rest key : List String} {part : String} (hname : part ≠ "..")
      (hsize : part.utf8ByteSize ≤ partLimit) (hfile : store.contents? (here ++ [part]) = none)
      (hdirectory : store.isDirectory (here ++ [part]))
      (next : Leads store (here ++ [part]) rest key) : Leads store here (part :: rest) key
  | there {here : List String} {part : String} (hname : part ≠ "..")
      (hsize : part.utf8ByteSize ≤ partLimit)
      (hopen : store.isDirectory (here ++ [part]) → (store.contents? (here ++ [part])).isSome) :
      Leads store here [part] (here ++ [part])

/-- That a file is at the path, or can be put there. -/
def IsWritable (store : FileStore) (p : Path) : Prop :=
  ∃ node, store.locate p = .ok node ∧ node.key?.isSome

variable {store store' : FileStore} {key other here parts : List String} {bs : Bytes} {p : Path}
  {node : Node}

theorem contents?_put_self (store : FileStore) (key : List String) (bs : Bytes) :
    (store.put key bs).contents? key = some bs :=
  List.lookup_cons_self

theorem contents?_put_of_ne (h : other ≠ key) :
    (store.put key bs).contents? other = store.contents? other := by
  rw [contents?, contents?, put, List.lookup_cons, beq_eq_false_iff_ne.mpr h]
  dsimp only
  induction store.files with
  | nil => rfl
  | cons file files ih =>
    obtain ⟨k, contents⟩ := file
    by_cases hk : k = key
    · subst hk
      rw [List.filter_cons_of_neg (by simp), ih, List.lookup_cons, beq_eq_false_iff_ne.mpr h]
    · rw [List.filter_cons_of_pos (by simpa using hk), List.lookup_cons, List.lookup_cons, ih]

/-- A directory stays one: the file that holds it open is replaced by one at the same place. -/
theorem isDirectory_put (h : store.isDirectory other) : (store.put key bs).isDirectory other := by
  rw [isDirectory, Bool.or_eq_true, List.any_eq_true] at h ⊢
  cases h with
  | inl hlisted => exact .inl hlisted
  | inr hfile =>
    obtain ⟨file, hmem, hunder⟩ := hfile
    right
    by_cases hk : file.1 = key
    · exact ⟨(key, bs), List.mem_cons_self, hk ▸ hunder⟩
    · refine ⟨file, List.mem_cons_of_mem _ (List.mem_filter.mpr ⟨hmem, ?_⟩), hunder⟩
      exact decide_eq_true hk

theorem leads_of_walk (h : store.walk here parts = .ok node) (hkey : node.key? = some key) :
    Leads store here parts key := by
  fun_induction store.walk here parts with
  | case1 =>
    cases h
    cases hkey
  | case2 here rest ih => exact .up (ih h)
  | case3 => cases h
  | case4 here part rest hname hsize there hfile hrest =>
    cases h
    rw [List.isEmpty_iff.mp hrest, ← Option.some.inj hkey]
    exact .there hname (Nat.not_lt.mp hsize) fun _ => hfile
  | case5 => cases h
  | case6 here part rest hname hsize there hfile hdirectory ih =>
    exact .into hname (Nat.not_lt.mp hsize) (by simpa using hfile) hdirectory (ih h)
  | case7 here part rest hname hsize there hfile hdirectory hrest =>
    cases h
    rw [List.isEmpty_iff.mp hrest, ← Option.some.inj hkey]
    exact .there hname (Nat.not_lt.mp hsize) fun hopen => absurd hopen hdirectory
  | case8 => cases h

theorem Leads.isSome_of_isDirectory (h : Leads store here parts key)
    (hdirectory : store.isDirectory key) : (store.contents? key).isSome := by
  induction h with
  | up _ ih => exact ih hdirectory
  | into _ _ _ _ _ ih => exact ih hdirectory
  | there _ _ hopen => exact hopen hdirectory

/-- After a file has been put where a walk leads, the same walk ends at it. -/
theorem Leads.walk_put (h : Leads store here parts key) :
    (store.put key bs).walk here parts = .ok (.file key) := by
  induction h with
  | up _ ih => simpa only [walk, if_true] using ih
  | @into here rest key part hname hsize hfile hdirectory next ih =>
    -- The walk does not lead to a directory that it goes through.
    have hne : here ++ [part] ≠ key := by
      rintro rfl
      have hsome := next.isSome_of_isDirectory hdirectory
      rw [hfile] at hsome
      cases hsome
    have hnone : ¬ ((store.put key bs).contents? (here ++ [part])).isSome := by
      rw [contents?_put_of_ne hne, hfile]
      nofun
    simp only [walk, if_neg hname, if_neg (Nat.not_lt.mpr hsize), if_neg hnone,
      if_pos (isDirectory_put hdirectory), ih]
  | there hname hsize _ =>
    simp only [walk, if_neg hname, if_neg (Nat.not_lt.mpr hsize), contents?_put_self,
      Option.isSome_some, List.isEmpty_nil, if_true]

/-- A file can be put wherever a path does not lead to a directory or astray, whatever is in it. -/
theorem write_eq_ok : store.write p bs = .ok store' ↔
    ∃ node key, store.locate p = .ok node ∧ node.key? = some key ∧ store' = store.put key bs := by
  rw [write]
  cases hnode : store.locate p with
  | error r => simp
  | ok node =>
    cases node <;> simp [Node.key?, eq_comm]

theorem exists_write_iff : (∃ store', store.write p bs = .ok store') ↔ store.IsWritable p := by
  simp only [write_eq_ok, IsWritable, Option.isSome_iff_exists]
  constructor
  · intro ⟨store', node, key, hnode, hkey, _⟩
    exact ⟨node, hnode, key, hkey⟩
  · intro ⟨node, hnode, key, hkey⟩
    exact ⟨_, node, key, hnode, hkey, rfl⟩

theorem locate_put (h : store.locate p = .ok node) (hkey : node.key? = some key) :
    (store.put key bs).locate p = .ok (.file key) := by
  rw [locate] at h ⊢
  split at h
  · cases h
  · next hnull =>
    rw [if_neg hnull]
    split at h
    · cases h
    · next hlong =>
      rw [if_neg hlong]
      exact (leads_of_walk h hkey).walk_put

theorem read_of_write (h : store.write p bs = .ok store') : store'.read p = .ok bs := by
  obtain ⟨node, key, hnode, hkey, rfl⟩ := write_eq_ok.mp h
  rw [read, locate_put hnode hkey]
  simp only [contents?_put_self, Option.getD_some]

end Revocation.FileStore
