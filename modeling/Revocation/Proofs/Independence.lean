import Revocation.Proofs.Drawing

/-!
What the entries of registries are drawn from. A counter of four bytes and the number of a block
come first, then the name of the registry, a colon and the index in decimal. Names may hold colons
and digits themselves, but after the last colon there are only digits, so no two hashings are of the
same bytes. Entries are therefore free of each other, and a registry of larger capacity begins with
the entries of a smaller one. Main statements: `label_inj`, `Input.bytes_inj`, `entry_congr`,
`exists_hash_of_drawable`, `generate_of_le` and `independence_of_entries`.
-/
namespace Revocation

/-- Where no separator follows, the last one tells both sides. -/
theorem append_cons_inj {α : Type} {a : α} {xs xs' ys ys' : List α} (hys : a ∉ ys) (hys' : a ∉ ys')
    (h : xs ++ a :: ys = xs' ++ a :: ys') : xs = xs' ∧ ys = ys' := by
  rcases List.append_eq_append_iff.mp h with ⟨more, rfl, hrest⟩ | ⟨more, rfl, hrest⟩
  · cases more with
    | nil => exact ⟨(List.append_nil xs).symm, (List.cons.inj hrest).2⟩
    | cons b more =>
      have hmem : a ∈ ys := (List.cons.inj hrest).2 ▸ List.mem_append_right more List.mem_cons_self
      exact absurd hmem hys
  · cases more with
    | nil => exact ⟨List.append_nil xs', (List.cons.inj hrest).2.symm⟩
    | cons b more =>
      have hmem : a ∈ ys' := (List.cons.inj hrest).2 ▸ List.mem_append_right more List.mem_cons_self
      exact absurd hmem hys'

theorem colon_not_mem_toDigits (n : Nat) : ':' ∉ Nat.toDigits 10 n := by
  intro hmem
  exact absurd (Nat.isDigit_of_mem_toDigits (by decide) (by decide) hmem) (by decide)

theorem toDigits_inj {n k : Nat} (h : Nat.toDigits 10 n = Nat.toDigits 10 k) : n = k := by
  have hvalue := congrArg (Nat.ofDigitChars 10 · 0) h
  simpa only [Nat.ofDigitChars_ten_toDigits] using hvalue

namespace Modulus

variable {m : Modulus} {hash hash' : Bytes → Bytes} {data data' : Bytes}
  {spare counter counter' : Nat} {number number' : UInt8} {a : Int}

/-- Counter and number are of fixed width, so what is hashed falls into its parts in one way. -/
theorem block_inj (hcounter : counter < trials) (hcounter' : counter' < trials)
    (h : block counter number data = block counter' number' data') :
    counter = counter' ∧ number = number' ∧ data = data' := by
  have hwidth : trials = Nat.pow 256 4 := rfl
  obtain ⟨hcount, hrest⟩ := List.append_inj h
    ((Bytes.length_ofNat 4 counter).trans (Bytes.length_ofNat 4 counter').symm)
  obtain ⟨hnumber, hdata⟩ := List.cons.inj hrest
  exact ⟨Bytes.ofNat_inj (hwidth ▸ hcounter) (hwidth ▸ hcounter') hcount, hnumber, hdata⟩

/-! What the search looks at. -/

theorem trial_congr (h : ∀ number, number = 0 ∨ number = 1 →
      hash (block counter number data) = hash' (block counter number data)) :
    m.trial hash data counter = m.trial hash' data counter := by
  rw [trial_eq_square, trial_eq_square, h 0 (.inl rfl), h 1 (.inr rfl)]

/-- Nothing is looked at beyond the first square that is accepted. -/
theorem firstSquare?_congr
    (h : ∀ i < spare, (∀ j < i, m.trial hash data (counter + j) ≤ 1) →
      m.trial hash data (counter + i) = m.trial hash' data (counter + i)) :
    m.firstSquare? hash data spare counter = m.firstSquare? hash' data spare counter := by
  induction spare generalizing counter with
  | zero => rfl
  | succ spare ih =>
    have hnow : m.trial hash data counter = m.trial hash' data counter :=
      h 0 (Nat.succ_pos spare) nofun
    rw [firstSquare?, firstSquare?, ← hnow]
    by_cases hfound : 1 < m.trial hash data counter
    · simp only [if_pos hfound]
    · simp only [if_neg hfound]
      refine ih fun i hi hbefore => ?_
      have hshift (k : Nat) : counter + 1 + k = counter + (k + 1) := by omega
      rw [hshift]
      refine h (i + 1) (by omega) fun j hj => ?_
      cases j with
      | zero => exact not_lt.mp hfound
      | succ j => exact hshift j ▸ hbefore j (by omega)

theorem hashToElement_congr
    (h : ∀ i < trials, (∀ j < i, m.trial hash data j ≤ 1) → ∀ number, number = 0 ∨ number = 1 →
      hash (block i number data) = hash' (block i number data)) :
    m.hashToElement hash data = m.hashToElement hash' data := by
  have hspare : 1 <<< 32 = trials := rfl
  have hsearch : m.firstSquare? hash data trials 0 = m.firstSquare? hash' data trials 0 := by
    refine firstSquare?_congr fun i hi hbefore => ?_
    simp only [Nat.zero_add] at hbefore ⊢
    exact trial_congr (h i hi hbefore)
  rw [hashToElement, hashToElement, hspare, hsearch]

/-- That there are digests which an element is drawn from. -/
def Drawable (m : Modulus) (a : Int) : Prop :=
  1 < a ∧ ∃ first second, IsDigest first ∧ IsDigest second ∧ m.square first second = a

theorem drawable_of_hashToElement (hhash : ∀ bs, IsDigest (hash bs))
    (h : m.hashToElement hash data = .ok a) : m.Drawable a := by
  obtain ⟨i, -, htrial, hlarge, -⟩ := hashToElement_eq_ok.mp h
  exact ⟨hlarge, _, _, hhash _, hhash _, htrial⟩

end Modulus

namespace Tails

open Modulus

variable {m : Modulus} {h h' : Hashing} {id id' : String} {index index' : Nat}
  {capacity larger : Int} {entries : List Int} {e : Failure}

theorem toList_text (id : String) (index : Nat) :
    s!"{id}:{index}".toList = id.toList ++ ':' :: Nat.toDigits 10 index := by
  have hdigits : (toString index).toList = Nat.toDigits 10 index := by
    rw [Nat.toString_eq_ofList_toDigits, String.toList_ofList]
  change (id ++ ":" ++ toString index).toList = _
  rw [String.toList_append, String.toList_append, List.append_assoc, hdigits]
  rfl

/-- Whatever colons and digits stand in names, no two entries have one label. -/
theorem label_inj (hlabel : label id index = label id' index') : id = id' ∧ index = index' := by
  have htext := congrArg String.toList (Bytes.ofText_inj hlabel)
  rw [toList_text, toList_text] at htext
  obtain ⟨hid, hindex⟩ :=
    append_cons_inj (colon_not_mem_toDigits index) (colon_not_mem_toDigits index') htext
  exact ⟨String.toList_inj.mp hid, toDigits_inj hindex⟩

/-- A name that ends like a label. -/
example : label "reg:1" 2 ≠ label "reg" 12 := by decide

/-- One hashing: a block of a trial for the entry of a registry at an index. -/
@[ext]
structure Input where
  id : String
  index : Nat
  counter : Nat
  number : UInt8

namespace Input

variable {x y : Input}

/-- What is hashed. -/
def bytes (x : Input) : Bytes := block x.counter x.number (label x.id x.index)

theorem bytes_inj (hx : x.counter < trials) (hy : y.counter < trials) (hbytes : x.bytes = y.bytes) :
    x = y := by
  obtain ⟨hcounter, hnumber, hlabel⟩ := block_inj hx hy hbytes
  obtain ⟨hid, hindex⟩ := label_inj hlabel
  exact Input.ext hid hindex hcounter hnumber

/-- Digests can be prescribed for all inputs at once. -/
theorem exists_hash (digest : Input → Bytes) (hdigest : ∀ x, IsDigest (digest x)) :
    ∃ hash : Bytes → Bytes, (∀ bs, IsDigest (hash bs)) ∧
      ∀ x : Input, x.counter < trials → hash x.bytes = digest x := by
  classical
  -- By injectivity the input that is chosen for given bytes is the one that they are of.
  refine ⟨fun bs => if hbs : ∃ x : Input, x.counter < trials ∧ x.bytes = bs then digest hbs.choose
    else List.replicate 64 0, fun bs => ?_, fun x hx => ?_⟩
  · by_cases hbs : ∃ x : Input, x.counter < trials ∧ x.bytes = bs
    · simp only [dif_pos hbs, hdigest]
    · simp only [dif_neg hbs, IsDigest, List.length_replicate]
  · have hbs : ∃ y : Input, y.counter < trials ∧ y.bytes = x.bytes := ⟨x, hx, rfl⟩
    obtain ⟨hcounter, hbytes⟩ := hbs.choose_spec
    simp only [dif_pos hbs, bytes_inj hcounter hx hbytes]

/-- That an input is hashed when the entry of a registry at an index is drawn: all trials before it
were in vain. -/
structure IsAsked (m : Modulus) (hash : Bytes → Bytes) (id : String) (index : Nat) (x : Input) :
    Prop where
  id_eq : x.id = id
  index_eq : x.index = index
  counter_lt : x.counter < trials
  number_eq : x.number = 0 ∨ x.number = 1
  inVain : ∀ n < x.counter, m.trial hash (label id index) n ≤ 1

end Input

/-! An entry and its inputs. -/

theorem entry_congr (hagree : ∀ x : Input, x.IsAsked m h.elements id index →
      h.elements x.bytes = h'.elements x.bytes) :
    entry m h id index = entry m h' id index := by
  refine hashToElement_congr fun i hi hbefore number hnumber => ?_
  exact hagree ⟨id, index, i, number⟩ ⟨rfl, rfl, hi, hnumber, hbefore⟩

/-- What is hashed for one entry has no part in any other. -/
theorem entry_of_apart
    (hagree : ∀ bs, (¬ ∃ x : Input, x.id = id ∧ x.index = index ∧ x.counter < trials ∧
      x.bytes = bs) → h.elements bs = h'.elements bs) (hapart : id' = id → index' ≠ index) :
    entry m h id' index' = entry m h' id' index' := by
  refine entry_congr fun x hx => hagree x.bytes ?_
  intro ⟨y, hid, hindex, hcounter, hbytes⟩
  cases Input.bytes_inj hcounter hx.counter_lt hbytes
  exact hapart (hx.id_eq.symm.trans hid) (hx.index_eq.symm.trans hindex)

/-! The entries of a registry. -/

theorem generate_congr (hagree : ∀ i : Nat, 1 ≤ i → i ≤ capacity →
      entry m h id i = entry m h' id i) :
    generate m h id capacity = generate m h' id capacity := by
  have hmap : (List.range capacity.toNat).mapM (fun i => entry m h id (i + 1)) =
      (List.range capacity.toNat).mapM fun i => entry m h' id (i + 1) := by
    refine mapM_congr fun i hi => ?_
    have hi := List.mem_range.mp hi
    exact hagree (i + 1) (by omega) (by omega)
  rw [generate, generate, hmap]

/-- The entries up to a larger capacity are those up to a smaller one, and then some more. -/
theorem generate_of_le (hpos : 1 ≤ capacity) (hle : capacity ≤ larger) :
    generate m h id larger = do
      let front ← generate m h id capacity
      let more ← (List.range (larger - capacity).toNat).mapM fun i =>
        entry m h id (capacity.toNat + i + 1)
      return front ++ more := by
  have hsum : larger.toNat = capacity.toNat + (larger - capacity).toNat := by omega
  rw [generate, generate, if_neg (by omega), if_neg (by omega), hsum, List.range_add,
    List.mapM_append, List.mapM_map]
  rfl

theorem exists_front (hpos : 1 ≤ capacity) (hle : capacity ≤ larger)
    (hentries : generate m h id larger = .ok entries) :
    ∃ front, generate m h id capacity = .ok front ∧ front <+: entries := by
  rw [generate_of_le hpos hle] at hentries
  obtain ⟨front, hfront, hentries⟩ := bind_eq_ok.mp hentries
  obtain ⟨more, -, hentries⟩ := bind_eq_ok.mp hentries
  cases hentries
  exact ⟨front, hfront, List.prefix_append front more⟩

theorem generate_error_of_le (hpos : 1 ≤ capacity) (hle : capacity ≤ larger)
    (he : generate m h id capacity = .error e) : generate m h id larger = .error e := by
  rw [generate_of_le hpos hle, he]
  rfl

/-- At each index stands the entry of name and index, whatever the capacity. -/
theorem entryAt_of_generate (hentries : generate m h id capacity = .ok entries) (hpos : 1 ≤ index)
    (hle : (index : Int) ≤ capacity) :
    TailsSource.entryAt entries index = entry m h id index := by
  obtain ⟨-, hmap⟩ := generate_eq_ok.mp hentries
  have hrange : (List.range capacity.toNat)[index - 1]? = some (index - 1) :=
    List.getElem?_range (by omega)
  obtain ⟨a, ha, hentry⟩ := getElem?_of_mapM hmap hrange
  have hplace : ((index : Int) - 1).toNat = index - 1 := by omega
  rw [Nat.sub_add_cancel hpos] at hentry
  rw [TailsSource.entryAt, if_neg (by omega), hplace, ha, hentry]

/-- Whatever elements are named for the entries of all registries, some hash function gives them. -/
theorem exists_hash_of_drawable {f : String → Nat → Int} (hf : ∀ id i, m.Drawable (f id i)) :
    ∃ hash : Bytes → Bytes, (∀ bs, IsDigest (hash bs)) ∧ ∀ contents id capacity, 0 < capacity →
      generate m ⟨hash, contents⟩ id capacity =
        .ok ((List.range capacity.toNat).map fun i => f id (i + 1)) := by
  choose hlarge first second hfirst hsecond hsquare using hf
  -- Already the first trial is to give the element.
  obtain ⟨hash, hdigest, hgiven⟩ := Input.exists_hash
    (fun x => if x.number = 0 then first x.id x.index else second x.id x.index) (fun x => by
      by_cases hnumber : x.number = 0
      · simp only [if_pos hnumber, hfirst]
      · simp only [if_neg hnumber, hsecond])
  have hstart : 0 < trials := by decide
  refine ⟨hash, hdigest, fun contents id capacity hcapacity => ?_⟩
  have hentry (i : Nat) : entry m ⟨hash, contents⟩ id i = .ok (f id i) := by
    have hfirst : hash (block 0 0 (label id i)) = first id i := hgiven ⟨id, i, 0, 0⟩ hstart
    have hsecond : hash (block 0 1 (label id i)) = second id i := hgiven ⟨id, i, 0, 1⟩ hstart
    refine hashToElement_eq_ok.mpr ⟨0, hstart, ?_, hlarge id i, nofun⟩
    change m.square (hash (block 0 0 (label id i))) (hash (block 0 1 (label id i))) = f id i
    rw [hfirst, hsecond, hsquare]
  exact generate_eq_ok.mpr ⟨hcapacity, mapM_eq_ok fun i _ => hentry (i + 1)⟩

end Tails

open Modulus Tails

/-- What the entries of registries depend on, and what they do not. -/
structure Independence (m : Modulus) : Prop where
  /-- Whatever is hashed tells registry, index, counter and block. -/
  distinct : ∀ x y : Input, x.counter < trials → y.counter < trials → x.bytes = y.bytes → x = y
  /-- No other digests are looked at. -/
  asked : ∀ h h' id (capacity : Int), (∀ (i : Nat) (x : Input), 1 ≤ i → i ≤ capacity →
      x.IsAsked m h.elements id i → h.elements x.bytes = h'.elements x.bytes) →
    generate m h id capacity = generate m h' id capacity
  /-- Two hash functions that differ on the inputs of one entry agree on all other entries. -/
  apart : ∀ h h' id index, (∀ bs, (¬ ∃ x : Input, x.id = id ∧ x.index = index ∧
      x.counter < trials ∧ x.bytes = bs) → h.elements bs = h'.elements bs) →
    ∀ id' index', (id' = id → index' ≠ index) → entry m h id' index' = entry m h' id' index'
  drawable : ∀ hash data a, (∀ bs, IsDigest (hash bs)) → m.hashToElement hash data = .ok a →
    m.Drawable a
  /-- All that can be drawn can be drawn for all entries of all registries, in any combination. -/
  free : ∀ f : String → Nat → Int, (∀ id i, m.Drawable (f id i)) →
    ∃ hash : Bytes → Bytes, (∀ bs, IsDigest (hash bs)) ∧ ∀ contents id capacity, 0 < capacity →
      generate m ⟨hash, contents⟩ id capacity =
        .ok ((List.range capacity.toNat).map fun i => f id (i + 1))
  served : ∀ h id capacity entries, generate m h id capacity = .ok entries →
    (entries.length : Int) = capacity ∧ ∀ index : Nat, 1 ≤ index → index ≤ capacity →
      TailsSource.entryAt entries index = entry m h id index
  /-- A registry of larger capacity begins with the entries of a smaller one. -/
  begins : ∀ h id capacity larger entries, 1 ≤ capacity → capacity ≤ larger →
    generate m h id larger = .ok entries →
      ∃ front, generate m h id capacity = .ok front ∧ front <+: entries
  fails : ∀ h id capacity larger e, 1 ≤ capacity → capacity ≤ larger →
    generate m h id capacity = .error e → generate m h id larger = .error e

theorem independence_of_entries (m : Modulus) : Independence m := by
  constructor
  case distinct => exact fun _ _ => Input.bytes_inj
  case asked =>
    intro h h' id capacity hagree
    exact generate_congr fun i hpos hle => entry_congr fun x => hagree i x hpos hle
  case apart => exact fun _ _ _ _ hagree _ _ => entry_of_apart hagree
  case drawable => exact fun _ _ _ => drawable_of_hashToElement
  case free => exact fun _ => exists_hash_of_drawable
  case served =>
    intro h id capacity entries hentries
    exact ⟨length_of_generate hentries, fun _ => entryAt_of_generate hentries⟩
  case begins => exact fun _ _ _ _ _ => exists_front
  case fails => exact fun _ _ _ _ _ => generate_error_of_le

end Revocation
