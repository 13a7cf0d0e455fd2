import Revocation.Proofs.JsonText

/-!
A JSON document is read as the value that was written. Numbers with a fraction are left aside. Main
statements: `value_pretty`, `parseBody_render` and `parseFile_render`.
-/
namespace Revocation.Json

/-- What a writer may be given for the reader to find it again. -/
def Readable : (levels : Nat) → Json → Prop
  | _, .null | _, .bool _ | _, .string _ => True
  | _, .int i => i.natAbs < Nat.pow 10 Numeral.limit
  | _, .real _ | 0, .array _ | 0, .object _ => False
  | n + 1, .array vs => ∀ v ∈ vs, Readable n v
  | n + 1, .object ms => (ms.map (·.1)).Nodup ∧ ∀ m ∈ ms, Readable n m.2

theorem insert_of_not_mem {name : String} {v : Json} {ms : Members} (h : name ∉ ms.map (·.1)) :
    ms.insert name v = ms ++ [(name, v)] := by
  induction ms with
  | nil => rfl
  | cons m ms ih =>
    obtain ⟨hne, htail⟩ : name ≠ m.1 ∧ name ∉ ms.map (·.1) := by simpa using h
    rw [Members.insert, if_neg fun h' => hne h'.symm, ih htail, List.cons_append]

theorem merge_of_nodup {ms ns : Members} (h : ((ms ++ ns).map (·.1)).Nodup) :
    Members.merge ms ns = ms ++ ns := by
  induction ns generalizing ms with
  | nil => rw [List.append_nil]; rfl
  | cons n ns ih =>
    have hn : n.1 ∉ ms.map (·.1) := by
      intro hmem
      rw [List.map_append, List.nodup_append] at h
      exact h.2.2 _ hmem _ (List.mem_map_of_mem List.mem_cons_self) rfl
    have hstep : Members.merge ms (n :: ns) = Members.merge (ms ++ [n]) ns :=
      congrArg (fun ms => Members.merge ms ns) (insert_of_not_mem hn)
    rw [hstep, ih (by simpa using h), List.append_assoc, List.singleton_append]

variable {ascii : Bool} {depth fuel levels : Nat} {c : Char} {cs rest : List Char} {v : Json}

theorem skip_cons (hc : isBlank c = false) : skip (c :: cs) = c :: cs := by
  rw [skip, List.dropWhile_cons_of_neg (by simp [hc])]

theorem skip_lineStart : skip (lineStart depth ++ cs) = skip cs := by
  have hblank : ∀ d ∈ lineStart depth, isBlank d := by
    intro d hd
    rcases List.mem_cons.mp hd with rfl | hd
    · rfl
    · rw [List.eq_of_mem_replicate hd]
      rfl
  rw [skip, List.dropWhile_append_of_pos hblank, skip]

theorem leaf_scalar (hc : c ≠ '"') : leaf (c :: cs) = scalar (c :: cs) := by
  rw [leaf.eq_def]
  split
  · next h => cases h
  · next h => exact absurd (List.cons.inj h).1 hc
  · rfl

theorem value_leaf (ha : c ≠ '[') (ho : c ≠ '\x7b') :
    value fuel levels (c :: cs) = leaf (c :: cs) := by
  rw [value.eq_def]
  split
  · next h => exact absurd (List.cons.inj h).1 ha
  · next h => exact absurd (List.cons.inj h).1 ho
  · next h => exact absurd (List.cons.inj h).1 ha
  · next h => exact absurd (List.cons.inj h).1 ho
  · rfl

theorem value_scalar (hq : c ≠ '"') (ha : c ≠ '[') (ho : c ≠ '\x7b') :
    value fuel levels (c :: cs) = scalar (c :: cs) :=
  (value_leaf ha ho).trans (leaf_scalar hq)

theorem scalarText_null : scalarText ascii .null = ['n', 'u', 'l', 'l'] := by simp [scalarText]

theorem scalarText_false : scalarText ascii (.bool false) = ['f', 'a', 'l', 's', 'e'] := by
  simp [scalarText]

theorem scalarText_true : scalarText ascii (.bool true) = ['t', 'r', 'u', 'e'] := by
  simp [scalarText]

theorem value_null : value fuel levels (scalarText ascii .null ++ rest) = .ok (.null, rest) := by
  rw [scalarText_null]
  refine (value_scalar (by decide) (by decide) (by decide)).trans ?_
  simp [scalar, words]

theorem value_bool (b : Bool) :
    value fuel levels (scalarText ascii (.bool b) ++ rest) = .ok (.bool b, rest) := by
  cases b with
  | false =>
    rw [scalarText_false]
    refine (value_scalar (by decide) (by decide) (by decide)).trans ?_
    simp [scalar, words]
  | true =>
    rw [scalarText_true]
    refine (value_scalar (by decide) (by decide) (by decide)).trans ?_
    simp [scalar, words]

theorem exists_cons_toString (i : Int) : ∃ c cs, (toString i).toList = c :: cs ∧
    (c = '-' ∨ Numeral.isDigit c) := by
  cases i with
  | ofNat n =>
    obtain ⟨c, cs, heq, hc⟩ := exists_cons_toDigits n
    exact ⟨c, cs, by simpa [Int.toString_eq_repr, Int.repr_eq_if, Nat.toList_repr], .inr hc⟩
  | negSucc n =>
    exact ⟨_, _, by simp [Int.toString_eq_repr, Int.repr_eq_if]; rfl, .inl rfl⟩

theorem ne_of_sign_or_digit (hc : c = '-' ∨ Numeral.isDigit c) :
    c ≠ '"' ∧ c ≠ '[' ∧ c ≠ '\x7b' ∧ c ≠ ']' ∧ isBlank c = false := by
  have hcode : c.toNat = 45 ∨ 48 ≤ c.toNat ∧ c.toNat ≤ 57 := by
    rcases hc with rfl | hc
    · exact .inl rfl
    · simp only [Numeral.isDigit, Bool.and_eq_true, decide_eq_true_eq] at hc
      exact .inr hc
  have hne : ∀ d : Char, d.toNat ≠ 45 → (d.toNat < 48 ∨ 57 < d.toNat) → c ≠ d := by
    rintro d h h' rfl
    omega
  have hspace := hne ' ' (by decide) (by decide)
  have htab := hne '\t' (by decide) (by decide)
  have hline := hne '\n' (by decide) (by decide)
  have hreturn := hne '\r' (by decide) (by decide)
  have hblank : isBlank c = false := by simp [isBlank, hspace, htab, hline, hreturn]
  exact ⟨hne _ (by decide) (by decide), hne _ (by decide) (by decide),
    hne _ (by decide) (by decide), hne _ (by decide) (by decide), hblank⟩

theorem value_int {i : Int} (hi : i.natAbs < Nat.pow 10 Numeral.limit) (h : Ends rest) :
    value fuel levels (scalarText ascii (.int i) ++ rest) = .ok (.int i, rest) := by
  obtain ⟨c, cs, heq, hc⟩ := exists_cons_toString i
  obtain ⟨hquote, hbracket, hbrace, -, -⟩ := ne_of_sign_or_digit hc
  have hscalar : value fuel levels ((toString i).toList ++ rest) =
      scalar ((toString i).toList ++ rest) := by
    rw [heq, List.cons_append, value_scalar hquote hbracket hbrace]
  exact hscalar.trans (scalar_int hi h)

theorem value_string (s : String) :
    value fuel levels (textLiteral ascii s ++ rest) = .ok (.string s, rest) :=
  (value_leaf (by decide) (by decide)).trans (leaf_text s)

/-- A value may begin here, also the first one of an array. -/
def Begins (cs : List Char) : Prop := ∃ c ∈ cs.head?, isBlank c = false ∧ c ≠ ']'

theorem pretty_array {vs : List Json} : pretty ascii depth (.array (v :: vs)) ++ rest =
    '[' :: (lineStart (depth + 1) ++ (pretty ascii (depth + 1) v ++
      (prettyItems ascii (depth + 1) vs ++ (lineStart depth ++ ']' :: rest)))) := by
  simp [pretty]

theorem pretty_object {n : String} {ms : Members} :
    pretty ascii depth (.object ((n, v) :: ms)) ++ rest =
      '\x7b' :: (lineStart (depth + 1) ++ (textLiteral ascii n ++
        ':' :: ' ' :: (pretty ascii (depth + 1) v ++
          (prettyMembers ascii (depth + 1) ms ++ (lineStart depth ++ '\x7d' :: rest))))) := by
  simp [pretty]

theorem begins_pretty (hv : Readable levels v) : Begins (pretty ascii depth v ++ rest) := by
  cases v with
  | null => exact ⟨'n', by simp [pretty, scalarText], by decide⟩
  | bool b =>
    cases b with
    | false => exact ⟨'f', by simp [pretty, scalarText], by decide⟩
    | true => exact ⟨'t', by simp [pretty, scalarText], by decide⟩
  | int i =>
    obtain ⟨c, cs, heq, hc⟩ := exists_cons_toString i
    obtain ⟨-, -, -, hclose, hblank⟩ := ne_of_sign_or_digit hc
    have htext : pretty ascii depth (.int i) = (toString i).toList := by simp [pretty, scalarText]
    exact ⟨c, by rw [htext, heq]; rfl, hblank, hclose⟩
  | real x => cases levels <;> exact hv.elim
  | string s => exact ⟨'"', by simp [pretty, scalarText, textLiteral], by decide⟩
  | array vs =>
    cases vs with
    | nil => exact ⟨'[', by simp [pretty, scalarText], by decide⟩
    | cons v vs => exact ⟨'[', by rw [pretty_array]; rfl, by decide⟩
  | object ms =>
    cases ms with
    | nil => exact ⟨'\x7b', by simp [pretty, scalarText], by decide⟩
    | cons m ms => exact ⟨'\x7b', by rw [pretty_object]; rfl, by decide⟩

theorem skip_of_begins (h : Begins cs) : skip cs = cs := by
  obtain ⟨c, hc, hblank, -⟩ := h
  cases cs with
  | nil => cases hc
  | cons d cs =>
    cases hc
    exact skip_cons hblank

theorem ends_lineStart : Ends (lineStart depth ++ rest) := by
  rintro c hc
  cases hc
  decide

theorem ends_comma : Ends (',' :: rest) := by
  rintro c hc
  cases hc
  decide

theorem items_pretty {read : List Char → Reading Json} {vs : List Json} {outer : Nat}
    (hread : ∀ w ∈ v :: vs, ∀ rest, Ends rest →
      read (pretty ascii depth w ++ rest) = .ok (w, rest))
    (hbegins : ∀ w ∈ vs, ∀ rest, Begins (pretty ascii depth w ++ rest))
    (hfuel : vs.length < fuel) :
    items read fuel (pretty ascii depth v ++
      (prettyItems ascii depth vs ++ (lineStart outer ++ ']' :: rest))) = .ok (v :: vs, rest) := by
  induction vs generalizing v fuel with
  | nil =>
    cases fuel with
    | zero => cases hfuel
    | succ fuel =>
      rw [items, prettyItems, List.nil_append, hread v List.mem_cons_self _ ends_lineStart]
      simp only [skip_lineStart, skip_cons (show isBlank ']' = false from rfl)]
  | cons w vs ih =>
    cases fuel with
    | zero => cases hfuel
    | succ fuel =>
      have htail := ih (fun u hu => hread u (List.mem_cons_of_mem v hu))
        (fun u hu => hbegins u (List.mem_cons_of_mem w hu)) (Nat.lt_of_succ_lt_succ hfuel)
      rw [items, prettyItems, List.append_assoc, List.append_assoc, List.cons_append,
        hread v List.mem_cons_self _ ends_comma]
      simp only [skip_cons (show isBlank ',' = false from rfl), skip_lineStart,
        skip_of_begins (hbegins w List.mem_cons_self _), htail]
      rfl

theorem member_pretty {read : List Char → Reading Json} {n : String}
    (hread : read (pretty ascii depth v ++ rest) = .ok (v, rest))
    (hbegins : Begins (pretty ascii depth v ++ rest)) :
    member read (textLiteral ascii n ++ ':' :: ' ' :: (pretty ascii depth v ++ rest)) =
      .ok ((n, v), rest) := by
  have hskip : skip (' ' :: (pretty ascii depth v ++ rest)) = pretty ascii depth v ++ rest := by
    rw [skip, List.dropWhile_cons_of_pos rfl]
    exact skip_of_begins hbegins
  rw [textLiteral, List.cons_append, List.cons_append, List.append_assoc, List.singleton_append,
    member, text_literal]
  simp only [skip_cons (show isBlank ':' = false from rfl), hskip, hread]
  rfl

theorem skip_textLiteral (n : String) :
    skip (textLiteral ascii n ++ rest) = textLiteral ascii n ++ rest :=
  skip_cons rfl

theorem members_pretty {read : List Char → Reading Json} {n : String} {ms : Members} {outer : Nat}
    (hread : ∀ m ∈ (n, v) :: ms, ∀ rest, Ends rest →
      read (pretty ascii depth m.2 ++ rest) = .ok (m.2, rest))
    (hbegins : ∀ m ∈ (n, v) :: ms, ∀ rest, Begins (pretty ascii depth m.2 ++ rest))
    (hfuel : ms.length < fuel) :
    members read fuel (textLiteral ascii n ++ ':' :: ' ' :: (pretty ascii depth v ++
      (prettyMembers ascii depth ms ++ (lineStart outer ++ '\x7d' :: rest)))) =
      .ok ((n, v) :: ms, rest) := by
  induction ms generalizing n v fuel with
  | nil =>
    cases fuel with
    | zero => cases hfuel
    | succ fuel =>
      have hfirst := fun rest h => member_pretty (n := n) (hread _ List.mem_cons_self rest h)
        (hbegins _ List.mem_cons_self rest)
      rw [members, prettyMembers, List.nil_append, hfirst _ ends_lineStart]
      simp only [skip_lineStart, skip_cons (show isBlank '\x7d' = false from rfl)]
  | cons m ms ih =>
    obtain ⟨n', w⟩ := m
    cases fuel with
    | zero => cases hfuel
    | succ fuel =>
      have hfirst := fun rest h => member_pretty (n := n) (hread _ List.mem_cons_self rest h)
        (hbegins _ List.mem_cons_self rest)
      have htail := ih (fun u hu => hread u (List.mem_cons_of_mem (n, v) hu))
        (fun u hu => hbegins u (List.mem_cons_of_mem (n, v) hu)) (Nat.lt_of_succ_lt_succ hfuel)
      simp only [members, prettyMembers, List.append_assoc, List.cons_append, hfirst _ ends_comma,
        skip_cons (show isBlank ',' = false from rfl), skip_lineStart, skip_textLiteral, htail]
      rfl

theorem length_prettyItems (ascii : Bool) (depth : Nat) (vs : List Json) :
    vs.length ≤ (prettyItems ascii depth vs).length ∧
    ∀ v ∈ vs, (pretty ascii depth v).length ≤ (prettyItems ascii depth vs).length := by
  induction vs with
  | nil => exact ⟨Nat.le_refl 0, fun v hv => absurd hv List.not_mem_nil⟩
  | cons w vs ih =>
    have hsplit : (prettyItems ascii depth (w :: vs)).length = (lineStart depth).length + 1 +
        (pretty ascii depth w).length + (prettyItems ascii depth vs).length := by
      simp only [prettyItems, List.length_append, List.length_cons]
    constructor
    · rw [List.length_cons, hsplit]
      omega
    · intro v hv
      rcases List.mem_cons.mp hv with rfl | hv
      · omega
      · have := ih.2 v hv
        omega

theorem length_prettyMembers (ascii : Bool) (depth : Nat) (ms : Members) :
    ms.length ≤ (prettyMembers ascii depth ms).length ∧
    ∀ m ∈ ms, (pretty ascii depth m.2).length ≤ (prettyMembers ascii depth ms).length := by
  induction ms with
  | nil => exact ⟨Nat.le_refl 0, fun m hm => absurd hm List.not_mem_nil⟩
  | cons n ms ih =>
    have hsplit : (prettyMembers ascii depth (n :: ms)).length = (lineStart depth).length + 1 +
        (textLiteral ascii n.1).length + 2 + (pretty ascii depth n.2).length +
        (prettyMembers ascii depth ms).length := by
      simp only [prettyMembers, List.length_append, List.length_cons]
      omega
    constructor
    · rw [List.length_cons, hsplit]
      omega
    · intro m hm
      rcases List.mem_cons.mp hm with rfl | hm
      · omega
      · have := ih.2 m hm
        omega

theorem length_pretty_array (ascii : Bool) (depth : Nat) (v : Json) (vs : List Json) :
    vs.length < (pretty ascii depth (.array (v :: vs))).length ∧
    ∀ w ∈ v :: vs, (pretty ascii (depth + 1) w).length ≤
      (pretty ascii depth (.array (v :: vs))).length := by
  obtain ⟨hcount, hitem⟩ := length_prettyItems ascii (depth + 1) vs
  have hlength : (pretty ascii (depth + 1) v).length + (prettyItems ascii (depth + 1) vs).length <
      (pretty ascii depth (.array (v :: vs))).length := by
    simp [pretty]
    omega
  refine ⟨by omega, List.forall_mem_cons.mpr ⟨by omega, fun w hw => ?_⟩⟩
  have := hitem w hw
  omega

theorem length_pretty_object (ascii : Bool) (depth : Nat) (n : String) (v : Json) (ms : Members) :
    ms.length < (pretty ascii depth (.object ((n, v) :: ms))).length ∧
    ∀ m ∈ (n, v) :: ms, (pretty ascii (depth + 1) m.2).length ≤
      (pretty ascii depth (.object ((n, v) :: ms))).length := by
  obtain ⟨hcount, hmember⟩ := length_prettyMembers ascii (depth + 1) ms
  have hlength : (pretty ascii (depth + 1) v).length +
      (prettyMembers ascii (depth + 1) ms).length <
        (pretty ascii depth (.object ((n, v) :: ms))).length := by
    simp [pretty]
    omega
  refine ⟨by omega, List.forall_mem_cons.mpr ⟨?_, fun m hm => ?_⟩⟩
  · change (pretty ascii (depth + 1) v).length ≤ _
    omega
  · have := hmember m hm
    omega

theorem pretty_leaf (hv : Readable 0 v) : pretty ascii depth v = scalarText ascii v := by
  cases v with
  | array vs => exact hv.elim
  | object ms => exact hv.elim
  | _ => simp only [pretty]

theorem value_pretty_leaf (hv : Readable 0 v) (h : Ends rest) :
    value fuel levels (pretty ascii depth v ++ rest) = .ok (v, rest) := by
  rw [pretty_leaf hv]
  cases v with
  | null => exact value_null
  | bool b => exact value_bool b
  | int i => exact value_int hv h
  | real x => exact hv.elim
  | string s => exact value_string s
  | array vs => exact hv.elim
  | object ms => exact hv.elim

theorem value_array {w : Json} {vs : List Json}
    (hread : ∀ u ∈ w :: vs, ∀ rest, Ends rest →
      value fuel levels (pretty ascii (depth + 1) u ++ rest) = .ok (u, rest))
    (hbegins : ∀ u ∈ w :: vs, ∀ rest, Begins (pretty ascii (depth + 1) u ++ rest))
    (hfuel : vs.length < fuel) :
    value fuel (levels + 1) (pretty ascii depth (.array (w :: vs)) ++ rest) =
      .ok (.array (w :: vs), rest) := by
  have hfirst := hbegins w List.mem_cons_self (prettyItems ascii (depth + 1) vs ++
    (lineStart depth ++ ']' :: rest))
  rw [pretty_array, value, skip_lineStart, skip_of_begins hfirst]
  split
  · next h =>
    obtain ⟨c, hc, -, hne⟩ := hfirst
    rw [h] at hc
    exact absurd (Option.some.inj hc).symm hne
  · rw [items_pretty hread (fun u hu => hbegins u (List.mem_cons_of_mem w hu)) hfuel]
    rfl

theorem value_object {n : String} {w : Json} {ms : Members}
    (hread : ∀ m ∈ (n, w) :: ms, ∀ rest, Ends rest →
      value fuel levels (pretty ascii (depth + 1) m.2 ++ rest) = .ok (m.2, rest))
    (hbegins : ∀ m ∈ (n, w) :: ms, ∀ rest, Begins (pretty ascii (depth + 1) m.2 ++ rest))
    (hnames : (((n, w) :: ms).map (·.1)).Nodup) (hfuel : ms.length < fuel) :
    value fuel (levels + 1) (pretty ascii depth (.object ((n, w) :: ms)) ++ rest) =
      .ok (.object ((n, w) :: ms), rest) := by
  have hmerge : Members.merge [] ((n, w) :: ms) = (n, w) :: ms := merge_of_nodup hnames
  rw [pretty_object, value, skip_lineStart, skip_textLiteral]
  split
  · next h => exact absurd (List.cons.inj h).1 (by decide)
  · simp only [members_pretty hread hbegins hfuel, Except.map, hmerge]

theorem value_pretty (hv : Readable levels v) (hfuel : (pretty ascii depth v).length ≤ fuel)
    (h : Ends rest) : value fuel levels (pretty ascii depth v ++ rest) = .ok (v, rest) := by
  -- What an array or object holds is read with one level less, and its text is shorter.
  induction levels generalizing v depth rest with
  | zero => exact value_pretty_leaf hv h
  | succ n ih =>
    cases v with
    | array vs =>
      cases vs with
      | nil => simp [pretty, scalarText, value, skip_cons (show isBlank ']' = false from rfl)]
      | cons w vs =>
        obtain ⟨hcount, hitem⟩ := length_pretty_array ascii depth w vs
        exact value_array (fun u hu rest => ih (hv u hu) (Nat.le_trans (hitem u hu) hfuel))
          (fun u hu rest => begins_pretty (hv u hu)) (Nat.lt_of_lt_of_le hcount hfuel)
    | object ms =>
      cases ms with
      | nil => simp [pretty, scalarText, value, skip_cons (show isBlank '\x7d' = false from rfl)]
      | cons m ms =>
        obtain ⟨n, w⟩ := m
        obtain ⟨hnames, hv⟩ := hv
        obtain ⟨hcount, hmember⟩ := length_pretty_object ascii depth n w ms
        exact value_object (fun m hm rest => ih (hv m hm) (Nat.le_trans (hmember m hm) hfuel))
          (fun m hm rest => begins_pretty (hv m hm)) hnames (Nat.lt_of_lt_of_le hcount hfuel)
    | _ => exact value_pretty_leaf hv h

/-- A document with nothing but blanks after it. -/
theorem document_append (hv : Readable levelLimit v) (h : Ends rest) (hrest : skip rest = []) :
    document (pretty ascii depth v ++ rest) = .ok v := by
  have hvalue : value ((pretty ascii depth v ++ rest).length + 1) levelLimit
      (pretty ascii depth v ++ rest) = .ok (v, rest) := by
    refine value_pretty hv ?_ h
    rw [List.length_append]
    omega
  rw [document, skip_of_begins (begins_pretty hv), hvalue]
  simp only [hrest]

theorem document_pretty (hv : Readable levelLimit v) : document (pretty ascii depth v) = .ok v := by
  rw [← List.append_nil (pretty ascii depth v)]
  exact document_append hv (fun c hc => nomatch hc) rfl

/-- An object on lines of its own is read back, in ASCII or not. -/
theorem parse_render_line {m : String × Json} {ms : Members}
    (hv : Readable levelLimit (.object (m :: ms))) (ascii : Bool) :
    parse (render ascii (.object (m :: ms)) ++ "\n") = .ok (.object (m :: ms)) := by
  have hends : Ends ['\n'] := by
    intro c hc
    cases hc
    decide
  have hdocument : document (pretty ascii 0 (.object (m :: ms)) ++ ['\n']) = .ok _ :=
    document_append hv hends rfl
  have hline : (render ascii (.object (m :: ms)) ++ "\n").toList =
      pretty ascii 0 (.object (m :: ms)) ++ ['\n'] := by
    rw [render, String.toList_append, String.toList_ofList]
    rfl
  rw [parse, hline, parseChars.eq_def]
  split
  · next heq =>
    rw [pretty_object] at heq
    cases heq
  · rw [hdocument]
    rfl

/-! The bytes of a document in ASCII. -/

def Plain (cs : List Char) : Prop := ∀ c ∈ cs, 0 < c.toNat ∧ c.toNat < 0x80

/-- That a text is of printable characters in ASCII and ends of lines. -/
def Printed (cs : List Char) : Prop := ∀ c ∈ cs, c = '\n' ∨ 0x20 ≤ c.toNat ∧ c.toNat < 0x7f

instance (cs : List Char) : Decidable (Plain cs) := List.decidableBAll _ cs

instance (cs : List Char) : Decidable (Printed cs) := List.decidableBAll _ cs

theorem plain_cons : Plain (c :: cs) ↔ (0 < c.toNat ∧ c.toNat < 0x80) ∧ Plain cs :=
  List.forall_mem_cons

theorem printed_cons :
    Printed (c :: cs) ↔ (c = '\n' ∨ 0x20 ≤ c.toNat ∧ c.toNat < 0x7f) ∧ Printed cs :=
  List.forall_mem_cons

theorem printed_append {ds : List Char} : Printed (cs ++ ds) ↔ Printed cs ∧ Printed ds :=
  List.forall_mem_append

theorem printed_lineStart : Printed (lineStart depth) := by
  intro c hc
  rcases List.mem_cons.mp hc with rfl | hc
  · decide
  · rw [List.eq_of_mem_replicate hc]
    decide

theorem printed_unitEscape (n : Nat) : Printed (unitEscape n) := by
  have hdigit : ∀ k, k < 16 →
      Hex.digit k = '\n' ∨ 0x20 ≤ (Hex.digit k).toNat ∧ (Hex.digit k).toNat < 0x7f := by decide
  intro c hc
  simp only [unitEscape, Text.hexDigits, List.mem_cons, List.mem_append, List.not_mem_nil, or_false,
    false_or] at hc
  rcases hc with rfl | rfl | ((rfl | rfl) | rfl) | rfl
  · decide
  · decide
  all_goals exact hdigit _ (Nat.mod_lt _ (by decide))

theorem printed_escapeChar (c : Char) : Printed (escapeChar true c) := by
  rw [escapeChar]
  split
  · next h =>
    have hc : c = '"' ∨ c = '\\' := by simpa using h
    rcases hc with rfl | rfl <;> decide
  split
  · decide
  split
  · decide
  split
  · decide
  split
  · decide
  split
  · decide
  split
  · exact printed_unitEscape _
  split
  · next hlow h =>
    have hhigh : c.toNat < 0x7f := by simpa using h
    intro d hd
    rw [List.mem_singleton.mp hd]
    omega
  split
  · exact printed_unitEscape _
  · exact printed_append.mpr ⟨printed_unitEscape _, printed_unitEscape _⟩

theorem printed_textLiteral (s : String) : Printed (textLiteral true s) := by
  intro c hc
  simp only [textLiteral, List.cons_append, List.mem_cons, List.mem_append, List.mem_flatMap,
    List.not_mem_nil, or_false] at hc
  rcases hc with rfl | ⟨d, -, hc⟩ | rfl
  · decide
  · exact printed_escapeChar d c hc
  · decide

theorem printed_toString (i : Int) : Printed (toString i).toList := by
  have hdigits : ∀ n, Printed (Nat.toDigits 10 n) := by
    intro n c hc
    have hdigit := isDigit_of_mem_toDigits hc
    simp only [Numeral.isDigit, Bool.and_eq_true, decide_eq_true_eq] at hdigit
    have hlow : 48 ≤ c.toNat := hdigit.1
    have hhigh : c.toNat ≤ 57 := hdigit.2
    omega
  cases i with
  | ofNat n => simpa [Int.toString_eq_repr, Int.repr_eq_if, Nat.toList_repr] using hdigits n
  | negSucc n =>
    have htext : (toString (Int.negSucc n)).toList = '-' :: Nat.toDigits 10 (n + 1) := by
      simp [Int.toString_eq_repr, Int.repr_eq_if, Nat.toList_repr]
    rw [htext]
    exact printed_cons.mpr ⟨by decide, hdigits _⟩

theorem printed_prettyItems {vs : List Json} (h : ∀ v ∈ vs, Printed (pretty true depth v)) :
    Printed (prettyItems true depth vs) := by
  induction vs with
  | nil => exact fun c hc => nomatch hc
  | cons v vs ih =>
    obtain ⟨hv, hvs⟩ := List.forall_mem_cons.mp h
    simp only [prettyItems, List.append_assoc, List.cons_append, printed_append, printed_cons]
    exact ⟨by decide, printed_lineStart, hv, ih hvs⟩

theorem printed_prettyMembers {ms : Members} (h : ∀ m ∈ ms, Printed (pretty true depth m.2)) :
    Printed (prettyMembers true depth ms) := by
  induction ms with
  | nil => exact fun c hc => nomatch hc
  | cons m ms ih =>
    obtain ⟨hm, hms⟩ := List.forall_mem_cons.mp h
    simp only [prettyMembers, List.append_assoc, List.cons_append, printed_append, printed_cons]
    exact ⟨by decide, printed_lineStart, printed_textLiteral m.1, by decide, by decide, hm, ih hms⟩

theorem printed_pretty_leaf (hv : Readable 0 v) : Printed (pretty true depth v) := by
  rw [pretty_leaf hv]
  cases v with
  | null =>
    rw [scalarText_null]
    decide
  | bool b =>
    cases b with
    | false =>
      rw [scalarText_false]
      decide
    | true =>
      rw [scalarText_true]
      decide
  | int i => exact printed_toString i
  | real x => exact hv.elim
  | string s => exact printed_textLiteral s
  | array vs => exact hv.elim
  | object ms => exact hv.elim

theorem printed_pretty (hv : Readable levels v) : Printed (pretty true depth v) := by
  induction levels generalizing v depth with
  | zero => exact printed_pretty_leaf hv
  | succ n ih =>
    cases v with
    | array vs =>
      cases vs with
      | nil =>
        have htext : pretty true depth (.array []) = ['[', ']'] := by simp [pretty, scalarText]
        rw [htext]
        decide
      | cons w vs =>
        obtain ⟨hw, hvs⟩ := List.forall_mem_cons.mp hv
        have hitems : Printed (prettyItems true (depth + 1) vs) :=
          printed_prettyItems fun u hu => ih (hvs u hu)
        simp only [pretty, List.append_assoc, List.cons_append, printed_append, printed_cons]
        exact ⟨by decide, printed_lineStart, ih hw, hitems, printed_lineStart, by decide⟩
    | object ms =>
      cases ms with
      | nil =>
        have htext : pretty true depth (.object []) = ['\x7b', '\x7d'] := by
          simp [pretty, scalarText]
        rw [htext]
        decide
      | cons m ms =>
        obtain ⟨n, w⟩ := m
        obtain ⟨hw, hms⟩ := List.forall_mem_cons.mp hv.2
        have hmembers : Printed (prettyMembers true (depth + 1) ms) :=
          printed_prettyMembers fun m hm => ih (hms m hm)
        simp only [pretty, List.append_assoc, List.cons_append, printed_append, printed_cons]
        exact ⟨by decide, printed_lineStart, printed_textLiteral n, by decide, by decide, ih hw,
          hmembers, printed_lineStart, by decide⟩
    | _ => exact printed_pretty_leaf hv

theorem Printed.plain (h : Printed cs) : Plain cs := by
  intro c hc
  cases h c hc with
  | inl hline =>
    subst hline
    decide
  | inr hprinted => omega

theorem plain_pretty (hv : Readable levels v) : Plain (pretty true depth v) :=
  (printed_pretty hv).plain

theorem toNat_ofNat_char (h : c.toNat < 0x80) : (UInt8.ofNat c.toNat).toNat = c.toNat := by
  rw [UInt8.toNat_ofNat']
  omega

theorem ofText_plain (h : Plain cs) :
    Bytes.ofText (String.ofList cs) = cs.map fun c => UInt8.ofNat c.toNat := by
  have hsingle : ∀ c ∈ cs, String.utf8EncodeChar c = [UInt8.ofNat c.toNat] := by
    intro c hc
    have hval : c.val ≤ 127 := UInt32.le_iff_toNat_le.mpr (Nat.lt_succ_iff.mp (h c hc).2)
    rw [String.utf8EncodeChar_eq_singleton (Char.utf8Size_eq_one_iff.mpr hval)]
    rfl
  rw [Bytes.ofText, String.toList_ofList, List.flatMap_def, List.map_congr_left hsingle,
    ← List.flatMap_def, ← List.map_eq_flatMap]

theorem scan_plain (surrogates : Bool) (h : Plain cs) :
    Encoding.scan surrogates none (cs.map fun c => UInt8.ofNat c.toNat) = .ok cs := by
  induction cs with
  | nil => rfl
  | cons c cs ih =>
    obtain ⟨⟨-, hc⟩, hcs⟩ := plain_cons.mp h
    have hlow : UInt8.ofNat c.toNat < 0x80 := by
      rw [UInt8.lt_iff_toNat_lt, toNat_ofNat_char hc]
      exact hc
    rw [List.map_cons, Encoding.scan, if_pos hlow, ih hcs, toNat_ofNat_char hc, Except.map,
      Char.ofNat_toNat]

theorem formOf_plain {bs : Bytes} (h : ∀ b ∈ bs, 0 < b.toNat ∧ b.toNat < 0x80) :
    Encoding.formOf bs = (.utf8, 0) := by
  have hne : ∀ b ∈ bs, b ≠ 0 := by
    rintro b hb rfl
    exact absurd (h _ hb).1 (by decide)
  have hmarks : ∀ p ∈ Encoding.marks, ¬ p.1.isPrefixOf bs := by
    have hbytes : ∀ p ∈ Encoding.marks, ∃ b ∈ p.1, ¬ (0 < b.toNat ∧ b.toNat < 0x80) := by decide
    intro p hp hmark
    obtain ⟨b, hb, hnot⟩ := hbytes p hp
    exact hnot (h b ((List.isPrefixOf_iff_prefix.mp hmark).subset hb))
  have hunmarked : Encoding.unmarked bs = .utf8 := by
    rw [Encoding.unmarked.eq_def]
    split
    · rw [List.forall_mem_cons, List.forall_mem_cons] at hne
      rw [if_neg hne.1, if_neg hne.2.1]
    · rw [List.forall_mem_cons, List.forall_mem_cons] at hne
      rw [if_neg hne.1, if_neg hne.2.1]
    · rfl
  rw [Encoding.formOf]
  split
  · next hfind => exact absurd (List.find?_some hfind) (hmarks _ (List.mem_of_find?_eq_some hfind))
  · rw [hunmarked]

theorem detected_plain (h : Plain cs) :
    Encoding.detected (Bytes.ofText (String.ofList cs)) = .ok cs := by
  have hbytes : ∀ b ∈ cs.map (fun c => UInt8.ofNat c.toNat), 0 < b.toNat ∧ b.toNat < 0x80 := by
    intro b hb
    obtain ⟨c, hc, rfl⟩ := List.mem_map.mp hb
    rw [toNat_ofNat_char (h c hc).2]
    exact h c hc
  rw [ofText_plain h, Encoding.detected, formOf_plain hbytes]
  simp only [List.drop_zero, scan_plain true h]
  rfl

theorem unifyLines_of_not_mem (h : '\r' ∉ cs) : Encoding.unifyLines cs = cs := by
  fun_induction Encoding.unifyLines cs with
  | case1 => exact absurd List.mem_cons_self h
  | case2 => exact absurd List.mem_cons_self h
  | case3 c cs _ _ ih => rw [ih fun hmem => h (List.mem_cons_of_mem c hmem)]
  | case4 => rfl

/-- What is written in ASCII is read back from the body of an answer. -/
theorem parseBody_render (hv : Readable levelLimit v) :
    parseBody (Bytes.ofText (render true v)) = .ok v := by
  rw [parseBody, render, detected_plain (plain_pretty hv)]
  simp only [document_pretty hv]
  rfl

theorem parseChars_printed (h : Printed cs) : parseChars cs = located cs (document cs) := by
  rw [parseChars.eq_def]
  split
  · have hmark := (printed_cons.mp h).1
    exact absurd hmark (by decide)
  · rfl

/-- What is written in ASCII is read back from a file. -/
theorem parseFile_render (hv : Readable levelLimit v) :
    parseFile (Bytes.ofText (render true v)) = .ok v := by
  have hprinted : Printed (pretty true 0 v) := printed_pretty hv
  have hutf8 : Encoding.utf8 (Bytes.ofText (render true v)) = .ok (pretty true 0 v) := by
    rw [Encoding.utf8, render, ofText_plain hprinted.plain, scan_plain false hprinted.plain]
    rfl
  have hlines : '\r' ∉ pretty true 0 v := fun hr => absurd (hprinted _ hr) (by decide)
  rw [parseFile, hutf8]
  simp only [unifyLines_of_not_mem hlines, parseChars_printed hprinted, document_pretty hv]
  rfl

end Revocation.Json
