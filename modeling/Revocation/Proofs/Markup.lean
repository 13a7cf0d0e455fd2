import Revocation.Console.Markup

/-!
Which lines can be shown. A line that begins with a word in a colour can be shown whatever text
without brackets comes after the word, and cannot where the first tag in the text closes nothing.
Main statements: `shows_lead` and `not_shows_lead`.
-/
namespace Revocation.Console

variable {c : String} {text label cs rest content before ds : List Char} {p q n : Nat}

/-- The line has a form in which it can be shown. -/
def Shows (line : String) : Prop := ∃ out, printed line = .ok out

theorem tagAt?_of_not_mem (h : ¬ '[' ∈ cs) : tagAt? cs = none := by
  cases cs with
  | nil => rfl
  | cons d ds =>
    rw [tagAt?.eq_def]
    split
    · next heq =>
      rw [(List.cons.inj heq).1] at h
      exact (h List.mem_cons_self).elim
    · rfl

theorem pieces_of_tag (h : tagAt? ('[' :: cs) = some (content, rest)) (before : List Char) :
    pieces p before ('[' :: cs) =
      flushed before ++ .tag p content :: pieces (p + content.length + 2) [] rest := by
  have hdrop : ('[' :: cs).dropWhile isBackslash = '[' :: cs := by simp [isBackslash]
  have htake : ('[' :: cs).takeWhile isBackslash = [] := by simp [isBackslash]
  rw [pieces]
  split
  · next h' =>
    rw [hdrop, h] at h'
    cases h'
    simp [htake, escapedTag]
  · next h' =>
    rw [hdrop, h] at h'
    cases h'

theorem pieces_of_no_tag {d : Char} (h : tagAt? ((d :: cs).dropWhile isBackslash) = none)
    (p : Nat) (before : List Char) :
    pieces p before (d :: cs) = pieces (p + 1) (d :: before) cs := by
  rw [pieces]
  split
  · next h' =>
    rw [h] at h'
    cases h'
  · rfl

/-- Text without brackets is one piece. -/
theorem pieces_of_not_mem (h : ¬ '[' ∈ cs) (p : Nat) (before : List Char) :
    pieces p before cs = flushed (cs.reverse ++ before) := by
  induction cs generalizing p before with
  | nil => rw [pieces, List.reverse_nil, List.nil_append]
  | cons d ds ih =>
    have hnone : tagAt? ((d :: ds).dropWhile isBackslash) = none :=
      tagAt?_of_not_mem fun hmem => h ((List.dropWhile_sublist _).subset hmem)
    rw [pieces_of_no_tag hnone, ih fun hmem => h (List.mem_cons_of_mem d hmem), List.reverse_cons,
      List.append_assoc, List.singleton_append]

/-- Neither brackets nor backslashes. -/
def IsPlain (cs : List Char) : Prop := ∀ d ∈ cs, d ≠ '[' ∧ d ≠ '\\'

instance : Decidable (IsPlain cs) := List.decidableBAll (fun d => d ≠ '[' ∧ d ≠ '\\') cs

theorem pieces_append (h : IsPlain cs) (p : Nat) (before : List Char) :
    pieces p before (cs ++ rest) = pieces (p + cs.length) (cs.reverse ++ before) rest := by
  induction cs generalizing p before with
  | nil => rfl
  | cons d ds ih =>
    obtain ⟨⟨hbracket, hbackslash⟩, hds⟩ := List.forall_mem_cons.mp h
    have hdrop : (d :: (ds ++ rest)).dropWhile isBackslash = d :: (ds ++ rest) := by
      simp [isBackslash, hbackslash]
    have hnone : tagAt? ((d :: (ds ++ rest)).dropWhile isBackslash) = none := by
      rw [hdrop, tagAt?.eq_def]
      split
      · next heq => exact (hbracket (List.cons.inj heq).1).elim
      · rfl
    rw [List.cons_append, pieces_of_no_tag hnone, ih hds, List.length_cons, List.reverse_cons,
      List.append_assoc, List.singleton_append, Nat.add_right_comm, Nat.add_assoc]

/-- A tag that closes the innermost open one. -/
def closing : List Char := ['[', '/', ']']

theorem pieces_closing (before : List Char) :
    pieces p before (closing ++ rest) = flushed before ++ .tag p ['/'] :: pieces (p + 3) [] rest :=
  pieces_of_tag rfl before

/-- The pieces of `text ++ closing ++ rest` while nothing is open: the tag closes nothing. -/
theorem spans_closing (n p : Nat) (before : List Char) (ps : List Piece) :
    spans n [] ((flushed before ++ .tag p ['/'] :: ps).map Piece.shown) =
      .error (.nothingToClose p) := by
  rw [flushed]
  split <;> rfl

/-- The colours of the words that lines begin with. -/
def leadColors : List String := ["red", "green"]

namespace Style

theorem exists_isColor (hc : c ∈ leadColors) : ∃ b, isColor c = .ok b := by
  -- Whether a name is in the table of colours does not matter.
  by_cases h : (c = "default" || colorNames.contains c) = true
  · exact ⟨true, if_pos h⟩
  · refine ⟨false, (if_neg h).trans ?_⟩
    rcases List.mem_cons.mp hc with rfl | hc
    · rfl
    · rw [List.mem_singleton.mp hc]
      rfl

theorem lowered_lead : ∀ c ∈ leadColors, lowered c = c := by decide +kernel

theorem ofWords_lead (hc : c ∈ leadColors) (s : Style) :
    ofWords s [c] = .ok { s with color := some c } ∨ ofWords s [c] = .error .unknown := by
  have hkeyword : ∀ c ∈ leadColors, ¬ c = "on" ∧ ¬ c = "not" ∧ ¬ c = "link" := by decide
  have hattribute : ∀ c ∈ leadColors, attribute? c = none := by decide +kernel
  obtain ⟨hon, hnot, hlink⟩ := hkeyword c hc
  rw [ofWords, lowered_lead c hc, if_neg hon, if_neg hnot, if_neg hlink, hattribute c hc, colorOf,
    lowered_lead c hc]
  obtain ⟨b, hb⟩ := exists_isColor hc
  cases b
  · exact .inr (by rw [hb]; rfl)
  · exact .inl (by rw [hb]; rfl)

theorem ofWords_attribute {a : String} (ha : a ∈ ["bold", "dim"]) (words : List String) :
    ofWords plain (a :: words) = ofWords ⟨[(a, true)], none, none, none⟩ words := by
  have hlowered : ∀ a ∈ ["bold", "dim"], lowered a = a := by decide +kernel
  have hkeyword : ∀ a ∈ ["bold", "dim"], ¬ a = "on" ∧ ¬ a = "not" ∧ ¬ a = "link" := by decide
  have hattribute : ∀ a ∈ ["bold", "dim"], attribute? a = some a := by decide +kernel
  obtain ⟨hon, hnot, hlink⟩ := hkeyword a ha
  cases words with
  | nil =>
    rw [ofWords.eq_2, hlowered a ha, if_neg hon, if_neg hnot, if_neg hlink, hattribute a ha]
    rfl
  | cons word words =>
    rw [ofWords.eq_3, hlowered a ha, if_neg hon, if_neg hnot, if_neg hlink, hattribute a ha]
    rfl

end Style

/-- The tag of a style while it is open. -/
def leadTag (c : String) : OpenTag := ⟨⟨c, []⟩, 0⟩

/-- The name of a style as a tag can open it: in normal form, and looked up without a fault. -/
structure IsName (c : String) : Prop where
  tag : ∀ rest, tagAt? ('[' :: (c.toList ++ ']' :: rest)) = some (c.toList, rest)
  mark : Text.splitAtMark '=' c.toList = (c.toList, [])
  slash : c.toList.head? ≠ some '/'
  normalize : Style.normalize c.toList = .ok c
  lookUp : Style.lookUp (leadTag c).style = .ok ()

/-- A name of which nothing but the colour could keep it from being one. -/
theorem isName_of_words {words : List String} {s : Style}
    (tag : ∀ rest, tagAt? ('[' :: (c.toList ++ ']' :: rest)) = some (c.toList, rest))
    (mark : Text.splitAtMark '=' c.toList = (c.toList, [])) (slash : c.toList.head? ≠ some '/')
    (hname : ∀ name ∈ [c.toList, (leadTag c).style],
      ¬ Text.trimmed name = "none".toList ∧ Text.words name = words)
    (htext : s.text = c) (hunknown : String.ofList (Text.lowered (Text.trimmed c.toList)) = c)
    (hwords : Style.ofWords .plain words = .ok s ∨ Style.ofWords .plain words = .error .unknown) :
    IsName c := by
  obtain ⟨⟨hnone, hc⟩, ⟨hnone', hstyle⟩, -⟩ := by simpa only [List.forall_mem_cons] using hname
  refine ⟨tag, mark, slash, ?_, ?_⟩
  · rw [Style.normalize, Style.ofName, if_neg hnone, hc]
    rcases hwords with h | h
    · rw [h]
      exact congrArg Except.ok htext
    · rw [h]
      exact congrArg Except.ok hunknown
  · rw [Style.lookUp, Style.ofName, if_neg hnone', hstyle]
    rcases hwords with h | h <;> rw [h]

theorem isName_lead (hc : c ∈ leadColors) : IsName c := by
  have hmark : ∀ c ∈ leadColors, Text.splitAtMark '=' c.toList = (c.toList, []) := by
    decide +kernel
  have hslash : ∀ c ∈ leadColors, c.toList.head? ≠ some '/' := by decide +kernel
  have hname : ∀ c ∈ leadColors, ∀ name ∈ [c.toList, (leadTag c).style],
      ¬ Text.trimmed name = "none".toList ∧ Text.words name = [c] := by decide +kernel
  have htext : ∀ c ∈ leadColors, Style.text ⟨[], some c, none, none⟩ = c := by decide +kernel
  have hunknown : ∀ c ∈ leadColors, String.ofList (Text.lowered (Text.trimmed c.toList)) = c := by
    decide +kernel
  refine isName_of_words (fun rest => ?_) (hmark c hc) (hslash c hc) (hname c hc) (htext c hc)
    (hunknown c hc) (Style.ofWords_lead hc .plain)
  rcases List.mem_cons.mp hc with rfl | hc
  · rfl
  · rw [List.mem_singleton.mp hc]
    rfl

/-- The same colours in bold. -/
theorem isName_bold (hc : c ∈ leadColors) : IsName ("bold " ++ c) := by
  have hmark : ∀ c ∈ leadColors, Text.splitAtMark '=' ("bold " ++ c).toList =
      (("bold " ++ c).toList, []) := by
    decide +kernel
  have hslash : ∀ c ∈ leadColors, ("bold " ++ c).toList.head? ≠ some '/' := by decide +kernel
  have hname : ∀ c ∈ leadColors, ∀ name ∈ [("bold " ++ c).toList, (leadTag ("bold " ++ c)).style],
      ¬ Text.trimmed name = "none".toList ∧ Text.words name = ["bold", c] := by decide +kernel
  have htext : ∀ c ∈ leadColors,
      Style.text ⟨[("bold", true)], some c, none, none⟩ = "bold " ++ c := by
    decide +kernel
  have hunknown : ∀ c ∈ leadColors,
      String.ofList (Text.lowered (Text.trimmed ("bold " ++ c).toList)) = "bold " ++ c := by
    decide +kernel
  refine isName_of_words (fun rest => ?_) (hmark c hc) (hslash c hc) (hname c hc) (htext c hc)
    (hunknown c hc) ?_
  · rcases List.mem_cons.mp hc with rfl | hc
    · rfl
    · rw [List.mem_singleton.mp hc]
      rfl
  · rw [Style.ofWords_attribute (by decide)]
    exact Style.ofWords_lead hc _

theorem isName_dim : IsName "dim" := by
  have hwords : Style.ofWords .plain ["dim"] = .ok ⟨[("dim", true)], none, none, none⟩ :=
    Style.ofWords_attribute (by decide) []
  exact isName_of_words (fun _ => rfl) (by decide +kernel) (by decide +kernel) (by decide +kernel)
    (by decide +kernel) (by decide +kernel) (.inl hwords)

/-- A line with a word in a colour before the text. -/
def lead (c : String) (label text : List Char) : List Char :=
  '[' :: c.toList ++ ']' :: label ++ closing ++ text

theorem afterTag_lead (hc : IsName c) :
    afterTag 0 0 c.toList [] = .ok (none, [leadTag c]) := by
  rw [afterTag, hc.mark]
  dsimp only
  split
  · next heq =>
    refine (hc.slash ?_).elim
    rw [heq, List.head?_cons]
  · rw [hc.normalize]
    rfl

/-- Where the text begins in such a line. -/
def textStart (c : String) (label : List Char) : Nat := c.toList.length + 2 + label.length + 3

theorem pieces_lead (hc : IsName c) (hlabel : IsPlain label) (text : List Char) :
    pieces 0 [] (lead c label text) =
      .tag 0 c.toList :: (flushed label.reverse ++
        .tag (c.toList.length + 2 + label.length) ['/'] ::
          pieces (textStart c label) [] text) := by
  have htag := hc.tag (label ++ (closing ++ text))
  have hline : lead c label text =
      '[' :: (c.toList ++ ']' :: (label ++ (closing ++ text))) := by simp [lead]
  rw [hline, pieces_of_tag htag, pieces_append hlabel, pieces_closing, List.append_nil,
    Nat.zero_add]
  rfl

theorem afterTag_closing (n p : Nat) (c : String) :
    afterTag n p ['/'] [leadTag c] = .ok (some (leadTag c), []) := by
  have hclosed : (leadTag c).closed = .ok () := if_pos (by simp [leadTag])
  change ((leadTag c).closed >>= fun _ => pure (some (leadTag c), [])) = _
  rw [hclosed]
  rfl

/-- After the word nothing is open. -/
theorem exists_spans_lead (hc : IsName c) (hlabel : IsPlain label) :
    ∃ n, ∀ text, spans 0 [] ((pieces 0 [] (lead c label text)).map Piece.shown) =
      (spans n [] ((pieces (textStart c label) [] text).map Piece.shown)).map
        ((leadTag c).span n :: ·) := by
  have hopen (ps : List Piece) : spans 0 [] (.tag 0 c.toList :: ps) = spans 0 [leadTag c] ps := by
    rw [spans, afterTag_lead hc]
    change (spans 0 [leadTag c] ps >>= fun rest => pure ([] ++ rest)) = _
    cases spans 0 [leadTag c] ps <;> rfl
  have hclose (n p : Nat) (ps : List Piece) : spans n [leadTag c] (.tag p ['/'] :: ps) =
      (spans n [] ps).map ((leadTag c).span n :: ·) := by
    rw [spans, afterTag_closing]
    change (spans n [] ps >>= fun rest => pure ([(leadTag c).span n] ++ rest)) = _
    cases spans n [] ps <;> rfl
  have hword : ∃ n, ∀ ps, spans 0 [leadTag c] ((flushed label.reverse).map Piece.shown ++ ps) =
      spans n [leadTag c] ps := by
    rw [flushed]
    split
    · exact ⟨0, fun _ => rfl⟩
    · exact ⟨_, fun _ => rfl⟩
  obtain ⟨n, hword⟩ := hword
  refine ⟨n, fun text => ?_⟩
  rw [pieces_lead hc hlabel, List.map_cons, List.map_append, List.map_cons]
  exact (hopen _).trans ((hword _).trans (hclose n _ _))

theorem lookUp_singleton {t : OpenTag} (h : Style.lookUp t.style = .ok ()) (n : Nat) :
    lookUp text [t.span n] = .ok () := by
  rw [lookUp, List.reverse_singleton, List.mergeSort_singleton]
  change (if (t.span n).isLookedUp text then Style.lookUp t.style else .ok ()) >>= pure = _
  rw [h, ite_self]
  rfl

theorem printed_of_spans_error {line : String} {f : MarkupFault}
    (h : spans 0 [] ((pieces 0 [] line.toList).map Piece.shown) = .error f) :
    printed line = .error f := by
  rw [printed, shown]
  dsimp only
  rw [h]
  rfl

theorem shows_of_spans {line : String} {asked : List Span}
    (h : spans 0 [] ((pieces 0 [] line.toList).map Piece.shown) = .ok asked)
    (hasked : ∀ text, lookUp text asked = .ok ()) : Shows line := by
  rw [Shows, printed, shown]
  dsimp only
  rw [h]
  change ∃ out, Except.map _ (ofNumber (lookUp _ asked) >>= fun _ => _) = Except.ok out
  rw [hasked]
  exact ⟨_, rfl⟩

/-- Text without brackets can be shown after a word in any style. -/
theorem shows_of_isName (hc : IsName c) (hlabel : IsPlain label) (htext : ¬ '[' ∈ text) :
    Shows (String.ofList (lead c label text)) := by
  obtain ⟨n, hspans⟩ := exists_spans_lead hc hlabel
  have hrest (q : Nat) : spans n [] ((pieces q [] text).map Piece.shown) = .ok [] := by
    rw [pieces_of_not_mem htext, flushed]
    split <;> rfl
  have hasked : spans 0 [] ((pieces 0 [] (lead c label text)).map Piece.shown) =
      .ok [(leadTag c).span n] := by
    rw [hspans text, hrest]
    rfl
  rw [← String.toList_ofList (l := lead c label text)] at hasked
  exact shows_of_spans hasked fun text => lookUp_singleton hc.lookUp n

theorem shows_lead (hc : c ∈ leadColors) (hlabel : IsPlain label) (htext : ¬ '[' ∈ text) :
    Shows (String.ofList (lead c label text)) :=
  shows_of_isName (isName_lead hc) hlabel htext

/-- Text in which the first tag closes nothing cannot. -/
theorem not_shows_lead (hc : c ∈ leadColors) (hlabel : IsPlain label) (hbefore : IsPlain before)
    (rest : List Char) : ¬ Shows (String.ofList (lead c label (before ++ (closing ++ rest)))) := by
  obtain ⟨n, hspans⟩ := exists_spans_lead (isName_lead hc) hlabel
  rintro ⟨out, hout⟩
  rw [printed_of_spans_error (by
    rw [String.toList_ofList, hspans, pieces_append hbefore, pieces_closing, spans_closing]
    rfl)] at hout
  cases hout

end Revocation.Console
