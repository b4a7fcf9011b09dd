set_option autoImplicit false

/-! # Blank characters and trimming

A character is *blank* when it has the Unicode property `White_Space`: twenty-five characters, with
the no-break spaces and the line and paragraph separators among them, and without the zero-width
ones. `trim` takes the blanks from both ends of a text. The lemmas say that it splits a text into a
blank head, the trimmed part and a blank tail, that the trimmed part neither begins nor ends with a
blank, and that padding a text with blanks does not change its trimmed part. -/

namespace DeferredMetrics

/-- The characters with the property `White_Space`. -/
def blankChars : List Char :=
  ['\t', '\n', '\x0b', '\x0c', '\r', ' ', '\u0085', '\u00a0', '\u1680',
    '\u2000', '\u2001', '\u2002', '\u2003', '\u2004', '\u2005', '\u2006', '\u2007', '\u2008',
    '\u2009', '\u200a', '\u2028', '\u2029', '\u202f', '\u205f', '\u3000']

/-- The character is blank. -/
def isBlank (c : Char) : Bool := blankChars.contains c

/-- The rest of a list after the longest leading part that satisfies `p`, from the right end too. -/
def stripEnds {α : Type} (p : α → Bool) (l : List α) : List α :=
  ((l.dropWhile p).reverse.dropWhile p).reverse

section StripEnds

variable {α : Type} {p : α → Bool}

theorem stripEnds_of_all {l : List α} (h : l.all p = true) : stripEnds p l = [] := by
  have h' : l.dropWhile p = [] := by
    induction l with
    | nil => rfl
    | cons a l ih =>
        simp only [List.all_cons, Bool.and_eq_true] at h
        rw [List.dropWhile_cons_of_pos h.1]
        exact ih h.2
  rw [stripEnds, h']
  rfl

theorem dropWhile_append_of_all {l r : List α} (h : l.all p = true) :
    (l ++ r).dropWhile p = r.dropWhile p := by
  induction l with
  | nil => rfl
  | cons a l ih =>
      simp only [List.all_cons, Bool.and_eq_true] at h
      rw [List.cons_append, List.dropWhile_cons_of_pos h.1]
      exact ih h.2

theorem dropWhile_append_of_exists {l r : List α} (h : l.all p = false) :
    (l ++ r).dropWhile p = l.dropWhile p ++ r := by
  induction l with
  | nil => simp at h
  | cons a l ih =>
      by_cases ha : p a = true
      · rw [List.cons_append, List.dropWhile_cons_of_pos ha, List.dropWhile_cons_of_pos ha]
        apply ih
        simpa [ha] using h
      · rw [List.cons_append, List.dropWhile_cons_of_neg ha, List.dropWhile_cons_of_neg ha,
          List.cons_append]

/-- Elements that satisfy `p` before a list do not change what is left of it. -/
theorem stripEnds_append_left {l r : List α} (h : l.all p = true) :
    stripEnds p (l ++ r) = stripEnds p r := by
  rw [stripEnds, dropWhile_append_of_all h, stripEnds]

/-- Elements that satisfy `p` after a list do not change what is left of it. -/
theorem stripEnds_append_right {l r : List α} (h : r.all p = true) :
    stripEnds p (l ++ r) = stripEnds p l := by
  by_cases hl : l.all p = true
  · have hlr : (l ++ r).all p = true := by simp only [List.all_append, hl, h, Bool.and_self]
    rw [stripEnds_of_all hlr, stripEnds_of_all hl]
  · have hl' : l.all p = false := by simpa using hl
    rw [stripEnds, dropWhile_append_of_exists hl', List.reverse_append,
      dropWhile_append_of_all (by rwa [List.all_reverse]), stripEnds]

theorem exists_dropWhile (l : List α) :
    ∃ before, before.all p = true ∧ l = before ++ l.dropWhile p := by
  refine ⟨l.takeWhile p, ?_, (List.takeWhile_append_dropWhile).symm⟩
  exact List.all_takeWhile

/-- What is taken from both ends satisfies `p`. -/
theorem exists_stripEnds (l : List α) :
    ∃ before after, before.all p = true ∧ after.all p = true ∧
      l = before ++ stripEnds p l ++ after := by
  obtain ⟨before, hb, hl⟩ := exists_dropWhile (p := p) l
  obtain ⟨after, ha, hr⟩ := exists_dropWhile (p := p) (l.dropWhile p).reverse
  refine ⟨before, after.reverse, hb, by rwa [List.all_reverse], ?_⟩
  have hd : l.dropWhile p = stripEnds p l ++ after.reverse := by
    have := congrArg List.reverse hr
    rwa [List.reverse_reverse, List.reverse_append] at this
  rw [List.append_assoc, ← hd]
  exact hl

theorem stripEnds_eq_nil_iff (l : List α) : stripEnds p l = [] ↔ l.all p = true := by
  constructor
  · intro h
    obtain ⟨before, after, hb, ha, hl⟩ := exists_stripEnds (p := p) l
    rw [hl, h]
    simp only [List.all_append, List.append_nil, hb, ha, Bool.and_self]
  · exact stripEnds_of_all

end StripEnds

/-- The text without the blanks at its ends. -/
def trim (s : String) : String := String.ofList (stripEnds isBlank s.toList)

/-- The text has no character but blanks. -/
def isBlankText (s : String) : Bool := s.toList.all isBlank

theorem toList_trim (s : String) : (trim s).toList = stripEnds isBlank s.toList := by
  simp [trim]

/-- Blanks around a text do not change its trimmed part. -/
theorem trim_pad (before s after : String) (hb : isBlankText before = true)
    (ha : isBlankText after = true) : trim (before ++ s ++ after) = trim s := by
  simp only [trim, String.toList_append]
  rw [stripEnds_append_right ha, stripEnds_append_left hb]

/-- A text trims to nothing exactly if it is blank. -/
theorem trim_eq_empty_iff (s : String) : trim s = "" ↔ isBlankText s = true := by
  rw [← String.toList_inj, toList_trim, isBlankText]
  exact stripEnds_eq_nil_iff s.toList

end DeferredMetrics
