import Reflection.Code.Lexer
import Reflection.Proofs.Canonical
/-!
# Identifiers

An identifier is a name of code, raw or not (`of_isIdentifier`). It is made of the characters of names and
the mark of raw names (`chars_of_isIdentifier`), and it is a name that a path can be read as
(`plainName_of_isIdentifier`).
-/

namespace Reflection.Code

/-- Whether text is one name, raw or not. -/
def IsIdentifier (text : String) : Prop := splitAnyName? text.toList = some (text, [])

instance (text : String) : Decidable (IsIdentifier text) := inferInstanceAs (Decidable (_ = _))

/-- Identifiers joined by `::`. -/
def IsItemPath (text : String) : Prop :=
  ∃ parts : List String, parts ≠ [] ∧ (∀ p ∈ parts, IsIdentifier p) ∧ text = "::".intercalate parts

theorem inRanges_eq_false {table : List (Nat × Nat)} {c : Char} (h : ∀ r ∈ table, c.toNat < r.1 ∨ r.2 < c.toNat) :
    Text.inRanges table c = false := by
  rw [Text.inRanges, List.any_eq_false]
  intro r hr
  have hr := h r hr
  simp only [Bool.and_eq_true, decide_eq_true_eq]
  omega

/-- A character of ASCII that is no letter, digit or underscore. -/
def isMark (c : Char) : Bool := c.toNat < 128 && !Text.inRanges [(48, 57), (65, 90), (95, 95), (97, 122)] c

/-- Of ASCII, names have letters, digits and underscores only. -/
theorem isNameRest_of_isMark {c : Char} (h : isMark c = true) : isNameRest c = false := by
  have htable : ∀ r ∈ Text.identifierStart ++ Text.identifierRest, 128 ≤ r.1 ∨
      ∃ w ∈ [(48, 57), (65, 90), (95, 95), (97, 122)], w.1 ≤ r.1 ∧ r.2 ≤ w.2 := by decide +kernel
  rw [isMark, Bool.and_eq_true, decide_eq_true_eq, Bool.not_eq_true', Text.inRanges, List.any_eq_false] at h
  obtain ⟨hascii, hword⟩ := h
  have hout : ∀ r ∈ Text.identifierStart ++ Text.identifierRest, c.toNat < r.1 ∨ r.2 < c.toNat := by
    intro r hr
    obtain hr | ⟨w, hw, hr⟩ := htable r hr
    · omega
    · have hc := hword w hw
      simp only [Bool.and_eq_true, decide_eq_true_eq] at hc
      omega
  obtain ⟨hstart, hrest⟩ := List.forall_mem_append.1 hout
  have hline : c ≠ '_' := by
    rintro rfl
    exact absurd (hword (95, 95) (by decide)) (by decide)
  rw [isNameRest, isNameStart, inRanges_eq_false hstart, inRanges_eq_false hrest, beq_eq_false_iff_ne.2 hline]
  rfl

/-- No identifier goes on with a separator. -/
theorem not_separator_of_isNameRest {c : Char} (h : isNameRest c = true) : isSeparator c = false := by
  cases hc : isSeparator c with
  | false => rfl
  | true =>
    simp only [isSeparator, Bool.or_eq_true, beq_iff_eq] at hc
    have hmark : isMark c = true := by rcases hc with (rfl | rfl) | rfl <;> decide
    rw [isNameRest_of_isMark hmark] at h
    cases h

/-- No identifier starts with a digit. -/
theorem not_isDigit_of_isNameStart {c : Char} (h : isNameStart c = true) : c.isDigit = false := by
  have htable : ∀ r ∈ Text.identifierStart, 57 < r.1 ∨ r.2 < 48 := by decide +kernel
  cases hc : c.isDigit with
  | false => rfl
  | true =>
    have hdigit : 48 ≤ c.toNat ∧ c.toNat ≤ 57 := by
      simpa [Char.isDigit, UInt32.le_iff_toNat_le] using hc
    have hrange : Text.inRanges Text.identifierStart c = false := by
      refine inRanges_eq_false fun r hr => ?_
      have hr := htable r hr
      omega
    rw [isNameStart, hrange, Bool.or_false, beq_iff_eq] at h
    subst h
    cases hc

/-- The name that text starts with is made of the characters of names. -/
theorem head_of_splitName {cs name later : List Char} (h : splitName cs = (name, later)) (hne : name ≠ []) :
    ∃ c rest, name = c :: rest ∧ isNameStart c = true ∧ ∀ c' ∈ c :: rest, isNameRest c' = true := by
  unfold splitName at h
  split at h
  · rename_i hstart
    cases h
    cases cs with
    | nil => cases hstart
    | cons c cs =>
      have hc : isNameStart c = true := hstart
      have hrest : isNameRest c = true := by rw [isNameRest, hc, Bool.true_or]
      have hname : (c :: cs).takeWhile isNameRest = c :: cs.takeWhile isNameRest := List.takeWhile_cons_of_pos hrest
      refine ⟨c, _, hname, hc, fun c' hc' => ?_⟩
      rw [← hname] at hc'
      exact List.mem_takeWhile_imp hc'
  · cases h
    exact absurd rfl hne

/-- An identifier is a name, behind its mark if it is raw. -/
theorem of_isIdentifier {text : String} (h : IsIdentifier text) :
    ∃ mark c cs, text.toList = mark ++ c :: cs ∧ (mark = [] ∨ mark = ['r', '#']) ∧ isNameStart c = true ∧
      ∀ c' ∈ c :: cs, isNameRest c' = true := by
  unfold IsIdentifier splitAnyName? at h
  split at h
  · rename_i rest hraw
    rcases hsplit : splitName rest with ⟨name, later⟩
    simp only [hsplit] at h
    split at h
    · cases h
    · rename_i hname
      cases h
      have hne : name ≠ [] := by
        rintro rfl
        simp at hname
      obtain ⟨c, cs, rfl, hstart, hrest⟩ := head_of_splitName hsplit hne
      exact ⟨['r', '#'], c, cs, by simp, .inr rfl, hstart, hrest⟩
  · rcases hsplit : splitName text.toList with ⟨name, later⟩
    simp only [hsplit] at h
    split at h
    · cases h
    · rename_i hname
      have hne : name ≠ [] := by
        rintro rfl
        simp at hname
      obtain ⟨c, cs, rfl, hstart, hrest⟩ := head_of_splitName hsplit hne
      obtain rfl : String.ofList (c :: cs) = text := congrArg Prod.fst (Option.some.inj h)
      exact ⟨[], c, cs, String.toList_ofList, .inl rfl, hstart, hrest⟩

theorem chars_of_isIdentifier {text : String} (h : IsIdentifier text) :
    ∀ c ∈ text.toList, (isNameRest c || c == '#') = true := by
  obtain ⟨mark, c, cs, htext, hmark, -, hrest⟩ := of_isIdentifier h
  intro c' hc'
  rw [Bool.or_eq_true, beq_iff_eq]
  rw [htext, List.mem_append] at hc'
  rcases hc' with hc' | hc'
  · rcases hmark with rfl | rfl
    · cases hc'
    · have hr : isNameRest 'r' = true := by decide +kernel
      simp only [List.mem_cons, List.not_mem_nil, or_false] at hc'
      rcases hc' with rfl | rfl
      · exact .inl hr
      · exact .inr rfl
  · exact .inl (hrest c' hc')

theorem plainName_of_isIdentifier {text : String} (h : IsIdentifier text) : PlainName text := by
  have hchars := chars_of_isIdentifier h
  obtain ⟨mark, c, cs, htext, -, hstart, -⟩ := of_isIdentifier h
  refine ⟨?_, ?_, c, ?_, not_isDigit_of_isNameStart hstart⟩
  · rintro rfl
    simp at htext
  · intro c' hc'
    have hclass := hchars c' hc'
    rw [Bool.or_eq_true, beq_iff_eq] at hclass
    rcases hclass with hname | rfl
    · exact not_separator_of_isNameRest hname
    · rfl
  · rw [htext]
    simp

end Reflection.Code
