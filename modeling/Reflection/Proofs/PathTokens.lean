import Mathlib.Data.List.Basic
import Reflection.Code.ItemPath
import Reflection.Proofs.Identifiers
/-!
# Tokens of paths

Text of identifiers behind double colons is just those tokens, keywords among them (`lex?_pathChars`): no part of
it is a literal, a comment or layout, and an identifier ends where a colon follows.
-/

namespace Reflection.Code

/-! ## Names in text -/

/-- Text that begins with characters of a class is cut where they end. -/
theorem span_append {p : Char → Bool} {cs rest : List Char} (hcs : ∀ c ∈ cs, p c = true)
    (hrest : ∀ c ∈ rest.head?, p c = false) :
    (cs ++ rest).takeWhile p = cs ∧ (cs ++ rest).dropWhile p = rest := by
  rw [List.takeWhile_append_of_pos hcs, List.dropWhile_append_of_pos hcs]
  cases rest with
  | nil => simp
  | cons c rest =>
    have hc : p c = false := hrest c rfl
    simp [hc]

theorem ne_of_isNameRest {c d : Char} (hc : isNameRest c = true) (hd : isNameRest d = false) : c ≠ d := by
  rintro rfl
  rw [hc] at hd
  cases hd

theorem isNameRest_of_isNameStart {c : Char} (h : isNameStart c = true) : isNameRest c = true := by
  rw [isNameRest, h, Bool.true_or]

/-- What may follow a name: nothing, or a colon. -/
def EndsName (rest : List Char) : Prop := ∀ c ∈ rest.head?, c = ':'

theorem EndsName.not_isNameRest {rest : List Char} (h : EndsName rest) : ∀ c ∈ rest.head?, isNameRest c = false := by
  intro c hc
  rw [h c hc]
  exact isNameRest_of_isMark (by decide)

/-! ## No literal -/

section Literal
variable {c : Char} {cs : List Char}

theorem textEnd?_eq_none (hquote : '"' ∉ cs) (form : QuotedForm) : textEnd? form cs = none := by
  unfold textEnd?
  simp only [Option.bind_eq_none_iff, List.isPrefixOf?_eq_some_iff_append_eq]
  rintro rest rfl
  split
  · simp at hquote
  · rename_i rest
    split
    · rename_i later hlater
      have hmem : '"' ∈ rest := List.mem_of_mem_drop (hlater ▸ List.mem_cons_self)
      simp [hmem] at hquote
    · rfl
  · rfl

theorem isPrefixOf?_eq_none {mark : List Char} (h : c ∈ mark) (hcs : c ∉ cs) : mark.isPrefixOf? cs = none := by
  refine Option.eq_none_iff_forall_ne_some.2 fun rest hrest => hcs ?_
  rw [← List.isPrefixOf?_eq_some_iff_append_eq.1 hrest]
  exact List.mem_append_left _ h

/-- What begins with no digit begins with no number. -/
theorem wholeEnd?_eq_none (hdigit : c.isDigit = false) : wholeEnd? (c :: cs) = none := by
  have hbase : splitBase (c :: cs) = (10, c :: cs) := by
    unfold splitBase
    split
    · simp_all
    · simp_all
    · simp_all
    · rfl
  simp only [wholeEnd?, hbase]
  by_cases hgap : c = '_'
  · simp [hgap]
  · have hvalue : (hexValue? c).any (· < 10) = false := by
      have hdecimal : ('0' ≤ c && c ≤ '9') = false := hdigit
      unfold hexValue?
      rw [hdecimal, if_neg Bool.false_ne_true]
      split
      · simp
      · split <;> simp
    simp [hdigit, hgap, hvalue]

/-- Text without quotes that begins with no digit begins with no literal. -/
theorem literalEnd?_eq_none (hdigit : c.isDigit = false) (hquote : '"' ∉ c :: cs) (hsingle : '\'' ∉ c :: cs) :
    literalEnd? (c :: cs) = none := by
  have hquoted : QuotedForm.all.findSome? (textEnd? · (c :: cs)) = none :=
    List.findSome?_eq_none_iff.2 fun form _ => textEnd?_eq_none hquote form
  have hbyte : ['b', '\''].isPrefixOf? (c :: cs) = none := isPrefixOf?_eq_none (by simp) hsingle
  have hchar : ['\''].isPrefixOf? (c :: cs) = none := isPrefixOf?_eq_none (by simp) hsingle
  have hfraction : fractionalEnd? (c :: cs) = none := by
    simp [fractionalEnd?, hdigit]
  simp only [literalEnd?, hquoted, hbyte, hchar, hfraction, wholeEnd?_eq_none hdigit]
  rfl

end Literal

/-! ## Names -/

/-- Text that a path can be made of: it has no quotes, and the first character is that of a name or a colon. -/
theorem leaf?_eq {c : Char} {cs : List Char} (hdigit : c.isDigit = false) (hparen : c ≠ '(') (hquote : '"' ∉ c :: cs)
    (hsingle : '\'' ∉ c :: cs) : leaf? (c :: cs) = (punctuationToken? (c :: cs)).or (nameToken? (c :: cs)) := by
  have hfailure : failureToken? (c :: cs) = none := by
    have hnone : failureMark.toList.isPrefixOf? (c :: cs) = none := by
      refine Option.eq_none_iff_forall_ne_some.2 fun rest hrest => hparen ?_
      have heq := List.isPrefixOf?_eq_some_iff_append_eq.1 hrest
      exact (List.cons.inj heq).1.symm
    rw [failureToken?, hnone]
    rfl
  have hliteral : literalToken? (c :: cs) = none := by
    rw [literalToken?, literalEnd?_eq_none hdigit hquote hsingle]
    rfl
  rw [leaf?, hfailure, hliteral]
  cases punctuationToken? (c :: cs) <;> rfl

/-- Text that is one name to its end. -/
theorem of_splitName_whole {cs name : List Char} (h : splitName cs = (name, [])) (hne : name ≠ []) :
    cs = name ∧ name.head?.any isNameStart = true ∧ ∀ c ∈ name, isNameRest c = true := by
  obtain ⟨c, cs', rfl, hstart, hname⟩ := head_of_splitName h hne
  refine ⟨?_, hstart, hname⟩
  unfold splitName at h
  split at h
  · have hjoin : cs.takeWhile isNameRest ++ cs.dropWhile isNameRest = cs := List.takeWhile_append_dropWhile
    obtain ⟨htake, hdrop⟩ := Prod.mk.inj h
    rw [htake, hdrop, List.append_nil] at hjoin
    exact hjoin.symm
  · cases h

/-- A name is the same with what may follow it. -/
theorem splitName_append {cs name rest : List Char} (h : splitName cs = (name, [])) (hne : name ≠ [])
    (hrest : EndsName rest) : splitName (cs ++ rest) = (name, rest) := by
  obtain ⟨rfl, hstart, hname⟩ := of_splitName_whole h hne
  obtain ⟨htake, hdrop⟩ := span_append hname hrest.not_isNameRest
  have hhead : (cs ++ rest).head?.any isNameStart = true := by
    rwa [List.head?_append_of_ne_nil _ hne]
  rw [splitName, if_pos hhead, htake, hdrop]

/-- A name without a mark is not raw either with what may follow it. -/
theorem rawMark_append {cs rest : List Char} (hne : cs ≠ []) (hcs : '#' ∉ cs) (hrest : EndsName rest) :
    rawMark.isPrefixOf? (cs ++ rest) = none := by
  refine Option.eq_none_iff_forall_ne_some.2 fun later hlater => ?_
  rw [List.isPrefixOf?_eq_some_iff_append_eq] at hlater
  match cs, hne with
  | [c], _ =>
    obtain rfl : '#' :: later = rest := (List.cons.inj hlater).2
    exact absurd (hrest '#' rfl) (by decide)
  | c :: d :: cs, _ =>
    obtain rfl : '#' = d := (List.cons.inj (List.cons.inj hlater).2).1
    simp at hcs

theorem splitAnyName?_append {text : String} {rest : List Char} (h : IsIdentifier text) (hrest : EndsName rest) :
    splitAnyName? (text.toList ++ rest) = some (text, rest) := by
  unfold IsIdentifier splitAnyName? at h
  unfold splitAnyName?
  split at h
  · rename_i cs hraw
    have hraw' : rawMark.isPrefixOf? (text.toList ++ rest) = some (cs ++ rest) := by
      rw [List.isPrefixOf?_eq_some_iff_append_eq] at hraw ⊢
      rw [← hraw, List.append_assoc]
    rcases hsplit : splitName cs with ⟨name, later⟩
    simp only [hsplit] at h
    split at h
    · cases h
    · rename_i hname
      obtain ⟨htext, rfl⟩ : _ = text ∧ later = [] := by simpa using h
      have hne : name ≠ [] := by
        rintro rfl
        simp at hname
      simp only [hraw', splitName_append hsplit hne hrest, if_neg hname, htext]
  · rcases hsplit : splitName text.toList with ⟨name, later⟩
    simp only [hsplit] at h
    split at h
    · cases h
    · rename_i hname
      obtain ⟨htext, rfl⟩ : _ = text ∧ later = [] := by simpa using h
      have hne : name ≠ [] := by
        rintro rfl
        simp at hname
      obtain ⟨hwhole, -, hchars⟩ := of_splitName_whole hsplit hne
      have hraw' : rawMark.isPrefixOf? (text.toList ++ rest) = none := by
        rw [hwhole]
        exact rawMark_append hne (fun hmem => ne_of_isNameRest (hchars _ hmem) (isNameRest_of_isMark (by decide)) rfl) hrest
      simp only [hraw', splitName_append hsplit hne hrest, if_neg hname, htext]

theorem inRanges_disjoint {table table' : List (Nat × Nat)}
    (h : ∀ r ∈ table, ∀ r' ∈ table', r.2 < r'.1 ∨ r'.2 < r.1) {c : Char} (hc : Text.inRanges table c = true) :
    Text.inRanges table' c = false := by
  obtain ⟨r, hr, hin⟩ := List.any_eq_true.1 hc
  simp only [Bool.and_eq_true, decide_eq_true_eq] at hin
  refine inRanges_eq_false fun r' hr' => ?_
  have := h r hr r' hr'
  omega

section Start
variable {c : Char} (hc : isNameStart c = true) (cs : List Char)
include hc

theorem isLayout_of_isNameStart : isLayout c = false := by
  unfold isNameStart at hc
  rw [Bool.or_eq_true, beq_iff_eq] at hc
  obtain rfl | hrange := hc
  · decide
  · have hblank : isBlank c = false := inRanges_disjoint (by decide +kernel) hrange
    have hdirection : Text.inRanges [(0x200E, 0x200F)] c = false := inRanges_disjoint (by decide +kernel) hrange
    have hne : ∀ d, Text.inRanges [(0x200E, 0x200F)] d = true → c ≠ d := by
      rintro d hd rfl
      rw [hd] at hdirection
      cases hdirection
    rw [isLayout, hblank, Bool.false_or, beq_eq_false_iff_ne.2 (hne _ (by decide)), beq_eq_false_iff_ne.2 (hne _ (by decide))]
    rfl

theorem isPunctuation_of_isNameStart : isPunctuation c = false := by
  have hmarks : ("~!@#$%^&*-=+|;:,<.>/?'".toList.all isMark) = true := by decide +kernel
  refine Bool.eq_false_iff.2 fun h => ?_
  have hmark : isMark c = true := List.all_eq_true.1 hmarks c (List.contains_iff_mem.1 h)
  exact ne_of_isNameRest (isNameRest_of_isNameStart hc) (isNameRest_of_isMark hmark) rfl

theorem beginsPunctuation_of_isNameStart : beginsPunctuation (c :: cs) = false := by
  rw [beginsPunctuation, List.head?_cons, Option.any_some, isPunctuation_of_isNameStart hc, Bool.and_false]

theorem punctuationToken?_of_isNameStart : punctuationToken? (c :: cs) = none := by
  unfold punctuationToken?
  split
  · rename_i rest heq
    obtain rfl : c = '\'' := (List.cons.inj heq).1
    exact absurd rfl (ne_of_isNameRest (isNameRest_of_isNameStart hc) (isNameRest_of_isMark (by decide)))
  · rename_i heq
    obtain ⟨rfl, rfl⟩ := List.cons.inj heq
    rw [beginsPunctuation_of_isNameStart hc]
    rfl
  · rfl

end Start

/-! ## Tokens of a path -/

theorem docComment?_eq_none {c : Char} (hc : c ≠ '/') (cs : List Char) : docComment? (c :: cs) = none := by
  unfold docComment?
  split <;> simp_all

theorem skipLayout_eq {c : Char} (hc : c ≠ '/') (hlayout : isLayout c = false) (cs : List Char) :
    skipLayout (c :: cs) = c :: cs := by
  unfold skipLayout
  split <;> simp_all

/-- A character of a path: of a name, or one of its marks. -/
def isPathChar (c : Char) : Bool := isNameRest c || c == '#' || c == ':'

theorem isPathChar_colon : isPathChar ':' = true := by simp [isPathChar]

theorem not_isPathChar_quotes : isPathChar '"' = false ∧ isPathChar '\'' = false := by
  have hmark : ∀ c, isMark c = true → c ≠ '#' → c ≠ ':' → isPathChar c = false := by
    intro c hc hsign hcolon
    simp [isPathChar, isNameRest_of_isMark hc, hsign, hcolon]
  exact ⟨hmark _ (by decide) (by decide) (by decide), hmark _ (by decide) (by decide) (by decide)⟩

theorem not_mem_of_isPathChar {cs : List Char} (hcs : ∀ c ∈ cs, isPathChar c = true) {d : Char}
    (hd : isPathChar d = false) : d ∉ cs := by
  intro hmem
  rw [hcs d hmem] at hd
  cases hd

/-- Behind text without number signs, a name ends before one can follow. -/
theorem colon_mem_of_leads {mark cs rest : List Char} (h : mark <+: cs ++ rest) (hmark : '#' ∈ mark) (hcs : '#' ∉ cs)
    (hrest : EndsName rest) : ':' ∈ mark := by
  induction cs generalizing mark with
  | nil =>
    obtain ⟨later, hlater⟩ := h
    cases mark with
    | nil => cases hmark
    | cons c mark =>
      obtain rfl : rest = c :: (mark ++ later) := hlater.symm
      obtain rfl : c = ':' := hrest c rfl
      exact List.mem_cons_self
  | cons c cs ih =>
    cases mark with
    | nil => cases hmark
    | cons d mark =>
      obtain ⟨rfl, hleads⟩ := List.cons_prefix_cons.1 h
      have hne : '#' ≠ d := fun heq => hcs (heq ▸ List.mem_cons_self)
      exact List.mem_cons_of_mem _ (ih hleads ((List.mem_cons.1 hmark).resolve_left hne)
        fun hmem => hcs (List.mem_cons_of_mem _ hmem))

section Identifier
variable {text : String} {rest : List Char} (h : IsIdentifier text) (hrest : EndsName rest)
  (hchars : ∀ c ∈ rest, isPathChar c = true)
include h

theorem head_of_isIdentifier : ∃ c cs, text.toList = c :: cs ∧ isNameStart c = true := by
  obtain ⟨mark, c, cs, htext, rfl | rfl, hstart, -⟩ := of_isIdentifier h
  · exact ⟨c, cs, htext, hstart⟩
  · exact ⟨'r', '#' :: c :: cs, htext, by decide +kernel⟩

theorem isPathChar_of_isIdentifier : ∀ c ∈ text.toList, isPathChar c = true := by
  intro c hc
  rw [isPathChar, chars_of_isIdentifier h c hc, Bool.true_or]

include hrest hchars

theorem not_literalMark : (literalMarks.any fun mark => mark.toList.isPrefixOf (text.toList ++ rest)) = false := by
  have hall : ∀ c ∈ text.toList ++ rest, isPathChar c = true :=
    List.forall_mem_append.2 ⟨isPathChar_of_isIdentifier h, hchars⟩
  have hmarks : ∀ mark ∈ literalMarks, '"' ∈ mark.toList ∨ '\'' ∈ mark.toList ∨
      mark ∈ ["r##", "br#", "cr#"] := by decide
  refine List.any_eq_false.2 fun mark hmark => ?_
  rw [List.isPrefixOf_iff_prefix]
  intro hleads
  obtain hquote | hquote | hsigns := hmarks mark hmark
  · exact not_mem_of_isPathChar hall not_isPathChar_quotes.1 (hleads.subset hquote)
  · exact not_mem_of_isPathChar hall not_isPathChar_quotes.2 (hleads.subset hquote)
  · obtain ⟨raw, c, cs, htext, rfl | rfl, hstart, hname⟩ := of_isIdentifier h
    · have hcs : '#' ∉ text.toList := fun hmem => by
        rw [htext] at hmem
        exact ne_of_isNameRest (hname _ hmem) (isNameRest_of_isMark (by decide)) rfl
      have hno : ∀ mark ∈ ["r##", "br#", "cr#"], '#' ∈ mark.toList ∧ ':' ∉ mark.toList := by decide
      exact (hno mark hsigns).2 (colon_mem_of_leads hleads (hno mark hsigns).1 hcs hrest)
    · rw [htext] at hleads
      simp only [List.mem_cons, List.not_mem_nil, or_false] at hsigns
      rcases hsigns with rfl | rfl | rfl
      · obtain ⟨later, hlater⟩ := hleads
        obtain rfl : '#' = c := (List.cons.inj (List.cons.inj (List.cons.inj hlater).2).2).1
        exact absurd rfl (ne_of_isNameRest (isNameRest_of_isNameStart hstart) (isNameRest_of_isMark (by decide)))
      · obtain ⟨later, hlater⟩ := hleads
        simp at hlater
      · obtain ⟨later, hlater⟩ := hleads
        simp at hlater

/-- An identifier is one token, whatever follows it in a path. -/
theorem next?_identifier : next? (text.toList ++ rest) = some ([.leaf (.ident text)], rest) := by
  have hall : ∀ c ∈ text.toList ++ rest, isPathChar c = true :=
    List.forall_mem_append.2 ⟨isPathChar_of_isIdentifier h, hchars⟩
  have hname : nameToken? (text.toList ++ rest) = some (.ident text, rest) := by
    rw [nameToken?, not_literalMark h hrest hchars, splitAnyName?_append h hrest]
    rfl
  obtain ⟨c, cs, htext, hstart⟩ := head_of_isIdentifier h
  rw [htext, List.cons_append] at hall hname ⊢
  have hmark : ∀ d, isMark d = true → c ≠ d := fun d hd =>
    ne_of_isNameRest (isNameRest_of_isNameStart hstart) (isNameRest_of_isMark hd)
  have hleaf := leaf?_eq (not_isDigit_of_isNameStart hstart) (hmark '(' (by decide))
    (not_mem_of_isPathChar hall not_isPathChar_quotes.1) (not_mem_of_isPathChar hall not_isPathChar_quotes.2)
  rw [punctuationToken?_of_isNameStart hstart, Option.none_or, hname] at hleaf
  simp only [next?, docComment?_eq_none (hmark '/' (by decide)), hleaf]

end Identifier

/-- A colon is one token. -/
theorem next?_colon {cs : List Char} (hchars : ∀ c ∈ cs, isPathChar c = true) :
    next? (':' :: cs) = some ([.leaf (.punct ':' (beginsPunctuation cs))], cs) := by
  have hall : ∀ c ∈ ':' :: cs, isPathChar c = true := List.forall_mem_cons.2 ⟨isPathChar_colon, hchars⟩
  have hbegins : beginsPunctuation (':' :: cs) = true := by
    simp [beginsPunctuation, opensComment, isPunctuation]
  have hleaf := leaf?_eq (by decide) (by decide) (not_mem_of_isPathChar hall not_isPathChar_quotes.1)
    (not_mem_of_isPathChar hall not_isPathChar_quotes.2)
  have hpunctuation : punctuationToken? (':' :: cs) = some (.punct ':' (beginsPunctuation cs), cs) := by
    simp [punctuationToken?, hbegins]
  rw [hpunctuation, Option.some_or] at hleaf
  simp only [next?, docComment?_eq_none (by decide : ':' ≠ '/'), hleaf]

/-! ## Text of a path -/

theorem lexemes?_cons {c : Char} {cs later : List Char} {ls : List Lexeme} (hslash : c ≠ '/') (hlayout : isLayout c = false)
    (hnext : next? (c :: cs) = some (ls, later)) (hshorter : later.length < (c :: cs).length) :
    lexemes? (c :: cs) = (lexemes? later).map (ls ++ ·) := by
  rw [lexemes?, skipLayout_eq hslash hlayout]
  simp only [hnext, if_pos hshorter]

/-- The characters of names behind double colons. -/
def pathChars (parts : List String) : List Char := parts.flatMap fun p => ':' :: ':' :: p.toList

theorem endsName_pathChars (parts : List String) {rest : List Char} (hrest : EndsName rest) :
    EndsName (pathChars parts ++ rest) := by
  cases parts with
  | nil => exact hrest
  | cons p parts =>
    intro c hc
    exact (Option.some.inj hc).symm

theorem isPathChar_pathChars {parts : List String} (hparts : ∀ p ∈ parts, IsIdentifier p) :
    ∀ c ∈ pathChars parts, isPathChar c = true := by
  intro c hc
  obtain ⟨p, hp, hc⟩ := List.mem_flatMap.1 hc
  rw [List.mem_cons, List.mem_cons] at hc
  rcases hc with rfl | rfl | hc
  · exact isPathChar_colon
  · exact isPathChar_colon
  · exact isPathChar_of_isIdentifier (hparts p hp) c hc

/-- Names behind double colons are read as such, with what may follow them. -/
theorem lexemes?_pathChars {parts : List String} (hparts : ∀ p ∈ parts, IsIdentifier p) {rest : List Char}
    (hrest : EndsName rest) (hchars : ∀ c ∈ rest, isPathChar c = true) :
    lexemes? (pathChars parts ++ rest) = (lexemes? rest).map ((absolutePath parts).map .leaf ++ ·) := by
  induction parts with
  | nil => exact (Option.map_id' (x := lexemes? rest)).symm
  | cons p parts ih =>
    obtain ⟨hp, hparts⟩ := List.forall_mem_cons.1 hparts
    have hends := endsName_pathChars parts hrest
    have htail : ∀ c ∈ pathChars parts ++ rest, isPathChar c = true :=
      List.forall_mem_append.2 ⟨isPathChar_pathChars hparts, hchars⟩
    have hname := next?_identifier hp hends htail
    have hall : ∀ c ∈ p.toList ++ (pathChars parts ++ rest), isPathChar c = true :=
      List.forall_mem_append.2 ⟨isPathChar_of_isIdentifier hp, htail⟩
    obtain ⟨c, cs, htext, hstart⟩ := head_of_isIdentifier hp
    have hcolons : pathChars (p :: parts) ++ rest = ':' :: ':' :: (p.toList ++ (pathChars parts ++ rest)) := by
      simp [pathChars]
    have hsecond : beginsPunctuation (p.toList ++ (pathChars parts ++ rest)) = false := by
      rw [htext]
      exact beginsPunctuation_of_isNameStart hstart _
    have hfirst : beginsPunctuation (':' :: (p.toList ++ (pathChars parts ++ rest))) = true := by
      simp [beginsPunctuation, opensComment, isPunctuation]
    have hlayout : isLayout ':' = false := by decide
    have hslash : isNameRest '/' = false := isNameRest_of_isMark (by decide)
    have hshorter (c : Char) (cs : List Char) :
        (pathChars parts ++ rest).length < (c :: (cs ++ (pathChars parts ++ rest))).length := by
      simp only [List.length_cons, List.length_append]
      omega
    calc lexemes? (pathChars (p :: parts) ++ rest)
        = (lexemes? (p.toList ++ (pathChars parts ++ rest))).map
            (([.punct ':' true, .punct ':' false] : List Token).map .leaf ++ ·) := by
          rw [hcolons, lexemes?_cons (by decide) hlayout (next?_colon (List.forall_mem_cons.2 ⟨isPathChar_colon, hall⟩))
            (by simp), hfirst, lexemes?_cons (by decide) hlayout (next?_colon hall) (by simp), hsecond, Option.map_map]
          rfl
      _ = ((lexemes? rest).map ((absolutePath parts).map .leaf ++ ·)).map
            (([.punct ':' true, .punct ':' false, .ident p] : List Token).map .leaf ++ ·) := by
          rw [htext, List.cons_append] at hname ⊢
          rw [lexemes?_cons (ne_of_isNameRest (isNameRest_of_isNameStart hstart) hslash)
            (isLayout_of_isNameStart hstart) hname (hshorter c cs), ih hparts, Option.map_map]
          rfl
      _ = (lexemes? rest).map ((absolutePath (p :: parts)).map .leaf ++ ·) := by
          rw [Option.map_map]
          rfl

theorem nest?_leaves (tokens done : List Token) : nest? [] done (tokens.map .leaf) = some (done ++ tokens) := by
  induction tokens generalizing done with
  | nil => simp [nest?]
  | cons t tokens ih => simp [nest?, ih]

theorem lex?_pathChars {parts : List String} (hparts : ∀ p ∈ parts, IsIdentifier p) :
    lex? (String.ofList (pathChars parts)) = some (absolutePath parts) := by
  have hmark : dropEncodingMark (pathChars parts) = pathChars parts := by
    cases parts <;> rfl
  have hend : lexemes? [] = some [] := by
    rw [lexemes?, skipLayout]
  have hlex : lexemes? (pathChars parts ++ []) = _ :=
    lexemes?_pathChars hparts (by simp [EndsName]) (by simp)
  rw [List.append_nil, hend, Option.map_some, List.append_nil] at hlex
  rw [lex?, String.toList_ofList, hmark, hlex]
  exact nest?_leaves (absolutePath parts) []

end Reflection.Code
