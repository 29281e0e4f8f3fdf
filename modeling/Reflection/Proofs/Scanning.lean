import Mathlib.Data.List.TakeWhile
import Reflection.Path.Basic
/-!
# Scanning is cutting

Path text is cut at every separator, empty pieces are dropped, and each piece that is left denotes a
segment (`Segment.denoted`). A scanner finds these segments one by one (`Scanner.segments_eq`): a
call either takes the first piece off the text or finds that there is none (`Scanner.next?_cases`),
and what a number of calls leave behind are the segments that they have not given (`Scanner.take_eq`).
-/

namespace Reflection

/-! ## Indices in decimal -/

theorem toNat_ofNatClamp (n : Nat) : (UInt64.ofNatClamp n).toNat = min n (UInt64.size - 1) := by
  rcases Nat.lt_or_ge n UInt64.size with h | h
  · rw [UInt64.toNat_ofNatClamp_of_lt h]
    omega
  · rw [UInt64.toNat_ofNatClamp_of_le h]
    omega

theorem toNat_pushDigit (i : UInt64) (c : Char) :
    (pushDigit i c).toNat = min (10 * i.toNat + (c.toNat - '0'.toNat)) (UInt64.size - 1) := by
  unfold pushDigit
  rw [toNat_ofNatClamp, toNat_ofNatClamp]
  simp only [UInt64.size]
  omega

/-- Digits behind an index count as digits behind the number that it stands for, though the index is
cut to a word after each of them. -/
theorem toNat_foldl_pushDigit (digits : List Char) {i : UInt64} {n : Nat} (h : i.toNat = min n (UInt64.size - 1)) :
    (digits.foldl pushDigit i).toNat = min (Nat.ofDigitChars 10 digits n) (UInt64.size - 1) := by
  induction digits generalizing i n with
  | nil => exact h
  | cons c digits ih =>
    rw [List.foldl_cons, Nat.ofDigitChars_cons]
    apply ih
    rw [toNat_pushDigit, h]
    simp only [UInt64.size]
    omega

/-- The segment that a piece denotes. A piece of digits is the number they denote in decimal, or the
greatest index if that is less; any other piece is the name that it is. -/
def Segment.denoted (piece : List Char) : Segment :=
  if piece.all Char.isDigit then .index (.ofNat (min (Nat.ofDigitChars 10 piece 0) (UInt64.size - 1)))
  else .member (String.ofList piece)

theorem indexOfDigits_eq (digits : List Char) :
    indexOfDigits digits = .ofNat (min (Nat.ofDigitChars 10 digits 0) (UInt64.size - 1)) := by
  apply UInt64.toNat_inj.1
  have hdigits : (indexOfDigits digits).toNat = _ := toNat_foldl_pushDigit digits (i := 0) (n := 0) rfl
  rw [hdigits, UInt64.toNat_ofNat_of_lt']
  simp only [UInt64.size]
  omega

theorem Segment.ofPiece_eq (piece : List Char) : Segment.ofPiece piece = Segment.denoted piece := by
  unfold Segment.ofPiece Segment.denoted isIndexPiece
  rw [indexOfDigits_eq]

/-! ## Pieces -/

theorem cutAtSeparators_eq (cs : List Char) : cutAtSeparators cs = cs.splitOnP isSeparator := by
  induction cs with
  | nil => rfl
  | cons c cs ih =>
    rw [cutAtSeparators, List.splitOnP_cons_eq_if_modifyHead, ih]
    cases hcut : cs.splitOnP isSeparator with
    | nil => exact absurd hcut (List.splitOnP_ne_nil _ _)
    | cons p ps => rfl

theorem pieces_eq (cs : List Char) : pieces cs = (cs.splitOnP isSeparator).filter (· ≠ []) := by
  rw [pieces, cutAtSeparators_eq]
  congr 1
  funext piece
  cases piece <;> rfl

theorem pieces_nil : pieces [] = [] := rfl

theorem pieces_cons_separator {c : Char} (h : isSeparator c = true) (cs : List Char) :
    pieces (c :: cs) = pieces cs := by
  simp [pieces, cutAtSeparators, h]

theorem pieces_dropWhile (cs : List Char) : pieces (cs.dropWhile isSeparator) = pieces cs := by
  induction cs with
  | nil => rfl
  | cons c cs ih =>
    rw [List.dropWhile_cons]
    split
    · rename_i h
      rw [ih, pieces_cons_separator h]
    · rfl

/-- What stands in front of a separator, or of nothing, is the first piece. -/
theorem pieces_append {piece rest : List Char} (hne : piece ≠ []) (hpiece : ∀ c ∈ piece, isSeparator c = false)
    (hrest : ∀ c ∈ rest.head?, isSeparator c = true) : pieces (piece ++ rest) = piece :: pieces rest := by
  have hempty : piece.isEmpty = false := by simpa using hne
  cases rest with
  | nil => simp [pieces, cutAtSeparators_eq, List.splitOnP_eq_singleton hpiece, hempty]
  | cons c rest =>
    have hc : isSeparator c = true := hrest c rfl
    rw [pieces_cons_separator hc]
    simp [pieces, cutAtSeparators_eq, List.splitOnP_append_cons_of_forall_mem hpiece c hc, hempty]

theorem not_separator_of_mem_cut {cs piece : List Char} (h : piece ∈ cutAtSeparators cs) :
    ∀ c ∈ piece, isSeparator c = false := by
  induction cs generalizing piece with
  | nil =>
    rw [cutAtSeparators, List.mem_singleton] at h
    simp [h]
  | cons d cs ih =>
    rw [cutAtSeparators] at h
    split at h
    · rcases List.mem_cons.1 h with rfl | h
      · simp
      · exact ih h
    · rename_i hd
      have hd : isSeparator d = false := by simpa using hd
      split at h
      · rw [List.mem_singleton] at h
        simp [h, hd]
      · rename_i p ps hcut
        rw [hcut] at ih
        rcases List.mem_cons.1 h with rfl | h
        · intro c hc
          rcases List.mem_cons.1 hc with rfl | hc
          · exact hd
          · exact ih List.mem_cons_self c hc
        · exact ih (List.mem_cons_of_mem _ h)

theorem of_mem_pieces {cs piece : List Char} (h : piece ∈ pieces cs) :
    piece ≠ [] ∧ ∀ c ∈ piece, isSeparator c = false := by
  obtain ⟨hcut, hne⟩ := List.mem_filter.1 h
  exact ⟨by simpa using hne, not_separator_of_mem_cut hcut⟩

/-- A character that is no separator begins a piece. -/
theorem pieces_cons {c : Char} (h : isSeparator c = false) (cs : List Char) :
    pieces (c :: cs) = (Scanner.splitPiece (c :: cs)).1 :: pieces (Scanner.splitPiece (c :: cs)).2 := by
  unfold Scanner.splitPiece
  rw [← pieces_append]
  · rw [List.takeWhile_append_dropWhile]
  · simp [h]
  · intro d hd
    simpa using List.mem_takeWhile_imp hd
  · intro d hd
    have hhead := List.head?_dropWhile_not (fun d => !isSeparator d) (c :: cs)
    rw [Option.mem_def.1 hd] at hhead
    simpa using hhead

theorem pieces_eq_nil_iff {cs : List Char} : pieces cs = [] ↔ ∀ c ∈ cs, isSeparator c = true := by
  rw [← pieces_dropWhile, ← List.dropWhile_eq_nil_iff]
  cases hcs : cs.dropWhile isSeparator with
  | nil => simp [pieces_nil]
  | cons c rest =>
    have hc : isSeparator c = false := by
      have hhead := List.head?_dropWhile_not isSeparator cs
      simpa [hcs] using hhead
    simp [pieces_cons hc]

/-! ## Calls -/

namespace Scanner

/-- A call takes the first piece off the text, or finds that there is none. -/
theorem next?_cases (s : Scanner) :
    (s.next? = none ∧ pieces s.rest = []) ∨
      ∃ piece t, s.next? = some (.ofPiece piece, t) ∧ pieces s.rest = piece :: pieces t.rest := by
  unfold next?
  rw [← pieces_dropWhile s.rest]
  cases hrest : s.rest.dropWhile isSeparator with
  | nil => exact .inl ⟨rfl, pieces_nil⟩
  | cons c cs =>
    have hc : isSeparator c = false := by
      have hhead := List.head?_dropWhile_not isSeparator s.rest
      simpa [hrest] using hhead
    exact .inr ⟨_, _, rfl, pieces_cons hc cs⟩

/-- The segments that are left are those of the pieces that are left. -/
theorem segments_eq (s : Scanner) : s.segments = (pieces s.rest).map Segment.denoted := by
  fun_induction segments s with
  | case1 s hnone =>
    rcases next?_cases s with ⟨-, hpieces⟩ | ⟨piece, t, hsome, -⟩
    · rw [hpieces, List.map_nil]
    · rw [hnone] at hsome
      cases hsome
  | case2 s segment t hsome ih =>
    rcases next?_cases s with ⟨hnone, -⟩ | ⟨piece, t', hsome', hpieces⟩
    · rw [hnone] at hsome
      cases hsome
    · rw [hsome', Option.some.injEq, Prod.mk.injEq] at hsome
      obtain ⟨rfl, rfl⟩ := hsome
      rw [ih, hpieces, List.map_cons, Segment.ofPiece_eq]

theorem step_eq (s : Scanner) : s.step.1 = s.segments.head? ∧ s.step.2.segments = s.segments.tail := by
  unfold step
  rw [segments_eq s]
  rcases next?_cases s with ⟨hnone, hpieces⟩ | ⟨piece, t, hsome, hpieces⟩
  · rw [hnone, hpieces]
    exact ⟨rfl, by rw [segments_eq]; rfl⟩
  · rw [hsome, hpieces]
    exact ⟨by rw [Segment.ofPiece_eq]; rfl, segments_eq t⟩

/-- Of a number of calls the first gives the first segment and so on, and the segments behind these
are left. -/
theorem take_eq (s : Scanner) (n : Nat) :
    (s.take n).1 = (List.range n).map (s.segments[·]?) ∧ (s.take n).2.segments = s.segments.drop n := by
  induction n generalizing s with
  | zero => exact ⟨rfl, rfl⟩
  | succ n ih =>
    obtain ⟨hanswer, hrest⟩ := step_eq s
    obtain ⟨hanswers, hleft⟩ := ih s.step.2
    rw [hrest] at hanswers hleft
    simp only [take]
    constructor
    · rw [hanswers, hanswer, List.range_succ_eq_map, List.map_cons, List.map_map]
      simp [List.head?_eq_getElem?, Function.comp_def]
    · rw [hleft, List.drop_tail]

/-- A call that gives nothing has found the end. -/
theorem segments_of_step_none {s : Scanner} (h : s.step.1 = none) : s.segments = [] := by
  rw [(step_eq s).1] at h
  exact List.head?_eq_none_iff.1 h

theorem take_of_segments_nil {s : Scanner} (h : s.segments = []) (n : Nat) :
    (s.take n).1 = List.replicate n none := by
  rw [(take_eq s n).1, h]
  simp [List.map_const']

end Scanner

/-! ## Text -/

theorem Path.parse_eq (text : String) :
    Path.parse text = Path.ofSegments ((pieces text.toList).map Segment.denoted) text := by
  rw [Path.parse, Scanner.segments_eq]
  rfl

theorem Path.parse_eq_ok_iff {text : String} {p : Path} :
    Path.parse text = .ok p ↔ (pieces text.toList).map Segment.denoted = p.segments := by
  rw [Path.parse_eq, Path.ofSegments]
  obtain ⟨segments, hne⟩ := p
  split
  · rename_i hnil
    rw [hnil]
    simp [hne.symm]
  · simp

/-- Text is refused if it holds nothing but separators. -/
theorem Path.parse_eq_ite (text : String) :
    (Path.parse text).map Path.segments =
      if text.toList.all isSeparator then .error ⟨text⟩ else .ok ((pieces text.toList).map Segment.denoted) := by
  rw [Path.parse_eq, Path.ofSegments]
  by_cases h : text.toList.all isSeparator
  · have hpieces : pieces text.toList = [] := pieces_eq_nil_iff.2 (List.all_eq_true.1 h)
    simp [h, hpieces, Except.map]
  · have hpieces : pieces text.toList ≠ [] := fun hnil => h (List.all_eq_true.2 (pieces_eq_nil_iff.1 hnil))
    simp [h, hpieces, Except.map]

/-- Text is cut at every separator, and what its pieces denote is what a scanner gives call by call
and what a path is read as. -/
theorem text_grammar (text : String) :
    let denoted := ((text.toList.splitOnP isSeparator).filter (· ≠ [])).map Segment.denoted
    let read : Except InvalidPath (List Segment) := if text.toList.all isSeparator then .error ⟨text⟩ else .ok denoted
    let scanner := Scanner.ofText text
    (Path.parse text).map Path.segments = read ∧ (Route.text text).segments = read ∧
    scanner.segments = denoted ∧
    ∀ n, (scanner.take n).1 = (List.range n).map (denoted[·]?) ∧ (scanner.take n).2.segments = denoted.drop n ∧
      ((scanner.take n).2.step.1 = none → ∀ m, ((scanner.take n).2.take m).1 = List.replicate m none) := by
  intro denoted read scanner
  have hdenoted : denoted = (pieces text.toList).map Segment.denoted := by rw [pieces_eq]
  have hread : (Path.parse text).map Path.segments = read := by rw [Path.parse_eq_ite, ← hdenoted]
  have hsegments : scanner.segments = denoted := by rw [hdenoted]; exact Scanner.segments_eq scanner
  refine ⟨hread, hread, hsegments, ?_⟩
  intro n
  obtain ⟨hanswers, hleft⟩ := Scanner.take_eq scanner n
  rw [hsegments] at hanswers hleft
  refine ⟨hanswers, hleft, ?_⟩
  intro hnone m
  exact Scanner.take_of_segments_nil (Scanner.segments_of_step_none hnone) m

/-- Two pieces, of which the second has leading zeros, and nothing behind them. -/
theorem text_grammar_end :
    let scanner := Scanner.ofText "..a[007]]"
    (scanner.take 2).1 = [some (.member "a"), some (.index 7)] ∧ (scanner.take 2).2.step.1 = none ∧
    ((scanner.take 2).2.take 3).1 = [none, none, none] := by
  intro scanner
  obtain ⟨-, -, -, hcalls⟩ := text_grammar "..a[007]]"
  have hnone : (scanner.take 2).2.step.1 = none := by decide
  exact ⟨by decide, hnone, (hcalls 2).2.2 hnone 3⟩

end Reflection
