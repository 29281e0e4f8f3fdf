import Reflection.Path.Datum
import Reflection.Proofs.Scanning
/-!
# Canonical text

The text of a path is cut into one piece for each segment (`Path.pieces_segmentChars`), and the piece
of an index is read as that index. A name is read as itself if it is plain, which every name is that
a path was read with (`Segment.isPlain_denoted`). Hence a path comes back from its text exactly if
its names are plain (`canonical_text`).
-/

namespace Reflection

/-- A name that can be read from text. -/
structure PlainName (name : String) : Prop where
  ne_empty : name ≠ ""
  no_separator : ∀ c ∈ name.toList, isSeparator c = false
  not_digits : ∃ c ∈ name.toList, c.isDigit = false

namespace Segment

def IsPlain : Segment → Prop
  | .member name => PlainName name
  | .index _ => True

/-- The piece that stands for a segment in its text. -/
def piece : Segment → List Char
  | .member name => name.toList
  | .index i => indexDigits i

/-! ## Pieces of segments -/

theorem denoted_indexDigits (i : UInt64) : denoted (indexDigits i) = .index i := by
  have hdigits : (indexDigits i).all Char.isDigit = true := by
    apply List.all_eq_true.2
    intro c hc
    exact Nat.isDigit_of_mem_toDigits (by omega) (by omega) hc
  have hmin : min i.toNat (UInt64.size - 1) = i.toNat := by
    have hlt := i.toNat_lt_size
    omega
  rw [denoted, if_pos hdigits, indexDigits, Nat.ofDigitChars_ten_toDigits, hmin, UInt64.ofNat_toNat]

theorem denoted_piece {s : Segment} (h : s.IsPlain) : denoted s.piece = s := by
  cases s with
  | index i => exact denoted_indexDigits i
  | member name =>
    obtain ⟨c, hc, hdigit⟩ := h.not_digits
    have hname : ¬ name.toList.all Char.isDigit = true := by
      intro hall
      rw [List.all_eq_true.1 hall c hc] at hdigit
      cases hdigit
    rw [piece, denoted, if_neg hname, String.ofList_toList]

theorem piece_ne_nil {s : Segment} (h : s.IsPlain) : s.piece ≠ [] := by
  cases s with
  | index i => exact Nat.toDigits_ne_nil
  | member name =>
    intro hnil
    exact h.ne_empty (String.toList_eq_nil_iff.1 hnil)

theorem not_separator_of_isDigit {c : Char} (h : c.isDigit = true) : isSeparator c = false := by
  cases hc : isSeparator c with
  | false => rfl
  | true =>
    simp only [isSeparator, Bool.or_eq_true, beq_iff_eq] at hc
    rcases hc with (rfl | rfl) | rfl <;> cases h

theorem not_separator_of_mem_piece {s : Segment} (h : s.IsPlain) : ∀ c ∈ s.piece, isSeparator c = false := by
  cases s with
  | index i =>
    intro c hc
    exact not_separator_of_isDigit (Nat.isDigit_of_mem_toDigits (by omega) (by omega) hc)
  | member name => exact h.no_separator

/-- What a piece denotes is plain. -/
theorem isPlain_denoted {piece : List Char} (hne : piece ≠ []) (hpiece : ∀ c ∈ piece, isSeparator c = false) :
    (denoted piece).IsPlain := by
  unfold denoted
  split
  · trivial
  · rename_i hdigits
    refine ⟨?_, ?_, ?_⟩
    · simpa using hne
    · simpa using hpiece
    · simpa using hdigits

end Segment

namespace Path

/-! ## Pieces of canonical text -/

theorem separator_of_later (segments : List Segment) :
    ∀ c ∈ (segments.flatMap laterChars).head?, isSeparator c = true := by
  cases segments with
  | nil => simp
  | cons s segments => cases s <;> simp [laterChars, Segment.isMember, Segment.chars, isSeparator]

/-- The text of a segment, with the text of others behind it, begins with its piece. -/
theorem pieces_chars {s : Segment} (h : s.IsPlain) {rest : List Char}
    (hrest : ∀ c ∈ rest.head?, isSeparator c = true) : pieces (s.chars ++ rest) = s.piece :: pieces rest := by
  have hne := Segment.piece_ne_nil h
  have hpiece := Segment.not_separator_of_mem_piece h
  cases s with
  | member name => exact pieces_append hne hpiece hrest
  | index i =>
    -- The piece of an index ends at its closing bracket.
    have hchars : (Segment.index i).chars ++ rest = '[' :: (indexDigits i ++ ']' :: rest) := by
      simp [Segment.chars]
    rw [hchars, pieces_cons_separator rfl]
    have hbracket : pieces (indexDigits i ++ ']' :: rest) = indexDigits i :: pieces (']' :: rest) :=
      pieces_append hne hpiece (by simp [isSeparator])
    rw [hbracket, pieces_cons_separator rfl]
    rfl

theorem pieces_laterChars {s : Segment} (h : s.IsPlain) {rest : List Char}
    (hrest : ∀ c ∈ rest.head?, isSeparator c = true) : pieces (laterChars s ++ rest) = s.piece :: pieces rest := by
  unfold laterChars
  split
  · rw [List.cons_append, pieces_cons_separator rfl, pieces_chars h hrest]
  · exact pieces_chars h hrest

theorem pieces_flatMap {segments : List Segment} (h : ∀ s ∈ segments, s.IsPlain) :
    pieces (segments.flatMap laterChars) = segments.map Segment.piece := by
  induction segments with
  | nil => rfl
  | cons s segments ih =>
    rw [List.flatMap_cons, pieces_laterChars (h s List.mem_cons_self) (separator_of_later segments), List.map_cons]
    rw [ih (fun t ht => h t (List.mem_cons_of_mem s ht))]

theorem pieces_segmentChars {segments : List Segment} (h : ∀ s ∈ segments, s.IsPlain) :
    pieces (segmentChars segments) = segments.map Segment.piece := by
  cases segments with
  | nil => rfl
  | cons s segments =>
    have hlater := pieces_flatMap (fun t ht => h t (List.mem_cons_of_mem s ht))
    rw [segmentChars, pieces_chars (h s List.mem_cons_self) (separator_of_later segments), hlater, List.map_cons]

/-! ## Reading canonical text -/

theorem parse_text_of_isPlain {p : Path} (h : ∀ s ∈ p.segments, s.IsPlain) : parse p.text = .ok p := by
  have hsegments : p.segments.map (Segment.denoted ∘ Segment.piece) = p.segments.map id := by
    apply List.map_congr_left
    intro s hs
    exact Segment.denoted_piece (h s hs)
  rw [parse_eq_ok_iff, text, String.toList_ofList, pieces_segmentChars h, List.map_map, hsegments, List.map_id]

theorem isPlain_of_parse {text : String} {p : Path} (h : parse text = .ok p) : ∀ s ∈ p.segments, s.IsPlain := by
  intro s hs
  rw [← parse_eq_ok_iff.1 h] at hs
  obtain ⟨piece, hpiece, rfl⟩ := List.mem_map.1 hs
  obtain ⟨hne, hseparator⟩ := of_mem_pieces hpiece
  exact Segment.isPlain_denoted hne hseparator

theorem parse_text_iff {p : Path} : parse p.text = .ok p ↔ ∀ s ∈ p.segments, s.IsPlain :=
  ⟨isPlain_of_parse, parse_text_of_isPlain⟩

theorem isPlain_iff {p : Path} :
    (∀ s ∈ p.segments, s.IsPlain) ↔ ∀ name, .member name ∈ p.segments → PlainName name := by
  constructor
  · intro h name hname
    exact h (.member name) hname
  · intro h s hs
    cases s with
    | member name => exact h name hs
    | index i => trivial

end Path

/-- A path comes back from its text exactly if each of its names can be read from text, as those of
a path that was read can. There is a text for each index. -/
theorem canonical_text :
    (∀ p : Path, Path.parse p.text = .ok p ↔ ∀ name, .member name ∈ p.segments → PlainName name) ∧
    (∀ text p, Path.parse text = .ok p →
      Path.parse p.text = .ok p ∧ (Path.parse p.text).map Path.text = .ok p.text ∧ Path.ofDatum p.toDatum = .ok p ∧
      ∀ text' q, Path.parse text' = .ok q → q.text = p.text → q = p) ∧
    ∀ i, ∃ text p, Path.parse text = .ok p ∧ p.segments = [.index i] := by
  refine ⟨?_, ?_, ?_⟩
  · intro p
    rw [Path.parse_text_iff, Path.isPlain_iff]
  · intro text p h
    have hback : Path.parse p.text = .ok p := Path.parse_text_of_isPlain (Path.isPlain_of_parse h)
    refine ⟨hback, ?_, ?_, ?_⟩
    · rw [hback]
      rfl
    · simp only [Path.toDatum, Path.ofDatum, hback]
    · intro text' q hq htext
      have hback' : Path.parse q.text = .ok q := Path.parse_text_of_isPlain (Path.isPlain_of_parse hq)
      rw [htext, hback] at hback'
      cases hback'
      rfl
  · intro i
    let p : Path := ⟨[.index i], List.cons_ne_nil _ _⟩
    have hplain : ∀ s ∈ p.segments, s.IsPlain := by simp [p, Segment.IsPlain]
    exact ⟨p.text, p, Path.parse_text_of_isPlain hplain, rfl⟩

/-- A path with the greatest index, which a number too great for a word is read as. -/
theorem canonical_text_greatest :
    let p : Path := ⟨[.member "b", .index 18446744073709551615], List.cons_ne_nil _ _⟩
    Path.parse "..b[018446744073709551616]" = .ok p ∧ p.text = "b[18446744073709551615]" ∧
    Path.parse p.text = .ok p ∧ Path.ofDatum p.toDatum = .ok p := by
  intro p
  have hread : Path.parse "..b[018446744073709551616]" = .ok p := Path.parse_eq_ok_iff.2 (by decide)
  obtain ⟨hback, -, hdatum, -⟩ := canonical_text.2.1 _ p hread
  exact ⟨hread, by decide, hback, hdatum⟩

end Reflection
