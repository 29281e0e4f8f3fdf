import Reflection.Proofs.Canonical
/-!
# Joining paths

A separator ends the piece in front of it, so text in front of a separator and text behind it are cut
independently (`pieces_append_separator`), be there other separators at the seam, or digits, or nothing.
Hence text whose parts are joined by separators is read as its parts are, and their paths are joined
(`Path.parse_joined`). The text of a joined path has a point at the seam if a member follows there
(`Path.text_concat`).
-/

namespace Reflection

/-! ## Pieces of joined text -/

theorem pieces_append_separator (cs : List Char) {c : Char} (h : isSeparator c = true) (ds : List Char) :
    pieces (cs ++ c :: ds) = pieces cs ++ pieces ds := by
  simp only [pieces_eq, List.splitOnP_append_cons cs ds h, List.filter_append]

theorem pieces_separators_append {us : List Char} (h : ∀ c ∈ us, isSeparator c = true) (ds : List Char) :
    pieces (us ++ ds) = pieces ds := by
  induction us with
  | nil => rfl
  | cons c us ih =>
    rw [List.forall_mem_cons] at h
    rw [List.cons_append, pieces_cons_separator h.1, ih h.2]

/-- The first separator cuts the parts apart, and the others stand in front of the second part. -/
theorem pieces_joined (cs : List Char) {us : List Char} (hne : us ≠ []) (h : ∀ c ∈ us, isSeparator c = true)
    (ds : List Char) : pieces (cs ++ us ++ ds) = pieces cs ++ pieces ds := by
  obtain ⟨c, us, rfl⟩ := List.exists_cons_of_ne_nil hne
  rw [List.forall_mem_cons] at h
  rw [List.append_assoc, List.cons_append, pieces_append_separator cs h.1, pieces_separators_append h.2]

section Text
variable {u : String} (hne : u ≠ "") (hu : ∀ c ∈ u.toList, isSeparator c = true) (s t : String)
include hne hu

theorem Scanner.segments_joined :
    (ofText (s ++ u ++ t)).segments = (ofText s).segments ++ (ofText t).segments := by
  have hchars : u.toList ≠ [] := fun hnil => hne (String.toList_eq_nil_iff.1 hnil)
  simp only [segments_eq, ofText, String.toList_append, pieces_joined s.toList hchars hu, List.map_append]

/-- Joined text is read as the path of its parts, or of the part that has one. -/
theorem Path.parse_joined :
    parse (s ++ u ++ t) =
      match parse s, parse t with
      | .ok p, .ok q => .ok (p.concat q)
      | .ok p, .error _ => .ok p
      | .error _, .ok q => .ok q
      | .error _, .error _ => .error ⟨s ++ u ++ t⟩ := by
  unfold parse
  rw [Scanner.segments_joined hne hu]
  generalize (Scanner.ofText s).segments = a
  generalize (Scanner.ofText t).segments = b
  by_cases ha : a = [] <;> by_cases hb : b = [] <;> simp [ofSegments, concat, ha, hb]

end Text

/-! ## Texts of joined paths -/

namespace Path

theorem segmentChars_append {a b : List Segment} (ha : a ≠ []) :
    segmentChars (a ++ b) = segmentChars a ++ b.flatMap laterChars := by
  obtain ⟨s, a, rfl⟩ := List.exists_cons_of_ne_nil ha
  simp only [segmentChars, List.cons_append, List.flatMap_append, List.append_assoc]

/-- Of segments that are not the first ones of a path, the first may need a point. -/
theorem flatMap_laterChars {b : List Segment} (hb : b ≠ []) :
    b.flatMap laterChars = (if (b.head hb).isMember then ['.'] else []) ++ segmentChars b := by
  obtain ⟨s, b, rfl⟩ := List.exists_cons_of_ne_nil hb
  rw [List.flatMap_cons, laterChars, segmentChars, List.head_cons]
  split <;> rfl

theorem text_concat (a b : Path) :
    (a.concat b).text = a.text ++ (if (b.segments.head b.segments_ne_nil).isMember then "." else "") ++ b.text := by
  apply String.toList_inj.1
  simp only [text, concat, segmentChars_append a.segments_ne_nil, flatMap_laterChars b.segments_ne_nil,
    String.toList_append, String.toList_ofList]
  split <;> simp

theorem concat_assoc (a b c : Path) : (a.concat b).concat c = a.concat (b.concat c) := by
  simp only [concat, List.append_assoc]

theorem length_concat (a b : Path) : (a.concat b).length = a.length + b.length := List.length_append

end Path

/-- Reading and writing paths go with joining them. Text whose parts are joined by separators has the segments of its
parts, so it is read as the path that is joined from theirs, and as the path of one part if the other has none. A
joined path is written as its parts are, with a point between them if the second begins with a member. -/
theorem joined_paths :
    (∀ s u t : String, u ≠ "" → (∀ c ∈ u.toList, isSeparator c = true) →
      (Scanner.ofText (s ++ u ++ t)).segments = (Scanner.ofText s).segments ++ (Scanner.ofText t).segments ∧
      Path.parse (s ++ u ++ t) =
        match Path.parse s, Path.parse t with
        | .ok p, .ok q => .ok (p.concat q)
        | .ok p, .error _ => .ok p
        | .error _, .ok q => .ok q
        | .error _, .error _ => .error ⟨s ++ u ++ t⟩) ∧
    (∀ a b : Path, (a.concat b).text =
      match b.segments.head b.segments_ne_nil with
      | .member _ => a.text ++ "." ++ b.text
      | .index _ => a.text ++ b.text) ∧
    (∀ a b c : Path, (a.concat b).concat c = a.concat (b.concat c)) ∧
    ∀ a b : Path, (a.concat b).length = a.length + b.length := by
  refine ⟨?_, ?_, Path.concat_assoc, Path.length_concat⟩
  · intro s u t hne hu
    exact ⟨Scanner.segments_joined hne hu s t, Path.parse_joined hne hu s t⟩
  · intro a b
    rw [Path.text_concat]
    cases b.segments.head b.segments_ne_nil with
    | member name => rfl
    | index i => simp [Segment.isMember]

/-- Digits on both sides of a seam stay two indices. -/
theorem joined_paths_digits :
    let a : Path := ⟨[.member "a", .index 0], List.cons_ne_nil _ _⟩
    let b : Path := ⟨[.index 7, .member "b"], List.cons_ne_nil _ _⟩
    Path.parse "a[0" = .ok a ∧ Path.parse "07].b." = .ok b ∧
    Path.parse ("a[0" ++ "][" ++ "07].b.") = .ok (a.concat b) ∧ Path.parse ("a[0" ++ "][" ++ "..") = .ok a ∧
    (a.concat b).text = "a[0][7].b" := by
  intro a b
  have ha : Path.parse "a[0" = .ok a := Path.parse_eq_ok_iff.2 (by decide)
  have hb : Path.parse "07].b." = .ok b := Path.parse_eq_ok_iff.2 (by decide)
  have hdots : Path.parse ".." = .error ⟨".."⟩ := by rw [Path.parse_eq]; rfl
  obtain ⟨hread, htext, -, -⟩ := joined_paths
  obtain ⟨-, hboth⟩ := hread "a[0" "][" "07].b." (by decide) (List.all_eq_true.1 (by decide))
  obtain ⟨-, hone⟩ := hread "a[0" "][" ".." (by decide) (List.all_eq_true.1 (by decide))
  rw [ha, hb] at hboth
  rw [ha, hdots] at hone
  exact ⟨ha, hb, hboth, hone, (htext a b).trans (by decide)⟩

end Reflection
