import Reflection.Access.Session
import Reflection.Proofs.Canonical
import Reflection.Proofs.Source
import Reflection.Proofs.Universe
/-!
# Text in the place of a path

An access reads a text piece by piece, as far as it gets, and a path is there as a whole. Still it
depends on the segments alone (`interchangeable_of_segments`): wherever they are the same, no access of
a session tells one route from the other, be it by what it answers, by what it leaves behind, or by what
it reports. A route that is refused leaves all as it was (`refused_of_segments`).
-/

namespace Reflection

namespace Route

/-- No access tells one route from the other. -/
structure Interchangeable (a b : Route) : Prop where
  get : ∀ (s : Session) via, s.get via a = s.get via b
  edit : ∀ (s : Session) via (α : Type) (f : Value → Value × α), s.edit via a f = s.edit via b f
  assign : ∀ (s : Session) via x, s.assign via a x = s.assign via b x
  getAs : ∀ (s : Session) t, s.getAs a t = s.getAs b t
  editAs : ∀ (s : Session) t (α : Type) (f : Value → Value × α), s.editAs a t f = s.editAs b t f

/-- Each access answers with the error, and does nothing. -/
structure Refused (route : Route) (e : InvalidPath) : Prop where
  get : ∀ (s : Session) via, s.get via route = ⟨.error (.invalidPath e), s, []⟩
  edit : ∀ (s : Session) via (α : Type) (f : Value → Value × α), s.edit via route f = ⟨.error (.invalidPath e), s, []⟩
  assign : ∀ (s : Session) via x, s.assign via route x = ⟨.error (.invalidPath e), s, []⟩
  getAs : ∀ (s : Session) t, s.getAs route t = ⟨.error (.invalidPath e), s, []⟩
  editAs : ∀ (s : Session) t (α : Type) (f : Value → Value × α),
    s.editAs route t f = ⟨.error (.invalidPath e), s, []⟩

/-! ## Accesses by their segments -/

section Segments
variable {σ α : Type} {a b : Route} (h : a.segments = b.segments) (lookup : Lookup σ) (root : Value) (memory : σ)
include h

theorem get_of_segments : Reflection.get lookup root a memory = Reflection.get lookup root b memory := by
  rw [get_eq, get_eq, h]

theorem edit_of_segments (f : Value → Value × α) :
    Reflection.edit lookup root a f memory = Reflection.edit lookup root b f memory := by
  rw [edit_eq, edit_eq, h]

theorem assign_of_segments (x : Value) :
    Reflection.assign lookup root a x memory = Reflection.assign lookup root b x memory := by
  rw [assign_eq, assign_eq, h]

theorem getAs_of_segments (t : Ty) :
    Reflection.getAs lookup root a t memory = Reflection.getAs lookup root b t memory := by
  rw [Reflection.getAs, Reflection.getAs, get_of_segments h]

theorem editAs_of_segments (t : Ty) (f : Value → Value × α) :
    Reflection.editAs lookup root a t f memory = Reflection.editAs lookup root b t f memory := by
  rw [Reflection.editAs, Reflection.editAs, edit_of_segments h]

theorem interchangeable_of_segments : a.Interchangeable b where
  get s via := by cases via <;> simp only [Session.get, get_of_segments h]
  edit s via α f := by cases via <;> simp only [Session.edit, edit_of_segments h]
  assign s via x := by cases via <;> simp only [Session.assign, assign_of_segments h]
  getAs s t := by simp only [Session.getAs, getAs_of_segments h]
  editAs s t α f := by simp only [Session.editAs, editAs_of_segments h]
end Segments

theorem refused_of_segments {route : Route} {e : InvalidPath} (h : route.segments = .error e) : route.Refused e where
  get s via := by cases via <;> simp only [Session.get, get_eq, h]
  edit s via α f := by cases via <;> simp only [Session.edit, edit_eq, h]
  assign s via x := by cases via <;> simp only [Session.assign, assign_eq, h]
  getAs s t := by simp only [Session.getAs, Reflection.getAs, get_eq, h, Except.bind]
  editAs s t α f := by simp only [Session.editAs, Reflection.editAs, edit_eq, h, Except.bind]

/-! ## Segments of text -/

theorem segments_text_of_parse {text : String} {p : Path} (h : Path.parse text = .ok p) :
    (Route.text text).segments = .ok p.segments := by
  rw [segments, h]
  rfl

theorem segments_text {text : String} (h : (Scanner.ofText text).segments ≠ []) :
    (Route.text text).segments = .ok (Scanner.ofText text).segments := by
  rw [segments, Path.parse, Path.ofSegments, dif_neg h]
  rfl

theorem segments_text_of_nil {text : String} (h : (Scanner.ofText text).segments = []) :
    (Route.text text).segments = .error ⟨text⟩ := by
  rw [segments, Path.parse, Path.ofSegments, dif_pos h]
  rfl

end Route

/-- A text, the path that it is read as, and the canonical text of that path are one route to every
access. So are two texts with the same segments, unless they have none. A text without a segment is refused
by every access, with an error that carries this text. -/
theorem text_interchange (text : String) :
    (∀ p, Path.parse text = .ok p →
      Route.Interchangeable (.text text) (.path p) ∧ Route.Interchangeable (.text text) (.text p.text)) ∧
    (∀ text', (Scanner.ofText text).segments = (Scanner.ofText text').segments →
      if (Scanner.ofText text).segments ≠ [] then Route.Interchangeable (.text text) (.text text')
      else Route.Refused (.text text) ⟨text⟩ ∧ Route.Refused (.text text') ⟨text'⟩) ∧
    ((Scanner.ofText text).segments = [] → Route.Refused (.text text) ⟨text⟩) := by
  refine ⟨?_, ?_, fun hnil => Route.refused_of_segments (Route.segments_text_of_nil hnil)⟩
  · intro p h
    have hback : Path.parse p.text = .ok p := Path.parse_text_of_isPlain (Path.isPlain_of_parse h)
    have hsegments := Route.segments_text_of_parse h
    refine ⟨Route.interchangeable_of_segments hsegments, Route.interchangeable_of_segments ?_⟩
    rw [hsegments, Route.segments_text_of_parse hback]
  · intro text' hsame
    split
    · rename_i hne
      refine Route.interchangeable_of_segments ?_
      rw [Route.segments_text hne, Route.segments_text (hsame ▸ hne), hsame]
    · rename_i hnil
      rw [not_not] at hnil
      exact ⟨Route.refused_of_segments (Route.segments_text_of_nil hnil),
        Route.refused_of_segments (Route.segments_text_of_nil (hsame ▸ hnil))⟩

/-- Separators that stand together are one, and alone they are no path. -/
theorem text_interchange_textOfB :
    let s := Session.start Sample.valueA
    Path.parse "..b]text" = .ok Sample.textOfB ∧
    s.get .cache (.text "..b]text") = s.get .cache (.path Sample.textOfB) ∧
    s.get .cache (.text "b.text") = s.get .cache (.text "..b]text") ∧
    s.get .cache (.text "..") = ⟨.error (.invalidPath ⟨".."⟩), s, []⟩ := by
  intro s
  have hread : Path.parse "..b]text" = .ok Sample.textOfB := Path.parse_eq_ok_iff.2 (by decide)
  have hsegments : (Scanner.ofText "..b]text").segments = Sample.textOfB.segments :=
    (Scanner.segments_eq _).trans (by decide)
  have hsegments' : (Scanner.ofText "b.text").segments = Sample.textOfB.segments :=
    (Scanner.segments_eq _).trans (by decide)
  have hnil : (Scanner.ofText "..").segments = [] := (Scanner.segments_eq _).trans (by decide)
  obtain ⟨hparsed, -, -⟩ := text_interchange "..b]text"
  obtain ⟨-, hsame, -⟩ := text_interchange "b.text"
  obtain ⟨-, -, hrefused⟩ := text_interchange ".."
  have htexts := hsame "..b]text" (hsegments'.trans hsegments.symm)
  rw [if_pos (hsegments' ▸ Sample.textOfB.segments_ne_nil)] at htexts
  exact ⟨hread, (hparsed _ hread).1.get s .cache, htexts.get s .cache, (hrefused hnil).get s .cache⟩

end Reflection
