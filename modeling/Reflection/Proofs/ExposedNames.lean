import Reflection.Proofs.Find
import Reflection.Proofs.Identifiers
import Reflection.Proofs.Tables
import Reflection.Proofs.Transparency
/-!
# Exposed names

A name that a member may be given by an attribute is one that text can be read as (`checkMemberName_eq_ok`).
Identifiers are such names too, so the name of every member of a derived struct, read as a path, leads to that
member, and no other text does (`exposed_names`).
-/

namespace Reflection

/-! ## Names that are chosen -/

namespace Derive

theorem checkMemberName_eq_ok {name : String} : checkMemberName name = .ok () ↔ PlainName name := by
  unfold checkMemberName
  constructor
  · intro h
    split at h
    · cases h
    split at h
    · cases h
    split at h
    · cases h
    rename_i hempty hseparator hdigits
    refine ⟨?_, ?_, ?_⟩
    · simpa using hempty
    · simpa using hseparator
    · simpa [isIndexPiece] using hdigits
  · rintro ⟨hne, hseparator, c, hc, hdigit⟩
    rw [if_neg, if_neg, if_neg]
    · intro hall
      rw [List.all_eq_true.1 hall c hc] at hdigit
      cases hdigit
    · simpa using hseparator
    · simpa using hne

/-- A name is plain if it is read as itself. -/
theorem plainName_iff_parse {name : String} :
    PlainName name ↔ (Path.parse name).map Path.segments = .ok [.member name] := by
  constructor
  · intro h
    let p : Path := ⟨[.member name], List.cons_ne_nil _ _⟩
    have htext : p.text = name := by simp [p, Path.text, Path.segmentChars, Segment.chars]
    have hplain : ∀ s ∈ p.segments, s.IsPlain := Path.isPlain_iff.2 (by simpa [p] using h)
    rw [← htext, Path.parse_text_of_isPlain hplain, htext]
    rfl
  · intro h
    obtain ⟨p, hp, hsegments⟩ := map_eq_ok h
    exact Path.isPlain_of_parse hp (.member name) (hsegments ▸ List.mem_singleton_self _)

namespace FieldAttributes

/-- The chosen name, if there is one, has been checked. -/
def RenameChecked (attrs : FieldAttributes) : Prop := ∀ name, attrs.rename = some name → PlainName name

theorem of_flag {α : Type} {e : Entry} {a a' : α} (h : e.flag a = .ok a') : a = a' := by
  unfold Entry.flag at h
  split at h
  · exact Except.ok.inj h
  · cases h

theorem renameChecked_setAccess {attrs attrs' : FieldAttributes} {access : Access} (h : attrs.RenameChecked)
    (ha : attrs.setAccess access = .ok attrs') : attrs'.RenameChecked := by
  unfold setAccess at ha
  split at ha
  · cases ha
  · cases ha
    exact h

theorem renameChecked_addEntry {attrs attrs' : FieldAttributes} {e : Entry} (h : attrs.RenameChecked)
    (he : attrs.addEntry e = .ok attrs') : attrs'.RenameChecked := by
  -- Only the entry of a name changes the name.
  unfold addEntry at he
  split at he
  · exact of_flag he ▸ h
  split at he
  · obtain ⟨a, ha, he⟩ := bind_eq_ok he
    exact of_flag he ▸ renameChecked_setAccess h ha
  split at he
  · obtain ⟨a, ha, he⟩ := bind_eq_ok he
    exact of_flag he ▸ renameChecked_setAccess h ha
  split at he
  · obtain ⟨name, -, he⟩ := bind_eq_ok he
    obtain ⟨⟨⟩, hname, he⟩ := bind_eq_ok he
    split at he
    · cases he
    · cases he
      intro name' hname'
      cases hname'
      exact checkMemberName_eq_ok.1 hname
  split at he
  · obtain ⟨docs, -, he⟩ := bind_eq_ok he
    cases he
    exact h
  split at he
  · cases he
  · cases he

theorem renameChecked_ofAttributes {collect : Bool} {attributes : List Attribute} {attrs : FieldAttributes}
    (h : ofAttributes collect attributes = .ok attrs) : attrs.RenameChecked := by
  refine foldlM_invariant (P := RenameChecked) (fun a attr a' ha hattr => ?_) (by nofun) h
  cases attr with
  | doc value =>
    obtain ⟨docs, -, rfl⟩ := map_eq_ok hattr
    exact ha
  | docList =>
    obtain ⟨docs, -, rfl⟩ := map_eq_ok hattr
    exact ha
  | bare => cases hattr
  | reflect entries => exact foldlM_invariant (fun a e a' => renameChecked_addEntry) ha hattr
  | other =>
    cases hattr
    exact ha

end FieldAttributes

/-! ## Members of values -/

/-- Each member has a name that text can be read as. -/
theorem plainName_of_shown {collect : Bool} {item : Item} (hidents : ∀ f ∈ item.fields, Code.IsIdentifier f.ident)
    {f : ShownField} (hf : f ∈ item.shown collect) : PlainName f.name := by
  obtain ⟨g, hg, hshown⟩ := List.mem_filterMap.1 hf
  obtain ⟨rfl, hattrs⟩ := attributes_of_shown hshown
  rw [ShownField.name]
  cases hrename : f.attrs.rename with
  | none => exact Code.plainName_of_isIdentifier (hidents f.field hg)
  | some name => exact FieldAttributes.renameChecked_ofAttributes hattrs name hrename

namespace Plan
variable {collect : Bool} {item : Item} {plan : Plan} (h : ofItem collect item = .ok plan)
  (typeOf : List Code.Token → Ty) (type : Ty) (state : String → Value) (fields : List HiddenField) (hidden : List Value)
include h

/-- A name stands for the member that shows it. -/
theorem member?_info_eq_some {name : String} {m : MemberInfo} :
    (plan.info typeOf type).member? name = some m ↔
      ∃ (i : Nat) (f : ShownField), (item.shown collect)[i]? = some f ∧ f.name = name ∧ m = f.info typeOf i := by
  have hmember : ∀ i,
      (plan.info typeOf type).memberAt? i = (item.shown collect)[i]?.map (ShownField.info typeOf · i) := by
    intro i
    rw [memberAt?_info, getElem?_members h, Option.map_map]
    rfl
  constructor
  · intro hm
    obtain ⟨hname, hat⟩ := StructInfo.member?_eq_some hm
    rw [hmember] at hat
    obtain ⟨f, hf, hinfo⟩ := Option.map_eq_some_iff.1 hat
    exact ⟨_, f, hf, (congrArg MemberInfo.name hinfo).trans hname, hinfo.symm⟩
  · rintro ⟨i, f, hf, rfl, rfl⟩
    have hname : plan.nameAt? i = some f.name := by
      rw [(select_index h i).2.2, getElem?_members h, hf]
      rfl
    rw [StructInfo.member?, (indexOf?_info typeOf type h f.name i).2 hname, Option.bind_some, hmember, hf,
      Option.map_some]

/-- A segment leads to a member if it is its name, and the member may be used. -/
theorem find_value_iff {mode : Mode} {p : List Segment} {i : Nat} {x : Value} :
    (plan.value typeOf type state fields hidden).find mode 0 p = .ok ([.member i], x) ↔
      ∃ f, (item.shown collect)[i]? = some f ∧ p = [.member f.name] ∧ mode.allows f.attrs.access = true ∧
        x = state f.field.ident := by
  have hchild : ∀ i, (plan.value typeOf type state fields hidden).child? (.member i) =
      (item.shown collect)[i]?.map fun f => state f.field.ident := by
    intro i
    rw [value, Value.child?_struct, List.getElem?_map, getElem?_members h, Option.map_map]
    rfl
  constructor
  · intro hfind
    cases p with
    | nil => cases hfind
    | cons s rest =>
      obtain ⟨slot, y, later, hs, hlater, hplace⟩ := Value.find_cons_eq_ok hfind
      -- The place is one slot, so there is no further segment.
      obtain ⟨rfl, rfl⟩ : .member i = slot ∧ [] = later := by
        simpa [value, Value.chain] using hplace
      have hrest : rest = [] := by
        cases rest with
        | nil => rfl
        | cons t rest =>
          obtain ⟨_, _, _, -, -, hplace⟩ := Value.find_cons_eq_ok hlater
          simp at hplace
      subst hrest
      cases hlater
      obtain ⟨w, hw, hslot, hx⟩ := Value.step_eq_ok hs
      cases hw
      cases s with
      | index j => cases Value.slot?_index hslot
      | member name =>
        obtain ⟨info, m, hinfo, hm, hallows, hindex⟩ := Value.slot?_member hslot
        cases hinfo
        obtain ⟨j, f, hf, rfl, rfl⟩ := (member?_info_eq_some h typeOf type).1 hm
        obtain rfl : i = j := Slot.member.inj hindex
        rw [hchild, hf] at hx
        exact ⟨f, hf, rfl, hallows, (Option.some.inj hx).symm⟩
  · rintro ⟨f, hf, rfl, hallows, rfl⟩
    have hm := (member?_info_eq_some h typeOf type).2 ⟨i, f, hf, rfl, rfl⟩
    have hslot : (plan.value typeOf type state fields hidden).slot? mode (.member f.name) = some (.member i) := by
      simp only [Value.slot?, Value.slotBy, value, Value.info, hm, Option.bind_some]
      exact if_pos hallows
    have hstep : (plan.value typeOf type state fields hidden).step (mode.before []) (.member f.name) =
        .ok (.member i, state f.field.ident) := by
      rw [Mode.before_nil]
      exact Value.step_ok rfl hslot (by rw [hchild, hf, Option.map_some])
    rw [Value.find_ok hstep]
    rfl

end Plan

/-- What text exposes. A name is accepted for a member if it is read as the one segment of that name. In each
value of a struct that is accepted, the text of a path leads to a member if it is read as the name of the member,
so a readable member is what is read under its name, and no text leads to two members. -/
theorem exposed_names :
    (∀ name, checkMemberName name = .ok () ↔ (Path.parse name).map Path.segments = .ok [.member name]) ∧
    ∀ (collect : Bool) (item : Item) (plan : Plan) (typeOf : List Code.Token → Ty) (type : Ty)
      (state : String → Value) (fields : List HiddenField) (hidden : List Value), Plan.ofItem collect item = .ok plan →
      (∀ f ∈ item.fields, Code.IsIdentifier f.ident) →
        let v := plan.value typeOf type state fields hidden
        let leads (mode : Mode) (text : String) (i : Nat) : Prop :=
          ∃ p x, (Route.text text).segments = .ok p ∧ v.find mode 0 p = .ok ([.member i], x)
        (∀ i f, (item.shown collect)[i]? = some f →
          (Path.parse f.name).map Path.segments = .ok [.member f.name] ∧
          (f.attrs.access.isReadable = true →
            (get .direct v (.text f.name) ()).result = .ok (state f.field.ident) ∧
            readPlace? .direct v (.text f.name) () = some [.member i]) ∧
          ∀ mode text, leads mode text i ↔
            mode.allows f.attrs.access = true ∧ (Path.parse text).map Path.segments = .ok [.member f.name]) ∧
        ∀ mode mode' text i j, leads mode text i → leads mode' text j → i = j := by
  refine ⟨fun name => checkMemberName_eq_ok.trans plainName_iff_parse, ?_⟩
  intro collect item plan typeOf type state fields hidden h hidents v leads
  have hleads : ∀ mode text i, leads mode text i ↔ ∃ f, (item.shown collect)[i]? = some f ∧
      mode.allows f.attrs.access = true ∧ (Path.parse text).map Path.segments = .ok [.member f.name] := by
    intro mode text i
    constructor
    · rintro ⟨p, x, hp, hfind⟩
      obtain ⟨f, hf, rfl, hallows, -⟩ := (Plan.find_value_iff h typeOf type state fields hidden).1 hfind
      exact ⟨f, hf, hallows, hp⟩
    · rintro ⟨f, hf, hallows, hp⟩
      exact ⟨_, _, hp, (Plan.find_value_iff h typeOf type state fields hidden).2 ⟨f, hf, rfl, hallows, rfl⟩⟩
  refine ⟨fun i f hf => ⟨?_, fun hreadable => ?_, fun mode text => ?_⟩, fun mode mode' text i j hi hj => ?_⟩
  · exact plainName_iff_parse.1 (plainName_of_shown hidents (List.mem_of_getElem? hf))
  · have hp : (Route.text f.name).segments = .ok [.member f.name] :=
      plainName_iff_parse.1 (plainName_of_shown hidents (List.mem_of_getElem? hf))
    have hfind : v.find .read 0 [.member f.name] = .ok ([.member i], state f.field.ident) :=
      (Plan.find_value_iff h typeOf type state fields hidden).2 ⟨f, hf, rfl, hreadable, rfl⟩
    constructor
    · rw [get_route hp, hfind]
      rfl
    · rw [readPlace?, hp]
      show (v.find .read 0 [.member f.name]).toOption.map Prod.fst = _
      rw [hfind]
      rfl
  · rw [hleads]
    constructor
    · rintro ⟨g, hg, hallows, hp⟩
      cases hf.symm.trans hg
      exact ⟨hallows, hp⟩
    · exact fun ⟨hallows, hp⟩ => ⟨f, hf, hallows, hp⟩
  · -- Both members have the one name that the text is read as.
    obtain ⟨f, hf, -, hp⟩ := (hleads mode text i).1 hi
    obtain ⟨g, hg, -, hp'⟩ := (hleads mode' text j).1 hj
    have hname : f.name = g.name := by simpa using hp.symm.trans hp'
    have hi := (Plan.member?_info_eq_some h typeOf type).2 ⟨i, f, hf, rfl, rfl⟩
    have hj := (Plan.member?_info_eq_some h typeOf type).2 ⟨j, g, hg, hname.symm, rfl⟩
    exact congrArg MemberInfo.index (Option.some.inj (hi.symm.trans hj))

/-- A raw name, a chosen one, and a digit that is none of `0` to `9`. -/
theorem exposed_names_raw :
    let item : Item := { Item.player with fields := ⟨"r#type", [.ident "u8"], []⟩ :: Item.player.fields }
    let state (field : String) : Value := .scalar (.string field)
    ∃ plan, Plan.ofItem false item = .ok plan ∧
      (let v := plan.value (fun _ => .i32) (.struct ⟨none, "Player"⟩ []) state [] []
      (get .direct v (.text "r#type") ()).result = .ok (state "r#type") ∧
      (get .direct v (.text "hitPoints") ()).result = .ok (state "hit_points") ∧
      ∃ p x, (Route.text ".hitPoints]").segments = .ok p ∧ v.find .write 0 p = .ok ([.member 2], x)) ∧
      checkMemberName "٢" = .ok () := by
  intro item state
  obtain ⟨plan, h⟩ : ∃ plan, Plan.ofItem false item = .ok plan := ⟨_, rfl⟩
  have hidents : ∀ f ∈ item.fields, Code.IsIdentifier f.ident := by
    unfold Code.IsIdentifier
    decide +kernel
  obtain ⟨hchecked, hmembers⟩ := exposed_names
  obtain ⟨hshown, -⟩ := hmembers false item plan (fun _ => .i32) (.struct ⟨none, "Player"⟩ []) state [] [] h hidents
  obtain ⟨-, hraw, -⟩ := hshown 0 _ rfl
  obtain ⟨-, hchosen, hleads⟩ := hshown 2 _ rfl
  refine ⟨plan, h, ⟨(hraw rfl).1, (hchosen rfl).1, (hleads .write ".hitPoints]").2 ⟨rfl, ?_⟩⟩, (hchecked "٢").2 ?_⟩
  · rw [Path.parse_eq_ite]
    decide
  · rw [Path.parse_eq_ite]
    decide

end Derive

end Reflection
