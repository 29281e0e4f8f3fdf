import Mathlib.Data.List.Induction
import Reflection.Proofs.Acceptance
/-!
# Docs as they are collected

Docs are collected while attributes are taken, by a state that can be switched off and can turn from default lines
to custom ones. What comes of it depends on the lines of either kind, and not on how they are mixed (`documented`):
after each directive the state says what the directives so far say (`Docs.Collected`). Docs and all else that is
taken from attributes are independent of each other (`KeepsDocs`, `foldlM_takeDirective`).
-/

namespace Reflection.Derive

/-! ## What the docs are -/

namespace Directive

def isDocs : Directive → Bool
  | .docs _ | .docsList => true
  | .bare => false
  | .entry e => e.key = "doc"

/-- Docs as they should be: a doc attribute has a text, an entry for docs a text or `false`. -/
def ProperDocs : Directive → Prop
  | .docs value => ∃ line, value = .text line
  | .docsList => False
  | .bare => True
  | .entry e => e.key = "doc" → e.assigned.IsDocs

def defaultLine? : Directive → Option String
  | .docs (.text line) => some line
  | _ => none

def customLine? : Directive → Option String
  | .entry ⟨key, .value (.text line)⟩ => if key = "doc" then some line else none
  | _ => none

/-- Whether there are to be no docs. -/
def refusesDocs : Directive → Bool
  | .entry ⟨key, .value (.bool false)⟩ => key = "doc"
  | _ => false

end Directive

/-- A line without one space in front of it. -/
def withoutSpace (line : String) : String :=
  if line.toList.head? = some ' ' then String.ofList line.toList.tail else line

def defaultLines (directives : List Directive) : List String := directives.filterMap Directive.defaultLine?

def customLines (directives : List Directive) : List String := directives.filterMap Directive.customLine?

def refused (directives : List Directive) : Bool := directives.any Directive.refusesDocs

/-- The docs that directives give: none if one of them refuses docs, or if all lines are blank. Where there are custom
lines, the default ones do not count. -/
def documented (directives : List Directive) : Option String :=
  let lines := if (customLines directives).isEmpty then defaultLines directives else customLines directives
  if refused directives then none
  else if lines.all (·.toList.all Code.isBlank) then none
  else some ("\n".intercalate (lines.map withoutSpace))

/-- The docs that are recorded: those that directives give, if docs are collected at all. -/
def recorded (collect : Bool) (directives : List Directive) : Option String :=
  if collect then documented directives else none

variable {collect : Bool}

/-! ## Docs alone -/

theorem dropSpace_eq (line : String) : Docs.dropSpace line = withoutSpace line := by
  unfold Docs.dropSpace withoutSpace
  split
  · rename_i cs h
    rw [h]
    rfl
  · rename_i h
    refine (if_neg fun hhead => ?_).symm
    obtain ⟨cs, hcs⟩ := List.head?_eq_some_iff.1 hhead
    exact h cs hcs

theorem filterMap_concat {α β : Type} (f : α → Option β) (as : List α) (a : α) :
    (as ++ [a]).filterMap f = as.filterMap f ++ (f a).toList := by
  rw [List.filterMap_append]
  cases h : f a with
  | none => rw [List.filterMap_cons_none h]; rfl
  | some b => rw [List.filterMap_cons_some h]; rfl

theorem refused_concat (ds : List Directive) (d : Directive) : refused (ds ++ [d]) = (refused ds || d.refusesDocs) := by
  simp [refused]

/-- What the docs are after the directives. -/
structure Docs.Collected (collect : Bool) (directives : List Directive) (docs : Docs) : Prop where
  enabled : docs.enabled = (collect && !refused directives)
  custom : docs.custom = !(customLines directives).isEmpty
  lines : docs.enabled = true →
    docs.lines = if docs.custom then customLines directives else defaultLines directives

namespace Docs.Collected
variable {ds : List Directive} {docs : Docs} {d : Directive}

/-- What a directive has to make of the docs. -/
theorem concat (h : docs.Collected collect ds) {docs' : Docs}
    (henabled : docs'.enabled = (docs.enabled && !d.refusesDocs))
    (hcustom : docs'.custom = (docs.custom || d.customLine?.isSome))
    (hlines : docs'.enabled = true → docs'.lines =
      if docs'.custom then (if docs.custom then docs.lines else []) ++ d.customLine?.toList
      else docs.lines ++ d.defaultLine?.toList) : docs'.Collected collect (ds ++ [d]) := by
  have hcustomLines : customLines (ds ++ [d]) = customLines ds ++ d.customLine?.toList := filterMap_concat _ _ _
  have hdefaultLines : defaultLines (ds ++ [d]) = defaultLines ds ++ d.defaultLine?.toList := filterMap_concat _ _ _
  refine ⟨?_, ?_, fun hon => ?_⟩
  · rw [henabled, h.enabled, refused_concat, Bool.not_or, Bool.and_assoc]
  · rw [hcustom, h.custom, hcustomLines]
    cases d.customLine? <;> simp
  · have honBefore : docs.enabled = true := by
      rw [henabled, Bool.and_eq_true] at hon
      exact hon.1
    rw [hlines hon, h.lines honBefore, hcustomLines, hdefaultLines]
    cases hmode : docs.custom with
    | true => simp [hcustom, hmode]
    | false =>
      have hnone : customLines ds = [] := by simpa [hmode] using h.custom
      simp [hnone]

end Docs.Collected

/-- Takes a directive for docs, where there is nothing but docs. -/
def Docs.take : Docs → Directive → Except DeriveError Docs :=
  takeDirective (fun docs => docs) (fun _ docs => docs) fun docs e => docs.addEntry e.assigned

theorem Docs.take_docs (docs : Docs) (value : Literal) : docs.take (.docs value) = docs.addDefault value :=
  congrFun Except.map_id _

theorem Docs.take_docsList (docs : Docs) : docs.take .docsList = docs.addList := congrFun Except.map_id _

theorem Docs.Collected.take {ds : List Directive} {docs : Docs} {d : Directive} (h : docs.Collected collect ds)
    (hdocs : d.isDocs = true) (hproper : d.ProperDocs) :
    ∃ docs', docs.take d = .ok docs' ∧ docs'.Collected collect (ds ++ [d]) := by
  cases d with
  | docs value =>
    obtain ⟨line, rfl⟩ := hproper
    by_cases hopen : (docs.enabled && !docs.custom) = true
    · have hmode : docs.custom = false := by simp_all
      refine ⟨{ docs with lines := docs.lines ++ [line] }, ?_, h.concat ?_ ?_ fun _ => ?_⟩
      · simp [Docs.take_docs, Docs.addDefault, hopen]
      · simp [Directive.refusesDocs]
      · simp [Directive.customLine?]
      · simp [hmode, Directive.defaultLine?]
    · refine ⟨docs, ?_, h.concat ?_ ?_ fun hon => ?_⟩
      · simp [Docs.take_docs, Docs.addDefault, hopen]
      · simp [Directive.refusesDocs]
      · simp [Directive.customLine?]
      · have hmode : docs.custom = true := by simpa [hon] using hopen
        simp [hmode, Directive.customLine?]
  | docsList => exact hproper.elim
  | bare => cases hdocs
  | entry e =>
    obtain ⟨key, assigned⟩ := e
    obtain rfl : key = "doc" := by simpa [Directive.isDocs] using hdocs
    obtain ⟨line, rfl⟩ | rfl : Assigned.IsDocs assigned := hproper rfl
    · refine ⟨_, rfl, h.concat ?_ ?_ fun _ => ?_⟩
      · simp [Directive.refusesDocs]
      · simp [Directive.customLine?]
      · simp [Directive.customLine?]
    · refine ⟨_, rfl, h.concat ?_ ?_ nofun⟩
      · simp [Directive.refusesDocs]
      · simp [Directive.customLine?]

/-- The induction is on the directives taken last, and the state goes on from what the earlier ones have left. -/
theorem Docs.collected_run (ds : List Directive) (hdocs : ∀ d ∈ ds, d.isDocs = true) (hproper : ∀ d ∈ ds, d.ProperDocs) :
    ∃ docs, ds.foldlM Docs.take (.start collect) = .ok docs ∧ docs.Collected collect ds := by
  induction ds using List.reverseRecOn with
  | nil => exact ⟨.start collect, rfl, by cases collect <;> rfl, rfl, fun _ => rfl⟩
  | append_singleton ds d ih =>
    rw [List.forall_mem_append, List.forall_mem_singleton] at hdocs hproper
    obtain ⟨docs, hrun, hcollected⟩ := ih hdocs.1 hproper.1
    obtain ⟨docs', htake, hcollected'⟩ := hcollected.take hdocs.2 hproper.2
    refine ⟨docs', ?_, hcollected'⟩
    rw [List.foldlM_append, hrun]
    show ([d].foldlM Docs.take docs) = .ok docs'
    rw [List.foldlM_cons, htake]
    rfl

theorem Docs.Collected.text? {ds : List Directive} {docs : Docs} (h : docs.Collected collect ds) :
    docs.text? = recorded collect ds := by
  unfold Docs.text? recorded documented
  cases hon : docs.enabled with
  | false =>
    have hnone : collect = true → refused ds = true := by simpa [hon] using h.enabled
    cases collect with
    | true => simp [hnone]
    | false => rfl
  | true =>
    obtain ⟨hcollect, hrefused⟩ : collect = true ∧ refused ds = false := by simpa [hon] using h.enabled
    have hlines : docs.lines = if (customLines ds).isEmpty then defaultLines ds else customLines ds := by
      rw [h.lines hon, h.custom]
      cases (customLines ds).isEmpty <;> rfl
    have hdrop : Docs.dropSpace = withoutSpace := funext dropSpace_eq
    simp only [hcollect, hrefused, hlines, hdrop]
    rfl

/-! ## Directives for docs among others -/

section Others
variable {d : Directive} (hd : d.isDocs = false)
include hd

theorem defaultLine?_other : d.defaultLine? = none := by
  cases d with
  | docs value => cases hd
  | _ => rfl

theorem customLine?_other : d.customLine? = none := by
  unfold Directive.customLine?
  split
  · exact if_neg (of_decide_eq_false hd)
  · rfl

theorem refusesDocs_other : d.refusesDocs = false := by
  unfold Directive.refusesDocs
  split
  · exact hd
  · rfl

end Others

theorem filterMap_filter_of {α β : Type} {f : α → Option β} {p : α → Bool} (h : ∀ {a}, p a = false → f a = none)
    (as : List α) : (as.filter p).filterMap f = as.filterMap f := by
  rw [List.filterMap_filter]
  congr 1
  funext a
  cases ha : p a with
  | true => rfl
  | false => exact (h ha).symm

/-- Only directives for docs say something of docs. -/
theorem documented_filter (ds : List Directive) : documented (ds.filter Directive.isDocs) = documented ds := by
  have hdefault : defaultLines (ds.filter Directive.isDocs) = defaultLines ds := filterMap_filter_of defaultLine?_other ds
  have hcustom : customLines (ds.filter Directive.isDocs) = customLines ds := filterMap_filter_of customLine?_other ds
  have hrefused : refused (ds.filter Directive.isDocs) = refused ds := by
    rw [refused, refused, List.any_filter]
    congr 1
    funext d
    cases hd : d.isDocs with
    | true => rfl
    | false => exact (refusesDocs_other hd).symm
  rw [documented, hdefault, hcustom, hrefused]
  rfl

theorem recorded_filter (ds : List Directive) :
    recorded collect (ds.filter Directive.isDocs) = recorded collect ds := by
  rw [recorded, documented_filter]
  rfl

/-! ## Docs and all else -/

section Independence
variable {α : Type} {docs : α → Docs} {setDocs : α → Docs → α} {entry : α → Entry → Except DeriveError α}

/-- Docs are a part of what is taken from attributes. An entry for docs changes only them, and any other entry does
not depend on them. -/
structure KeepsDocs (docs : α → Docs) (setDocs : α → Docs → α) (entry : α → Entry → Except DeriveError α) : Prop where
  docs_setDocs : ∀ a d, docs (setDocs a d) = d
  setDocs_setDocs : ∀ a d d', setDocs (setDocs a d) d' = setDocs a d'
  setDocs_docs : ∀ a, setDocs a (docs a) = a
  doc : ∀ a e, e.key = "doc" → entry a e = ((docs a).addEntry e.assigned).map (setDocs a)
  other : ∀ a d e, e.key ≠ "doc" → entry (setDocs a d) e = (entry a e).map (setDocs · d)

variable (hk : KeepsDocs docs setDocs entry) {ds : List Directive} {d : Directive} {a a' : α}
include hk

theorem takeDirective_docs (hd : d.isDocs = true) (a : α) :
    takeDirective docs setDocs entry a d = ((docs a).take d).map (setDocs a) := by
  cases d with
  | docs value =>
    rw [Docs.take_docs]
    rfl
  | docsList =>
    rw [Docs.take_docsList]
    rfl
  | bare => cases hd
  | entry e => exact hk.doc a e (of_decide_eq_true hd)

theorem takeDirective_other (hd : d.isDocs = false) (a : α) (x : Docs) :
    takeDirective docs setDocs entry (setDocs a x) d = (takeDirective docs setDocs entry a d).map (setDocs · x) := by
  cases d with
  | docs value => cases hd
  | docsList => cases hd
  | bare => rfl
  | entry e => exact hk.other a x e (of_decide_eq_false hd)

theorem docs_of_takeDirective (hd : d.isDocs = false) (h : takeDirective docs setDocs entry a d = .ok a') :
    docs a' = docs a := by
  have hself := takeDirective_other hk hd a (docs a)
  rw [hk.setDocs_docs, h] at hself
  rw [← Except.ok.inj hself.symm]
  exact hk.docs_setDocs a' (docs a)

theorem foldlM_other (hds : ∀ d ∈ ds, d.isDocs = false) (a : α) (x : Docs) :
    ds.foldlM (takeDirective docs setDocs entry) (setDocs a x) =
      (ds.foldlM (takeDirective docs setDocs entry) a).map (setDocs · x) := by
  induction ds generalizing a with
  | nil => rfl
  | cons d ds ih =>
    obtain ⟨hd, hds⟩ := List.forall_mem_cons.1 hds
    rw [List.foldlM_cons, List.foldlM_cons, takeDirective_other hk hd]
    cases takeDirective docs setDocs entry a d with
    | error e => rfl
    | ok a' => exact ih hds a'

/-- Directives come to what those not for docs come to, with the docs that those for docs come to by themselves. -/
theorem foldlM_takeDirective {docs' : Docs} (hrun : (ds.filter Directive.isDocs).foldlM Docs.take (docs a) = .ok docs') :
    ds.foldlM (takeDirective docs setDocs entry) a =
      ((ds.filter (!·.isDocs)).foldlM (takeDirective docs setDocs entry) a).map (setDocs · docs') := by
  induction ds generalizing a with
  | nil =>
    obtain rfl : docs a = docs' := Except.ok.inj hrun
    exact congrArg Except.ok (hk.setDocs_docs a).symm
  | cons d ds ih =>
    cases hd : d.isDocs with
    | true =>
      rw [List.filter_cons_of_pos hd, List.foldlM_cons] at hrun
      obtain ⟨x, hx, hrun⟩ := bind_eq_ok hrun
      -- The docs so far are set once more at the end, so it does not matter that the others go on from them.
      have hrest : ∀ d ∈ ds.filter (!·.isDocs), d.isDocs = false := by simp
      have htake : takeDirective docs setDocs entry a d = .ok (setDocs a x) := by
        rw [takeDirective_docs hk hd, hx]
        rfl
      rw [List.filter_cons_of_neg (by simp [hd]), List.foldlM_cons, htake]
      refine (ih (a := setDocs a x) (by rwa [hk.docs_setDocs])).trans ?_
      rw [foldlM_other hk hrest]
      cases (ds.filter (!·.isDocs)).foldlM (takeDirective docs setDocs entry) a with
      | error e => rfl
      | ok a' => exact congrArg Except.ok (hk.setDocs_setDocs a' x docs')
    | false =>
      rw [List.filter_cons_of_neg (by simp [hd])] at hrun
      rw [List.filter_cons_of_pos (by simp [hd]), List.foldlM_cons, List.foldlM_cons]
      cases htake : takeDirective docs setDocs entry a d with
      | error e => rfl
      | ok a' => exact ih (by rwa [docs_of_takeDirective hk hd htake])

end Independence

theorem TypeAttributes.keepsDocs :
    KeepsDocs TypeAttributes.docs (fun a docs => { a with docs }) TypeAttributes.addEntry := by
  refine ⟨fun _ _ => rfl, fun _ _ _ => rfl, fun _ => rfl, fun a e he => ?_, fun a x e he => ?_⟩
  · rw [addEntry, if_neg (by simp [he]), if_pos he]
    rfl
  · obtain ⟨typePath, docs⟩ := a
    unfold addEntry
    by_cases hpath : e.key = "type_path"
    · rw [if_pos hpath, if_pos hpath]
      cases e.textValue with
      | error _ => rfl
      | ok text =>
        cases typePath with
        | some _ => rfl
        | none =>
          show (CustomPath.ofText text >>= _ : Except DeriveError TypeAttributes) =
            Except.map _ (CustomPath.ofText text >>= _)
          cases CustomPath.ofText text <;> rfl
    · rw [if_neg hpath, if_neg hpath, if_neg he, if_neg he]
      split <;> rfl

theorem FieldAttributes.setAccess_docs (a : FieldAttributes) (x : Docs) (access : Access) :
    FieldAttributes.setAccess { a with docs := x } access = (a.setAccess access).map ({ · with docs := x }) := by
  unfold setAccess
  split <;> rfl

theorem Entry.flag_map {α β : Type} (e : Entry) (f : α → β) (a : α) : e.flag (f a) = (e.flag a).map f := by
  unfold flag
  split <;> rfl

theorem FieldAttributes.keepsDocs :
    KeepsDocs FieldAttributes.docs (fun a docs => { a with docs }) FieldAttributes.addEntry := by
  refine ⟨fun _ _ => rfl, fun _ _ _ => rfl, fun _ => rfl, fun a e he => ?_, fun a x e he => ?_⟩
  · simp [addEntry, he]
    rfl
  · have haccess : ∀ access, (FieldAttributes.setAccess { a with docs := x } access >>= e.flag) =
        (a.setAccess access >>= e.flag).map ({ · with docs := x }) := by
      intro access
      rw [setAccess_docs]
      cases a.setAccess access with
      | error _ => rfl
      | ok a' => exact e.flag_map ({ · with docs := x }) a'
    unfold addEntry
    by_cases hskip : e.key = "skip"
    · rw [if_pos hskip, if_pos hskip]
      exact e.flag_map ({ · with docs := x }) { a with skip := true }
    rw [if_neg hskip, if_neg hskip]
    by_cases hreadOnly : e.key = "readonly"
    · rw [if_pos hreadOnly, if_pos hreadOnly]
      exact haccess .readOnly
    rw [if_neg hreadOnly, if_neg hreadOnly]
    by_cases hwriteOnly : e.key = "writeonly"
    · rw [if_pos hwriteOnly, if_pos hwriteOnly]
      exact haccess .writeOnly
    rw [if_neg hwriteOnly, if_neg hwriteOnly]
    by_cases hrename : e.key = "rename"
    · rw [if_pos hrename, if_pos hrename]
      cases e.textValue with
      | error _ => rfl
      | ok name =>
        obtain ⟨skip, access, rename, docs⟩ := a
        show (checkMemberName name >>= _ : Except DeriveError FieldAttributes) =
          Except.map _ (checkMemberName name >>= _)
        cases checkMemberName name with
        | error _ => rfl
        | ok _ => cases rename <;> rfl
    rw [if_neg hrename, if_neg hrename, if_neg he, if_neg he]
    split <;> rfl

/-! ## The docs of types and of members -/

/-- An attribute without what it says of docs. -/
def Attribute.withoutDocs? : Attribute → Option Attribute
  | .doc _ | .docList => none
  | .reflect entries => some (.reflect (entries.filter (·.key ≠ "doc")))
  | attr => some attr

def withoutDocs (attrs : List Attribute) : List Attribute := attrs.filterMap Attribute.withoutDocs?

theorem directives_withoutDocs? (attr : Attribute) :
    attr.withoutDocs?.toList.flatMap Attribute.directives = attr.directives.filter (!·.isDocs) := by
  cases attr with
  | reflect entries =>
    rw [Attribute.directives, List.filter_map]
    simp only [Attribute.withoutDocs?, Option.toList_some, List.flatMap_singleton, Attribute.directives, decide_not]
    rfl
  | _ => rfl

theorem directivesOf_withoutDocs (attrs : List Attribute) :
    directivesOf (withoutDocs attrs) = (directivesOf attrs).filter (!·.isDocs) := by
  rw [directivesOf, directivesOf, withoutDocs, List.filterMap_eq_flatMap_toList, List.flatMap_assoc, List.filter_flatMap]
  exact congrArg (attrs.flatMap ·) (funext directives_withoutDocs?)

theorem foldAttributes_withoutDocs {α : Type} {docs : α → Docs} {setDocs : α → Docs → α}
    {entry : α → Entry → Except DeriveError α} (hk : KeepsDocs docs setDocs entry) {start : α}
    (hstart : docs start = .start collect) (attrs : List Attribute) {docs' : Docs}
    (hrun : ((directivesOf attrs).filter Directive.isDocs).foldlM Docs.take (.start collect) = .ok docs') :
    foldAttributes docs setDocs entry start attrs =
      (foldAttributes docs setDocs entry start (withoutDocs attrs)).map (setDocs · docs') := by
  rw [foldAttributes_eq, foldAttributes_eq, directivesOf_withoutDocs]
  exact foldlM_takeDirective hk (hstart ▸ hrun)

section Collected
variable {attrs : List Attribute} (hproper : ∀ d ∈ directivesOf attrs, d.ProperDocs)
include hproper

/-- The docs of proper attributes are always collected, and all else is taken as if there were none. -/
theorem collected_ofAttributes (collect : Bool) :
    ∃ docs : Docs, docs.text? = recorded collect (directivesOf attrs) ∧
      TypeAttributes.ofAttributes collect attrs =
        (TypeAttributes.ofAttributes collect (withoutDocs attrs)).map ({ · with docs := docs }) ∧
      FieldAttributes.ofAttributes collect attrs =
        (FieldAttributes.ofAttributes collect (withoutDocs attrs)).map ({ · with docs := docs }) := by
  obtain ⟨docs, hrun, hcollected⟩ := Docs.collected_run ((directivesOf attrs).filter Directive.isDocs)
    (fun d hd => (List.mem_filter.1 hd).2) fun d hd => hproper d (List.mem_of_mem_filter hd)
  refine ⟨docs, hcollected.text?.trans (recorded_filter _), ?_, ?_⟩
  · exact foldAttributes_withoutDocs TypeAttributes.keepsDocs rfl attrs hrun
  · exact foldAttributes_withoutDocs FieldAttributes.keepsDocs rfl attrs hrun

theorem text?_of_typeAttributes {a : TypeAttributes} (h : TypeAttributes.ofAttributes collect attrs = .ok a) :
    a.docs.text? = recorded collect (directivesOf attrs) := by
  obtain ⟨docs, htext, htype, -⟩ := collected_ofAttributes hproper collect
  obtain ⟨a', -, rfl⟩ := map_eq_ok (htype.symm.trans h)
  exact htext

theorem text?_of_fieldAttributes {a : FieldAttributes} (h : FieldAttributes.ofAttributes collect attrs = .ok a) :
    a.docs.text? = recorded collect (directivesOf attrs) := by
  obtain ⟨docs, htext, -, hfield⟩ := collected_ofAttributes hproper collect
  obtain ⟨a', -, rfl⟩ := map_eq_ok (hfield.symm.trans h)
  exact htext

end Collected

/-- The docs that are derived from attributes, of a type or of a member. Where docs are proper, they are no reason to
refuse anything. -/
theorem docs_collected (collect : Bool) (attrs : List Attribute) (hproper : ∀ d ∈ directivesOf attrs, d.ProperDocs) :
    (∃ docs : Docs, docs.text? = recorded collect (directivesOf attrs) ∧
      TypeAttributes.ofAttributes collect attrs =
        (TypeAttributes.ofAttributes collect (withoutDocs attrs)).map ({ · with docs := docs }) ∧
      FieldAttributes.ofAttributes collect attrs =
        (FieldAttributes.ofAttributes collect (withoutDocs attrs)).map ({ · with docs := docs })) ∧
    ∀ (item : Item) (plan : Plan), Plan.ofItem collect item = .ok plan → ∀ (typeOf : List Code.Token → Ty) (type : Ty),
      let info := plan.info typeOf type
      (item.attrs = attrs →
        plan.docs = recorded collect (directivesOf attrs) ∧ info.docs = recorded collect (directivesOf attrs)) ∧
      ∀ i f, (item.shown collect)[i]? = some f → f.field.attrs = attrs →
        plan.members[i]?.map PlannedMember.docs = some (recorded collect (directivesOf attrs)) ∧
        (info.memberAt? i).map MemberInfo.docs = some (recorded collect (directivesOf attrs)) := by
  refine ⟨collected_ofAttributes hproper collect, ?_⟩
  intro item plan h typeOf type info
  constructor
  · rintro rfl
    obtain ⟨a, ha, -, hplan⟩ := Plan.ofItem_eq_ok h
    have hdocs : plan.docs = recorded collect (directivesOf item.attrs) := by
      rw [hplan]
      exact text?_of_typeAttributes hproper ha
    exact ⟨hdocs, hdocs⟩
  · rintro i f hf rfl
    obtain ⟨g, -, hshown⟩ := List.mem_filterMap.1 (List.mem_of_getElem? hf)
    obtain ⟨rfl, ha⟩ := attributes_of_shown hshown
    have hmember : plan.members[i]?.map PlannedMember.docs = some (recorded collect (directivesOf f.field.attrs)) := by
      rw [Plan.getElem?_members h, hf, Option.map_some, Option.map_some, ← text?_of_fieldAttributes hproper ha]
      rfl
    refine ⟨hmember, ?_⟩
    rw [Plan.memberAt?_info, Option.map_map]
    exact hmember

/-- Two custom lines among default ones, and a type with a custom line whose docs are refused before it. -/
theorem docs_collected_custom :
    let refusing : List Attribute :=
      [.doc (.text " Text."), .reflect [⟨"doc", .value (.bool false)⟩, ⟨"doc", .value (.text "Custom.")⟩]]
    let custom : List Attribute :=
      [ .doc (.text " Before."),
        .reflect [⟨"rename", .value (.text "hitPoints")⟩, ⟨"doc", .value (.text " Custom one.")⟩],
        .doc (.text " Between."), .other, .reflect [⟨"doc", .value (.text "Custom two.")⟩], .doc (.text " After.") ]
    let item : Item := { Item.player with attrs := refusing, fields := [⟨"hit_points", [.ident "u32"], custom⟩] }
    ∃ plan, Plan.ofItem true item = .ok plan ∧ plan.docs = none ∧
      plan.members[0]?.map PlannedMember.docs = some (some "Custom one.\nCustom two.") := by
  intro refusing custom item
  obtain ⟨plan, h⟩ : ∃ plan, Plan.ofItem true item = .ok plan := ⟨_, rfl⟩
  have hrefusing : ∀ d ∈ directivesOf refusing, d.ProperDocs := by
    simp [refusing, directivesOf, Attribute.directives, Directive.ProperDocs, Assigned.IsDocs]
  have hcustom : ∀ d ∈ directivesOf custom, d.ProperDocs := by
    simp [custom, directivesOf, Attribute.directives, Directive.ProperDocs, Assigned.IsDocs]
  obtain ⟨htype, -⟩ := (docs_collected true refusing hrefusing).2 item plan h (fun _ => .i32) .i32
  obtain ⟨-, hmembers⟩ := (docs_collected true custom hcustom).2 item plan h (fun _ => .i32) .i32
  exact ⟨plan, h, (htype rfl).1.trans rfl, (hmembers 0 _ rfl rfl).1.trans rfl⟩

end Reflection.Derive
