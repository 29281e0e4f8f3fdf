import Reflection.Proofs.Members
import Reflection.Proofs.Results
/-!
# Checks in order

An item is checked in a fixed order: parameters, shape, the attributes of the type, then field by field its
attributes and its name (`Item.checks`). What is checked of an entry depends on the entries before it, and on
nothing else. The first check that is violated ends the derivation with its error, and if there is none, it
succeeds (`ends_ofItem`); the attributes that come out of it are those that the entries say
(`FieldAttributes.Reads`).
-/

namespace Reflection.Derive

/-! ## Directives -/

/-- One thing that attributes direct. -/
inductive Directive
  | docs (value : Literal)
  | docsList
  | bare
  | entry (e : Entry)

def Attribute.directives : Attribute → List Directive
  | .doc value => [.docs value]
  | .docList => [.docsList]
  | .bare => [.bare]
  | .reflect entries => entries.map .entry
  | .other => []

/-- The directives of attributes, in the order of the source. -/
def directivesOf (attrs : List Attribute) : List Directive := attrs.flatMap Attribute.directives

def Directive.entry? : Directive → Option Entry
  | .entry e => some e
  | _ => none

def entriesIn (directives : List Directive) : List Entry := directives.filterMap Directive.entry?

/-- The entries of attributes, however they are grouped. -/
def entriesOf (attrs : List Attribute) : List Entry := entriesIn (directivesOf attrs)

@[simp] theorem entriesIn_append (ds es : List Directive) : entriesIn (ds ++ es) = entriesIn ds ++ entriesIn es :=
  List.filterMap_append

section Attributes
variable {α : Type} (docs : α → Docs) (setDocs : α → Docs → α) (entry : α → Entry → Except DeriveError α)

/-- Takes one directive. -/
def takeDirective (a : α) : Directive → Except DeriveError α
  | .docs value => ((docs a).addDefault value).map (setDocs a)
  | .docsList => (docs a).addList.map (setDocs a)
  | .bare => .error .noArguments
  | .entry e => entry a e

theorem foldAttributes_eq (start : α) (attrs : List Attribute) :
    foldAttributes docs setDocs entry start attrs =
      (directivesOf attrs).foldlM (takeDirective docs setDocs entry) start := by
  induction attrs generalizing start with
  | nil => rfl
  | cons attr attrs ih =>
    have hattr : foldAttributes docs setDocs entry start (attr :: attrs) =
        attr.directives.foldlM (takeDirective docs setDocs entry) start >>=
          fun a => foldAttributes docs setDocs entry a attrs := by
      rw [foldAttributes, List.foldlM_cons]
      congr 1
      cases attr with
      | reflect entries =>
        rw [Attribute.directives, List.foldlM_map]
        rfl
      | other => rfl
      | _ => exact (bind_pure _).symm
    rw [hattr, directivesOf, List.flatMap_cons, List.foldlM_append]
    exact congrArg _ (funext ih)

end Attributes

/-- The error of a check, if the check is violated. -/
abbrev Check := Option DeriveError

/-! ## Entries -/

/-- Whether an entry has the key. -/
def hasKey (key : String) (entries : List Entry) : Bool := entries.any (·.key == key)

theorem hasKey_concat (key : String) (entries : List Entry) (e : Entry) :
    hasKey key (entries ++ [e]) = (hasKey key entries || e.key == key) := by
  simp [hasKey]

theorem hasKey_iff {key : String} {entries : List Entry} : hasKey key entries = true ↔ ∃ e ∈ entries, e.key = key := by
  simp [hasKey]

namespace Entry

/-- A mere key has no value. -/
def flagCheck (e : Entry) : Check := violated (e.assigned ≠ .nothing) .unwantedValue

/-- A key with a text has one that passes further checks. -/
def textChecks (e : Entry) (checks : String → List Check) : List Check :=
  match e.assigned with
  | .nothing | .stray => [some .noValue]
  | .value (.text s) => checks s
  | .value _ => [some .notText]

/-- Docs are a text, or `false`. -/
def docChecks (e : Entry) : List Check :=
  match e.assigned with
  | .nothing | .stray => [some .noValue]
  | .value (.text _) | .value (.bool false) => []
  | .value (.bool true) => [some .docTrue]
  | .value (.number _) => [some .docEntryValue]

/-- A path is relative and has no arguments. -/
def typePathChecks (text : String) : List Check :=
  match Code.ItemPath.parse text with
  | .error e => [some (.typePathSyntax e)]
  | .ok path =>
    [violated (path.absolute = true) .absoluteTypePath, violated (path.hasArguments = true) .typePathArguments]

/-- A name is one segment of a path, and no index. -/
def memberNameChecks (name : String) : List Check :=
  [ violated (name = "") .emptyName,
    violated (name.toList.any isSeparator = true) .nameWithSeparator,
    violated (isIndexPiece name.toList = true) .nameOfDigits ]

/-- The checks of an entry of a type. -/
def typeChecks (earlier : List Entry) (e : Entry) : List Check :=
  if e.key = "type_path" then
    e.textChecks fun text => violated (hasKey "type_path" earlier = true) .duplicateTypePath :: typePathChecks text
  else if e.key = "doc" then e.docChecks
  else if e.key ∈ ["skip", "readonly", "writeonly", "rename"] then [some .fieldsOnly]
  else [some .unknownTypeKey]

/-- The checks of an entry of a field. -/
def fieldChecks (earlier : List Entry) (e : Entry) : List Check :=
  if e.key = "skip" then [e.flagCheck]
  else if e.key = "readonly" then [violated (hasKey "writeonly" earlier = true) .accessConflict, e.flagCheck]
  else if e.key = "writeonly" then [violated (hasKey "readonly" earlier = true) .accessConflict, e.flagCheck]
  else if e.key = "rename" then
    e.textChecks fun name => memberNameChecks name ++ [violated (hasKey "rename" earlier = true) .duplicateRename]
  else if e.key = "doc" then e.docChecks
  else if e.key = "type_path" then [some .typeOnly]
  else [some .unknownFieldKey]

end Entry

section Steps
variable {α : Type} {e : Entry} {P : α → Prop}

theorem ends_flag {a : α} (h : P a) : Ends (e.flag a) [e.flagCheck] P := by
  have hflag : e.flag a = if e.assigned ≠ .nothing then .error .unwantedValue else .ok a := by
    rw [Entry.flag, ite_not]
  rw [hflag]
  exact ends_guard fun _ => ends_ok h

theorem ends_text {f : String → Except DeriveError α} {checks : String → List Check}
    (h : ∀ s, e.assigned = .value (.text s) → Ends (f s) (checks s) P) :
    Ends (e.textValue >>= f) (e.textChecks checks) P := by
  unfold Entry.textValue Entry.textChecks
  cases hassigned : e.assigned with
  | nothing => exact ends_error
  | stray => exact ends_error
  | value l =>
    cases l with
    | text s => exact h s hassigned
    | bool b => exact ends_error
    | number text => exact ends_error

theorem ends_checkMemberName (name : String) :
    Ends (checkMemberName name) (Entry.memberNameChecks name) fun _ => True := by
  have hempty : name.isEmpty = true ↔ name = "" := String.isEmpty_iff
  simp only [checkMemberName, hempty]
  exact ends_guard fun _ => ends_guard fun _ => ends_guard fun _ => ends_ok trivial

theorem ends_customPath (text : String) : Ends (CustomPath.ofText text) (Entry.typePathChecks text) fun _ => True := by
  unfold CustomPath.ofText Entry.typePathChecks
  cases Code.ItemPath.parse text with
  | error e => exact ends_error
  | ok path => exact ends_guard fun _ => ends_guard fun _ => ends_ok trivial

end Steps

/-! ## Docs -/

/-- Doc attributes no longer count. -/
def Docs.settled (docs : Docs) : Bool := !(docs.enabled && !docs.custom)

theorem ends_docEntry (docs : Docs) (e : Entry) :
    Ends (docs.addEntry e.assigned) e.docChecks fun docs' => docs'.settled = true := by
  unfold Docs.addEntry Entry.docChecks
  cases e.assigned with
  | nothing => exact ends_error
  | stray => exact ends_error
  | value l =>
    cases l with
    | text s => exact ends_ok (by simp [Docs.settled])
    | bool b =>
      cases b with
      | false => exact ends_ok rfl
      | true => exact ends_error
    | number text => exact ends_error

/-- The value of a doc attribute is not looked at where it does not count. -/
def docAttributeChecks (settled : Bool) : Literal → List Check
  | .text _ => []
  | _ => [violated (settled = false) .docValue]

theorem ends_docAttribute (docs : Docs) (value : Literal) :
    Ends (docs.addDefault value) (docAttributeChecks docs.settled value) fun docs' => docs'.settled = docs.settled := by
  unfold Docs.addDefault
  cases hsettled : docs.settled with
  | true =>
    have hclosed : (docs.enabled && !docs.custom) = false := by rwa [Docs.settled, Bool.not_eq_true'] at hsettled
    rw [hclosed, if_neg Bool.false_ne_true]
    cases value with
    | text line => exact ends_ok hsettled
    | bool b => exact ends_ok hsettled
    | number text => exact ends_ok hsettled
  | false =>
    have hopen : (docs.enabled && !docs.custom) = true := by rwa [Docs.settled, Bool.not_eq_false'] at hsettled
    rw [hopen, if_pos rfl]
    cases value with
    | text line => exact ends_ok hsettled
    | bool b => exact ends_error
    | number text => exact ends_error

theorem ends_docList (docs : Docs) :
    Ends docs.addList [violated (docs.settled = false) .noValue] fun docs' => docs'.settled = docs.settled := by
  have hlist : docs.addList = if docs.settled = false then .error .noValue else .ok docs := by
    simp only [Docs.addList, Docs.settled, Bool.not_eq_false']
  rw [hlist]
  exact ends_guard fun _ => ends_ok rfl

/-! ## Attributes -/

variable (collect : Bool)

/-- Docs are settled by an entry for them. They are from the start where none are collected. -/
def docsSettled (entries : List Entry) : Bool := !collect || hasKey "doc" entries

theorem docsSettled_concat (entries : List Entry) (e : Entry) :
    docsSettled collect (entries ++ [e]) = (docsSettled collect entries || e.key == "doc") := by
  rw [docsSettled, hasKey_concat, docsSettled, Bool.or_assoc]

/-- The checks of a directive. -/
def Directive.checks (entryChecks : List Entry → Entry → List Check) (earlier : List Directive) : Directive → List Check
  | .docs value => docAttributeChecks (docsSettled collect (entriesIn earlier)) value
  | .docsList => [violated (docsSettled collect (entriesIn earlier) = false) .noValue]
  | .bare => [some .noArguments]
  | .entry e => entryChecks (entriesIn earlier) e

def attributeChecks (entryChecks : List Entry → Entry → List Check) (attrs : List Attribute) : List Check :=
  inTurn (Directive.checks collect entryChecks) [] (directivesOf attrs)

variable {collect}

/-- Attributes end as their entries do, where `R` relates the entries that have been taken to what has come of
them, and holds whatever docs are collected. -/
theorem ends_foldAttributes {α : Type} {docs : α → Docs} {setDocs : α → Docs → α}
    {entry : α → Entry → Except DeriveError α} {entryChecks : List Entry → Entry → List Check}
    {R : List Entry → α → Prop}
    (hentry : ∀ {earlier a} e, R earlier a → Ends (entry a e) (entryChecks earlier e) (R (earlier ++ [e])))
    (hsettled : ∀ {earlier a}, R earlier a → (docs a).settled = docsSettled collect earlier)
    (hset : ∀ {earlier a docs'}, R earlier a → docs'.settled = (docs a).settled → R earlier (setDocs a docs'))
    {start : α} (hstart : R [] start) (attrs : List Attribute) :
    Ends (foldAttributes docs setDocs entry start attrs) (attributeChecks collect entryChecks attrs)
      (R (entriesOf attrs)) := by
  rw [foldAttributes_eq]
  have hstart : R (entriesIn []) start := hstart
  refine Ends.foldlM (R := fun ds => R (entriesIn ds)) (fun earlier a d ha => ?_) hstart (directivesOf attrs)
  rw [entriesIn_append]
  cases d with
  | docs value =>
    rw [show entriesIn [.docs value] = [] from rfl, List.append_nil, Directive.checks, ← hsettled ha]
    exact (ends_docAttribute (docs a) value).map fun docs' => hset ha
  | docsList =>
    rw [show entriesIn [.docsList] = [] from rfl, List.append_nil, Directive.checks, ← hsettled ha]
    exact (ends_docList (docs a)).map fun docs' => hset ha
  | bare => exact ends_error
  | entry e => exact hentry e ha

/-! ### Types -/

/-- What the entries of a type make of its attributes. -/
structure TypeAttributes.Reads (collect : Bool) (entries : List Entry) (attrs : TypeAttributes) : Prop where
  typePath : attrs.typePath.isSome = hasKey "type_path" entries
  docs : attrs.docs.settled = docsSettled collect entries

/-- What one more entry makes of them. -/
theorem TypeAttributes.Reads.concat {earlier : List Entry} {e : Entry} {attrs attrs' : TypeAttributes}
    (h : attrs.Reads collect earlier) (hpath : attrs'.typePath.isSome = (attrs.typePath.isSome || e.key == "type_path"))
    (hdocs : attrs'.docs.settled = (attrs.docs.settled || e.key == "doc")) : attrs'.Reads collect (earlier ++ [e]) where
  typePath := by rw [hpath, h.typePath, hasKey_concat]
  docs := by rw [hdocs, h.docs, docsSettled_concat]

theorem ends_typeEntry {earlier : List Entry} {attrs : TypeAttributes} (e : Entry) (h : attrs.Reads collect earlier) :
    Ends (attrs.addEntry e) (e.typeChecks earlier) (TypeAttributes.Reads collect (earlier ++ [e])) := by
  unfold TypeAttributes.addEntry Entry.typeChecks
  by_cases hpath : e.key = "type_path"
  · rw [if_pos hpath, if_pos hpath]
    refine ends_text fun text _ => ?_
    rw [← h.typePath]
    refine ends_guard fun _ => (ends_customPath text).bind_pure fun path _ => h.concat ?_ ?_ <;> simp [hpath]
  rw [if_neg hpath, if_neg hpath]
  by_cases hdoc : e.key = "doc"
  · rw [if_pos hdoc, if_pos hdoc]
    refine (ends_docEntry attrs.docs e).bind_pure fun docs hdocs => h.concat ?_ ?_ <;> simp [hdoc, hdocs]
  rw [if_neg hdoc, if_neg hdoc]
  simp only [List.contains_iff_mem]
  split
  · exact ends_error
  · exact ends_error

theorem ends_typeAttributes (attrs : List Attribute) :
    Ends (TypeAttributes.ofAttributes collect attrs) (attributeChecks collect Entry.typeChecks attrs)
      (TypeAttributes.Reads collect (entriesOf attrs)) := by
  have hstart : TypeAttributes.Reads collect [] (.start collect) := ⟨rfl, by cases collect <;> rfl⟩
  refine ends_foldAttributes (R := TypeAttributes.Reads collect) ends_typeEntry (·.docs) (fun h hdocs => ?_)
    hstart attrs
  exact ⟨h.typePath, hdocs.trans h.docs⟩

/-! ### Fields -/

/-- The name that an entry chooses. -/
def Entry.chosenName? (e : Entry) : Option String :=
  match e.assigned with
  | .value (.text name) => if e.key = "rename" then some name else none
  | _ => none

def chosenName? (entries : List Entry) : Option String := entries.findSome? Entry.chosenName?

/-- What the entries of a field make of its attributes. -/
structure FieldAttributes.Reads (collect : Bool) (entries : List Entry) (attrs : FieldAttributes) : Prop where
  skip : attrs.skip = hasKey "skip" entries
  readOnly : attrs.access = .readOnly ↔ hasKey "readonly" entries = true
  writeOnly : attrs.access = .writeOnly ↔ hasKey "writeonly" entries = true
  rename : attrs.rename = chosenName? entries
  renamed : attrs.rename.isSome = hasKey "rename" entries
  docs : attrs.docs.settled = docsSettled collect entries

/-- What one more entry makes of them. -/
theorem FieldAttributes.Reads.concat {earlier : List Entry} {e : Entry} {attrs attrs' : FieldAttributes}
    (h : attrs.Reads collect earlier) (hskip : attrs'.skip = (attrs.skip || e.key == "skip"))
    (hreadOnly : attrs'.access = .readOnly ↔ attrs.access = .readOnly ∨ e.key = "readonly")
    (hwriteOnly : attrs'.access = .writeOnly ↔ attrs.access = .writeOnly ∨ e.key = "writeonly")
    (hrename : attrs'.rename = attrs.rename.or e.chosenName?)
    (hrenamed : attrs'.rename.isSome = (attrs.rename.isSome || e.key == "rename"))
    (hdocs : attrs'.docs.settled = (attrs.docs.settled || e.key == "doc")) : attrs'.Reads collect (earlier ++ [e]) where
  skip := by rw [hskip, h.skip, hasKey_concat]
  readOnly := by rw [hreadOnly, h.readOnly, hasKey_concat, Bool.or_eq_true, beq_iff_eq]
  writeOnly := by rw [hwriteOnly, h.writeOnly, hasKey_concat, Bool.or_eq_true, beq_iff_eq]
  rename := by rw [hrename, h.rename, chosenName?, chosenName?, List.findSome?_append, List.findSome?_singleton]
  renamed := by rw [hrenamed, h.renamed, hasKey_concat]
  docs := by rw [hdocs, h.docs, docsSettled_concat]

theorem Entry.chosenName?_other {e : Entry} (h : e.key ≠ "rename") : e.chosenName? = none := by
  unfold chosenName?
  split
  · exact if_neg h
  · rfl

/-- An access is refused if the opposite one has been chosen. -/
theorem ends_setAccess {attrs : FieldAttributes} (access opposite : Access) {p : Prop} [Decidable p]
    (hopposite : attrs.access ≠ .readWrite ∧ attrs.access ≠ access ↔ attrs.access = opposite)
    (hp : attrs.access = opposite ↔ p) :
    Ends (attrs.setAccess access) [violated p .accessConflict] fun attrs' =>
      attrs' = { attrs with access } ∧ attrs.access ≠ opposite := by
  have hset : attrs.setAccess access = if p then .error .accessConflict else .ok { attrs with access } := by
    simp only [FieldAttributes.setAccess, hopposite, hp]
  rw [hset]
  exact ends_guard fun hno => ends_ok ⟨rfl, fun heq => hno (hp.1 heq)⟩

theorem ends_fieldEntry {earlier : List Entry} {attrs : FieldAttributes} (e : Entry) (h : attrs.Reads collect earlier) :
    Ends (attrs.addEntry e) (e.fieldChecks earlier) (FieldAttributes.Reads collect (earlier ++ [e])) := by
  unfold FieldAttributes.addEntry Entry.fieldChecks
  by_cases hskip : e.key = "skip"
  · rw [if_pos hskip, if_pos hskip]
    have hname : e.chosenName? = none := e.chosenName?_other (by simp [hskip])
    refine ends_flag (h.concat ?_ ?_ ?_ ?_ ?_ ?_) <;> simp [hskip, hname]
  rw [if_neg hskip, if_neg hskip]
  by_cases hreadOnly : e.key = "readonly"
  · rw [if_pos hreadOnly, if_pos hreadOnly]
    have hname : e.chosenName? = none := e.chosenName?_other (by simp [hreadOnly])
    have hset := ends_setAccess .readOnly .writeOnly (by cases attrs.access <;> simp) h.writeOnly
    refine hset.bind fun attrs' ⟨hattrs, hother⟩ => ends_flag ?_
    subst hattrs
    refine h.concat ?_ ?_ ?_ ?_ ?_ ?_ <;> simp [hreadOnly, hname, hother]
  rw [if_neg hreadOnly, if_neg hreadOnly]
  by_cases hwriteOnly : e.key = "writeonly"
  · rw [if_pos hwriteOnly, if_pos hwriteOnly]
    have hname : e.chosenName? = none := e.chosenName?_other (by simp [hwriteOnly])
    have hset := ends_setAccess .writeOnly .readOnly (by cases attrs.access <;> simp) h.readOnly
    refine hset.bind fun attrs' ⟨hattrs, hother⟩ => ends_flag ?_
    subst hattrs
    refine h.concat ?_ ?_ ?_ ?_ ?_ ?_ <;> simp [hwriteOnly, hname, hother]
  rw [if_neg hwriteOnly, if_neg hwriteOnly]
  by_cases hrename : e.key = "rename"
  · rw [if_pos hrename, if_pos hrename]
    refine ends_text fun name htext => (ends_checkMemberName name).bind fun _ _ => ?_
    rw [← h.renamed]
    refine ends_guard fun hnew => ends_ok ?_
    have hname : e.chosenName? = some name := by simp [Entry.chosenName?, htext, hrename]
    have hnone : attrs.rename = none := Option.not_isSome_iff_eq_none.1 hnew
    refine h.concat ?_ ?_ ?_ ?_ ?_ ?_ <;> simp [hrename, hname, hnone]
  rw [if_neg hrename, if_neg hrename]
  have hname : e.chosenName? = none := e.chosenName?_other hrename
  by_cases hdoc : e.key = "doc"
  · rw [if_pos hdoc, if_pos hdoc]
    refine (ends_docEntry attrs.docs e).bind_pure fun docs hdocs => ?_
    refine h.concat ?_ ?_ ?_ ?_ ?_ ?_ <;> simp [hdoc, hname, hdocs]
  rw [if_neg hdoc, if_neg hdoc]
  split
  · exact ends_error
  · exact ends_error

theorem ends_fieldAttributes (attrs : List Attribute) :
    Ends (FieldAttributes.ofAttributes collect attrs) (attributeChecks collect Entry.fieldChecks attrs)
      (FieldAttributes.Reads collect (entriesOf attrs)) := by
  have hstart : FieldAttributes.Reads collect [] (.start collect) := by
    cases collect <;> exact ⟨rfl, by decide, by decide, rfl, rfl, rfl⟩
  refine ends_foldAttributes (R := FieldAttributes.Reads collect) ends_fieldEntry (·.docs) (fun h hdocs => ?_)
    hstart attrs
  exact ⟨h.skip, h.readOnly, h.writeOnly, h.rename, h.renamed, hdocs.trans h.docs⟩

/-! ## Items -/

namespace ItemField

/-- Whether an entry of the field skips it. -/
def isSkipped (f : ItemField) : Bool := hasKey "skip" (entriesOf f.attrs)

/-- The name that the field has as a member. -/
def exposedName (f : ItemField) : String := (chosenName? (entriesOf f.attrs)).getD f.ident

end ItemField

/-- The names of the fields that are not skipped. -/
def exposedNames (fields : List ItemField) : List String :=
  (fields.filter (!·.isSkipped)).map ItemField.exposedName

theorem exposedNames_append (fs gs : List ItemField) : exposedNames (fs ++ gs) = exposedNames fs ++ exposedNames gs := by
  simp [exposedNames]

theorem memberNames_append (fs gs : List PlannedField) : memberNames (fs ++ gs) = memberNames fs ++ memberNames gs := by
  simp [memberNames]

/-- The checks of a field: its attributes, and then its name, which no member before it may have. -/
def ItemField.checks (collect : Bool) (earlier : List ItemField) (f : ItemField) : List Check :=
  attributeChecks collect Entry.fieldChecks f.attrs ++
    [violated (f.isSkipped = false ∧ f.exposedName ∈ exposedNames earlier) (.duplicateMember f.exposedName)]

/-- All checks of an item in order. -/
def Item.checks (collect : Bool) (item : Item) : List Check :=
  violated (∃ p ∈ item.params, isConst p = true) .constParameter ::
    violated (item.shape ≠ .named) (.unsupported item.shape) ::
    (attributeChecks collect Entry.typeChecks item.attrs ++ inTurn (ItemField.checks collect) [] item.fields)

theorem ends_planFields {planned : List PlannedField} {earlier : List ItemField}
    (h : memberNames planned = exposedNames earlier) (next : Nat) (fields : List ItemField) :
    Ends (planFields collect planned next fields) (inTurn (ItemField.checks collect) earlier fields) fun _ => True := by
  induction fields generalizing planned earlier next with
  | nil => exact ends_ok trivial
  | cons f rest ih =>
    rw [planFields, inTurn, ItemField.checks, List.append_assoc]
    refine (ends_fieldAttributes f.attrs).bind fun attrs hattrs => ?_
    have hname : attrs.rename.getD f.ident = f.exposedName := by
      rw [hattrs.rename]
      rfl
    have hskip : attrs.skip = f.isSkipped := hattrs.skip
    have hcollides : ((if f.isSkipped then none else some next).isSome &&
        planned.any fun other => other.index.isSome && other.name == f.exposedName) = true ↔
          f.isSkipped = false ∧ f.exposedName ∈ exposedNames earlier := by
      rw [← h, mem_memberNames, Bool.and_eq_true]
      cases f.isSkipped <;> simp
    simp only [hname, hskip, hcollides]
    refine ends_guard fun _ => ih ?_ _
    rw [memberNames_append, exposedNames_append, h]
    cases hskipped : f.isSkipped <;> simp [memberNames, exposedNames, PlannedField.member?, hskipped]

theorem ends_ofItem (item : Item) : Ends (Plan.ofItem collect item) (item.checks collect) fun _ => True := by
  have hconst : item.params.any isConst = true ↔ ∃ p ∈ item.params, isConst p = true := List.any_eq_true
  simp only [Plan.ofItem, hconst]
  refine ends_guard fun _ => ends_guard fun _ => (ends_typeAttributes item.attrs).bind fun attrs _ => ?_
  exact (ends_planFields rfl 0 item.fields).bind_pure fun _ _ => trivial

end Reflection.Derive
