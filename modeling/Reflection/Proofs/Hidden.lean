import Reflection.Value.Dump
import Reflection.Value.Equality
import Reflection.Value.Shown
import Reflection.Proofs.Alike
import Reflection.Proofs.Frame
/-!
# Hidden fields

The fields of a struct that are no members cannot be seen. Values that differ in them alone give the same
dump and the same texts (`dump_eq`, `shown_eq`), compare alike with any value from either side (`equals_left`,
`equals_right`), and answer accesses alike (`hidden_unseen`). A write does not change the hidden fields of a
struct unless it replaces the struct as a whole, or a value around it (`hidden_setAt`).
-/

namespace Reflection

namespace Value

/-! ## What is shown of the items of a value -/

theorem dumps_eq_map (vs : List Value) : dumps vs = vs.map dump := by
  induction vs with
  | nil => rfl
  | cons v vs ih => rw [dumps, ih, List.map_cons]

theorem shownAll_eq_map (vs : List Value) : shownAll vs = vs.map shown := by
  induction vs with
  | nil => rfl
  | cons v vs ih => rw [shownAll, ih, List.map_cons]

theorem comparisons_eq_map (vs : List Value) : comparisons vs = vs.map equals := by
  induction vs with
  | nil => rfl
  | cons v vs ih => rw [comparisons, ih, List.map_cons]

theorem map_eq_of_getElem? {β : Type} {f : Value → β} {items items' : List Value} (hlen : items.length = items'.length)
    (h : ∀ (i : Nat) (c d : Value), items[i]? = some c → items'[i]? = some d → f c = f d) : items.map f = items'.map f := by
  refine List.ext_getElem (by simpa using hlen) fun i hi hi' => ?_
  rw [List.getElem_map, List.getElem_map]
  rw [List.length_map] at hi hi'
  exact h i _ _ (List.getElem?_eq_getElem hi) (List.getElem?_eq_getElem hi')

/-- No member of a struct is covered by the veil over hidden fields. -/
theorem map_members_eq {β : Type} {f : Value → β} {info : TypeInfo} {members members' : List Value}
    (htypes : members.map type = members'.map type)
    (h : ∀ (i : Nat) (c d : Value), members[i]? = some c → members'[i]? = some d →
      Veil.hiddenFields.covers info (.member i) = false → f c = f d) : members.map f = members'.map f :=
  map_eq_of_getElem? (length_of_types htypes) fun i c d hc hd => h i c d hc hd (Veil.covers_hiddenFields info (.member i))

namespace Alike
variable {v w : Value}

/-! ## Values from outside -/

theorem dump_eq (h : v.Alike .hiddenFields w) : v.dump = w.dump := by
  induction h with
  | list hlen hitems ih => rw [dump, dump, dumps_eq_map, dumps_eq_map, map_eq_of_getElem? hlen ih]
  | array hlen hitems ih => rw [dump, dump, dumps_eq_map, dumps_eq_map, map_eq_of_getElem? hlen ih]
  | pointer t h ih => rw [dump, dump, ih]
  | struct htypes hmembers _ _ ih => rw [dump, dump, dumps_eq_map, dumps_eq_map, map_members_eq htypes ih]
  | ghost h ih => rw [dump, dump, ih]
  | _ => rfl

theorem shown_eq (h : v.Alike .hiddenFields w) : v.shown = w.shown := by
  induction h with
  | list hlen hitems ih => rw [shown, shown, shownAll_eq_map, shownAll_eq_map, map_eq_of_getElem? hlen ih]
  | array hlen hitems ih => rw [shown, shown, shownAll_eq_map, shownAll_eq_map, map_eq_of_getElem? hlen ih]
  | pointer t h ih => cases t <;> simp only [shown, ih]
  | struct htypes hmembers _ _ ih => rw [shown, shown, shownAll_eq_map, shownAll_eq_map, map_members_eq htypes ih]
  | ghost h ih => rw [shown, shown, ih]
  | _ => rfl

/-! ## Comparisons -/

theorem equals_left (h : v.Alike .hiddenFields w) : v.equals = w.equals := by
  induction h with
  | list hlen hitems ih =>
    rename_i t _ _
    funext y
    cases t <;> simp only [equals, hlen, comparisons_eq_map, map_eq_of_getElem? hlen ih]
  | array hlen hitems ih =>
    rename_i t _ _
    funext y
    cases t <;> simp only [equals, hlen, comparisons_eq_map, map_eq_of_getElem? hlen ih]
  | pointer t h ih =>
    funext y
    cases t <;> simp only [equals, ih]
  | struct htypes hmembers _ _ ih =>
    funext y
    simp only [equals, comparisons_eq_map, map_members_eq htypes ih]
  | _ => rfl

end Alike

theorem pairs_map_some (names : List String) (vs : List Value) :
    StructView.pairs names (vs.map some) = names.zip vs := by
  induction names generalizing vs with
  | nil => cases vs <;> rfl
  | cons name names ih =>
    cases vs with
    | nil => rfl
    | cons v vs => rw [List.map_cons, StructView.pairs, ih, List.zip_cons_cons]

/-- A comparison that does not tell alike values apart. -/
def Blind (f : Value → Option Bool) : Prop := ∀ c d, c.Alike .hiddenFields d → f c = f d

theorem compareItems_alike {fs : List (Value → Option Bool)} {items items' : List Value} (hfs : ∀ f ∈ fs, Blind f)
    (hlen : items.length = items'.length)
    (h : ∀ (i : Nat) (c d : Value), items[i]? = some c → items'[i]? = some d → c.Alike .hiddenFields d) :
    compareItems fs items = compareItems fs items' := by
  induction fs generalizing items items' with
  | nil => rfl
  | cons f fs ih =>
    cases items <;> cases items' <;> try cases hlen
    · rfl
    · rename_i c cs d ds
      have hf : f c = f d := hfs f List.mem_cons_self c d (h 0 c d rfl rfl)
      have hrest : compareItems fs cs = compareItems fs ds :=
        ih (fun f hf => hfs f (List.mem_cons_of_mem _ hf)) (Nat.succ.inj hlen) fun i => h (i + 1)
      rw [compareItems, compareItems, hf, hrest]

theorem compareMembers_alike {fs : List (String × (Value → Option Bool))} (hfs : ∀ p ∈ fs, Blind p.2)
    (names : List String) {items items' : List Value} (hlen : items.length = items'.length)
    (h : ∀ (i : Nat) (c d : Value), items[i]? = some c → items'[i]? = some d → c.Alike .hiddenFields d) :
    compareMembers fs (names.zip items) = compareMembers fs (names.zip items') := by
  induction names generalizing items items' with
  | nil => rfl
  | cons name names ih =>
    cases items <;> cases items' <;> try cases hlen
    · rfl
    · rename_i c cs d ds
      rw [List.zip_cons_cons, List.zip_cons_cons, compareMembers, compareMembers]
      cases hlookup : fs.lookup name with
      | none => rfl
      | some f =>
        obtain ⟨before, later, hfs', -⟩ := List.lookup_eq_some_iff.1 hlookup
        have hmem : (name, f) ∈ fs := hfs' ▸ List.mem_append_right _ List.mem_cons_self
        have hf : f c = f d := hfs _ hmem c d (h 0 c d rfl rfl)
        simp only [hf, ih (Nat.succ.inj hlen) fun i => h (i + 1)]

mutual
theorem equals_right : ∀ z : Value, Blind z.equals
  | .scalar s, _, _, h => by cases h <;> rfl
  | .mystery _, _, _, _ => by simp only [equals]
  | .list .bag _, _, _, _ => by simp only [equals]
  | .list (.vec _) items, _, _, h => by
    cases h with
    | list hlen hitems => simp only [equals, view, hlen, compareItems_alike (comparisons_right items) hlen hitems]
    | _ => simp only [equals, view]
  | .list (.deque _) items, _, _, h => by
    cases h with
    | list hlen hitems => simp only [equals, view, hlen, compareItems_alike (comparisons_right items) hlen hitems]
    | _ => simp only [equals, view]
  | .array .trio _, _, _, _ => by simp only [equals]
  | .array (.fixed _ _) items, _, _, h => by
    cases h with
    | array hlen hitems => simp only [equals, view, hlen, compareItems_alike (comparisons_right items) hlen hitems]
    | _ => simp only [equals, view]
  | .pointer (.link _) none, _, _, _ => by simp only [equals]
  | .pointer (.link _) (some _), _, _, _ => by simp only [equals]
  | .pointer (.option _) none, _, _, h => by cases h <;> simp only [equals, view]
  | .pointer (.box _) none, _, _, h => by cases h <;> simp only [equals, view]
  | .pointer (.option _) (some x), _, _, h => by
    cases h with
    | pointer t h => simp only [equals, view, equals_right x _ _ h]
    | _ => simp only [equals, view]
  | .pointer (.box _) (some x), _, _, h => by
    cases h with
    | pointer t h => simp only [equals, view, equals_right x _ _ h]
    | _ => simp only [equals, view]
  | .struct decl members _, _, _, h => by
    have hcomparisons : ∀ p ∈ decl.info.names.zip (comparisons members), Blind p.2 :=
      fun p hp => comparisons_right members p.2 (List.of_mem_zip hp).2
    cases h with
    | struct htypes hmembers =>
      have h := fun names => compareMembers_alike hcomparisons names (length_of_types htypes)
        fun i c d hc hd => hmembers i c d hc hd (Veil.covers_hiddenFields _ _)
      simp only [equals, view, StructView.entries, pairs_map_some, h, StructView.len]
    | ghost h =>
      rename_i c d
      -- A ghost shows the first of its names only.
      have hentries : ∀ c, (StructView.mk ["x", "y", "z"] [some c, none, none]).entries = ["x"].zip [c] := fun _ => rfl
      have hitems : ∀ (i : Nat) (a b : Value), [c][i]? = some a → [d][i]? = some b → a.Alike .hiddenFields b
        | 0, _, _, rfl, rfl => h
      have hlen : [c].length = [d].length := rfl
      simp only [equals, view, StructView.len, hentries, compareMembers_alike hcomparisons ["x"] hlen hitems]
    | _ => simp only [equals, view]
  | .facade _ _, _, _, _ => by simp only [equals]

theorem comparisons_right : ∀ vs : List Value, ∀ f ∈ comparisons vs, Blind f
  | [], _, h => by cases h
  | v :: vs, f, h => by
    rcases List.mem_cons.1 h with rfl | h
    · exact equals_right v
    · exact comparisons_right vs f h
end

/-! ## Writes -/

/-- What is put into a place leaves the hidden fields of the structs that are not in that place. -/
theorem hidden_setAt {v old : Value} {slot place : Place} {decl : StructDecl} {members hidden : List Value}
    (hold : v.at? slot = some old) (h : v.at? place = some (.struct decl members hidden)) (hnot : ¬ slot <+: place)
    (x : Value) : ∃ members', (v.setAt slot x).at? place = some (.struct decl members' hidden) := by
  induction place generalizing v slot with
  | nil =>
    cases slot with
    | nil => exact absurd List.nil_prefix hnot
    | cons s slot =>
      cases h
      obtain ⟨c, hc, -⟩ := at?_cons_eq_some hold
      obtain ⟨i, hset⟩ := setChild_struct hc (c.setAt slot x)
      exact ⟨members.set i (c.setAt slot x), by rw [setAt_cons hc, hset, at?_nil]⟩
  | cons t place ih =>
    cases slot with
    | nil => exact absurd List.nil_prefix hnot
    | cons s slot =>
      obtain ⟨c, hc, hold⟩ := at?_cons_eq_some hold
      obtain ⟨d, hd, h⟩ := at?_cons_eq_some h
      rw [setAt_cons hc]
      by_cases hst : s = t
      · subst hst
        obtain rfl : c = d := Option.some.inj (hc.symm.trans hd)
        rw [at?_cons (child?_setChild_self hc _)]
        exact ih hold h fun hp => hnot ((List.prefix_cons_inj s).2 hp)
      · exact ⟨members, by rw [at?_cons ((child?_setChild_ne hst v _).trans hd), h]⟩

/-- A struct with other hidden fields. -/
def withHidden (v : Value) (hidden : List Value) : Value :=
  match v with
  | .struct decl members _ => .struct decl members hidden
  | v => v

theorem alike_withHidden {decl : StructDecl} {members hidden hidden' : List Value}
    (h : hidden.map type = hidden'.map type) :
    (struct decl members hidden).Alike .hiddenFields ((struct decl members hidden).withHidden hidden') :=
  .struct rfl (fun i c d hc hd _ => alike_refl_items _ members i c d hc hd) h fun _ _ _ _ _ hshown => by cases hshown

end Value

/-- Hidden fields cannot be told by any text, comparison or access at a path, and a write leaves those of every
struct that does not stand in the written place. -/
theorem hidden_unseen :
    (∀ v w : Value, v.Alike .hiddenFields w →
      (v.dump = w.dump ∧ v.debugText = w.debugText ∧ v.prettyText = w.prettyText) ∧
      (∀ z : Value, v.equals z = w.equals z ∧ z.equals v = z.equals w) ∧
      ∀ route : Route, AnswerAlike .hiddenFields v w route) ∧
    ∀ (root x : Value) (route : Route) (place : Value.Place) (decl : StructDecl) (members hidden : List Value),
      root.at? place = some (.struct decl members hidden) →
        let root' := (assign .direct root route x ()).root
        (∃ p slot old, route.segments = .ok p ∧ root.find .write 0 p = .ok (slot, old) ∧ root' = root.setAt slot x ∧
          slot <+: place) ∨
        ∃ members', root'.at? place = some (.struct decl members' hidden) := by
  refine ⟨fun v w h => ⟨?_, ?_, h.answer⟩, ?_⟩
  · exact ⟨h.dump_eq, congrArg Shown.compact h.shown_eq, congrArg (Shown.pretty 0) h.shown_eq⟩
  · intro z
    exact ⟨congrFun h.equals_left z, Value.equals_right z v w h⟩
  · intro root x route place decl members hidden hplace root'
    rcases assign_cases root x route with ⟨e, -, hroot⟩ | ⟨p, slot, old, hp, -, hfind, -, -, hroot⟩
    · exact .inr ⟨members, (congrArg (·.at? place) hroot).trans hplace⟩
    · by_cases hslot : slot <+: place
      · exact .inl ⟨p, slot, old, hp, hfind, hroot, hslot⟩
      · rw [show root' = root.setAt slot x from hroot]
        exact .inr (Value.hidden_setAt (Value.at?_find hfind) hplace hslot x)

/-- Two values that differ in the hidden `cache`, and a write into a struct in one of them. -/
theorem hidden_unseen_cache :
    let v := Sample.valueA
    let w := v.withHidden [.scalar (.int .u64 7)]
    v.Alike .hiddenFields w ∧ w.debugText = v.debugText ∧ v.equals w = v.equals v ∧
    (get .direct w (.path Sample.textOfB) ()).result = .ok (.scalar (.string "")) ∧
    ∃ decl members, (assign .direct w (.path Sample.textOfB) (.scalar (.string "one")) ()).root =
      .struct decl members [.scalar (.int .u64 7)] := by
  intro v w
  have halike : v.Alike .hiddenFields w := Value.alike_withHidden rfl
  obtain ⟨hunseen, hkept⟩ := hidden_unseen
  obtain ⟨⟨-, hdebug, -⟩, hequals, hanswer⟩ := hunseen v w halike
  refine ⟨halike, hdebug.symm, (hequals v).2.symm, ?_, ?_⟩
  · have hget := (hanswer (.path Sample.textOfB)).get
    generalize (get .direct w (.path Sample.textOfB) ()).result = r at hget ⊢
    cases hget with
    | ok h => cases h; rfl
  · rcases hkept w (.scalar (.string "one")) (.path Sample.textOfB) [] _ _ _ rfl with ⟨p, slot, old, hp, hfind, -, hslot⟩ | ⟨members, hroot⟩
    · -- The written place is that of the text, in slots below the root.
      rw [List.prefix_nil] at hslot
      subst hslot
      cases hp
      cases hfind
    · exact ⟨_, members, Option.some.inj hroot⟩

end Reflection
