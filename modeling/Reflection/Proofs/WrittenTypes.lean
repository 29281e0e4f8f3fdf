import Mathlib.Data.List.Basic
import Reflection.Code.Arguments
/-!
# Types as they are written

A name occurs in code if it stands there, in groups of any depth (`Token.Occurs`), and this is what the search for names
finds (`mentionsIn_iff`). Reading and writing a type rearrange it, but leave out no name and bring in none
(`occurs_asRead`, `occurs_orderArguments`): whatever a walk does with the next token, the names in the lists that are
open and in what stands behind them are those of the tokens so far (`occurs_arrangedIn`).

Writing moves nothing but lifetimes that stand behind another argument (`Token.LateLifetime`). Without them a type is
written as it is read (`orderArguments_eq_asRead`), since the lists that are open stay in order (`Ready`).
-/

namespace Reflection.Code

namespace Token

/-- A name stands in code, be it in groups of any depth. -/
inductive Occurs (name : String) : List Token → Prop
  | here {tokens : List Token} (h : .ident name ∈ tokens) : Occurs name tokens
  | inside {d : Delimiter} {body tokens : List Token} (h : .group d body ∈ tokens) (hbody : Occurs name body) :
    Occurs name tokens

section Occurs
variable {name : String} {t : Token} {ts us : List Token}

theorem occurs_iff : Occurs name ts ↔ .ident name ∈ ts ∨ ∃ d body, .group d body ∈ ts ∧ Occurs name body := by
  constructor
  · rintro (h | ⟨h, hbody⟩)
    · exact .inl h
    · exact .inr ⟨_, _, h, hbody⟩
  · rintro (h | ⟨d, body, h, hbody⟩)
    · exact .here h
    · exact .inside h hbody

theorem occurs_append : Occurs name (ts ++ us) ↔ Occurs name ts ∨ Occurs name us := by
  rw [@occurs_iff name (ts ++ us), @occurs_iff name ts, @occurs_iff name us]
  simp only [List.mem_append, or_and_right, exists_or]
  exact or_or_or_comm

theorem occurs_cons : Occurs name (t :: ts) ↔ Occurs name [t] ∨ Occurs name ts := by
  rw [← List.singleton_append, occurs_append]

theorem not_occurs_nil : ¬ Occurs name [] := by
  rw [occurs_iff]
  simp

theorem not_occurs_punct {c : Char} {joint : Bool} : ¬ Occurs name [.punct c joint] := by
  rw [occurs_iff]
  simp

theorem not_occurs_literal {text : String} : ¬ Occurs name [.literal text] := by
  rw [occurs_iff]
  simp

theorem occurs_ident {other : String} : Occurs name [.ident other] ↔ other = name := by
  rw [occurs_iff]
  simp [eq_comm]

theorem occurs_group {d : Delimiter} : Occurs name [.group d ts] ↔ Occurs name ts := by
  rw [occurs_iff]
  simp

end Occurs

mutual
theorem mentions_iff (names : List String) : ∀ t : Token, t.mentions names = true ↔ ∃ name ∈ names, Occurs name [t]
  | .ident name => by simp [mentions, occurs_ident]
  | .punct c joint => by simp [mentions, not_occurs_punct]
  | .literal text => by simp [mentions, not_occurs_literal]
  | .group d body => by simp only [mentions, mentionsIn_iff names body, occurs_group]

theorem mentionsIn_iff (names : List String) :
    ∀ ts : List Token, mentionsIn names ts = true ↔ ∃ name ∈ names, Occurs name ts
  | [] => by simp [mentionsIn, not_occurs_nil]
  | t :: ts => by
    have hcons : ∀ name, Occurs name (t :: ts) ↔ Occurs name [t] ∨ Occurs name ts := fun _ => occurs_cons
    simp only [mentionsIn, Bool.or_eq_true, mentions_iff names t, mentionsIn_iff names ts, hcons, and_or_left, exists_or]
end

end Token

open Token

variable {name : String} {ts : List Token}

/-! ## Lists -/

theorem occurs_written (e : Listed) : Occurs name e.written ↔ Occurs name e.tokens := by
  unfold Listed.written
  cases e.comma with
  | true => simp [occurs_append, comma, not_occurs_punct]
  | false => simp

theorem inPlace_append (es fs : List Listed) : inPlace (es ++ fs) = inPlace es ++ inPlace fs := List.flatMap_append

theorem occurs_inPlace {entries : List Listed} :
    Occurs name (inPlace entries) ↔ ∃ e ∈ entries, Occurs name e.tokens := by
  induction entries with
  | nil => simp [inPlace, not_occurs_nil]
  | cons e entries ih =>
    rw [← List.singleton_append, inPlace_append, occurs_append, ih]
    simp [inPlace, occurs_written]

theorem occurs_argument {b : Bool} : Occurs name (inPlace [.argument ts b]) ↔ Occurs name ts := by
  simp [occurs_inPlace, Listed.argument]

/-- What stands behind the last comma is an entry, if it is anything. -/
theorem occurs_last :
    Occurs name (inPlace (if ts.isEmpty then [] else [.argument ts false])) ↔ Occurs name ts := by
  cases ts with
  | nil => simp [inPlace]
  | cons t ts => exact occurs_argument

theorem occurs_lifetimesFirst (entries : List Listed) :
    Occurs name (lifetimesFirst entries) ↔ Occurs name (inPlace entries) := by
  have hbetween (b : Bool) : ¬ Occurs name (if b then comma else []) := by
    cases b with
    | true => exact not_occurs_punct
    | false => exact not_occurs_nil
  simp only [lifetimesFirst, occurs_append, occurs_inPlace, hbetween, or_false, List.mem_filter, Bool.not_eq_true']
  constructor
  · rintro (⟨e, ⟨he, -⟩, h⟩ | ⟨e, ⟨he, -⟩, h⟩) <;> exact ⟨e, he, h⟩
  · rintro ⟨e, he, h⟩
    cases hlifetime : e.isLifetime with
    | true => exact .inl ⟨e, ⟨he, hlifetime⟩, h⟩
    | false => exact .inr ⟨e, ⟨he, hlifetime⟩, h⟩

/-! ## The walk -/

/-- A name is in the lists that are open. -/
def Opened (name : String) (outer : List OpenList) : Prop :=
  ∃ l ∈ outer, Occurs name l.before ∨ Occurs name (inPlace l.entries)

theorem not_opened_nil : ¬ Opened name [] := by
  simp [Opened]

theorem opened_cons {l : OpenList} {outer : List OpenList} :
    Opened name (l :: outer) ↔ Occurs name l.before ∨ Occurs name (inPlace l.entries) ∨ Opened name outer := by
  simp [Opened, or_assoc]

theorem occurs_token_asRead (s : Setting) (before : List Token) (t : Token) (after : List Token) :
    Occurs name [t.asRead s before after] ↔ Occurs name [t] := by
  unfold Token.asRead
  split <;> simp [not_occurs_punct]

theorem occurs_dropDoubleColon (before : List Token) : Occurs name (dropDoubleColon before) ↔ Occurs name before := by
  unfold dropDoubleColon
  split
  · rename_i joint rest h
    have hbefore : before = rest.reverse ++ [.punct ':' true] ++ [.punct ':' joint] := by
      rw [← List.reverse_reverse before, h]
      simp
    rw [hbefore, occurs_append, occurs_append]
    simp [not_occurs_punct]
  · rfl

section Walk
variable {arrange : List Listed → List Token}

mutual
theorem occurs_arrangedBody (harrange : ∀ entries, Occurs name (arrange entries) ↔ Occurs name (inPlace entries))
    (s : Setting) : ∀ t : Token, Occurs name (arrangedBody arrange s t) ↔ Occurs name [t]
  | .ident _ => by rw [arrangedBody]; simp
  | .punct _ _ => by rw [arrangedBody]; simp
  | .literal _ => by rw [arrangedBody]; simp
  | .group d body => by
    rw [arrangedBody, occurs_group]
    cases h : arrangedIn arrange s [] [] body with
    | none => rfl
    | some r =>
      rw [Option.getD_some, occurs_arrangedIn harrange body h]
      simp [not_opened_nil, not_occurs_nil]

/-- The names in the lists that are open and behind them grow by those of the next token, whatever becomes of it. -/
theorem occurs_arrangedIn (harrange : ∀ entries, Occurs name (arrange entries) ↔ Occurs name (inPlace entries)) :
    ∀ (ts : List Token) {s : Setting} {outer : List OpenList} {current r : List Token},
      arrangedIn arrange s outer current ts = some r →
      (Occurs name r ↔ Opened name outer ∨ Occurs name current ∨ Occurs name ts)
  | [], s, outer, current, r, h => by
    rw [arrangedIn] at h
    split at h
    · rename_i houter
      cases h
      simp [List.isEmpty_iff.1 houter, not_opened_nil, not_occurs_nil]
    · cases h
  | t :: ts, s, outer, current, r, h => by
    obtain ⟨s', outer', current', hrest, hnames⟩ : ∃ s' outer' current',
        arrangedIn arrange s' outer' current' ts = some r ∧ (Opened name outer' ∨ Occurs name current' ↔
          Opened name outer ∨ Occurs name current ∨ Occurs name [t]) := by
      have hnext (s : Setting) :
          Occurs name (current ++ [t.asRead s current ts]) ↔ Occurs name current ∨ Occurs name [t] := by
        rw [occurs_append, occurs_token_asRead]
      have hstay (s : Setting) : Opened name outer ∨ Occurs name (current ++ [t.asRead s current ts]) ↔
          Opened name outer ∨ Occurs name current ∨ Occurs name [t] := by
        rw [hnext]
      rw [arrangedIn.eq_def] at h
      dsimp only at h
      generalize (if outer.isEmpty then s else .type) = here at h
      split at h
      · -- A bracket opens a list, or compares.
        split at h
        · refine ⟨_, _, _, h, ?_⟩
          simp only [opened_cons, hnext, inPlace, List.flatMap_nil, not_occurs_nil]
          tauto
        · exact ⟨_, _, _, h, hstay _⟩
      · -- A bracket closes the list, or ends an arrow.
        split at h
        · exact ⟨_, _, _, h, hstay _⟩
        · refine ⟨_, _, _, h, ?_⟩
          simp only [opened_cons, occurs_append, harrange, inPlace_append, occurs_last, not_occurs_punct]
          tauto
      · refine ⟨_, _, _, h, ?_⟩
        simp only [opened_cons, inPlace_append, occurs_append, occurs_argument, not_occurs_nil, not_occurs_punct]
        tauto
      · exact ⟨_, _, _, h, hstay _⟩
      · split at h
        · exact ⟨_, _, _, h, hstay _⟩
        · rename_i d body _
          have hbody := occurs_arrangedBody harrange (groupSetting here d) (.group d body)
          refine ⟨_, _, _, h, ?_⟩
          rw [occurs_append, occurs_group, hbody, apply_ite (Occurs name), occurs_dropDoubleColon, ite_self]
      · exact ⟨_, _, _, h, hstay _⟩
    rw [occurs_arrangedIn harrange ts hrest, ← or_assoc, hnames, or_assoc, or_assoc, ← occurs_cons]
end

end Walk

theorem occurs_orderArguments (tokens : List Token) : Occurs name (orderArguments tokens) ↔ Occurs name tokens := by
  unfold orderArguments
  cases h : arrangedIn lifetimesFirst .type [] [] tokens with
  | none => rfl
  | some r =>
    rw [Option.getD_some, occurs_arrangedIn occurs_lifetimesFirst tokens h]
    simp [not_opened_nil, not_occurs_nil]

section Search
variable (names : List String) {ts us : List Token}

theorem mentionsIn_congr (h : ∀ name, Occurs name ts ↔ Occurs name us) : mentionsIn names ts = mentionsIn names us := by
  rw [Bool.eq_iff_iff, mentionsIn_iff, mentionsIn_iff]
  simp only [h]

theorem mentionsIn_orderArguments (ts : List Token) : mentionsIn names (orderArguments ts) = mentionsIn names ts :=
  mentionsIn_congr names fun _ => occurs_orderArguments ts

end Search

/-! ## What writing leaves in place -/

namespace Token
variable {t : Token} {ts us current : List Token} {s : Setting}

/-- A lifetime stands right behind a comma, so it is not the first argument of its list. This may be in groups of any
depth. -/
inductive LateLifetime : List Token → Prop
  | here (before : List Token) {after : List Token} {i j : Bool} :
    LateLifetime (before ++ .punct ',' i :: .punct '\'' j :: after)
  | inside {d : Delimiter} {body tokens : List Token} (h : .group d body ∈ tokens) (hbody : LateLifetime body) :
    LateLifetime tokens

theorem LateLifetime.cons (h : LateLifetime ts) : LateLifetime (t :: ts) := by
  cases h with
  | here => exact .here (t :: _)
  | inside h hbody => exact .inside (List.mem_cons_of_mem _ h) hbody

/-- Code that does not begin with the mark of a lifetime. -/
def Unmarked (tokens : List Token) : Prop := ∀ joint, tokens.head? ≠ some (.punct '\'' joint)

theorem unmarked_of_comma {joint : Bool} (h : ¬ LateLifetime (.punct ',' joint :: ts)) : Unmarked ts := by
  intro mark hmark
  obtain ⟨rest, rfl⟩ : ∃ rest, ts = .punct '\'' mark :: rest := by
    cases ts with
    | nil => cases hmark
    | cons t rest => exact ⟨rest, by cases hmark; rfl⟩
  exact h (.here [])

theorem Unmarked.append (h : Unmarked ts) (hne : ts ≠ []) : Unmarked (ts ++ us) := by
  cases ts with
  | nil => exact absurd rfl hne
  | cons t ts => exact h

theorem Unmarked.next (h : Unmarked (current ++ t :: ts)) (us : List Token) :
    Unmarked (current ++ [t.asRead s current ts] ++ us) := by
  cases current with
  | cons t current => exact h
  | nil =>
    intro joint hjoint
    have hread : t.asRead s [] ts = .punct '\'' joint := by simpa using hjoint
    refine h joint ?_
    unfold Token.asRead at hread
    split at hread <;> simp_all

theorem dropDoubleColon_prefix (before : List Token) : ∃ dropped, before = dropDoubleColon before ++ dropped := by
  unfold dropDoubleColon
  split
  · rename_i j rest hrest
    exact ⟨[.punct ':' true, .punct ':' j], by rw [← List.reverse_reverse before, hrest]; simp⟩
  · exact ⟨[], (List.append_nil _).symm⟩

theorem Unmarked.group {d : Delimiter} {body body' : List Token} (h : Unmarked (current ++ .group d body :: ts))
    (drop : Prop) [Decidable drop] :
    Unmarked ((if drop then dropDoubleColon current else current) ++ [.group d body'] ++ us) := by
  obtain ⟨dropped, hdropped⟩ : ∃ dropped, current = (if drop then dropDoubleColon current else current) ++ dropped := by
    split
    · exact dropDoubleColon_prefix current
    · exact ⟨[], (List.append_nil _).symm⟩
  generalize (if drop then dropDoubleColon current else current) = kept at hdropped
  cases kept with
  | nil => exact nofun
  | cons t kept =>
    subst hdropped
    exact h

end Token

variable {ts us : List Token}

/-! ### Lists in order -/

/-- Each entry has a comma behind it, and only the first one may be a lifetime. -/
def InOrder (entries : List Listed) : Prop :=
  (∀ e ∈ entries, e.comma = true) ∧ ∀ e ∈ entries.tail, e.isLifetime = false

theorem isLifetime_argument {comma : Bool} (h : Unmarked (ts ++ us)) :
    (Listed.argument ts comma).isLifetime = false := by
  unfold Listed.argument
  dsimp only
  split
  · rename_i joint name
    exact absurd rfl (h joint)
  · rfl

theorem InOrder.concat {entries : List Listed} (h : InOrder entries) (hnew : entries ≠ [] → Unmarked (ts ++ us)) :
    InOrder (entries ++ [.argument ts true]) := by
  obtain ⟨hcommas, htail⟩ := h
  refine ⟨fun e he => ?_, fun e he => ?_⟩
  · obtain he | he := List.mem_append.1 he
    · exact hcommas e he
    · rw [List.mem_singleton.1 he]
      rfl
  · cases entries with
    | nil => cases he
    | cons first entries =>
      obtain he | he := List.mem_append.1 he
      · exact htail e he
      · rw [List.mem_singleton.1 he]
        exact isLifetime_argument (hnew (List.cons_ne_nil _ _))

/-- Of a list in order nothing moves: the only lifetime comes first, and has its comma if it is not alone. -/
theorem lifetimesFirst_of_inOrder {first : Listed} {entries : List Listed}
    (hothers : ∀ e ∈ entries, e.isLifetime = false) (hcomma : entries ≠ [] → first.comma = true) :
    lifetimesFirst (first :: entries) = inPlace (first :: entries) := by
  have hnone : entries.filter (·.isLifetime) = [] := List.filter_eq_nil_iff.2 (by simpa using hothers)
  have hall : entries.filter (!·.isLifetime) = entries := List.filter_eq_self.2 (by simpa using hothers)
  cases hfirst : first.isLifetime with
  | false => simp [lifetimesFirst, hfirst, hnone, hall, inPlace]
  | true =>
    cases entries with
    | nil => simp [lifetimesFirst, hfirst, inPlace]
    | cons e entries => simp [lifetimesFirst, List.filter_cons_of_pos, hfirst, hnone, hall, hcomma, inPlace]

/-- Of a list that is closed behind `ts` nothing moves either. -/
theorem lifetimesFirst_closed {entries : List Listed} (h : InOrder entries)
    (hnext : entries ≠ [] → Unmarked (ts ++ us)) :
    let last := if ts.isEmpty then [] else [Listed.argument ts false]
    lifetimesFirst (entries ++ last) = inPlace (entries ++ last) := by
  intro last
  obtain ⟨hcommas, htail⟩ := h
  cases entries with
  | nil =>
    cases ts with
    | nil => rfl
    | cons t ts => exact lifetimesFirst_of_inOrder nofun (absurd rfl)
  | cons first entries =>
    refine lifetimesFirst_of_inOrder (fun e he => ?_) fun _ => hcommas first List.mem_cons_self
    obtain he | he := List.mem_append.1 he
    · exact htail e he
    · obtain ⟨-, rfl⟩ : ts ≠ [] ∧ e = .argument ts false := by simpa [last] using he
      exact isLifetime_argument (hnext (List.cons_ne_nil _ _))

/-- The lists that are open are in order, and `argument`, which is next in the first of them, keeps it so. -/
def Ready : List OpenList → List Token → Prop
  | [], _ => True
  | l :: outer, argument =>
    InOrder l.entries ∧ (l.entries ≠ [] → Unmarked argument) ∧ l.before ≠ [] ∧ Ready outer l.before

theorem ready_nil : Ready [] ts := trivial

theorem Ready.imp {outer : List OpenList} (h : Ready outer ts) (himp : Unmarked ts → Unmarked us) : Ready outer us := by
  cases outer with
  | nil => trivial
  | cons l outer => exact ⟨h.1, fun hne => himp (h.2.1 hne), h.2.2⟩

mutual
theorem arrangedBody_lifetimesFirst (s : Setting) :
    ∀ (t : Token) {ts : List Token}, ¬ LateLifetime (t :: ts) →
      arrangedBody lifetimesFirst s t = arrangedBody inPlace s t
  | .ident _, _, _ => rfl
  | .punct _ _, _, _ => rfl
  | .literal _, _, _ => rfl
  | .group d body, _, h => by
    have hbody : ¬ LateLifetime body := fun hbody => h (.inside List.mem_cons_self hbody)
    rw [arrangedBody, arrangedBody, arrangedIn_lifetimesFirst body hbody ready_nil]

/-- Whatever the next token is, the lists that are open stay in order, so a list that is closed is left in place. -/
theorem arrangedIn_lifetimesFirst :
    ∀ (ts : List Token) {s : Setting} {outer : List OpenList} {current : List Token}, ¬ LateLifetime ts →
      Ready outer (current ++ ts) →
      arrangedIn lifetimesFirst s outer current ts = arrangedIn inPlace s outer current ts
  | [], s, outer, current, _, _ => by rw [arrangedIn, arrangedIn]
  | t :: ts, s, outer, current, hlate, hready => by
    have hrest : ¬ LateLifetime ts := fun h => hlate h.cons
    rw [arrangedIn.eq_def, arrangedIn.eq_def inPlace]
    dsimp only
    generalize (if outer.isEmpty then s else .type) = here
    have hstay : Ready outer (current ++ [t.asRead here current ts] ++ ts) := hready.imp fun h => h.next ts
    split
    · -- A bracket opens a list, or compares.
      split
      · refine arrangedIn_lifetimesFirst ts hrest ⟨⟨nofun, nofun⟩, nofun, by simp, ?_⟩
        simpa using hready.imp fun h => h.next (s := here) []
      · exact arrangedIn_lifetimesFirst ts hrest hstay
    · -- A bracket closes the list, or ends an arrow.
      rename_i joint l outer
      split
      · exact arrangedIn_lifetimesFirst ts hrest hstay
      · obtain ⟨hentries, hnext, hbefore, houter⟩ := hready
        rw [lifetimesFirst_closed hentries hnext]
        refine arrangedIn_lifetimesFirst ts hrest (houter.imp fun h => ?_)
        simpa using h.append hbefore
    · rename_i joint l outer
      obtain ⟨hentries, hnext, hbefore, houter⟩ := hready
      exact arrangedIn_lifetimesFirst ts hrest
        ⟨hentries.concat hnext, fun _ => unmarked_of_comma hlate, hbefore, houter⟩
    · exact arrangedIn_lifetimesFirst ts hrest ready_nil
    · split
      · exact arrangedIn_lifetimesFirst ts hrest hstay
      · rename_i d body _
        rw [arrangedBody_lifetimesFirst _ (.group d body) hlate]
        exact arrangedIn_lifetimesFirst ts hrest (hready.imp fun h => h.group _)
    · exact arrangedIn_lifetimesFirst ts hrest hstay
end

end Reflection.Code
