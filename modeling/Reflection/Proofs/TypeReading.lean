import Reflection.Proofs.TypeTerms
/-!
# Reading the text of a type

The text of a type is cut in one way only: a word ends where a character follows that is in no word, and an
array's items and the arguments of a type where their text is closed. So a text tells its type, with anything
behind it that closes it (`Ty.readBack`), if declared structs have bases of their own (`TellsApart`).
-/

namespace Reflection

/-! ## Bases are words -/

theorem mem_intercalate {parts : List String} {c : Char} (h : c ∈ ("::".intercalate parts).toList) :
    c = ':' ∨ ∃ p ∈ parts, c ∈ p.toList := by
  induction parts with
  | nil => simp at h
  | cons p parts ih =>
    cases parts with
    | nil => exact .inr ⟨p, by simp, by simpa using h⟩
    | cons p' parts =>
      rw [String.intercalate_cons_cons, String.toList_append, String.toList_append] at h
      rw [List.mem_append, List.mem_append] at h
      rcases h with (hp | hcolon) | hrest
      · exact .inr ⟨p, by simp, hp⟩
      · exact .inl (by simpa using hcolon)
      · rcases ih hrest with hcolon | ⟨q, hq, hc⟩
        · exact .inl hcolon
        · exact .inr ⟨q, List.mem_cons_of_mem _ hq, hc⟩

theorem TypeBase.Qualified.not_isBreak {b : TypeBase} (h : b.Qualified) (qualified : Bool) :
    ∀ c ∈ (b.text qualified).toList, isBreak c = false := by
  intro c hc
  cases qualified with
  | false => exact (h.ident.1 c hc).1
  | true =>
    obtain ⟨modules, hmodules, hpath⟩ := h.modules
    have hc' : c ∈ b.path.toList := hc
    rw [hpath] at hc'
    rcases mem_intercalate hc' with rfl | ⟨p, hp, hcp⟩
    · rfl
    · rcases List.mem_append.1 hp with hp | hp
      · exact (hmodules p hp c hcp).1
      · obtain rfl := List.mem_singleton.1 hp
        exact (h.ident.1 c hcp).1

theorem TypeBase.Qualified.text_ne_empty {b : TypeBase} (h : b.Qualified) (qualified : Bool) :
    (b.text qualified).toList ≠ [] := by
  cases qualified with
  | false => simpa [text] using h.ident.2
  | true =>
    have hmodule := h.module
    have hne := h.ident.2
    cases hm : b.module with
    | none => simpa [text, hmodule, hm] using hne
    | some m => simp [text, hmodule, hm]

/-! ## Reading a text back -/

/-- Text that begins with characters of a class and goes on with another one is cut in one way only. -/
theorem eq_of_append_eq {p : Char → Bool} {w w' r r' : List Char} (hw : ∀ c ∈ w, p c = true)
    (hw' : ∀ c ∈ w', p c = true) (hr : ∀ c ∈ r.head?, p c = false) (hr' : ∀ c ∈ r'.head?, p c = false)
    (h : w ++ r = w' ++ r') : w = w' ∧ r = r' := by
  have hcut {w r : List Char} (hw : ∀ c ∈ w, p c = true) (hr : ∀ c ∈ r.head?, p c = false) :
      (w ++ r).takeWhile p = w ∧ (w ++ r).dropWhile p = r := by
    rw [List.takeWhile_append_of_pos hw, List.dropWhile_append_of_pos hw]
    cases r with
    | nil => simp
    | cons c r =>
      have hc : p c = false := hr c rfl
      simp [hc]
  obtain ⟨htake, hdrop⟩ := hcut hw hr
  obtain ⟨htake', hdrop'⟩ := hcut hw' hr'
  rw [h] at htake hdrop
  exact ⟨htake.symm.trans htake', hdrop.symm.trans hdrop'⟩

/-- What may stand behind a type: nothing, or what ends an argument or the items of an array. -/
def Closes (r : List Char) : Prop := ∀ c ∈ r.head?, c ∈ [',', '>', ';', ']']

theorem closes_cons {c : Char} (h : c ∈ [',', '>', ';', ']']) (r : List Char) : Closes (c :: r) := by
  intro c' hc'
  obtain rfl : c = c' := by simpa using hc'
  exact h

theorem isBreak_of_closes {r : List Char} (h : Closes r) : ∀ c ∈ r.head?, isBreak c = true ∧ c ≠ '<' := by
  have hall : [',', '>', ';', ']'].all (fun c => isBreak c && c != '<') = true := by decide
  intro c hc
  simpa using List.all_eq_true.1 hall c (h c hc)

/-- Declared structs have other texts than built-in types and each other. -/
structure TellsApart (text : TypeBase → String) (declared : StructName → Prop) : Prop where
  structs : ∀ n n', declared n → declared n' → text n.base = text n'.base → n = n'
  builtIn : ∀ n, declared n → ∀ b ∈ builtInBases, text n.base ≠ text b

namespace TypeHead

theorem eq_of_text {declared : StructName → Prop} {qualified : Bool} (htells : TellsApart (·.text qualified) declared)
    {head head' : TypeHead} (h : ∀ name, head = .struct name → declared name)
    (h' : ∀ name, head' = .struct name → declared name) (htext : head.base.text qualified = head'.base.text qualified) :
    head = head' := by
  have hbuiltIn {head : TypeHead} (hne : ∀ name, head ≠ .struct name) : head.base ∈ builtInBases :=
    List.mem_map_of_mem (mem_builtIn hne)
  by_cases hs : ∃ name, head = .struct name
  · obtain ⟨name, rfl⟩ := hs
    by_cases hs' : ∃ name, head' = .struct name
    · obtain ⟨name', rfl⟩ := hs'
      rw [htells.structs name name' (h name rfl) (h' name' rfl) htext]
    · exact absurd htext (htells.builtIn name (h name rfl) _ (hbuiltIn (not_exists.1 hs')))
  · by_cases hs' : ∃ name, head' = .struct name
    · obtain ⟨name', rfl⟩ := hs'
      exact absurd htext.symm (htells.builtIn name' (h' name' rfl) _ (hbuiltIn (not_exists.1 hs)))
    · have hmem := mem_builtIn (not_exists.1 hs)
      have hmem' := mem_builtIn (not_exists.1 hs')
      exact builtIn_injective qualified head hmem head' hmem' htext

end TypeHead

namespace Ty

variable {declared : StructName → Prop} {qualified : Bool}

/-- A type can be told from what is behind its text. -/
def ReadBack (qualified : Bool) (declared : StructName → Prop) (t : Ty) : Prop :=
  ∀ t' r r', t'.BuiltFrom declared → Closes r → Closes r' → chars qualified t ++ r = chars qualified t' ++ r' →
    t = t' ∧ r = r'

/-- Arguments are told apart up to the bracket behind them. -/
theorem eq_of_arguments_append {args args' : List Ty} (hread : ∀ a ∈ args, ReadBack qualified declared a)
    (hargs' : ∀ a ∈ args', a.BuiltFrom declared) (hne : args ≠ []) (hne' : args' ≠ []) {r r' : List Char}
    (h : argumentChars qualified args ++ '>' :: r = argumentChars qualified args' ++ '>' :: r') :
    args = args' ∧ r = r' := by
  induction args generalizing args' with
  | nil => exact absurd rfl hne
  | cons a args ih =>
    obtain ⟨a', args', rfl⟩ := List.exists_cons_of_ne_nil hne'
    -- Both begin with an argument, and a comma or the bracket follows.
    have hfirst : ∀ {c c' : Char} {s s' : List Char}, c ∈ [',', '>', ';', ']'] → c' ∈ [',', '>', ';', ']'] →
        chars qualified a ++ c :: s = chars qualified a' ++ c' :: s' → a = a' ∧ c = c' ∧ s = s' := by
      intro c c' s s' hc hc' heq
      obtain ⟨ha, hrest⟩ := hread a (by simp) a' _ _ (hargs' a' (by simp)) (closes_cons hc s) (closes_cons hc' s') heq
      exact ⟨ha, List.cons.inj hrest⟩
    cases args with
    | nil =>
      cases args' with
      | nil =>
        rw [argumentChars_singleton, argumentChars_singleton] at h
        obtain ⟨rfl, -, rfl⟩ := hfirst (by decide) (by decide) h
        exact ⟨rfl, rfl⟩
      | cons b' args' =>
        rw [argumentChars_singleton, argumentChars_cons_cons, List.append_assoc, List.cons_append] at h
        obtain ⟨-, hclose, -⟩ := hfirst (by decide) (by decide) h
        exact absurd hclose (by decide)
    | cons b args =>
      cases args' with
      | nil =>
        rw [argumentChars_singleton, argumentChars_cons_cons, List.append_assoc, List.cons_append] at h
        obtain ⟨-, hclose, -⟩ := hfirst (by decide) (by decide) h
        exact absurd hclose (by decide)
      | cons b' args' =>
        rw [argumentChars_cons_cons, argumentChars_cons_cons, List.append_assoc, List.append_assoc, List.cons_append,
          List.cons_append, List.cons_append, List.cons_append] at h
        obtain ⟨rfl, -, hrest⟩ := hfirst (by decide) (by decide) h
        obtain ⟨hargs, hr⟩ := ih (fun x hx => hread x (List.mem_cons_of_mem _ hx))
          (fun x hx => hargs' x (List.mem_cons_of_mem _ hx)) (by simp) (by simp) (List.cons.inj hrest).2
        rw [hargs]
        exact ⟨rfl, hr⟩

theorem eq_of_brackets_append {args args' : List Ty} (hread : ∀ a ∈ args, ReadBack qualified declared a)
    (hargs' : ∀ a ∈ args', a.BuiltFrom declared) {r r' : List Char} (hr : Closes r) (hr' : Closes r')
    (h : bracketChars qualified args ++ r = bracketChars qualified args' ++ r') : args = args' ∧ r = r' := by
  -- Without arguments no bracket follows.
  by_cases hne : args = []
  · subst hne
    by_cases hne' : args' = []
    · subst hne'
      exact ⟨rfl, h⟩
    · rw [bracketChars_nil, List.nil_append, bracketChars_append _ hne'] at h
      exact absurd rfl (isBreak_of_closes hr '<' (by rw [h]; rfl)).2
  · by_cases hne' : args' = []
    · subst hne'
      rw [bracketChars_nil, List.nil_append, bracketChars_append _ hne] at h
      exact absurd rfl (isBreak_of_closes hr' '<' (by rw [← h]; rfl)).2
    · rw [bracketChars_append _ hne, bracketChars_append _ hne'] at h
      exact eq_of_arguments_append hread hargs' hne hne' (List.cons.inj h).2

/-- No character of a word is behind the base of a type. -/
theorem isBreak_of_brackets {args : List Ty} {r : List Char} (hr : Closes r) :
    ∀ c ∈ (bracketChars qualified args ++ r).head?, isBreak c = true := by
  intro c hc
  by_cases hne : args = []
  · subst hne
    exact (isBreak_of_closes hr c hc).1
  · rw [bracketChars_append _ hne] at hc
    obtain rfl : '<' = c := by simpa using hc
    rfl

/-- The text of a type that is not an array starts with a word. -/
theorem head_chars {t : Ty} {head : TypeHead} {args : List Ty} (h : t.parts? = some (head, args))
    (hbase : head.base.Qualified) (r : List Char) : ∀ c ∈ (chars qualified t ++ r).head?, c ≠ '[' := by
  intro c hc
  rw [chars_of_parts h] at hc
  obtain ⟨c', cs, hcs⟩ := List.exists_cons_of_ne_nil (hbase.text_ne_empty qualified)
  rw [hcs] at hc
  obtain rfl : c' = c := by simpa using hc
  have hbreak := hbase.not_isBreak qualified c' (by rw [hcs]; simp)
  rintro rfl
  cases hbreak

theorem eq_of_repr_append {m n : Nat} {r r' : List Char} (h : m.repr.toList ++ ']' :: r = n.repr.toList ++ ']' :: r') :
    m = n ∧ r = r' := by
  have hend (r : List Char) : ∀ c ∈ (']' :: r).head?, c.isDigit = false := by simp
  obtain ⟨hsame, hrest⟩ := eq_of_append_eq isDigit_of_mem_repr isDigit_of_mem_repr (hend r) (hend r') h
  rw [Nat.toList_repr, Nat.toList_repr] at hsame
  refine ⟨?_, (List.cons.inj hrest).2⟩
  rw [← Nat.ofDigitChars_ten_toDigits (n := m), hsame, Nat.ofDigitChars_ten_toDigits]

/-- The text of an array ends where that of its items and the length behind it end. -/
theorem readBack_array {item : Ty} {len : Nat} (hread : ReadBack qualified declared item)
    (hformed : ∀ n, declared n → n.WellFormed) : ReadBack qualified declared (.array item len) := by
  intro t' r r' ht' hr hr' h
  rcases ht'.array_or_parts with ⟨item', len', rfl, hitem'⟩ | ⟨head, args, hparts, hhead, -⟩
  · rw [chars_array, chars_array] at h
    simp only [List.cons_append, List.append_assoc, List.nil_append, List.cons.injEq, true_and] at h
    obtain ⟨rfl, hrest⟩ := hread item' _ _ hitem' (closes_cons (by decide) _) (closes_cons (by decide) _) h
    simp only [List.cons.injEq, true_and] at hrest
    obtain ⟨rfl, rfl⟩ := eq_of_repr_append hrest
    exact ⟨rfl, rfl⟩
  · have hbase := TypeHead.qualified fun name hname => hformed name (hhead name hname)
    rw [chars_array] at h
    exact absurd rfl (head_chars hparts hbase r' '[' (by rw [← h]; rfl))

/-- The text of a type that is not an array ends behind its base, or behind its arguments. -/
theorem readBack_of_parts (htells : TellsApart (·.text qualified) declared) (hformed : ∀ n, declared n → n.WellFormed)
    {t : Ty} {head : TypeHead} {args : List Ty} (hparts : t.parts? = some (head, args))
    (hhead : ∀ name, head = .struct name → declared name) (hread : ∀ a ∈ args, ReadBack qualified declared a) :
    ReadBack qualified declared t := by
  have hbase := TypeHead.qualified fun name hname => hformed name (hhead name hname)
  intro t' r r' ht' hr hr' h
  rcases ht'.array_or_parts with ⟨item, len, rfl, -⟩ | ⟨head', args', hparts', hhead', hargs'⟩
  · rw [chars_array] at h
    exact absurd rfl (head_chars hparts hbase r '[' (by rw [h]; rfl))
  · have hbase' := TypeHead.qualified fun name hname => hformed name (hhead' name hname)
    rw [chars_of_parts hparts, chars_of_parts hparts', List.append_assoc, List.append_assoc] at h
    have hword {b : TypeBase} (hb : b.Qualified) : ∀ c ∈ (b.text qualified).toList, (!isBreak c) = true :=
      fun c hc => by rw [hb.not_isBreak qualified c hc]; rfl
    have hbreak {args : List Ty} {r : List Char} (hr : Closes r) :
        ∀ c ∈ (bracketChars qualified args ++ r).head?, (!isBreak c) = false :=
      fun c hc => by rw [isBreak_of_brackets hr c hc]; rfl
    obtain ⟨htext, hrest⟩ := eq_of_append_eq (hword hbase) (hword hbase') (hbreak hr) (hbreak hr') h
    obtain rfl := TypeHead.eq_of_text htells hhead hhead' (String.toList_inj.1 htext)
    obtain ⟨rfl, rfl⟩ := eq_of_brackets_append hread hargs' hr hr' hrest
    exact ⟨eq_of_parts hparts hparts', rfl⟩

/-- A text tells its type, whatever closes it. -/
theorem readBack (htells : TellsApart (·.text qualified) declared) (hformed : ∀ n, declared n → n.WellFormed)
    {t : Ty} (ht : t.BuiltFrom declared) : ReadBack qualified declared t :=
  ht.terms (fun _ _ _ hread => readBack_array hread hformed)
    (fun _ _ _ hparts hhead _ hread => readBack_of_parts htells hformed hparts hhead hread)

theorem eq_of_text (htells : TellsApart (·.text qualified) declared) (hformed : ∀ n, declared n → n.WellFormed)
    {t t' : Ty} (ht : t.BuiltFrom declared) (ht' : t'.BuiltFrom declared) (h : t.text qualified = t'.text qualified) :
    t = t' := by
  have hend : Closes [] := by simp [Closes]
  refine (readBack htells hformed ht t' [] [] ht' hend hend ?_).1
  rw [chars, chars, h]

end Ty

end Reflection
