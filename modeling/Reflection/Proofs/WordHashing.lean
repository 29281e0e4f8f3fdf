import Mathlib.Data.Nat.Digits.Defs
import Reflection.Keyed.WordHash
/-!
# Hashes of few bytes are numbers

Turning a word by a byte multiplies it by 256 as long as its upper byte is zero, and then the lower byte
is free for the byte that is added (`toNat_addByte`). Bytes are taken from their end, so they become the
digits of a number whose lowest digit is the first byte. By induction on the bytes nothing is carried out of
the word while there is room for them above the state (`toNat_write`). A whole word leaves nothing of what
came before it (`hashes_are_numbers`).
-/

namespace Reflection

namespace WordHash

/-! ## Numbers from bytes -/

/-- The number of which these are the bytes, lowest first. -/
def number (bytes : List UInt8) : Nat := Nat.ofDigits 256 (bytes.map UInt8.toNat)

theorem number_cons (b : UInt8) (bytes : List UInt8) : number (b :: bytes) = b.toNat + 256 * number bytes := rfl

theorem digit_lt (bytes : List UInt8) : ∀ d ∈ bytes.map UInt8.toNat, d < 256 := by
  intro d hd
  obtain ⟨b, -, rfl⟩ := List.mem_map.1 hd
  exact b.toNat_lt

theorem number_lt (bytes : List UInt8) : number bytes < 256 ^ bytes.length := by
  have hlt := Nat.ofDigits_lt_base_pow_length (by decide) (digit_lt bytes)
  rwa [List.length_map] at hlt

theorem number_injective {a b : List UInt8} (hlength : a.length = b.length) (h : number a = number b) : a = b := by
  have hlengths : (a.map UInt8.toNat).length = (b.map UInt8.toNat).length := by
    rw [List.length_map, List.length_map, hlength]
  have hdigits := Nat.ofDigits_inj_of_len_eq (by decide) hlengths (digit_lt a) (digit_lt b) h
  exact (List.map_inj_right fun _ _ => UInt8.toNat_inj.1).1 hdigits

theorem length_bytesOf (n x : Nat) : (bytesOf n x).length = n := by
  induction n generalizing x with
  | zero => rfl
  | succ n ih => rw [bytesOf, List.length_cons, ih]

theorem number_bytesOf (n x : Nat) : number (bytesOf n x) = x % 256 ^ n := by
  induction n generalizing x with
  | zero => rw [Nat.pow_zero, Nat.mod_one]; rfl
  | succ n ih =>
    have hbyte : (UInt8.ofNat (x % 256)).toNat = x % 256 := by
      rw [UInt8.toNat_ofNat']
      omega
    rw [bytesOf, number_cons, ih, hbyte, Nat.pow_succ', Nat.mod_mul]

/-! ## One byte -/

/-- The upper byte comes down to the lowest place. -/
theorem toNat_turn (h : UInt64) : (turn h).toNat = h.toNat % 2 ^ 56 * 256 + h.toNat / 2 ^ 56 := by
  have hlt : h.toNat < 2 ^ 64 := h.toNat_lt
  have hup : (h <<< 8).toNat = (h.toNat % 2 ^ 56) <<< 8 := by
    rw [UInt64.toNat_shiftLeft, Nat.shiftLeft_eq, Nat.shiftLeft_eq]
    change h.toNat * 2 ^ 8 % 2 ^ 64 = _
    omega
  have hdown : (h >>> 56).toNat = h.toNat / 2 ^ 56 := by
    rw [UInt64.toNat_shiftRight, Nat.shiftRight_eq_div_pow]
    rfl
  have hbyte : h.toNat / 2 ^ 56 < 2 ^ 8 := by omega
  rw [turn, UInt64.toNat_or, hup, hdown, ← Nat.shiftLeft_add_eq_or_of_lt hbyte, Nat.shiftLeft_eq]

theorem toNat_addByte {h : UInt64} (hroom : h.toNat < 2 ^ 56) (b : UInt8) :
    (addByte h b).toNat = h.toNat * 256 + b.toNat := by
  have hb : b.toNat < 256 := b.toNat_lt
  rw [addByte, UInt64.toNat_add, toNat_turn, UInt8.toNat_toUInt64, Nat.mod_eq_of_lt hroom, Nat.div_eq_of_lt hroom,
    Nat.add_zero]
  apply Nat.mod_eq_of_lt
  omega

/-! ## Bytes in a row -/

theorem write_cons (h : WordHash) (b : UInt8) (bytes : List UInt8) :
    (h.write (b :: bytes)).state = addByte (h.write bytes).state b := rfl

theorem write_append (h : WordHash) (a b : List UInt8) : h.write (a ++ b) = (h.write b).write a := by
  rw [write, List.foldr_append]
  rfl

/-- A state with `k + 1` bytes of room has room for one more after `k` of them. -/
theorem room_after {s n k : Nat} (hk : k + 1 ≤ 8) (hs : s < 2 ^ (64 - 8 * (k + 1))) (hn : n < 256 ^ k) :
    s * 256 ^ k + n < 2 ^ 56 := by
  have hpow : 2 ^ (64 - 8 * (k + 1)) * 256 ^ k = 2 ^ 56 := by
    rw [show 256 = 2 ^ 8 by rfl, ← Nat.pow_mul, ← Nat.pow_add]
    congr 1
    omega
  calc s * 256 ^ k + n < s * 256 ^ k + 256 ^ k := Nat.add_lt_add_left hn _
    _ = (s + 1) * 256 ^ k := (Nat.succ_mul s _).symm
    _ ≤ 2 ^ (64 - 8 * (k + 1)) * 256 ^ k := Nat.mul_le_mul_right _ hs
    _ = 2 ^ 56 := hpow

theorem toNat_write {h : WordHash} {bytes : List UInt8} (hlength : bytes.length ≤ 8)
    (hroom : h.state.toNat < 2 ^ (64 - 8 * bytes.length)) :
    (h.write bytes).state.toNat = h.state.toNat * 256 ^ bytes.length + number bytes := by
  induction bytes with
  | nil => exact (Nat.mul_one _).symm
  | cons b bytes ih =>
    rw [List.length_cons] at hlength hroom
    have hless : h.state.toNat < 2 ^ (64 - 8 * bytes.length) :=
      Nat.lt_of_lt_of_le hroom (Nat.pow_le_pow_right (by decide) (by omega))
    have hstate := ih (by omega) hless
    have hroom' : (h.write bytes).state.toNat < 2 ^ 56 := by
      rw [hstate]
      exact room_after hlength hroom (number_lt bytes)
    rw [write_cons, toNat_addByte hroom', hstate, number_cons, List.length_cons, Nat.pow_succ]
    ring

/-- A fresh hasher has room for a whole word. -/
theorem toNat_write_init {bytes : List UInt8} (hlength : bytes.length ≤ 8) :
    (init.write bytes).state.toNat = number bytes := by
  have hroom : init.state.toNat < 2 ^ (64 - 8 * bytes.length) := Nat.two_pow_pos _
  rw [toNat_write hlength hroom]
  exact (congrArg (· + number bytes) (Nat.zero_mul _)).trans (Nat.zero_add _)

end WordHash

/-! ## Bytes and words in turn -/

/-- What is written to a hasher. -/
inductive HashInput
  | bytes (bytes : List UInt8)
  | word (w : UInt64)

namespace WordHash

def feed (h : WordHash) : HashInput → WordHash
  | .bytes bytes => h.write bytes
  | .word w => h.writeWord w

/-- The answers of a hasher after each input. -/
def answers : WordHash → List HashInput → List UInt64
  | _, [] => []
  | h, input :: inputs => (h.feed input).state :: (h.feed input).answers inputs

/-- Behind the first inputs the answers are those of the hasher that has taken them. -/
theorem drop_answers (h : WordHash) (earlier later : List HashInput) :
    (h.answers (earlier ++ later)).drop earlier.length = (earlier.foldl feed h).answers later := by
  induction earlier generalizing h with
  | nil => rfl
  | cons input earlier ih => exact ih (h.feed input)

end WordHash

open WordHash

/-- Bytes are hashed from their end. As long as there is room above the state, writing `k` bytes moves it up by `k`
places to base 256 and puts the number of the bytes below it. So the bytes of a word give the same as the word, and
different bytes different hashes. From the writing of a word on the answers are those of a fresh hasher. -/
theorem hashes_are_numbers :
    (∀ (h : WordHash) (a b : List UInt8), h.write (a ++ b) = (h.write b).write a) ∧
    (∀ (h : WordHash) (bytes : List UInt8), bytes.length ≤ 8 → h.state.toNat < 2 ^ (64 - 8 * bytes.length) →
      (h.write bytes).state.toNat = h.state.toNat * 256 ^ bytes.length + number bytes) ∧
    (∀ w : UInt64, (bytesOf 8 w.toNat).length = 8 ∧ number (bytesOf 8 w.toNat) = w.toNat ∧
      init.write (bytesOf 8 w.toNat) = init.writeWord w) ∧
    (∀ a b : List UInt8, a.length = b.length → a.length ≤ 8 → a ≠ b → (init.write a).state ≠ (init.write b).state) ∧
    (∀ (h : WordHash) (earlier : List HashInput) (w : UInt64) (later : List HashInput),
      (h.answers (earlier ++ .word w :: later)).drop earlier.length = init.answers (.word w :: later)) := by
  refine ⟨write_append, ?_, ?_, ?_, ?_⟩
  · intro h bytes hlength hroom
    exact toNat_write hlength hroom
  · intro w
    have hlength := length_bytesOf 8 w.toNat
    have hnumber : number (bytesOf 8 w.toNat) = w.toNat := by
      rw [number_bytesOf]
      exact Nat.mod_eq_of_lt w.toNat_lt
    refine ⟨hlength, hnumber, ?_⟩
    have hstate := toNat_write_init (Nat.le_of_eq hlength)
    rw [hnumber] at hstate
    exact congrArg WordHash.mk (UInt64.toNat_inj.1 hstate)
  · intro a b hlength ha hne hsame
    apply hne
    apply number_injective hlength
    rw [← toNat_write_init ha, ← toNat_write_init (hlength ▸ ha), hsame]
  · intro h earlier w later
    exact drop_answers h earlier (.word w :: later)

/-- Seven bytes below a state of one byte fill the word up to its upper end. With one more the state goes out at the
upper end and comes in at the lower one. -/
theorem hashes_are_numbers_full :
    let bytes : List UInt8 := [1, 2, 3, 4, 5, 6, 255]
    bytes.length ≤ 8 ∧ (255 : UInt64).toNat < 2 ^ (64 - 8 * bytes.length) ∧
      ((⟨255⟩ : WordHash).write bytes).state.toNat = 255 * 256 ^ 7 + 0xff060504030201 ∧
      [(1 : UInt8), 2].length = [(2 : UInt8), 1].length ∧ [(1 : UInt8), 2].length ≤ 8 ∧ [(1 : UInt8), 2] ≠ [2, 1] ∧
      (init.write [1, 2]).state ≠ (init.write [2, 1]).state ∧
      ((⟨255⟩ : WordHash).write (0 :: bytes)).state = 0xff060504030201ff := by
  intro bytes
  obtain ⟨-, hnumber, -, hdistinct, -⟩ := hashes_are_numbers
  have hroom : (255 : UInt64).toNat < 2 ^ (64 - 8 * bytes.length) := by decide
  have hne : [(1 : UInt8), 2] ≠ [2, 1] := by decide
  refine ⟨by decide, hroom, ?_, rfl, by decide, hne, ?_, by decide⟩
  · exact hnumber ⟨255⟩ bytes (by decide) hroom
  · exact hdistinct [1, 2] [2, 1] rfl (by decide) hne

end Reflection
