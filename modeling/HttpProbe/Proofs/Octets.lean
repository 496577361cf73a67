/-
**The octets of a text, character by character.**

The octets of a character are the digits of its number in base sixty-four, with marks.  A character of ASCII
has one digit and no mark; in any other the first octet tells by its mark how many follow.  From this two
things can be read off.  The octets below `0x80` are the characters of ASCII, so what is asked of the octets
of a text, and is true of all others, can be asked of its characters.  And the greater of two characters has
the greater octets, so texts are in the order of their octets if they are in that of their characters.

Main definitions:

* `Text.width`, `Text.lead`, `Text.trail` — how many octets follow the first, its mark, and what follows;
* `Text.Before` — texts in the order of their octets.

Main results:

* `Text.utf8EncodeChar_eq` — how a character is written;
* `Text.forall_mem_octets_iff` — what is asked of all octets, asked of the characters;
* `Text.before_of_lt` — **the order of characters is that of octets**.
-/

import HttpProbe.Text.Utf8
import Mathlib.Data.List.Lex

set_option autoImplicit false
set_option relaxedAutoImplicit false

namespace HttpProbe.Text

/-! ### One character -/

/-- How many octets follow the first one of a character with this number. -/
def width (n : Nat) : Nat :=
  if n < 0x80 then 0 else if n < 0x800 then 1 else if n < 0x10000 then 2 else 3

/-- The mark of the first octet, if so many follow; it is the least number of an octet with this mark. -/
def lead : Nat → Nat
  | 0 => 0
  | 1 => 0xC0
  | 2 => 0xE0
  | 3 => 0xF0
  | _ => 0x100

/-- A number without its last digits in base sixty-four. -/
def high : Nat → Nat → Nat
  | 0, n => n
  | k + 1, n => high k (n / 64)

/-- The last digits of a number in base sixty-four, with the mark of an octet that follows another. -/
def trail : Nat → Nat → List UInt8
  | 0, _ => []
  | k + 1, n => trail k (n / 64) ++ [.ofNat (0x80 + n % 64)]

/-- The octets of a character with this number. -/
def spell (n : Nat) : List UInt8 :=
  .ofNat (lead (width n) + high (width n) n) :: trail (width n) n

theorem toNat_lt (c : Char) : c.toNat < 0x110000 := by
  have hvalid : c.toNat.isValidChar := c.valid
  rcases hvalid with hlow | hhigh
  · omega
  · exact hhigh.2

/-- **How a character is written.** -/
theorem utf8EncodeChar_eq (c : Char) : String.utf8EncodeChar c = spell c.toNat := by
  have hlimit := toNat_lt c
  have hnumber : c.val.toNat = c.toNat := rfl
  simp only [String.utf8EncodeChar, hnumber]
  generalize c.toNat = n at hlimit
  by_cases h₁ : n < 0x80
  · have hone : n ≤ 0x7F := by omega
    simp [spell, width, lead, high, trail, h₁, hone]
  by_cases h₂ : n < 0x800
  · have hone : ¬ n ≤ 0x7F := by omega
    have htwo : n ≤ 0x7FF := by omega
    have hfirst : n / 64 % 32 = n / 64 := by omega
    simp [spell, width, lead, high, trail, h₁, h₂, hone, htwo, hfirst, Nat.add_comm]
  by_cases h₃ : n < 0x10000
  · have hone : ¬ n ≤ 0x7F := by omega
    have htwo : ¬ n ≤ 0x7FF := by omega
    have hthree : n ≤ 0xFFFF := by omega
    have hfirst : n / 4096 % 16 = n / 64 / 64 := by omega
    simp [spell, width, lead, high, trail, h₁, h₂, h₃, hone, htwo, hthree, hfirst, Nat.add_comm]
  · have hone : ¬ n ≤ 0x7F := by omega
    have htwo : ¬ n ≤ 0x7FF := by omega
    have hthree : ¬ n ≤ 0xFFFF := by omega
    have hfirst : n / 262144 % 8 = n / 64 / 64 / 64 := by omega
    have hsecond : n / 4096 = n / 64 / 64 := by omega
    simp [spell, width, lead, high, trail, h₁, h₂, h₃, hone, htwo, hthree, hfirst, hsecond,
      Nat.add_comm]

/-- The first octet stands below those with the next mark. -/
theorem first_lt {n : Nat} (h : n < 0x110000) :
    lead (width n) + high (width n) n < lead (width n + 1) := by
  by_cases h₁ : n < 0x80
  · simp only [width, if_pos h₁, lead, high]
    omega
  by_cases h₂ : n < 0x800
  · simp only [width, if_neg h₁, if_pos h₂, lead, high]
    omega
  by_cases h₃ : n < 0x10000
  · simp only [width, if_neg h₁, if_neg h₂, if_pos h₃, lead, high]
    omega
  · simp only [width, if_neg h₁, if_neg h₂, if_neg h₃, lead, high]
    omega

theorem lead_mono {k m : Nat} (h : k ≤ m) : lead k ≤ lead m := by
  rcases k with _ | _ | _ | _ | k <;> rcases m with _ | _ | _ | _ | m <;> simp [lead] <;> omega

theorem width_le (n : Nat) : width n ≤ 3 := by
  grind [width]

theorem first_lt_octet {n : Nat} (h : n < 0x110000) : lead (width n) + high (width n) n < 256 :=
  calc lead (width n) + high (width n) n
    _ < lead (width n + 1) := first_lt h
    _ ≤ lead 4 := lead_mono (Nat.succ_le_succ (width_le n))

theorem width_mono {m n : Nat} (h : m ≤ n) : width m ≤ width n := by
  grind [width]

/-! ### Characters of ASCII -/

theorem spell_of_lt {n : Nat} (h : n < 0x80) : spell n = [.ofNat n] := by
  simp [spell, width, lead, high, trail, h]

theorem le_of_mem_trail {k n : Nat} {b : UInt8} (h : b ∈ trail k n) : 0x80 ≤ b.toNat := by
  induction k generalizing n with
  | zero => cases h
  | succ k ih =>
      rw [trail, List.mem_append, List.mem_singleton] at h
      rcases h with hbefore | rfl
      · exact ih hbefore
      · have hoctet : 0x80 + n % 64 < 256 := by omega
        rw [UInt8.toNat_ofNat_of_lt' hoctet]
        omega

/-- A character beyond ASCII has no octet of ASCII. -/
theorem le_of_mem_spell {n : Nat} (h : 0x80 ≤ n) (hlimit : n < 0x110000) {b : UInt8}
    (hb : b ∈ spell n) : 0x80 ≤ b.toNat := by
  rcases List.mem_cons.1 hb with rfl | hbefore
  · have hwidth : 1 ≤ width n := by grind [width]
    rw [UInt8.toNat_ofNat_of_lt' (first_lt_octet hlimit)]
    calc 0x80
      _ ≤ lead 1 := by decide
      _ ≤ lead (width n) := lead_mono hwidth
      _ ≤ lead (width n) + high (width n) n := Nat.le_add_right _ _
  · exact le_of_mem_trail hbefore

/-- **What is asked of all octets**, and holds of those that are not of ASCII, **is asked of the characters
of ASCII.** -/
theorem forall_mem_octets_iff {p : UInt8 → Bool} (hp : ∀ b : UInt8, 0x80 ≤ b.toNat → p b = true)
    (s : String) :
    (∀ b ∈ octets s, p b = true) ↔ ∀ c ∈ s.toList, c.toNat < 0x80 → p (.ofNat c.toNat) = true := by
  simp only [octets, encode, List.mem_flatMap, utf8EncodeChar_eq]
  constructor
  · intro hall c hc hascii
    refine hall _ ⟨c, hc, ?_⟩
    rw [spell_of_lt hascii]
    exact List.mem_singleton_self _
  · rintro hall b ⟨c, hc, hb⟩
    by_cases hascii : c.toNat < 0x80
    · rw [spell_of_lt hascii, List.mem_singleton] at hb
      exact hb ▸ hall c hc hascii
    · exact hp b (le_of_mem_spell (Nat.le_of_not_lt hascii) (toNat_lt c) hb)

/-! ### The order of octets -/

/-- The first text stands before the second one in the order of their octets. -/
def Before (s t : String) : Prop := List.Lex (· < ·) (octets s) (octets t)

theorem lex_cons_iff {m n : Nat} (hm : m < 256) (hn : n < 256) {x y : List UInt8} :
    List.Lex (· < ·) (UInt8.ofNat m :: x) (UInt8.ofNat n :: y) ↔
      m < n ∨ m = n ∧ List.Lex (· < ·) x y := by
  rw [List.cons_lex_cons_iff, UInt8.lt_iff_toNat_lt, ← UInt8.toNat_inj, UInt8.toNat_ofNat_of_lt' hm,
    UInt8.toNat_ofNat_of_lt' hn]

/-- Two numbers that agree but for their last digits are in the order of these. -/
theorem lex_trail {k m n : Nat} (h : m < n) (hhigh : high k m = high k n) (x y : List UInt8) :
    List.Lex (· < ·) (trail k m ++ x) (trail k n ++ y) := by
  induction k generalizing m n x y with
  | zero => exact absurd hhigh (Nat.ne_of_lt h)
  | succ k ih =>
      simp only [trail, List.append_assoc, List.singleton_append]
      by_cases hdiv : m / 64 = n / 64
      · rw [hdiv]
        have hlast : m % 64 < n % 64 := by omega
        refine List.Lex.append_left _ ?_ _
        rw [lex_cons_iff (by omega) (by omega)]
        exact .inl (Nat.add_lt_add_left hlast _)
      · have hfront : m / 64 < n / 64 := by omega
        exact ih hfront hhigh _ _

theorem high_mono {k m n : Nat} (h : m ≤ n) : high k m ≤ high k n := by
  induction k generalizing m n with
  | zero => exact h
  | succ k ih => exact ih (Nat.div_le_div_right h)

/-- The lesser of two characters has the lesser octets, whatever follows. -/
theorem lex_spell {m n : Nat} (h : m < n) (hlimit : n < 0x110000) (x y : List UInt8) :
    List.Lex (· < ·) (spell m ++ x) (spell n ++ y) := by
  have hm : m < 0x110000 := h.trans hlimit
  simp only [spell, List.cons_append]
  rw [lex_cons_iff (first_lt_octet hm) (first_lt_octet hlimit)]
  rcases Nat.lt_or_eq_of_le (width_mono h.le) with hwidth | hwidth
  · left
    calc lead (width m) + high (width m) m
      _ < lead (width m + 1) := first_lt hm
      _ ≤ lead (width n) := lead_mono hwidth
      _ ≤ lead (width n) + high (width n) n := Nat.le_add_right _ _
  · rw [hwidth]
    rcases Nat.lt_or_eq_of_le (high_mono (k := width n) h.le) with hfirst | hfirst
    · exact .inl (Nat.add_lt_add_left hfirst _)
    · exact .inr ⟨by rw [hfirst], lex_trail h hfirst x y⟩

theorem lex_encode {cs ds : List Char} (h : List.Lex (· < ·) cs ds) :
    List.Lex (· < ·) (encode cs) (encode ds) := by
  induction h with
  | @nil d ds =>
      rw [encode, encode, List.flatMap_nil, List.flatMap_cons, utf8EncodeChar_eq, spell, List.cons_append]
      exact .nil
  | @cons c cs ds _ ih => exact List.Lex.append_left _ ih _
  | @rel c cs d ds hc =>
      rw [encode, encode, List.flatMap_cons, List.flatMap_cons, utf8EncodeChar_eq, utf8EncodeChar_eq]
      exact lex_spell hc (toNat_lt d) _ _

/-- **The order of characters is that of octets.** -/
theorem before_of_lt {s t : String} (h : s < t) : Before s t := by
  have hchars : List.Lex (· < ·) s.toList t.toList := h
  exact lex_encode hchars

end HttpProbe.Text
