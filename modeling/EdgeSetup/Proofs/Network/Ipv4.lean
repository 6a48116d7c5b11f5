import EdgeSetup.Network.Ipv4
import EdgeSetup.Proofs.Text.Pieces
import Mathlib.Data.List.Basic
import Mathlib.Tactic.IntervalCases

/-!
# IPv4 texts

Reading an address is the inverse of writing it (`Ipv4.ofChars?_eq_some_iff`): digits without a
leading zero are the ones that their number is written with (`toDigits_ofDigitChars`), and the four
pieces between the dots are the octets.

**The texts that can be read are the strict dotted quads** (`Ipv4.isSome_parse?_iff`): four numbers
up to 255 in decimal, with dots between them.
-/

namespace EdgeSetup

/-! ## Decimal digits -/

/-- The value of a digit, and the digit of that value. -/
theorem digitChar_sub {c : Char} (h : c.isDigit = true) :
    c.toNat - '0'.toNat < 10 ∧ Nat.digitChar (c.toNat - '0'.toNat) = c := by
  obtain ⟨hlow, hhigh⟩ := Char.isDigit_iff_toNat.1 h
  have hsmall : c.toNat - '0'.toNat < 10 := by
    have hnine : '9'.toNat = '0'.toNat + 9 := rfl
    omega
  refine ⟨hsmall, Char.toNat_inj.1 ?_⟩
  have hzero : '0'.toNat = 48 := rfl
  rw [Nat.toNat_digitChar_of_lt_ten hsmall]
  omega

/-- Digits after those of a number that is not zero. -/
theorem toDigits_append_digits {text : List Char} (hdigits : ∀ c ∈ text, c.isDigit = true)
    {n : Nat} (hpos : 0 < n) :
    Nat.toDigits 10 (Nat.ofDigitChars 10 text n) = Nat.toDigits 10 n ++ text := by
  induction text generalizing n with
  | nil => rw [Nat.ofDigitChars_nil, List.append_nil]
  | cons c text ih =>
    obtain ⟨hsmall, hchar⟩ := digitChar_sub (hdigits c (List.mem_cons_self ..))
    have hnext := Nat.toDigits_append_toDigits (by decide : 1 < 10) hpos hsmall
    rw [Nat.toDigits_of_lt_base hsmall, hchar] at hnext
    rw [Nat.ofDigitChars_cons, ih (fun d hd => hdigits d (List.mem_cons_of_mem _ hd)) (by omega),
      ← hnext, List.append_assoc, List.singleton_append]

/-- Digits without a leading zero are those that their number is written with. -/
theorem toDigits_ofDigitChars {text : List Char} (hne : text ≠ [])
    (hdigits : ∀ c ∈ text, c.isDigit = true) (hhead : text.head? ≠ some '0') :
    Nat.toDigits 10 (Nat.ofDigitChars 10 text 0) = text := by
  cases text with
  | nil => exact absurd rfl hne
  | cons c text =>
    obtain ⟨hsmall, hchar⟩ := digitChar_sub (hdigits c (List.mem_cons_self ..))
    have hpos : 0 < c.toNat - '0'.toNat := by
      by_contra hzero
      rw [Nat.eq_zero_of_not_pos hzero] at hchar
      exact hhead (congrArg some hchar.symm)
    rw [Nat.ofDigitChars_cons, Nat.mul_zero, Nat.zero_add,
      toDigits_append_digits (fun d hd => hdigits d (List.mem_cons_of_mem _ hd)) hpos,
      Nat.toDigits_of_lt_base hsmall, hchar, List.singleton_append]

/-- A number is written with a leading zero only if it is zero. -/
theorem head?_toDigits {n : Nat} (h : 0 < n) : (Nat.toDigits 10 n).head? ≠ some '0' := by
  induction n using Nat.strongRecOn with
  | ind n ih =>
    rw [Nat.toDigits_eq_if (by decide)]
    by_cases hsmall : n < 10
    · rw [if_pos hsmall]
      interval_cases n <;> decide
    · rw [if_neg hsmall, List.head?_append_of_ne_nil _ Nat.toDigits_ne_nil]
      exact ih (n / 10) (by omega) (by omega)

namespace Ipv4

/-! ## Octets -/

theorem dot_not_mem_octetText (octet : UInt8) : '.' ∉ octetText octet := by
  intro h
  have hdigit : '.'.isDigit = true := Nat.isDigit_of_mem_toDigits (by decide) (by decide) h
  cases hdigit

/-- What is checked of an octet. -/
theorem octet?_eq_some {text : List Char} {octet : UInt8} :
    octet? text = some octet ↔
      (text ≠ [] ∧ (∀ c ∈ text, c.isDigit = true) ∧ text.length ≤ 3) ∧
        (Nat.ofDigitChars 10 text 0 < 256 ∧ (text.length = 1 ∨ text.head? ≠ some '0')) ∧
          UInt8.ofNat (Nat.ofDigitChars 10 text 0) = octet := by
  simp [octet?, and_assoc]

/-- An octet is read from the text that it is written as, and from no other. -/
theorem octet?_eq_some_iff {text : List Char} {octet : UInt8} :
    octet? text = some octet ↔ text = octetText octet := by
  rw [octet?_eq_some]
  constructor
  · rintro ⟨⟨hne, hdigits, -⟩, ⟨hsmall, hzero⟩, rfl⟩
    rw [octetText, UInt8.toNat_ofNat_of_lt' hsmall]
    by_cases hhead : text.head? = some '0'
    · have hone : text.length = 1 := hzero.resolve_right (absurd hhead)
      obtain ⟨c, rfl⟩ := List.length_eq_one_iff.1 hone
      cases hhead
      rfl
    · exact (toDigits_ofDigitChars hne hdigits hhead).symm
  · rintro rfl
    have hvalue : Nat.ofDigitChars 10 (octetText octet) 0 = octet.toNat :=
      Nat.ofDigitChars_toDigits (by decide) (by decide)
    have hsmall : octet.toNat < 256 := octet.toNat_lt
    have hlength : (octetText octet).length ≤ 3 :=
      (Nat.length_toDigits_le_iff (by decide) (by decide)).2 (by omega)
    have hzero : (octetText octet).length = 1 ∨ (octetText octet).head? ≠ some '0' := by
      rcases Nat.eq_zero_or_pos octet.toNat with hnone | hpos
      · exact .inl (by rw [octetText, hnone]; rfl)
      · exact .inr (head?_toDigits hpos)
    rw [hvalue]
    exact ⟨⟨Nat.toDigits_ne_nil, fun c hc => Nat.isDigit_of_mem_toDigits (by decide) (by decide) hc,
      hlength⟩, ⟨hsmall, hzero⟩, UInt8.ofNat_toNat⟩

/-! ## Addresses -/

theorem splitOn_toChars {text : List Char} {ip : Ipv4} :
    Text.splitOn '.' text =
        [octetText ip.first, octetText ip.second, octetText ip.third, octetText ip.fourth] ↔
      text = ip.toChars := by
  have hfree : ∀ piece ∈ [octetText ip.first, octetText ip.second, octetText ip.third,
      octetText ip.fourth], '.' ∉ piece := by
    simp [dot_not_mem_octetText]
  rw [Text.splitOn_eq_iff (by simp), and_iff_right hfree, eq_comm]
  simp [toChars, List.intercalate_cons_cons]

/-- An address is read from the text that it is written as, and from no other. -/
theorem ofChars?_eq_some_iff {text : List Char} {ip : Ipv4} :
    ofChars? text = some ip ↔ text = ip.toChars := by
  rw [← splitOn_toChars]
  constructor
  · intro h
    unfold ofChars? at h
    split at h
    next a b c d hpieces =>
      simp only [bind, Option.bind_eq_some_iff, octet?_eq_some_iff] at h
      obtain ⟨first, rfl, second, rfl, third, rfl, fourth, rfl, heq⟩ := h
      cases heq
      exact hpieces
    · cases h
  · intro h
    have hread : ∀ octet, octet? (octetText octet) = some octet :=
      fun octet => octet?_eq_some_iff.2 rfl
    simp [ofChars?, h, hread]

/-- Four numbers up to 255 in decimal, with dots between them. -/
def IsDottedQuad (text : String) : Prop :=
  ∃ a b c d : Nat, (a ≤ 255 ∧ b ≤ 255 ∧ c ≤ 255 ∧ d ≤ 255) ∧
    text = toString a ++ "." ++ toString b ++ "." ++ toString c ++ "." ++ toString d

/-- **The texts that can be read are the strict dotted quads.** -/
theorem isSome_parse?_iff {text : String} : (parse? text).isSome = true ↔ IsDottedQuad text := by
  simp only [Option.isSome_iff_exists, parse?, ofChars?_eq_some_iff]
  constructor
  · rintro ⟨ip, htext⟩
    have hsmall : ∀ octet : UInt8, octet.toNat ≤ 255 :=
      fun octet => Nat.le_of_lt_succ octet.toNat_lt
    refine ⟨ip.first.toNat, ip.second.toNat, ip.third.toNat, ip.fourth.toNat,
      ⟨hsmall _, hsmall _, hsmall _, hsmall _⟩, ?_⟩
    rw [← String.toList_inj, htext]
    simp [toChars, octetText]
  · rintro ⟨a, b, c, d, ⟨ha, hb, hc, hd⟩, rfl⟩
    refine ⟨⟨.ofNat a, .ofNat b, .ofNat c, .ofNat d⟩, ?_⟩
    have hvalue : ∀ n, n ≤ 255 → (UInt8.ofNat n).toNat = n :=
      fun n hn => UInt8.toNat_ofNat_of_lt (Nat.lt_succ_of_le hn)
    simp [toChars, octetText, hvalue, ha, hb, hc, hd]

theorem isNone_parse?_iff {text : String} : (parse? text).isNone = true ↔ ¬ IsDottedQuad text := by
  rw [← isSome_parse?_iff]
  cases parse? text <;> simp

end Ipv4

end EdgeSetup
