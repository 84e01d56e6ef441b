import DesignHarness.Library.Pointwise
import Mathlib.Data.List.TakeWhile

/-!
# Base64

Octets as text over the alphabet that is safe in URLs, without the padding.  A reader adds the
padding that the length asks for and accepts `+` and `/` as well.
-/

namespace DesignHarness.Library

/-! ## Groups of six bits -/

def sextetsOf : List Nat → List Nat
  | [] => []
  | [a] => [a / 4, a % 4 * 16]
  | [a, b] => [a / 4, a % 4 * 16 + b / 16, b % 16 * 4]
  | a :: b :: c :: rest =>
      a / 4 :: (a % 4 * 16 + b / 16) :: (b % 16 * 4 + c / 64) :: (c % 64) :: sextetsOf rest

/-- The octets of groups of six bits; the bits that fill no octet are dropped. -/
def octetsOf : List Nat → Option (List Nat)
  | [] => some []
  | [_] => none
  | [w, x] => some [w * 4 + x / 16]
  | [w, x, y] => some [w * 4 + x / 16, x % 16 * 16 + y / 4]
  | w :: x :: y :: z :: rest => do
      let octets ← octetsOf rest
      return (w * 4 + x / 16) :: (x % 16 * 16 + y / 4) :: (y % 4 * 64 + z) :: octets

section

variable {octets : List Nat}

theorem sextetsOf_lt (small : ∀ octet ∈ octets, octet < 256) :
    ∀ sextet ∈ sextetsOf octets, sextet < 64 := by
  induction octets using sextetsOf.induct with
  | case1 => simp [sextetsOf]
  | case2 a =>
      have first := small a (by simp)
      simp only [sextetsOf, List.mem_cons, List.not_mem_nil, or_false]
      omega
  | case3 a b =>
      have first := small a (by simp)
      have second := small b (by simp)
      simp only [sextetsOf, List.mem_cons, List.not_mem_nil, or_false]
      omega
  | case4 a b c rest ih =>
      have first := small a (by simp)
      have second := small b (by simp)
      have third := small c (by simp)
      have others := ih fun octet member => small octet (by simp [member])
      simp only [sextetsOf, List.mem_cons]
      rintro sextet (rfl | rfl | rfl | rfl | member)
      · omega
      · omega
      · omega
      · omega
      · exact others sextet member

theorem octetsOf_sextetsOf (small : ∀ octet ∈ octets, octet < 256) :
    octetsOf (sextetsOf octets) = some octets := by
  induction octets using sextetsOf.induct with
  | case1 => rfl
  | case2 a =>
      have first := small a (by simp)
      simp only [sextetsOf, octetsOf, Option.some.injEq, List.cons.injEq, and_true]
      omega
  | case3 a b =>
      have first := small a (by simp)
      have second := small b (by simp)
      simp only [sextetsOf, octetsOf, Option.some.injEq, List.cons.injEq, and_true]
      omega
  | case4 a b c rest ih =>
      have first := small a (by simp)
      have second := small b (by simp)
      have third := small c (by simp)
      have others := ih fun octet member => small octet (by simp [member])
      simp only [sextetsOf, octetsOf, others, Option.bind_eq_bind, Option.bind_some,
        Option.pure_def, Option.some.injEq, List.cons.injEq, and_true]
      omega

theorem sextetsOf_length : (sextetsOf octets).length = (octets.length * 4 + 2) / 3 := by
  induction octets using sextetsOf.induct with
  | case1 => rfl
  | case2 a => simp [sextetsOf]
  | case3 a b => simp [sextetsOf]
  | case4 a b c rest ih =>
      simp only [sextetsOf, List.length_cons, ih]
      omega

end

/-- The character of a group of six bits. -/
def sextetChar (n : Nat) : Char :=
  if n < 26 then Char.ofNat (0x41 + n)
  else if n < 52 then Char.ofNat (0x61 + (n - 26))
  else if n < 62 then Char.ofNat (0x30 + (n - 52))
  else if n = 62 then '-'
  else '_'

def charSextet (c : Char) : Option Nat :=
  if 0x41 ≤ c.toNat ∧ c.toNat ≤ 0x5A then some (c.toNat - 0x41)
  else if 0x61 ≤ c.toNat ∧ c.toNat ≤ 0x7A then some (c.toNat - 0x61 + 26)
  else if 0x30 ≤ c.toNat ∧ c.toNat ≤ 0x39 then some (c.toNat - 0x30 + 52)
  else if c = '-' ∨ c = '+' then some 62
  else if c = '_' ∨ c = '/' then some 63
  else none

theorem charSextet_sextetChar : ∀ n < 64, charSextet (sextetChar n) = some n := by decide

theorem sextetChar_ne_pad : ∀ n < 64, sextetChar n ≠ '=' := by decide

/-- `base64.urlsafe_b64encode(octets).rstrip("=")`. -/
def base64Encode (octets : List Nat) : List Char := (sextetsOf octets).map sextetChar

/-- The padding of a text of a length. -/
def padding (length : Nat) : List Char := List.replicate ((4 - length % 4) % 4) '='

/-- `base64.b64decode(value + padding, altchars=b"-_", validate=True)`. -/
def base64Decode (value : List Char) : Option (List Nat) :=
  let padded := value ++ padding value.length
  let data := padded.takeWhile (· ≠ '=')
  if padded.drop data.length = padding data.length then do
    let sextets ← data.mapM charSextet
    octetsOf sextets
  else none

theorem mapM_charSextet {sextets : List Nat} (small : ∀ sextet ∈ sextets, sextet < 64) :
    (sextets.map sextetChar).mapM charSextet = some sextets := by
  have all := @mapM_map_some _ _ _ charSextet sextetChar id sextets
    fun sextet member => charSextet_sextetChar sextet (small sextet member)
  rwa [List.map_id] at all

theorem takeWhile_unpadded {data : List Char} (unpadded : ∀ c ∈ data, c ≠ '=') (length : Nat) :
    (data ++ padding length).takeWhile (· ≠ '=') = data := by
  have pads : (padding length).takeWhile (· ≠ '=') = [] := by
    unfold padding
    cases (4 - length % 4) % 4 with
    | zero => rfl
    | succ n => simp [List.replicate_succ]
  rw [List.takeWhile_append_of_pos (by simpa using unpadded), pads, List.append_nil]

/-- What is written is read again. -/
theorem base64Decode_encode {octets : List Nat} (small : ∀ octet ∈ octets, octet < 256) :
    base64Decode (base64Encode octets) = some octets := by
  have sextets := sextetsOf_lt small
  have unpadded : ∀ c ∈ base64Encode octets, c ≠ '=' := by
    intro c member
    obtain ⟨sextet, among, rfl⟩ := List.mem_map.mp member
    exact sextetChar_ne_pad sextet (sextets sextet among)
  have data := takeWhile_unpadded unpadded (base64Encode octets).length
  simp only [base64Decode, data, List.drop_left, if_true]
  rw [base64Encode, mapM_charSextet sextets]
  exact octetsOf_sextetsOf small

theorem base64Encode_length {octets : List Nat} :
    (base64Encode octets).length = (octets.length * 4 + 2) / 3 := by
  rw [base64Encode, List.length_map, sextetsOf_length]

end DesignHarness.Library
