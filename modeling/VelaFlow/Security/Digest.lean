import Mathlib.Data.List.Basic

/-!
# Digests

The 32 bytes of SHA-256 and of HMAC-SHA256, and their `hexdigest()`. The hash functions
themselves are parameters.
-/
namespace VelaFlow.Security

/-- The bytes of a digest. -/
abbrev Digest := Vector (Fin 256) 32

/-- The digest of zeros. -/
def zeroDigest : Digest := Vector.replicate 32 ⟨0, Nat.zero_lt_succ 255⟩

/-- The two digits of a byte. -/
def hexByte (byte : Fin 256) : List Char :=
  [Nat.digitChar (byte / 16), Nat.digitChar (byte % 16)]

/-- `hexdigest()`. -/
def hexdigest (digest : Digest) : String := String.ofList (digest.toList.flatMap hexByte)

/-- A byte is known by its digits. -/
theorem hexByte_inj {first second : Fin 256} (same : hexByte first = hexByte second) :
    first = second := by
  have inj : ∀ one < 16, ∀ two < 16, Nat.digitChar one = Nat.digitChar two → one = two := by decide
  have high := inj (first / 16) (by omega) (second / 16) (by omega) (List.cons.inj same).1
  have low := inj (first % 16) (by omega) (second % 16) (by omega)
    (List.cons.inj (List.cons.inj same).2).1
  apply Fin.ext
  omega

/-- Bytes are known by their digits. -/
theorem flatMap_hexByte_inj {first second : List (Fin 256)}
    (same : first.flatMap hexByte = second.flatMap hexByte) : first = second := by
  induction first generalizing second with
  | nil =>
    cases second with
    | nil => rfl
    | cons byte rest => cases same
  | cons byte rest ih =>
    cases second with
    | nil => cases same
    | cons other more =>
      rw [List.flatMap_cons, List.flatMap_cons] at same
      obtain ⟨head, tail⟩ := List.append_inj same rfl
      rw [hexByte_inj head, ih tail]

/-- A digest is known by its hexdigest. -/
theorem hexdigest_inj {first second : Digest} (same : hexdigest first = hexdigest second) :
    first = second := by
  unfold hexdigest at same
  have bytes := flatMap_hexByte_inj (String.ofList_injective same)
  exact Vector.toList_inj.mp bytes

/-- A hexdigest is not empty. -/
theorem hexdigest_ne_empty (digest : Digest) : hexdigest digest ≠ "" := by
  intro empty
  have none : digest.toList.flatMap hexByte = [] := by
    simpa [hexdigest] using congrArg String.toList empty
  have length := digest.length_toList
  cases bytes : digest.toList with
  | nil =>
    rw [bytes] at length
    cases length
  | cons byte rest =>
    rw [bytes] at none
    cases none

/-- A hexdigest is of hexadecimal digits. -/
theorem mem_hexdigest {digest : Digest} {character : Char}
    (inside : character ∈ (hexdigest digest).toList) : character.isAlphanum = true := by
  have all : ∀ digit < 16, (Nat.digitChar digit).isAlphanum = true := by decide
  simp only [hexdigest, String.toList_ofList, List.mem_flatMap] at inside
  obtain ⟨byte, -, within⟩ := inside
  simp only [hexByte, List.mem_cons, List.not_mem_nil, or_false] at within
  rcases within with rfl | rfl
  · exact all _ (by omega)
  · exact all _ (by omega)

end VelaFlow.Security
