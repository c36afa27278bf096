import Mathlib.Algebra.Group.Nat.Defs
import Mathlib.Data.List.Basic

/-!
# Fields of a byte stream

Numbers of four bytes, the most significant first, and reading a given count of bytes or none.
What was packed unpacks, and what is read together with the rest is what was there.
-/

namespace SolarFlowEms.ByteFields

abbrev Bytes := List UInt8

/-- The four bytes of a number, the most significant first. -/
def packU32 (n : ℕ) : Bytes :=
  [UInt8.ofNat (n / 16777216), UInt8.ofNat (n / 65536), UInt8.ofNat (n / 256), UInt8.ofNat n]

def unpackU32 : Bytes → ℕ
  | [a, b, c, d] => ((a.toNat * 256 + b.toNat) * 256 + c.toNat) * 256 + d.toNat
  | _ => 0

@[simp] theorem packU32_length (n : ℕ) : (packU32 n).length = 4 := rfl

theorem unpackU32_packU32 {n : ℕ} (h : n < 2 ^ 32) : unpackU32 (packU32 n) = n := by
  show (((UInt8.ofNat (n / 16777216)).toNat * 256 + (UInt8.ofNat (n / 65536)).toNat) * 256 +
    (UInt8.ofNat (n / 256)).toNat) * 256 + (UInt8.ofNat n).toNat = n
  simp only [UInt8.toNat_ofNat']
  omega

theorem unpackU32_lt (bytes : Bytes) : unpackU32 bytes < 2 ^ 32 := by
  unfold unpackU32
  split
  · rename_i a b c d
    have ha := a.toNat_lt
    have hb := b.toNat_lt
    have hc := c.toNat_lt
    have hd := d.toNat_lt
    omega
  · omega

theorem packU32_unpackU32 {bytes : Bytes} (h : bytes.length = 4) :
    packU32 (unpackU32 bytes) = bytes := by
  obtain ⟨a, b, c, d, rfl⟩ : ∃ a b c d, bytes = [a, b, c, d] := by
    rcases bytes with _ | ⟨a, _ | ⟨b, _ | ⟨c, _ | ⟨d, _ | ⟨e, rest⟩⟩⟩⟩⟩
    · cases h
    · cases h
    · cases h
    · cases h
    · exact ⟨a, b, c, d, rfl⟩
    · simp at h
  have ha := a.toNat_lt
  have hb := b.toNat_lt
  have hc := c.toNat_lt
  have hd := d.toNat_lt
  show packU32 (((a.toNat * 256 + b.toNat) * 256 + c.toNat) * 256 + d.toNat) = _
  simp only [packU32, List.cons.injEq, and_true]
  refine ⟨?_, ?_, ?_, ?_⟩ <;>
    · apply UInt8.toNat_inj.mp
      rw [UInt8.toNat_ofNat']
      omega

theorem packU32_inj {n m : ℕ} (hn : n < 2 ^ 32) (hm : m < 2 ^ 32) (h : packU32 n = packU32 m) :
    n = m := by
  rw [← unpackU32_packU32 hn, h, unpackU32_packU32 hm]

/-- The next bytes and the rest, where there are so many. -/
def readExact? (count : ℕ) (bytes : Bytes) : Option (Bytes × Bytes) :=
  if count ≤ bytes.length then some (bytes.take count, bytes.drop count) else none

theorem readExact?_eq_some {count : ℕ} {bytes read rest : Bytes} :
    readExact? count bytes = some (read, rest) ↔ bytes = read ++ rest ∧ read.length = count := by
  constructor
  · intro h
    rw [readExact?] at h
    split_ifs at h with hcount
    obtain ⟨rfl, rfl⟩ := Prod.mk.inj (Option.some.inj h)
    exact ⟨(List.take_append_drop count bytes).symm, List.length_take_of_le hcount⟩
  · rintro ⟨rfl, rfl⟩
    rw [readExact?, if_pos (by rw [List.length_append]; omega), List.take_left, List.drop_left]

end SolarFlowEms.ByteFields
