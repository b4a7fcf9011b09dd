import DeferredMetrics.Text.Utf8

set_option autoImplicit false

/-! # The order of texts is the order of their bytes

Texts are compared character by character, and a program that has only their bytes compares these.
UTF-8 is made so that the results agree: of two different characters the greater one has the greater
first byte, or the same first bytes and then a greater one. -/

namespace DeferredMetrics
namespace Utf8

variable {a b : Nat} {x y : List UInt8}

/-- The lists differ in the first byte. -/
theorem bytes_lt_of_lt (h : a < b) (hb : b < 256) : UInt8.ofNat a :: x < UInt8.ofNat b :: y := by
  refine List.cons_lt_cons_iff.2 (.inl ?_)
  rw [UInt8.lt_iff_toNat_lt, toNat_byte (Nat.lt_trans h hb), toNat_byte hb]
  exact h

/-- The lists have the same first byte. -/
theorem bytes_lt_of_eq (h : a = b) (hxy : x < y) : UInt8.ofNat a :: x < UInt8.ofNat b :: y :=
  List.cons_lt_cons_iff.2 (.inr ⟨congrArg UInt8.ofNat h, hxy⟩)

/-- The first byte decides, or the rest does if the first bytes agree. -/
theorem bytes_lt_of_le (h : a ≤ b) (hb : b < 256) (hxy : a = b → x < y) :
    UInt8.ofNat a :: x < UInt8.ofNat b :: y := by
  rcases Nat.lt_or_eq_of_le h with hlt | heq
  · exact bytes_lt_of_lt hlt hb
  · exact bytes_lt_of_eq heq (hxy heq)

/-- The bytes of a character are less than those of a greater one, whatever comes after. -/
theorem utf8EncodeChar_lt {c d : Char} (h : c < d) :
    String.utf8EncodeChar c ++ x < String.utf8EncodeChar d ++ y := by
  have hlt : c.val.toNat < d.val.toNat := h
  have hd : d.val.toNat < 0x110000 := by
    rcases d.valid with hvalid | hvalid
    · exact Nat.lt_trans hvalid (by decide)
    · exact hvalid.2
  unfold String.utf8EncodeChar
  generalize c.val.toNat = v at hlt
  generalize d.val.toNat = w at hlt hd
  simp only []
  -- the character of fewer bytes has the smaller first byte; of as many bytes, the first one that
  -- differs decides
  by_cases hv₁ : v ≤ 0x7f
  · rw [if_pos hv₁]
    split
    · exact bytes_lt_of_lt hlt (by omega)
    · split
      · exact bytes_lt_of_lt (by omega) (by omega)
      · split <;> exact bytes_lt_of_lt (by omega) (by omega)
  rw [if_neg hv₁, if_neg (show ¬ w ≤ 0x7f by omega)]
  by_cases hv₂ : v ≤ 0x7ff
  · rw [if_pos hv₂]
    split
    · exact bytes_lt_of_le (by omega) (by omega) fun _ => bytes_lt_of_lt (by omega) (by omega)
    · split <;> exact bytes_lt_of_lt (by omega) (by omega)
  rw [if_neg hv₂, if_neg (show ¬ w ≤ 0x7ff by omega)]
  by_cases hv₃ : v ≤ 0xffff
  · rw [if_pos hv₃]
    split
    · exact bytes_lt_of_le (by omega) (by omega) fun _ =>
        bytes_lt_of_le (by omega) (by omega) fun _ => bytes_lt_of_lt (by omega) (by omega)
    · exact bytes_lt_of_lt (by omega) (by omega)
  rw [if_neg hv₃, if_neg (show ¬ w ≤ 0xffff by omega)]
  exact bytes_lt_of_le (by omega) (by omega) fun _ => bytes_lt_of_le (by omega) (by omega) fun _ =>
    bytes_lt_of_le (by omega) (by omega) fun _ => bytes_lt_of_lt (by omega) (by omega)

theorem flatMap_utf8EncodeChar_lt {cs ds : List Char} (h : cs < ds) :
    cs.flatMap String.utf8EncodeChar < ds.flatMap String.utf8EncodeChar := by
  induction h with
  | nil =>
      rename_i d ds
      rw [List.flatMap_nil, List.flatMap_cons]
      cases hd : String.utf8EncodeChar d with
      | nil =>
          have hlength := readFrom_utf8EncodeChar d []
          rw [hd] at hlength
          cases hlength
      | cons b bs => exact List.nil_lt_cons _ _
  | rel hcd =>
      rw [List.flatMap_cons, List.flatMap_cons]
      exact utf8EncodeChar_lt hcd
  | cons _ ih =>
      rw [List.flatMap_cons, List.flatMap_cons]
      exact List.append_left_lt ih

/-- Of two texts the smaller one has the smaller bytes. -/
theorem encode_lt_encode {s t : String} (h : s < t) : encode s < encode t :=
  flatMap_utf8EncodeChar_lt h

end Utf8
end DeferredMetrics
