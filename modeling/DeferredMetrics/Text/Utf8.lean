set_option autoImplicit false

/-! # Text and bytes

Text is written in UTF-8 and read from it with replacement: every maximal part of the input that
begins a sequence and cannot be completed, and every byte that begins none, becomes one replacement
character. The reader goes through the bytes once and holds at most one unfinished sequence. What
was written is read back: `decode_encode`. -/

namespace DeferredMetrics
namespace Utf8

/-- What the reader has seen of a sequence of several bytes. -/
inductive Progress where
  /-- No sequence is under way. -/
  | ready
  /-- `missing` bytes are still to come, and the next one lies between `low` and `high`. -/
  | within (value missing low high : Nat)

/-- The character that stands for bytes that cannot be read. -/
def replacement : Char := '\ufffd'

/-- The byte `b` where a character begins. -/
def lead (b : Nat) : List Char × Progress :=
  if b < 0x80 then ([Char.ofNat b], .ready)
  else if 0xc2 ≤ b ∧ b ≤ 0xdf then ([], .within (b - 0xc0) 1 0x80 0xbf)
  else if b = 0xe0 then ([], .within 0 2 0xa0 0xbf)
  else if b = 0xed then ([], .within 0xd 2 0x80 0x9f)
  else if 0xe1 ≤ b ∧ b ≤ 0xef then ([], .within (b - 0xe0) 2 0x80 0xbf)
  else if b = 0xf0 then ([], .within 0 3 0x90 0xbf)
  else if 0xf1 ≤ b ∧ b ≤ 0xf3 then ([], .within (b - 0xf0) 3 0x80 0xbf)
  else if b = 0xf4 then ([], .within 4 3 0x80 0x8f)
  else ([replacement], .ready)

/-- One byte more. A byte that cannot go on with the sequence ends it and begins anew. -/
def step (p : Progress) (b : Nat) : List Char × Progress :=
  match p with
  | .ready => lead b
  | .within value missing low high =>
      if low ≤ b ∧ b ≤ high then
        let value := value * 64 + (b - 0x80)
        if missing ≤ 1 then ([Char.ofNat value], .ready)
        else ([], .within value (missing - 1) 0x80 0xbf)
      else
        let (out, p) := lead b
        (replacement :: out, p)

/-- The characters that are read from `p` on. -/
def readFrom : Progress → List UInt8 → List Char
  | .ready, [] => []
  | .within .., [] => [replacement]
  | p, b :: bytes =>
      let (out, p) := step p b.toNat
      out ++ readFrom p bytes

/-- The bytes as text, with replacement characters where they are not UTF-8. -/
def decode (bytes : List UInt8) : String := String.ofList (readFrom .ready bytes)

/-- The bytes of a text. -/
def encode (s : String) : List UInt8 := s.toList.flatMap String.utf8EncodeChar

/-! ## What was written is read back -/

/-- The byte of a number that fits. -/
theorem toNat_byte {n : Nat} (h : n < 256) : (UInt8.ofNat n).toNat = n := by
  simp [Nat.mod_eq_of_lt h]

/-- A byte that gives no character yet. -/
theorem readFrom_of_step {p q : Progress} {n : Nat} (hn : n < 256) (h : step p n = ([], q))
    (bytes : List UInt8) : readFrom p (UInt8.ofNat n :: bytes) = readFrom q bytes := by
  have hb : step p (UInt8.ofNat n).toNat = ([], q) := by rw [toNat_byte hn, h]
  cases p <;> simp only [readFrom, hb, List.nil_append]

/-- A byte that gives a character. -/
theorem readFrom_of_step_char {p q : Progress} {n : Nat} {c : Char} (hn : n < 256)
    (h : step p n = ([c], q)) (bytes : List UInt8) :
    readFrom p (UInt8.ofNat n :: bytes) = c :: readFrom q bytes := by
  have hb : step p (UInt8.ofNat n).toNat = ([c], q) := by rw [toNat_byte hn, h]
  cases p <;> simp only [readFrom, hb, List.singleton_append]

/-- The only byte of a character. -/
theorem readFrom_single {n : Nat} (h : n < 0x80) (bytes : List UInt8) :
    readFrom .ready (UInt8.ofNat n :: bytes) = Char.ofNat n :: readFrom .ready bytes :=
  readFrom_of_step_char (by omega) (by rw [step, lead, if_pos h]) bytes

/-- The first of two bytes. -/
theorem readFrom_two {n : Nat} (h : 0xc2 ≤ n) (h' : n ≤ 0xdf) (bytes : List UInt8) :
    readFrom .ready (UInt8.ofNat n :: bytes) =
      readFrom (.within (n - 0xc0) 1 0x80 0xbf) bytes := by
  refine readFrom_of_step (by omega) ?_ bytes
  rw [step, lead, if_neg (by omega), if_pos ⟨h, h'⟩]

/-- The first of three bytes. -/
theorem readFrom_three {n : Nat} (h : 0xe0 ≤ n) (h' : n ≤ 0xef) (bytes : List UInt8) :
    readFrom .ready (UInt8.ofNat n :: bytes) =
      readFrom (.within (n - 0xe0) 2 (if n = 0xe0 then 0xa0 else 0x80)
        (if n = 0xed then 0x9f else 0xbf)) bytes := by
  refine readFrom_of_step (by omega) ?_ bytes
  rw [step, lead, if_neg (by omega), if_neg (by omega)]
  by_cases h0 : n = 0xe0
  · subst h0; rfl
  by_cases hd : n = 0xed
  · subst hd; rfl
  rw [if_neg h0, if_neg hd, if_pos ⟨by omega, h'⟩, if_neg h0, if_neg hd]

/-- The first of four bytes. -/
theorem readFrom_four {n : Nat} (h : 0xf0 ≤ n) (h' : n ≤ 0xf4) (bytes : List UInt8) :
    readFrom .ready (UInt8.ofNat n :: bytes) =
      readFrom (.within (n - 0xf0) 3 (if n = 0xf0 then 0x90 else 0x80)
        (if n = 0xf4 then 0x8f else 0xbf)) bytes := by
  refine readFrom_of_step (by omega) ?_ bytes
  rw [step, lead, if_neg (by omega), if_neg (by omega), if_neg (by omega), if_neg (by omega),
    if_neg (by omega)]
  by_cases h0 : n = 0xf0
  · subst h0; rfl
  by_cases h4 : n = 0xf4
  · subst h4; rfl
  rw [if_neg h0, if_pos (by omega), if_neg h0, if_neg h4]

/-- The last byte of a sequence. -/
theorem readFrom_last {value low high n : Nat} (h : low ≤ n) (h' : n ≤ high) (hn : n < 256)
    (bytes : List UInt8) :
    readFrom (.within value 1 low high) (UInt8.ofNat n :: bytes) =
      Char.ofNat (value * 64 + (n - 0x80)) :: readFrom .ready bytes :=
  readFrom_of_step_char hn (by simp [step, h, h']) bytes

/-- A byte in the middle of a sequence. -/
theorem readFrom_inner {value missing low high n : Nat} (h : low ≤ n) (h' : n ≤ high)
    (hn : n < 256) (bytes : List UInt8) :
    readFrom (.within value (missing + 2) low high) (UInt8.ofNat n :: bytes) =
      readFrom (.within (value * 64 + (n - 0x80)) (missing + 1) 0x80 0xbf) bytes :=
  readFrom_of_step hn (by simp [step, h, h']) bytes

/-- A character is read from its bytes, and then the reader is ready again. -/
theorem readFrom_utf8EncodeChar (c : Char) (bytes : List UInt8) :
    readFrom .ready (String.utf8EncodeChar c ++ bytes) = c :: readFrom .ready bytes := by
  have hc : Char.ofNat c.val.toNat = c := Char.ofNat_toNat c
  have hv : c.val.toNat < 0xd800 ∨ 0xdfff < c.val.toNat ∧ c.val.toNat < 0x110000 := c.valid
  unfold String.utf8EncodeChar
  generalize c.val.toNat = v at hc hv
  simp only []
  by_cases h1 : v ≤ 0x7f
  · rw [if_pos h1, List.singleton_append, readFrom_single (by omega), hc]
  rw [if_neg h1]
  by_cases h2 : v ≤ 0x7ff
  · rw [if_pos h2, List.cons_append, List.singleton_append, readFrom_two, readFrom_last,
      show (v / 64 % 0x20 + 0xc0 - 0xc0) * 64 + (v % 0x40 + 0x80 - 0x80) = v by omega, hc]
    all_goals omega
  rw [if_neg h2]
  by_cases h3 : v ≤ 0xffff
  · rw [if_pos h3, List.cons_append, List.cons_append, List.singleton_append, readFrom_three,
      readFrom_inner, readFrom_last,
      show ((v / 4096 % 0x10 + 0xe0 - 0xe0) * 64 + (v / 64 % 0x40 + 0x80 - 0x80)) * 64 +
        (v % 0x40 + 0x80 - 0x80) = v by omega, hc]
    all_goals (try split) <;> omega
  rw [if_neg h3, List.cons_append, List.cons_append, List.cons_append, List.singleton_append,
    readFrom_four, readFrom_inner, readFrom_inner, readFrom_last,
    show (((v / 262144 % 0x08 + 0xf0 - 0xf0) * 64 + (v / 4096 % 0x40 + 0x80 - 0x80)) * 64 +
      (v / 64 % 0x40 + 0x80 - 0x80)) * 64 + (v % 0x40 + 0x80 - 0x80) = v by omega, hc]
  all_goals (try split) <;> omega

theorem readFrom_flatMap (cs : List Char) :
    readFrom .ready (cs.flatMap String.utf8EncodeChar) = cs := by
  induction cs with
  | nil => rfl
  | cons c cs ih => rw [List.flatMap_cons, readFrom_utf8EncodeChar, ih]

/-- Reading undoes writing. -/
@[simp] theorem decode_encode (s : String) : decode (encode s) = s := by
  rw [decode, encode, readFrom_flatMap, String.ofList_toList]

theorem encode_injective {s t : String} (h : encode s = encode t) : s = t := by
  rw [← decode_encode s, h, decode_encode]

/-- The byte of an ASCII character occurs in the bytes of that character only. -/
theorem mem_utf8EncodeChar {b : UInt8} (hb : b.toNat < 0x80) (c : Char) :
    b ∈ String.utf8EncodeChar c ↔ c.val.toNat = b.toNat := by
  have hb' : UInt8.ofNat b.toNat = b := UInt8.ofNat_toNat
  have hv : c.val.toNat < 0xd800 ∨ 0xdfff < c.val.toNat ∧ c.val.toNat < 0x110000 := c.valid
  unfold String.utf8EncodeChar
  generalize c.val.toNat = v at hv
  have hne : ∀ n, 0x80 ≤ n → n < 256 → b ≠ UInt8.ofNat n := by
    intro n hn hn' h
    rw [h, toNat_byte hn'] at hb
    omega
  simp only []
  split
  · rw [List.mem_singleton]
    constructor
    · intro h
      rw [h, toNat_byte (by omega)]
    · intro h
      rw [h, hb']
  · have hright : ¬ v = b.toNat := by omega
    simp only [hright, iff_false]
    split
    · simp only [List.mem_cons, List.not_mem_nil, or_false, not_or]
      exact ⟨hne _ (by omega) (by omega), hne _ (by omega) (by omega)⟩
    · split
      · simp only [List.mem_cons, List.not_mem_nil, or_false, not_or]
        exact ⟨hne _ (by omega) (by omega), hne _ (by omega) (by omega),
          hne _ (by omega) (by omega)⟩
      · simp only [List.mem_cons, List.not_mem_nil, or_false, not_or]
        exact ⟨hne _ (by omega) (by omega), hne _ (by omega) (by omega),
          hne _ (by omega) (by omega), hne _ (by omega) (by omega)⟩

end Utf8
end DeferredMetrics
