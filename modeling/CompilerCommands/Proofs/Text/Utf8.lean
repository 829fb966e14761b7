import CompilerCommands.Text.Utf8

/-!
# Encoded text is decoded

Each character's bytes are read as that character, whatever bytes follow, so decoding undoes
encoding.
-/

namespace CompilerCommands.Text.Utf8

theorem decodeFrom_cons (pending : Option Pending) (b : UInt8) (rest : List UInt8) :
    decodeFrom pending (b :: rest) =
      (step pending b.toNat).1 ++ decodeFrom (step pending b.toNat).2 rest := by
  cases pending <;> rfl

theorem toNat_ofNat {n : Nat} (h : n < 256) : (UInt8.ofNat n).toNat = n :=
  UInt8.toNat_ofNat_of_lt h

/-! ## First bytes -/

theorem begin_one {b : Nat} (h : b < 0x80) : begin b = ([Char.ofNat b], none) := if_pos h

theorem begin_two {b : Nat} (h : 0xC2 ≤ b) (h' : b < 0xE0) :
    begin b = ([], some ⟨1, 0x80, 0xBF, b - 0xC0⟩) := by
  unfold begin
  rw [if_neg (by omega), if_neg (by omega), if_pos h']

theorem begin_three {b : Nat} (h : 0xE0 ≤ b) (h' : b < 0xF0) :
    begin b = ([], some ⟨2, if b = 0xE0 then 0xA0 else 0x80, if b = 0xED then 0x9F else 0xBF,
      b - 0xE0⟩) := by
  unfold begin
  rw [if_neg (by omega), if_neg (by omega), if_neg (by omega), if_pos h']

theorem begin_four {b : Nat} (h : 0xF0 ≤ b) (h' : b < 0xF5) :
    begin b = ([], some ⟨3, if b = 0xF0 then 0x90 else 0x80, if b = 0xF4 then 0x8F else 0xBF,
      b - 0xF0⟩) := by
  unfold begin
  rw [if_neg (by omega), if_neg (by omega), if_neg (by omega), if_neg (by omega), if_pos h']

/-! ## Later bytes -/

theorem step_last {low high code b : Nat} (h : low ≤ b) (h' : b ≤ high) :
    step (some ⟨1, low, high, code⟩) b = ([Char.ofNat (code * 64 + (b - 0x80))], none) := by
  simp [step, h, h']

theorem step_more {owed low high code b : Nat} (h : low ≤ b) (h' : b ≤ high) :
    step (some ⟨owed + 2, low, high, code⟩) b =
      ([], some ⟨owed + 1, 0x80, 0xBF, code * 64 + (b - 0x80)⟩) := by
  simp [step, h, h']

/-! ## Characters -/

theorem decodeFrom_one {v : Nat} (h : v < 0x80) (rest : List UInt8) :
    decodeFrom none (UInt8.ofNat v :: rest) = Char.ofNat v :: decodeFrom none rest := by
  rw [decodeFrom_cons, toNat_ofNat (by omega), step, begin_one h]
  rfl

theorem decodeFrom_two {v : Nat} (h : 0x80 ≤ v) (h' : v < 0x800) (rest : List UInt8) :
    decodeFrom none
        (UInt8.ofNat (v / 64 % 0x20 + 0xc0) :: UInt8.ofNat (v % 0x40 + 0x80) :: rest) =
      Char.ofNat v :: decodeFrom none rest := by
  have hcode : (v / 64 % 0x20 + 0xc0 - 0xC0) * 64 + (v % 0x40 + 0x80 - 0x80) = v := by omega
  rw [decodeFrom_cons, toNat_ofNat (by omega), step, begin_two (by omega) (by omega),
    decodeFrom_cons, toNat_ofNat (by omega), step_last (by omega) (by omega), hcode]
  rfl

theorem decodeFrom_three {v : Nat} (h : 0x800 ≤ v) (h' : v < 0x10000)
    (hs : v < 0xD800 ∨ 0xDFFF < v) (rest : List UInt8) :
    decodeFrom none
        (UInt8.ofNat (v / 4096 % 0x10 + 0xe0) :: UInt8.ofNat (v / 64 % 0x40 + 0x80) ::
          UInt8.ofNat (v % 0x40 + 0x80) :: rest) =
      Char.ofNat v :: decodeFrom none rest := by
  have hcode : ((v / 4096 % 0x10 + 0xe0 - 0xE0) * 64 + (v / 64 % 0x40 + 0x80 - 0x80)) * 64 +
      (v % 0x40 + 0x80 - 0x80) = v := by omega
  rw [decodeFrom_cons, toNat_ofNat (by omega), step, begin_three (by omega) (by omega),
    decodeFrom_cons, toNat_ofNat (by omega), step_more (by split <;> omega) (by split <;> omega),
    decodeFrom_cons, toNat_ofNat (by omega), step_last (by omega) (by omega), hcode]
  rfl

theorem decodeFrom_four {v : Nat} (h : 0x10000 ≤ v) (h' : v < 0x110000) (rest : List UInt8) :
    decodeFrom none
        (UInt8.ofNat (v / 262144 % 0x08 + 0xf0) :: UInt8.ofNat (v / 4096 % 0x40 + 0x80) ::
          UInt8.ofNat (v / 64 % 0x40 + 0x80) :: UInt8.ofNat (v % 0x40 + 0x80) :: rest) =
      Char.ofNat v :: decodeFrom none rest := by
  have hcode : (((v / 262144 % 0x08 + 0xf0 - 0xF0) * 64 + (v / 4096 % 0x40 + 0x80 - 0x80)) * 64 +
      (v / 64 % 0x40 + 0x80 - 0x80)) * 64 + (v % 0x40 + 0x80 - 0x80) = v := by omega
  rw [decodeFrom_cons, toNat_ofNat (by omega), step, begin_four (by omega) (by omega),
    decodeFrom_cons, toNat_ofNat (by omega), step_more (by split <;> omega) (by split <;> omega),
    decodeFrom_cons, toNat_ofNat (by omega), step_more (by omega) (by omega),
    decodeFrom_cons, toNat_ofNat (by omega), step_last (by omega) (by omega), hcode]
  rfl

theorem decodeFrom_encodeChar (c : Char) (rest : List UInt8) :
    decodeFrom none (String.utf8EncodeChar c ++ rest) = c :: decodeFrom none rest := by
  have hrange : c.toNat < 0xD800 ∨ 0xDFFF < c.toNat ∧ c.toNat < 0x110000 := c.valid
  have hc : Char.ofNat c.toNat = c := Char.ofNat_toNat c
  have hv : c.val.toNat = c.toNat := rfl
  unfold String.utf8EncodeChar
  rw [hv]
  by_cases h1 : c.toNat ≤ 0x7f
  · simp only [if_pos h1, List.cons_append, List.nil_append]
    rw [decodeFrom_one (by omega), hc]
  by_cases h2 : c.toNat ≤ 0x7ff
  · simp only [if_neg h1, if_pos h2, List.cons_append, List.nil_append]
    rw [decodeFrom_two (by omega) (by omega), hc]
  by_cases h3 : c.toNat ≤ 0xffff
  · simp only [if_neg h1, if_neg h2, if_pos h3, List.cons_append, List.nil_append]
    rw [decodeFrom_three (by omega) (by omega) (by omega), hc]
  · simp only [if_neg h1, if_neg h2, if_neg h3, List.cons_append, List.nil_append]
    rw [decodeFrom_four (by omega) (by omega), hc]

theorem decode_encode (cs : List Char) : decode (encode cs) = cs := by
  unfold decode encode
  induction cs with
  | nil => rfl
  | cons c rest ih => rw [List.flatMap_cons, decodeFrom_encodeChar, ih]

end CompilerCommands.Text.Utf8
