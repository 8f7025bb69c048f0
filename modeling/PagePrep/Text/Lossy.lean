/-!
# Reading bytes as text

Bytes are read as UTF-8. Where they are not UTF-8, the longest start of a character that went wrong
becomes one replacement character.
-/

set_option autoImplicit false

namespace PagePrep.Text

/-- What stands for bytes that are no character. -/
def replacement : Char := '\ufffd'

/-- How a character of several bytes starts. -/
structure Lead where
  /-- The bits that the first byte gives. -/
  bits : Nat
  /-- The least and the greatest byte allowed at each further place. -/
  tail : List (Nat × Nat)

/-- How a character starts with the byte `b`, if one does. -/
def lead? (b : Nat) : Option Lead :=
  if b < 0x80 then some ⟨b, []⟩
  else if 0xc2 ≤ b && b ≤ 0xdf then some ⟨b - 0xc0, [(0x80, 0xbf)]⟩
  else if b = 0xe0 then some ⟨0, [(0xa0, 0xbf), (0x80, 0xbf)]⟩
  else if b = 0xed then some ⟨0xd, [(0x80, 0x9f), (0x80, 0xbf)]⟩
  else if 0xe1 ≤ b && b ≤ 0xef then some ⟨b - 0xe0, [(0x80, 0xbf), (0x80, 0xbf)]⟩
  else if b = 0xf0 then some ⟨0, [(0x90, 0xbf), (0x80, 0xbf), (0x80, 0xbf)]⟩
  else if b = 0xf4 then some ⟨4, [(0x80, 0x8f), (0x80, 0xbf), (0x80, 0xbf)]⟩
  else if 0xf1 ≤ b && b ≤ 0xf3 then
    some ⟨b - 0xf0, [(0x80, 0xbf), (0x80, 0xbf), (0x80, 0xbf)]⟩
  else none

/-- The character with the bits `code` so far, and the bytes behind it. -/
def finishChar (code : Nat) : List (Nat × Nat) → List UInt8 → Char × List UInt8
  | [], bs => (Char.ofNat code, bs)
  | _ :: _, [] => (replacement, [])
  | (low, high) :: tail, b :: bs =>
    if low ≤ b.toNat && b.toNat ≤ high then finishChar (code * 64 + b.toNat % 64) tail bs
    else (replacement, b :: bs)

theorem length_finishChar_le (code : Nat) (tail : List (Nat × Nat)) (bs : List UInt8) :
    (finishChar code tail bs).2.length ≤ bs.length := by
  fun_induction finishChar code tail bs with
  | case1 => exact Nat.le_refl _
  | case2 => exact Nat.le_refl _
  | case3 code low high tail b bs h ih => exact Nat.le_succ_of_le ih
  | case4 => exact Nat.le_refl _

/-- The characters of some bytes. -/
def lossyChars : List UInt8 → List Char
  | [] => []
  | b :: bs =>
    match lead? b.toNat with
    | none => replacement :: lossyChars bs
    | some l =>
      let r := finishChar l.bits l.tail bs
      r.1 :: lossyChars r.2
  termination_by bs => bs.length
  decreasing_by
    · simp
    · exact Nat.lt_succ_of_le (length_finishChar_le _ _ _)

/-- The text of some bytes. -/
def lossy (bytes : ByteArray) : String := String.ofList (lossyChars bytes.data.toList)

end PagePrep.Text
