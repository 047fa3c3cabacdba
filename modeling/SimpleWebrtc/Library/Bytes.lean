import Mathlib.Data.List.Basic
import Mathlib.Tactic.NormNum

/-!
# Big-endian words in byte lists

Readers are total: a byte past the end reads as zero, so a reader never needs
a bound to be stated. Callers compare lengths first, as a bounds-checked
program does, and every round trip below is about bytes which are present.
-/
namespace SimpleWebrtc.Library.Bytes

def byteAt (data : List UInt8) (i : ℕ) : ℕ := (data.getD i 0).toNat

theorem byteAt_lt (data : List UInt8) (i : ℕ) : byteAt data i < 256 :=
  UInt8.toNat_lt _

@[simp] theorem byteAt_cons_zero (b : UInt8) (data : List UInt8) :
    byteAt (b :: data) 0 = b.toNat := rfl

@[simp] theorem byteAt_cons_succ (b : UInt8) (data : List UInt8) (i : ℕ) :
    byteAt (b :: data) (i + 1) = byteAt data i := rfl

theorem byteAt_append_left {data : List UInt8} {i : ℕ} (h : i < data.length)
    (more : List UInt8) : byteAt (data ++ more) i = byteAt data i := by
  simp [byteAt, List.getD_eq_getElem?_getD, List.getElem?_append_left h]

theorem byteAt_append_right (data more : List UInt8) (i : ℕ) :
    byteAt (data ++ more) (data.length + i) = byteAt more i := by
  simp [byteAt, List.getD_eq_getElem?_getD,
    List.getElem?_append_right (Nat.le_add_right data.length i)]

theorem byteAt_drop (data : List UInt8) (offset i : ℕ) :
    byteAt (data.drop offset) i = byteAt data (offset + i) := by
  simp [byteAt, List.getD_eq_getElem?_getD]

/-- Unsigned big-endian readers. -/
def readU16 (data : List UInt8) (i : ℕ) : UInt16 :=
  UInt16.ofNat (byteAt data i * 256 + byteAt data (i + 1))

def readU24 (data : List UInt8) (i : ℕ) : UInt32 :=
  UInt32.ofNat (byteAt data i * 65536 + byteAt data (i + 1) * 256 + byteAt data (i + 2))

def readU32 (data : List UInt8) (i : ℕ) : UInt32 :=
  UInt32.ofNat (byteAt data i * 16777216 + byteAt data (i + 1) * 65536 +
    byteAt data (i + 2) * 256 + byteAt data (i + 3))

/-- The bytes of a word, most significant first. -/
def u16Bytes (v : UInt16) : List UInt8 := [UInt8.ofNat (v.toNat / 256), UInt8.ofNat v.toNat]

def u24Bytes (v : UInt32) : List UInt8 :=
  [UInt8.ofNat (v.toNat / 65536), UInt8.ofNat (v.toNat / 256), UInt8.ofNat v.toNat]

def u32Bytes (v : UInt32) : List UInt8 :=
  [UInt8.ofNat (v.toNat / 16777216), UInt8.ofNat (v.toNat / 65536),
    UInt8.ofNat (v.toNat / 256), UInt8.ofNat v.toNat]

@[simp] theorem u16Bytes_length (v : UInt16) : (u16Bytes v).length = 2 := rfl
@[simp] theorem u24Bytes_length (v : UInt32) : (u24Bytes v).length = 3 := rfl
@[simp] theorem u32Bytes_length (v : UInt32) : (u32Bytes v).length = 4 := rfl

theorem readU16_toNat (data : List UInt8) (i : ℕ) :
    (readU16 data i).toNat = byteAt data i * 256 + byteAt data (i + 1) := by
  have h₀ := byteAt_lt data i
  have h₁ := byteAt_lt data (i + 1)
  simp only [readU16, UInt16.toNat_ofNat']
  omega

theorem readU24_toNat (data : List UInt8) (i : ℕ) :
    (readU24 data i).toNat =
      byteAt data i * 65536 + byteAt data (i + 1) * 256 + byteAt data (i + 2) := by
  have h₀ := byteAt_lt data i
  have h₁ := byteAt_lt data (i + 1)
  have h₂ := byteAt_lt data (i + 2)
  simp only [readU24, UInt32.toNat_ofNat']
  omega

theorem readU32_toNat (data : List UInt8) (i : ℕ) :
    (readU32 data i).toNat = byteAt data i * 16777216 + byteAt data (i + 1) * 65536 +
      byteAt data (i + 2) * 256 + byteAt data (i + 3) := by
  have h₀ := byteAt_lt data i
  have h₁ := byteAt_lt data (i + 1)
  have h₂ := byteAt_lt data (i + 2)
  have h₃ := byteAt_lt data (i + 3)
  simp only [readU32, UInt32.toNat_ofNat']
  omega

theorem readU16_append_right (data more : List UInt8) (i : ℕ) :
    readU16 (data ++ more) (data.length + i) = readU16 more i := by
  simp only [readU16, Nat.add_assoc, byteAt_append_right]

theorem readU32_append_right (data more : List UInt8) (i : ℕ) :
    readU32 (data ++ more) (data.length + i) = readU32 more i := by
  simp only [readU32, Nat.add_assoc, byteAt_append_right]

theorem readU16_append_left {data : List UInt8} {i : ℕ} (h : i + 1 < data.length)
    (more : List UInt8) : readU16 (data ++ more) i = readU16 data i := by
  simp only [readU16, byteAt_append_left (show i < data.length by omega), byteAt_append_left h]

theorem readU32_append_left {data : List UInt8} {i : ℕ} (h : i + 3 < data.length)
    (more : List UInt8) : readU32 (data ++ more) i = readU32 data i := by
  simp only [readU32, byteAt_append_left (show i < data.length by omega),
    byteAt_append_left (show i + 1 < data.length by omega),
    byteAt_append_left (show i + 2 < data.length by omega), byteAt_append_left h]

theorem readU16_drop (data : List UInt8) (offset i : ℕ) :
    readU16 (data.drop offset) i = readU16 data (offset + i) := by
  simp only [readU16, byteAt_drop, Nat.add_assoc]

theorem readU24_drop (data : List UInt8) (offset i : ℕ) :
    readU24 (data.drop offset) i = readU24 data (offset + i) := by
  simp only [readU24, byteAt_drop, Nat.add_assoc]

theorem readU32_drop (data : List UInt8) (offset i : ℕ) :
    readU32 (data.drop offset) i = readU32 data (offset + i) := by
  simp only [readU32, byteAt_drop, Nat.add_assoc]

@[simp] theorem readU16_u16Bytes (v : UInt16) (more : List UInt8) :
    readU16 (u16Bytes v ++ more) 0 = v := by
  apply UInt16.toNat_inj.mp
  rw [readU16_toNat]
  have h := v.toNat_lt
  simp only [u16Bytes, List.cons_append, List.nil_append, byteAt_cons_zero, byteAt_cons_succ,
    UInt8.toNat_ofNat']
  omega

@[simp] theorem readU24_u24Bytes (v : UInt32) (more : List UInt8) :
    (readU24 (u24Bytes v ++ more) 0).toNat = v.toNat % 16777216 := by
  rw [readU24_toNat]
  simp only [u24Bytes, List.cons_append, List.nil_append, byteAt_cons_zero, byteAt_cons_succ,
    UInt8.toNat_ofNat']
  omega

@[simp] theorem readU32_u32Bytes (v : UInt32) (more : List UInt8) :
    readU32 (u32Bytes v ++ more) 0 = v := by
  apply UInt32.toNat_inj.mp
  rw [readU32_toNat]
  have h := v.toNat_lt
  simp only [u32Bytes, List.cons_append, List.nil_append, byteAt_cons_zero, byteAt_cons_succ,
    UInt8.toNat_ofNat']
  omega

/-- Writes in place; a write past the end is lost. -/
def writeU16 (data : List UInt8) (offset : ℕ) (v : UInt16) : List UInt8 :=
  (data.set offset (UInt8.ofNat (v.toNat / 256))).set (offset + 1) (UInt8.ofNat v.toNat)

def writeU32 (data : List UInt8) (offset : ℕ) (v : UInt32) : List UInt8 :=
  (((data.set offset (UInt8.ofNat (v.toNat / 16777216))).set (offset + 1)
    (UInt8.ofNat (v.toNat / 65536))).set (offset + 2) (UInt8.ofNat (v.toNat / 256))).set
    (offset + 3) (UInt8.ofNat v.toNat)

@[simp] theorem writeU16_length (data : List UInt8) (offset : ℕ) (v : UInt16) :
    (writeU16 data offset v).length = data.length := by simp [writeU16]

@[simp] theorem writeU32_length (data : List UInt8) (offset : ℕ) (v : UInt32) :
    (writeU32 data offset v).length = data.length := by simp [writeU32]

theorem byteAt_set (data : List UInt8) (i j : ℕ) (b : UInt8) :
    byteAt (data.set i b) j =
      if i = j ∧ j < data.length then b.toNat else byteAt data j := by
  simp only [byteAt, List.getD_eq_getElem?_getD, List.getElem?_set]
  by_cases hij : i = j
  · subst hij
    by_cases hlt : i < data.length
    · simp [hlt]
    · simp [hlt]
  · simp [hij]

theorem set_append_left {data : List UInt8} {i : ℕ} (h : i < data.length) (more : List UInt8)
    (b : UInt8) : (data ++ more).set i b = data.set i b ++ more := List.set_append_left i b h

theorem writeU16_append_left {data : List UInt8} {i : ℕ} (h : i + 1 < data.length)
    (more : List UInt8) (v : UInt16) :
    writeU16 (data ++ more) i v = writeU16 data i v ++ more := by
  simp only [writeU16]
  rw [set_append_left (by omega), set_append_left (by simpa using h)]

theorem writeU32_append_left {data : List UInt8} {i : ℕ} (h : i + 3 < data.length)
    (more : List UInt8) (v : UInt32) :
    writeU32 (data ++ more) i v = writeU32 data i v ++ more := by
  simp only [writeU32]
  rw [set_append_left (by omega), set_append_left (by simp; omega),
    set_append_left (by simp; omega), set_append_left (by simpa using h)]

theorem writeU16_append_right (data more : List UInt8) (i : ℕ) (v : UInt16) :
    writeU16 (data ++ more) (data.length + i) v = data ++ writeU16 more i v := by
  simp only [writeU16, Nat.add_assoc]
  rw [List.set_append_right _ _ (Nat.le_add_right _ _),
    List.set_append_right _ _ (Nat.le_add_right _ _), Nat.add_sub_cancel_left,
    Nat.add_sub_cancel_left]

theorem writeU32_append_right (data more : List UInt8) (i : ℕ) (v : UInt32) :
    writeU32 (data ++ more) (data.length + i) v = data ++ writeU32 more i v := by
  have hset : ∀ (more : List UInt8) (j : ℕ) (b : UInt8),
      (data ++ more).set (data.length + j) b = data ++ more.set j b := by
    intro more j b
    rw [List.set_append_right _ _ (Nat.le_add_right _ _), Nat.add_sub_cancel_left]
  simp only [writeU32, Nat.add_assoc, hset]

theorem writeU16_cons_cons (a b : UInt8) (data : List UInt8) (v : UInt16) :
    writeU16 (a :: b :: data) 0 v = u16Bytes v ++ data := rfl

theorem byteAt_writeU16 (data : List UInt8) {offset j : ℕ} (v : UInt16)
    (h : j < offset ∨ offset + 2 ≤ j) : byteAt (writeU16 data offset v) j = byteAt data j := by
  rw [writeU16, byteAt_set, byteAt_set, if_neg (by omega), if_neg (by omega)]

theorem byteAt_writeU32 (data : List UInt8) {offset j : ℕ} (v : UInt32)
    (h : j < offset ∨ offset + 4 ≤ j) : byteAt (writeU32 data offset v) j = byteAt data j := by
  rw [writeU32, byteAt_set, byteAt_set, byteAt_set, byteAt_set, if_neg (by omega),
    if_neg (by omega), if_neg (by omega), if_neg (by omega)]

theorem readU16_writeU16 {data : List UInt8} {offset : ℕ} (v : UInt16)
    (h : offset + 1 < data.length) : readU16 (writeU16 data offset v) offset = v := by
  have hv := v.toNat_lt
  apply UInt16.toNat_inj.mp
  rw [readU16_toNat]
  simp only [writeU16, byteAt_set, List.length_set, show ¬offset + 1 = offset by omega,
    show offset < data.length by omega, h, false_and, if_false, and_self, if_true,
    UInt8.toNat_ofNat']
  omega

theorem readU32_writeU32 {data : List UInt8} {offset : ℕ} (v : UInt32)
    (h : offset + 3 < data.length) : readU32 (writeU32 data offset v) offset = v := by
  have hv := v.toNat_lt
  apply UInt32.toNat_inj.mp
  rw [readU32_toNat]
  simp only [writeU32, byteAt_set, List.length_set]
  simp only [show ¬offset + 3 = offset by omega, show ¬offset + 2 = offset by omega,
    show ¬offset + 1 = offset by omega, show ¬offset + 3 = offset + 1 by omega,
    show ¬offset + 2 = offset + 1 by omega, show ¬offset + 3 = offset + 2 by omega,
    show offset < data.length by omega, show offset + 1 < data.length by omega,
    show offset + 2 < data.length by omega, h, false_and, if_false, and_self, if_true,
    UInt8.toNat_ofNat']
  omega

/-- Writing what is there changes nothing. -/
theorem set_byteAt (data : List UInt8) (i : ℕ) : data.set i (UInt8.ofNat (byteAt data i)) = data := by
  rw [byteAt, UInt8.ofNat_toNat]
  by_cases hlt : i < data.length
  · rw [List.getD_eq_getElem?_getD, List.getElem?_eq_getElem hlt, Option.getD_some,
      List.set_getElem_self]
  · exact List.set_eq_of_length_le (Nat.le_of_not_lt hlt)

theorem writeU32_readU32 (data : List UInt8) (i : ℕ) : writeU32 data i (readU32 data i) = data := by
  have h₀ := byteAt_lt data i
  have h₁ := byteAt_lt data (i + 1)
  have h₂ := byteAt_lt data (i + 2)
  have h₃ := byteAt_lt data (i + 3)
  have hbyte : ∀ m n : ℕ, m % 256 = n % 256 → UInt8.ofNat m = UInt8.ofNat n := by
    intro m n hmod
    apply UInt8.toNat_inj.mp
    rw [UInt8.toNat_ofNat', UInt8.toNat_ofNat']
    exact hmod
  simp only [writeU32, readU32_toNat]
  rw [hbyte _ (byteAt data i) (by omega), set_byteAt, hbyte _ (byteAt data (i + 1)) (by omega),
    set_byteAt, hbyte _ (byteAt data (i + 2)) (by omega), set_byteAt,
    hbyte _ (byteAt data (i + 3)) (by omega), set_byteAt]

theorem readU16_congr {data data' : List UInt8} {i : ℕ} (h₀ : byteAt data i = byteAt data' i)
    (h₁ : byteAt data (i + 1) = byteAt data' (i + 1)) : readU16 data i = readU16 data' i := by
  rw [readU16, readU16, h₀, h₁]

theorem readU32_congr {data data' : List UInt8} {i : ℕ}
    (h : ∀ j, i ≤ j → j < i + 4 → byteAt data j = byteAt data' j) :
    readU32 data i = readU32 data' i := by
  rw [readU32, readU32, h i (by omega) (by omega), h (i + 1) (by omega) (by omega),
    h (i + 2) (by omega) (by omega), h (i + 3) (by omega) (by omega)]

end SimpleWebrtc.Library.Bytes
