import SimpleWebrtc.Library.Bytes

/-!
# Rows of records of one width

A reader at an offset which looks past nothing but the bytes from there on
reads the records of a row back, each at its multiple of the width.
-/
namespace SimpleWebrtc.Library.RecordRows
open Bytes

variable {A B : Type} {width : ℕ}

/-- A reader which does not see the bytes in front of its offset. -/
def Shifts (read : List UInt8 → ℕ → B) : Prop :=
  ∀ front data i, read (front ++ data) (front.length + i) = read data i

theorem shifts_readU32 : Shifts readU32 := readU32_append_right

theorem getD_append_right (front data : List UInt8) (i : ℕ) (b : UInt8) :
    (front ++ data).getD (front.length + i) b = data.getD i b := by
  rw [List.getD_eq_getElem?_getD, List.getD_eq_getElem?_getD,
    List.getElem?_append_right (Nat.le_add_right _ _), Nat.add_sub_cancel_left]

theorem readU24_append_right (front data : List UInt8) (i : ℕ) :
    readU24 (front ++ data) (front.length + i) = readU24 data i := by
  simp only [readU24, Nat.add_assoc, byteAt_append_right]

theorem row_length {encode : A → List UInt8} (hwidth : ∀ a, (encode a).length = width)
    (as : List A) : (as.flatMap encode).length = as.length * width := by
  induction as with
  | nil => simp
  | cons a as ih =>
      rw [List.flatMap_cons, List.length_append, hwidth, ih, List.length_cons, Nat.succ_mul,
        Nat.add_comm]

/-- The row read back from behind a prefix. -/
theorem read_row {encode : A → List UInt8} {read : List UInt8 → ℕ → B} {value : A → B}
    (hwidth : ∀ a, (encode a).length = width) (hshift : Shifts read) {as : List A}
    (hread : ∀ a ∈ as, ∀ more, read (encode a ++ more) 0 = value a)
    (front more : List UInt8) :
    (List.range as.length).map (fun i => read (front ++ (as.flatMap encode ++ more))
      (front.length + i * width)) = as.map value := by
  induction as generalizing front with
  | nil => rfl
  | cons a as ih =>
      have hhead : read (front ++ ((a :: as).flatMap encode ++ more)) (front.length + 0 * width) =
          value a := by
        rw [Nat.zero_mul, hshift, List.flatMap_cons, List.append_assoc]
        exact hread a (by simp) _
      have htail : (List.range as.length).map (fun i =>
          read (front ++ ((a :: as).flatMap encode ++ more)) (front.length + (i + 1) * width)) =
          as.map value := by
        rw [← ih (fun b hb => hread b (List.mem_cons_of_mem a hb)) (front ++ encode a)]
        apply List.map_congr_left
        intro i _
        rw [List.flatMap_cons, List.append_assoc, ← List.append_assoc front, List.length_append,
          hwidth, Nat.succ_mul, Nat.add_comm (i * width), Nat.add_assoc]
      rw [List.length_cons, List.range_succ_eq_map, List.map_cons, hhead, List.map_map,
        List.map_cons]
      exact congrArg (value a :: ·) htail

end SimpleWebrtc.Library.RecordRows
