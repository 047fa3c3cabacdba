import SimpleWebrtc.Library.Bytes

/-!
# Type-length-value elements

An area of elements follows a header: each element is a 16-bit kind, a 16-bit
length and a value, padded to 32 bits. A walk visits the elements in order and
threads a state through them; a visit may fail, go on, or end the walk with a
result. The elements themselves do not depend on who visits them.
-/
namespace SimpleWebrtc.Library.Tlv
open Bytes

def paddingSize (length : ℕ) : ℕ :=
  if length % 4 = 0 then 0 else 4 - length % 4

structure Element where
  offset : ℕ
  kind : UInt16
  length : UInt16
deriving Repr, DecidableEq

namespace Element

def valueOffset (e : Element) : ℕ := e.offset + 4
def valueEnd (e : Element) : ℕ := e.valueOffset + e.length.toNat
def paddedEnd (e : Element) : ℕ := e.valueEnd + paddingSize e.length.toNat
def value (e : Element) (data : List UInt8) : List UInt8 :=
  (data.drop e.valueOffset).take e.length.toNat

end Element

def elementAt (data : List UInt8) (offset : ℕ) : Element :=
  ⟨offset, readU16 data offset, readU16 data (offset + 2)⟩

/-- The errors for an element whose header or value does not fit. -/
structure Faults (E : Type*) where
  header : E
  value : E

inductive Progress (σ ρ : Type*) where
  | going (state : σ)
  | done (result : ρ)
deriving DecidableEq

section Walk
variable {E σ ρ : Type*} (faults : Faults E) (data : List UInt8) (total : ℕ)

def readElement (offset : ℕ) : Except E Element :=
  if total < offset + 4 then .error faults.header
  else
    let element := elementAt data offset
    if total < element.valueEnd ∨ total < element.paddedEnd then .error faults.value
    else .ok element

/-- Visits the elements from an offset on; the length of the area is enough fuel. -/
def walk (visit : σ → Element → Except E (Progress σ ρ)) : ℕ → ℕ → σ → Except E (Progress σ ρ)
  | 0, _, state => .ok (.going state)
  | fuel + 1, offset, state =>
      if total ≤ offset then .ok (.going state)
      else
        match readElement faults data total offset with
        | .error e => .error e
        | .ok element =>
            match visit state element with
            | .error e => .error e
            | .ok (.done result) => .ok (.done result)
            | .ok (.going state) => walk visit fuel element.paddedEnd state

/-- The visits of a list of elements. -/
def visitAll (visit : σ → Element → Except E (Progress σ ρ)) :
    σ → List Element → Except E (Progress σ ρ)
  | state, [] => .ok (.going state)
  | state, element :: elements =>
      match visit state element with
      | .error e => .error e
      | .ok (.done result) => .ok (.done result)
      | .ok (.going state) => visitAll visit state elements

/-- Looks for the first element of a kind. -/
def seek (kind : UInt16) (found : Element → Except E ρ) (_ : Unit) (element : Element) :
    Except E (Progress Unit ρ) :=
  if element.kind = kind then (found element).map .done else .ok (.going ())

/-- The elements from an offset on, up to the end or to the first which does not fit. -/
def elementsFrom (data : List UInt8) (total : ℕ) : ℕ → ℕ → List Element
  | 0, _ => []
  | fuel + 1, offset =>
      if total ≤ offset then []
      else
        match readElement (Faults.mk () ()) data total offset with
        | .error _ => []
        | .ok element => element :: elementsFrom data total fuel element.paddedEnd

end Walk

/-- The bytes of an element. -/
def elementBytes (kind : UInt16) (value : List UInt8) : List UInt8 :=
  u16Bytes kind ++ u16Bytes (UInt16.ofNat value.length) ++ value ++
    List.replicate (paddingSize value.length) 0

/-! ## What is read -/

section Reading
variable {E σ ρ : Type*} {faults : Faults E} {data : List UInt8} {total offset : ℕ}

theorem readElement_ok {element : Element} :
    readElement faults data total offset = .ok element ↔
      element = elementAt data offset ∧ element.paddedEnd ≤ total := by
  unfold readElement
  constructor
  · intro h
    split_ifs at h with hheader
    simp only at h
    split_ifs at h with hvalue
    obtain rfl := Except.ok.inj h
    exact ⟨rfl, by omega⟩
  · rintro ⟨rfl, hend⟩
    have hle : offset + 4 ≤ (elementAt data offset).valueEnd := by
      simp [Element.valueEnd, Element.valueOffset, elementAt]
    have hpadded : (elementAt data offset).valueEnd ≤ (elementAt data offset).paddedEnd :=
      Nat.le_add_right _ _
    rw [if_neg (by omega)]
    simp only
    rw [if_neg (by omega)]

theorem Element.paddedEnd_ge (e : Element) : e.offset + 4 ≤ e.paddedEnd := by
  simp only [Element.paddedEnd, Element.valueEnd, Element.valueOffset]
  omega

theorem readElement_offset {element : Element}
    (h : readElement faults data total offset = .ok element) : element.offset = offset := by
  rw [(readElement_ok.mp h).1]
  rfl

/-- Fuel for the rest of the area is enough. -/
theorem walk_fuel (faults : Faults E) (data : List UInt8)
    (visit : σ → Element → Except E (Progress σ ρ)) {fuel fuel' : ℕ} (h : total ≤ offset + fuel)
    (h' : total ≤ offset + fuel') (state : σ) :
    walk faults data total visit fuel offset state =
      walk faults data total visit fuel' offset state := by
  induction fuel generalizing fuel' offset state with
  | zero =>
      cases fuel' with
      | zero => rfl
      | succ fuel' => rw [walk, walk, if_pos (by omega)]
  | succ fuel ih =>
      cases fuel' with
      | zero => rw [walk, walk, if_pos (by omega)]
      | succ fuel' =>
          rw [walk, walk]
          split_ifs with hend
          · rfl
          · cases hread : readElement faults data total offset with
            | error e => rfl
            | ok element =>
                have hge := element.paddedEnd_ge
                rw [readElement_offset hread] at hge
                simp only
                split <;> first | rfl | exact ih (by omega) (by omega) _

theorem elementsFrom_succ (fuel : ℕ) : elementsFrom data total (fuel + 1) offset =
    if total ≤ offset ∨ total < (elementAt data offset).paddedEnd then []
    else elementAt data offset ::
      elementsFrom data total fuel (elementAt data offset).paddedEnd := by
  rw [elementsFrom]
  by_cases hend : total ≤ offset
  · rw [if_pos hend, if_pos (Or.inl hend)]
  · rw [if_neg hend]
    cases hread : readElement (Faults.mk () ()) data total offset with
    | error e =>
        have hlong : total < (elementAt data offset).paddedEnd := by
          by_contra hfits
          have hok : readElement (Faults.mk () ()) data total offset =
              .ok (elementAt data offset) := readElement_ok.mpr ⟨rfl, not_lt.mp hfits⟩
          rw [hread] at hok
          cases hok
        rw [if_pos (Or.inr hlong)]
    | ok element =>
        obtain ⟨rfl, hfits⟩ := readElement_ok.mp hread
        rw [if_neg (by omega)]

/-- What a walk to the end has made of its state, from what each visit does to it. -/
theorem walk_going {visit : σ → Element → Except E (Progress σ ρ)} {P : List Element → σ → Prop}
    (hvisit : ∀ visited state element state', P visited state →
      visit state element = .ok (.going state') → P (visited ++ [element]) state')
    {fuel : ℕ} {visited : List Element} {state state' : σ} (hstate : P visited state)
    (h : walk faults data total visit fuel offset state = .ok (.going state')) :
    P (visited ++ elementsFrom data total fuel offset) state' := by
  induction fuel generalizing offset visited state with
  | zero =>
      cases h
      simpa [elementsFrom] using hstate
  | succ fuel ih =>
      rw [walk] at h
      rw [elementsFrom_succ]
      by_cases hend : total ≤ offset
      · rw [if_pos hend] at h
        cases h
        simpa [hend] using hstate
      · rw [if_neg hend] at h
        cases hread : readElement faults data total offset with
        | error e => simp [hread] at h
        | ok element =>
            obtain ⟨rfl, hfits⟩ := readElement_ok.mp hread
            simp only [hread] at h
            rw [if_neg (by omega)]
            cases hnext : visit state (elementAt data offset) with
            | error e => simp [hnext] at h
            | ok progress =>
                cases progress with
                | done result => simp [hnext] at h
                | going next =>
                    simp only [hnext] at h
                    have hrest := ih (hvisit _ _ _ _ hstate hnext) h
                    simpa using hrest

/-- A seek which ends with a result has found the first element of its kind. -/
theorem walk_seek {kind : UInt16} {found : Element → Except E ρ} {fuel : ℕ} {result : ρ}
    (h : walk faults data total (seek kind found) fuel offset () = .ok (.done result)) :
    ∃ element, (elementsFrom data total fuel offset).find? (fun e => decide (e.kind = kind)) =
      some element ∧ found element = .ok result := by
  induction fuel generalizing offset with
  | zero => cases h
  | succ fuel ih =>
      rw [walk] at h
      rw [elementsFrom_succ]
      by_cases hend : total ≤ offset
      · rw [if_pos hend] at h
        cases h
      · rw [if_neg hend] at h
        cases hread : readElement faults data total offset with
        | error e => simp [hread] at h
        | ok element =>
            obtain ⟨rfl, hfits⟩ := readElement_ok.mp hread
            simp only [hread, seek] at h
            rw [if_neg (by omega), List.find?_cons]
            by_cases hkind : (elementAt data offset).kind = kind
            · rw [if_pos hkind] at h
              cases hfound : found (elementAt data offset) with
              | error e => simp [hfound, Except.map] at h
              | ok result' =>
                  simp only [hfound, Except.map, Except.ok.injEq, Progress.done.injEq] at h
                  exact ⟨elementAt data offset, by simp [hkind], by rw [hfound, h]⟩
            · rw [if_neg hkind] at h
              simpa [hkind] using ih h

theorem elementsFrom_offset {fuel : ℕ} {element : Element}
    (h : element ∈ elementsFrom data total fuel offset) : offset ≤ element.offset := by
  induction fuel generalizing offset with
  | zero => exact absurd h List.not_mem_nil
  | succ fuel ih =>
      rw [elementsFrom_succ] at h
      split_ifs at h
      · exact absurd h List.not_mem_nil
      · rcases List.mem_cons.mp h with rfl | hmem
        · exact le_refl _
        · have hge := (elementAt data offset).paddedEnd_ge
          have hrest := ih hmem
          have hoffset : (elementAt data offset).offset = offset := rfl
          omega

end Reading

/-- Elements of a kind in two areas which agree up to the end of the first of them: it is the
same element in both, behind the same elements. -/
theorem elements_agree {data data' : List UInt8} {total total' : ℕ} {kind : UInt16}
    {element element' : Element} {fuel fuel' offset : ℕ}
    (hagree : ∀ i, offset ≤ i → i < element.valueOffset → byteAt data i = byteAt data' i)
    (h : (elementsFrom data total fuel offset).find? (fun e => decide (e.kind = kind)) =
      some element)
    (h' : (elementsFrom data' total' fuel' offset).find? (fun e => decide (e.kind = kind)) =
      some element') :
    element = element' ∧ ∃ before after after',
      (∀ e ∈ before, e.kind ≠ kind) ∧
      elementsFrom data total fuel offset = before ++ element :: after ∧
      elementsFrom data' total' fuel' offset = before ++ element :: after' := by
  induction fuel generalizing fuel' offset with
  | zero => cases h
  | succ fuel ih =>
      cases fuel' with
      | zero => cases h'
      | succ fuel' =>
          have hoffset := elementsFrom_offset (List.mem_of_find?_eq_some h)
          rw [elementsFrom_succ] at h h'
          by_cases hend : total ≤ offset ∨ total < (elementAt data offset).paddedEnd
          · rw [if_pos hend] at h
            cases h
          by_cases hend' : total' ≤ offset ∨ total' < (elementAt data' offset).paddedEnd
          · rw [if_pos hend'] at h'
            cases h'
          rw [if_neg hend] at h
          rw [if_neg hend'] at h'
          rw [elementsFrom_succ, elementsFrom_succ, if_neg hend, if_neg hend']
          have hbytes : ∀ i, offset ≤ i → i < offset + 4 → byteAt data i = byteAt data' i := by
            intro i hi hlt
            refine hagree i hi ?_
            simp only [Element.valueOffset]
            omega
          have hsame : elementAt data offset = elementAt data' offset := by
            unfold elementAt
            rw [readU16_congr (hbytes _ (by omega) (by omega)) (hbytes _ (by omega) (by omega)),
              readU16_congr (hbytes (offset + 2) (by omega) (by omega))
                (hbytes _ (by omega) (by omega))]
          rw [List.find?_cons] at h h'
          rw [← hsame] at h' ⊢
          by_cases hkind : (elementAt data offset).kind = kind
          · simp only [hkind, decide_true, Option.some.injEq] at h h'
            subst h
            exact ⟨h', [], _, _, by simp, rfl, rfl⟩
          · simp only [hkind, decide_false] at h h'
            have hge := (elementAt data offset).paddedEnd_ge
            obtain ⟨heq, before, after, after', hbefore, hsplit, hsplit'⟩ :=
              ih (fun i hi hlt => hagree i (by
                have hat : (elementAt data offset).offset = offset := rfl
                omega) hlt) h h'
            refine ⟨heq, elementAt data offset :: before, after, after', ?_, ?_, ?_⟩
            · intro e he
              rcases List.mem_cons.mp he with rfl | hmem
              · exact hkind
              · exact hbefore e hmem
            · rw [hsplit]
              rfl
            · rw [hsplit']
              rfl

/-! ## What was written -/

section Written
variable {E σ ρ : Type*} {faults : Faults E} {pre value post : List UInt8} {kind : UInt16}

theorem elementBytes_length (kind : UInt16) (value : List UInt8) :
    (elementBytes kind value).length = 4 + value.length + paddingSize value.length := by
  simp only [elementBytes, List.length_append, u16Bytes_length, List.length_replicate]

/-- The element an encoder has put behind `pre`. -/
def writtenElement (pre : List UInt8) (kind : UInt16) (value : List UInt8) : Element :=
  ⟨pre.length, kind, UInt16.ofNat value.length⟩

theorem writtenElement_paddedEnd (h : value.length < 2 ^ 16) :
    (writtenElement pre kind value).paddedEnd = (pre ++ elementBytes kind value).length := by
  have hlength : (UInt16.ofNat value.length).toNat = value.length := by
    rw [UInt16.toNat_ofNat']
    exact Nat.mod_eq_of_lt h
  simp only [writtenElement, Element.paddedEnd, Element.valueEnd, Element.valueOffset, hlength,
    List.length_append, elementBytes_length]
  omega

theorem elementAt_written : elementAt (pre ++ elementBytes kind value ++ post) pre.length =
    writtenElement pre kind value := by
  have hkind : readU16 (pre ++ elementBytes kind value ++ post) pre.length = kind := by
    have hread := readU16_append_right pre (elementBytes kind value ++ post) 0
    rw [← List.append_assoc, Nat.add_zero] at hread
    rw [hread]
    simp only [elementBytes, List.append_assoc, readU16_u16Bytes]
  have hlength : readU16 (pre ++ elementBytes kind value ++ post) (pre.length + 2) =
      UInt16.ofNat value.length := by
    have hread := readU16_append_right pre (elementBytes kind value ++ post) 2
    rw [← List.append_assoc] at hread
    rw [hread]
    have hinner := readU16_append_right (u16Bytes kind)
      (u16Bytes (UInt16.ofNat value.length) ++ (value ++
        (List.replicate (paddingSize value.length) 0 ++ post))) 0
    rw [readU16_u16Bytes, u16Bytes_length, Nat.add_zero] at hinner
    simpa only [elementBytes, List.append_assoc] using hinner
  rw [elementAt, hkind, hlength]
  rfl

theorem value_written (h : value.length < 2 ^ 16) :
    (writtenElement pre kind value).value (pre ++ elementBytes kind value ++ post) = value := by
  have hlength : (UInt16.ofNat value.length).toNat = value.length := by
    rw [UInt16.toNat_ofNat']
    exact Nat.mod_eq_of_lt h
  have hdrop : (pre ++ elementBytes kind value ++ post).drop (pre.length + 4) =
      value ++ (List.replicate (paddingSize value.length) 0 ++ post) := by
    rw [List.append_assoc, List.drop_append]
    have hheader : elementBytes kind value ++ post = u16Bytes kind ++
        u16Bytes (UInt16.ofNat value.length) ++ (value ++
          (List.replicate (paddingSize value.length) 0 ++ post)) := by
      simp [elementBytes]
    rw [hheader, List.drop_of_length_le (by omega), Nat.add_sub_cancel_left, List.nil_append]
    exact List.drop_left' (by simp)
  simp only [Element.value, Element.valueOffset, writtenElement, hlength, hdrop, List.take_left]

/-- A walk visits an element which was written, and what it visits behind it. -/
theorem walk_written {data : List UInt8} (hdata : data = pre ++ elementBytes kind value ++ post)
    (h : value.length < 2 ^ 16) {visit : σ → Element → Except E (Progress σ ρ)} {fuel : ℕ}
    {elements : List Element}
    (hrest : ∀ state, walk faults data data.length visit fuel
      (pre ++ elementBytes kind value).length state = visitAll visit state elements) (state : σ) :
    walk faults data data.length visit (fuel + 1) pre.length state =
      visitAll visit state (writtenElement pre kind value :: elements) := by
  have hread : readElement faults data data.length pre.length =
      .ok (writtenElement pre kind value) := by
    refine readElement_ok.mpr ⟨?_, ?_⟩
    · rw [hdata, elementAt_written]
    · rw [writtenElement_paddedEnd h, hdata]
      simp
  have hlonger : ¬data.length ≤ pre.length := by
    rw [hdata]
    simp only [List.length_append, elementBytes_length]
    omega
  rw [walk, if_neg hlonger, hread, visitAll]
  simp only [writtenElement_paddedEnd h]
  cases visit state (writtenElement pre kind value) with
  | error e => rfl
  | ok progress =>
      cases progress with
      | done result => rfl
      | going state => exact hrest state

theorem elementsFrom_written (h : value.length < 2 ^ 16) {data : List UInt8}
    (hdata : data = pre ++ elementBytes kind value ++ post) (fuel : ℕ) :
    elementsFrom data data.length (fuel + 1) pre.length =
      writtenElement pre kind value ::
        elementsFrom data data.length fuel (pre ++ elementBytes kind value).length := by
  have hat : elementAt data pre.length = writtenElement pre kind value := by
    rw [hdata, elementAt_written]
  have hlonger : pre.length + 4 ≤ data.length ∧
      (pre ++ elementBytes kind value).length ≤ data.length := by
    rw [hdata]
    simp only [List.length_append, elementBytes_length]
    omega
  rw [elementsFrom_succ, hat, writtenElement_paddedEnd h, if_neg (by omega)]

end Written

end SimpleWebrtc.Library.Tlv
