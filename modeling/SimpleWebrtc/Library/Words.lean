import SimpleWebrtc.Library.Text

/-!
# Written words

A text writes a sequence of words when the words stand in it in order, apart from
each other by runs of separators. The splitting function finds these words and
no others.
-/
namespace SimpleWebrtc.Library.Text

/-- A word is not empty and has no separator inside. -/
def IsWord (p : UInt8 → Bool) (word : Text) : Prop := word ≠ [] ∧ ∀ c ∈ word, p c = false

def IsGap (p : UInt8 → Bool) (gap : Text) : Prop := ∀ c ∈ gap, p c = true

/-- After a word the text ends or a separator follows. -/
inductive Written (p : UInt8 → Bool) : List Text → Text → Prop
  | done (gap : Text) : IsGap p gap → Written p [] gap
  | word (gap word rest : Text) (words : List Text) :
      IsGap p gap → IsWord p word → (∀ c ∈ rest.head?, p c = true) → Written p words rest →
      Written p (word :: words) (gap ++ (word ++ rest))

variable {p : UInt8 → Bool} {text : Text} {words : List Text}

theorem Written.fields_eq (h : Written p words text) : fields p text = words := by
  induction h with
  | done gap hgap => exact fields_blank hgap
  | word gap word rest words hgap hword hrest _ ih =>
      rw [fields_blank_append hgap, fields_word_append hword.1 hword.2 hrest, ih]

theorem written_fields (p : UInt8 → Bool) (text : Text) : Written p (fields p text) text := by
  induction hlen : text.length using Nat.strong_induction_on generalizing text with
  | h n ih =>
      subst hlen
      cases hdrop : text.dropWhile p with
      | nil =>
          have hgap : IsGap p text := fun c hc => List.dropWhile_eq_nil_iff.mp hdrop c hc
          rw [fields_blank hgap]
          exact .done text hgap
      | cons c tail =>
          have hc : p c = false := by
            have hhead := List.head?_dropWhile_not p text
            rw [hdrop] at hhead
            simpa using hhead
          let word := (c :: tail).takeWhile fun d => !p d
          let rest := (c :: tail).dropWhile fun d => !p d
          have hsplit : word ++ rest = c :: tail := List.takeWhile_append_dropWhile
          have hword : IsWord p word := by
            constructor
            · simp [word, hc]
            · intro d hd
              simpa using List.mem_takeWhile_imp hd
          have hrest : ∀ d ∈ rest.head?, p d = true := by
            intro d hd
            have hhead := List.head?_dropWhile_not (fun d => !p d) (c :: tail)
            change rest.head? = some d at hd
            simpa [rest, hd] using hhead
          have htext : text = text.takeWhile p ++ (word ++ rest) := by
            rw [hsplit, ← hdrop, List.takeWhile_append_dropWhile]
          have hlength := congrArg List.length htext
          rw [List.length_append, List.length_append] at hlength
          have hpos := List.length_pos_of_ne_nil hword.1
          have hgap : IsGap p (text.takeWhile p) := fun d hd => List.mem_takeWhile_imp hd
          have hfields : fields p text = word :: fields p rest := by
            rw [htext, fields_blank_append hgap, fields_word_append hword.1 hword.2 hrest]
          have hwritten := ih rest.length (by omega) rest rfl
          have hresult := Written.word _ word rest _ hgap hword hrest hwritten
          rw [← hfields, ← htext] at hresult
          exact hresult

/-- The fields of a text are the words it writes. -/
theorem written_iff : Written p words text ↔ fields p text = words := by
  constructor
  · exact Written.fields_eq
  · intro h
    rw [← h]
    exact written_fields p text

/-- Trimming leaves what starts at the first word and ends with the last one. -/
theorem trim_gap_append {gap tail : Text} (head : Text) (c last : UInt8) (hgap : IsGap p gap)
    (hc : p c = false) (hlast : p last = false) (hends : (c :: head).getLast? = some last) :
    trim p (gap ++ (c :: head ++ tail)) = c :: head ++ tail.rdropWhile p := by
  have hstart : (gap ++ (c :: head ++ tail)).dropWhile p = c :: head ++ tail := by
    rw [List.dropWhile_append_of_pos hgap, List.cons_append, List.dropWhile_cons_of_neg (by simp [hc])]
  obtain ⟨init, hinit⟩ := List.getLast?_eq_some_iff.mp hends
  rw [trim, hstart, hinit, List.rdropWhile, List.rdropWhile, List.reverse_append,
    List.dropWhile_append]
  split
  case isTrue hempty =>
    have hnil : tail.reverse.dropWhile p = [] := by simpa using hempty
    have hreverse : (init ++ [last]).reverse = last :: init.reverse := by simp
    rw [hnil, hreverse, List.dropWhile_cons_of_neg (by simp [hlast])]
    simp
  case isFalse => simp

end SimpleWebrtc.Library.Text
