import Mathlib.Data.List.Basic
import Mathlib.Data.List.DropRight
import Mathlib.Data.List.Nodup

/-!
# Traces

What a system has done so far is a list which grows at its end. A rule about
such a trace relates each entry to the ones before it: it holds of the longer
trace where it holds of the new entry behind the old ones.
-/
namespace SimpleWebrtc.Library
variable {α : Type*}

theorem filterMap_concat {β : Type*} (f : α → Option β) (trace : List α) (entry : α) :
    (trace ++ [entry]).filterMap f = trace.filterMap f ++ (f entry).toList := by
  rw [List.filterMap_append, List.filterMap_cons]
  cases f entry <;> rfl

theorem eraseDups_concat [BEq α] [LawfulBEq α] [DecidableEq α] (trace : List α) (entry : α) :
    (trace ++ [entry]).eraseDups =
      trace.eraseDups ++ if entry ∈ trace then [] else [entry] := by
  rw [List.eraseDups_append]
  congr 1
  by_cases hmem : entry ∈ trace
  · simp [List.removeAll, hmem]
  · simp [List.removeAll, hmem, List.eraseDups_cons]

theorem nodup_eraseDups [BEq α] [LawfulBEq α] [DecidableEq α] (trace : List α) :
    trace.eraseDups.Nodup := by
  induction trace using List.reverseRecOn with
  | nil => exact List.nodup_nil
  | append_singleton trace entry ih =>
      rw [eraseDups_concat]
      split_ifs with hmem
      · rwa [List.append_nil]
      · exact ih.append (List.nodup_singleton entry) (by simpa using hmem)

/-- The last entries of a trace with one more behind them. -/
theorem rtake_concat_rtake (trace : List α) (entry : α) (n : ℕ) :
    (trace.rtake (n + 1) ++ [entry]).rtake (n + 1) = (trace ++ [entry]).rtake (n + 1) := by
  rw [List.rtake_concat_succ, List.rtake_concat_succ]
  congr 1
  unfold List.rtake
  rw [List.drop_drop, List.length_drop]
  congr 1
  omega

/-- The newest entry that meets a condition, looked for among the last ones. -/
theorem find?_newest {p : α → Bool} {trace : List α} {n : ℕ} {entry : α} :
    (trace.rtake n).reverse.find? p = some entry ↔
      p entry = true ∧ ∃ older newer, trace = older ++ entry :: newer ∧ newer.length < n ∧
        ∀ later ∈ newer, p later = false := by
  rw [List.rtake_eq_reverse_take_reverse, List.reverse_reverse, List.find?_eq_some_iff_append]
  refine and_congr_right fun _ => ⟨?_, ?_⟩
  · rintro ⟨newer, older, htake, hnot⟩
    have hsplit := List.take_append_drop n trace.reverse
    rw [htake, List.append_assoc, List.cons_append] at hsplit
    have hlength := congrArg List.length htake
    rw [List.length_take, List.length_append, List.length_cons] at hlength
    refine ⟨(older ++ trace.reverse.drop n).reverse, newer.reverse, ?_, ?_, fun later hlater => ?_⟩
    · have hback := congrArg List.reverse hsplit.symm
      rwa [List.reverse_reverse, List.reverse_append, List.reverse_cons, List.append_assoc,
        List.singleton_append] at hback
    · rw [List.length_reverse]
      omega
    · simpa using hnot later (List.mem_reverse.mp hlater)
  · rintro ⟨older, newer, rfl, hlength, hnot⟩
    refine ⟨newer.reverse, older.reverse.take (n - newer.length - 1), ?_, fun later hlater => ?_⟩
    · rw [List.reverse_append, List.reverse_cons, List.append_assoc, List.singleton_append,
        List.take_append, List.take_of_length_le (by rw [List.length_reverse]; omega),
        List.length_reverse, List.take_cons (by omega)]
    · simpa using hnot later (List.mem_reverse.mp hlater)

/-- Every entry is related to the trace before it. -/
def EachAfter (rule : List α → α → Prop) (trace : List α) : Prop :=
  ∀ before entry after, trace = before ++ entry :: after → rule before entry

namespace EachAfter
variable {rule : List α → α → Prop} {trace : List α}

theorem nil (rule : List α → α → Prop) : EachAfter rule [] := by
  intro before entry after h
  simp at h

theorem concat (h : EachAfter rule trace) {entry : α} (hentry : rule trace entry) :
    EachAfter rule (trace ++ [entry]) := by
  intro before entry' after heq
  rcases List.eq_nil_or_concat after with rfl | ⟨after', last, rfl⟩
  · obtain ⟨rfl, hlast⟩ := List.append_inj' heq rfl
    obtain rfl := List.singleton_inj.mp hlast
    exact hentry
  · have hsplit : trace ++ [entry] = (before ++ entry' :: after') ++ [last] := by simpa using heq
    exact h before entry' after' (List.append_inj' hsplit rfl).1

/-- Entries which meet the rule behind any trace. -/
theorem append (h : EachAfter rule trace) {more : List α}
    (hmore : ∀ entry ∈ more, ∀ before, rule before entry) : EachAfter rule (trace ++ more) := by
  induction more using List.reverseRecOn with
  | nil => rwa [List.append_nil]
  | append_singleton more entry ih =>
      rw [← List.append_assoc]
      exact (ih fun earlier hearlier => hmore earlier (List.mem_append_left _ hearlier)).concat
        (hmore entry (by simp) _)

end EachAfter
end SimpleWebrtc.Library
