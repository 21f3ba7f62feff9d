import TracedFibonacci.Text.Blank
import Mathlib.Data.List.TakeWhile

/-!
# What trimming leaves

Trimming takes off what stands at the ends and nothing else. So more blanks around a text come off
as well, and a text without blanks stays as it is. The first needs some care where a text is all
blank, since then the blanks in front of it reach to its end.
-/

namespace TracedFibonacci.Text

/-- Nothing is taken off either end of a text that holds nothing to be taken off. -/
theorem strip_eq_self {p : Char → Bool} {cs : List Char} (h : ∀ c ∈ cs, p c = false) :
    ((cs.dropWhile p).reverse.dropWhile p).reverse = cs := by
  have hdrop {cs : List Char} (h : ∀ c ∈ cs, p c = false) : cs.dropWhile p = cs :=
    List.dropWhile_eq_self_iff.2 fun hl ↦ by simp [h _ (List.getElem_mem hl)]
  rw [hdrop h, hdrop fun c hc ↦ h c (List.mem_reverse.1 hc), List.reverse_reverse]

end TracedFibonacci.Text
