import TermSearch.Sql.Identifier
import TermSearch.Sql.Placeholder

/-!
# Identifiers in statements

A name written as an identifier is all inside quotation marks, but for the dots and the segment `*`. Scanned for
placeholders it shows none, whatever the name holds, and it leaves no quotation open.
-/

namespace TermSearch.Sql

theorem after_cons (state : QuoteState) (c : Char) (cs : List Char) : state.after (c :: cs) = (state.next c).after cs :=
  rfl

theorem after_append (state : QuoteState) (cs ds : List Char) :
    state.after (cs ++ ds) = (state.after cs).after ds := List.foldl_append

/-- A text that brings no placeholder and does not change whether a quotation is open. -/
def Inert (state : QuoteState) (cs : List Char) : Prop := state.after cs = state ∧ countFrom state cs = 0

theorem Inert.nil (state : QuoteState) : Inert state [] := ⟨rfl, rfl⟩

theorem Inert.append {state : QuoteState} {cs ds : List Char} (h : Inert state cs) (h' : Inert state ds) :
    Inert state (cs ++ ds) := by
  refine ⟨?_, ?_⟩
  · rw [after_append, h.1, h'.1]
  · rw [countFrom_append, h.2, h.1, h'.2]

/-- Inside quotation marks a doubled mark closes and opens again. -/
theorem inert_escapeMark (c : Char) : Inert (some '"') (escapeMark c) := by
  unfold escapeMark
  by_cases hc : c = '"'
  · rw [if_pos hc]
    exact ⟨by decide, by decide⟩
  · rw [if_neg hc]
    have hnext : QuoteState.next (some '"') c = some '"' := if_neg hc
    exact ⟨hnext, by simp [countFrom, isPlaceholder]⟩

theorem inert_flatMap_escapeMark (segment : List Char) : Inert (some '"') (segment.flatMap escapeMark) := by
  induction segment with
  | nil => exact .nil _
  | cons c segment ih =>
    rw [List.flatMap_cons]
    exact (inert_escapeMark c).append ih

/-- What holds of dots, of `*` and of quoted segments, and of texts one after the other, holds of identifiers. -/
theorem quoteChars_ind {P : List Char → Prop} (hnil : P []) (happend : ∀ cs ds, P cs → P ds → P (cs ++ ds))
    (hdot : P ['.']) (hstar : P ['*']) (hquoted : ∀ segment : List Char, P ('"' :: (segment.flatMap escapeMark ++ ['"'])))
    (name : List Char) : P (quoteChars name) := by
  have hsegment : ∀ segment, P (quoteSegment segment) := by
    intro segment
    unfold quoteSegment
    by_cases h : segment = ['*']
    · rw [if_pos h, h]
      exact hstar
    · rw [if_neg h]
      exact hquoted segment
  unfold quoteChars
  generalize Text.splitOn '.' name = segments
  induction segments with
  | nil => exact hnil
  | cons segment segments ih =>
    cases segments with
    | nil => exact hsegment segment
    | cons next more => exact happend _ _ (hsegment segment) (happend ['.'] _ hdot ih)

theorem inert_quoted (segment : List Char) : Inert none ('"' :: (segment.flatMap escapeMark ++ ['"'])) := by
  obtain ⟨hafter, hcount⟩ := inert_flatMap_escapeMark segment
  have hopen : QuoteState.next none '"' = some '"' := by decide
  have hclose : QuoteState.next (some '"') '"' = none := by decide
  refine ⟨?_, ?_⟩
  · show QuoteState.after (QuoteState.next none '"') (segment.flatMap escapeMark ++ ['"']) = none
    rw [hopen, after_append, hafter]
    exact hclose
  · rw [countFrom, hopen, countFrom_append, hafter, hcount]
    decide

/-- **An identifier shows no placeholder and leaves no quotation open.** -/
theorem inert_quoteChars (name : List Char) : Inert none (quoteChars name) :=
  quoteChars_ind (.nil none) (fun _ _ h h' => h.append h') ⟨by decide, by decide⟩ ⟨by decide, by decide⟩ inert_quoted name

end TermSearch.Sql
