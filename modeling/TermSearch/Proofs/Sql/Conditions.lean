import Mathlib.Data.List.Forall2
import TermSearch.Proofs.Sql.Comparison
import TermSearch.Proofs.Sql.Markers
import TermSearch.Proofs.Sql.Precedence

/-!
# Reading conditions with their values

A condition is read entry by entry, and the entries hold together. Its values go to the expressions from left to
right, as many to each as it has placeholders (`withValues`). A condition whose expressions are read as they stand
gives back the outline that it was written from, values included (`Dialect.readCondition_expressions`).
-/

namespace TermSearch.Sql

/-! ## Values for expressions -/

mutual

/-- The formula with values for its expressions, and the values that are left. -/
def withValues : Formula String → List Json → Formula Added × List Json
  | .atom expr, values =>
    (.atom ⟨expr, values.take (placeholderCount expr)⟩, values.drop (placeholderCount expr))
  | .joined p parts, values =>
    (.joined p (withValuesAll parts values).1, (withValuesAll parts values).2)

/-- The formulas with values for their expressions, and the values that are left. -/
def withValuesAll : List (Formula String) → List Json → List (Formula Added) × List Json
  | [], values => ([], values)
  | part :: parts, values =>
    let first := withValues part values
    (first.1 :: (withValuesAll parts first.2).1, (withValuesAll parts first.2).2)

end

theorem withValuesAll_map {parts : List (Formula Added)}
    (h : ∀ part ∈ parts, ∀ rest, withValues (part.map Added.expr) (part.atoms.flatMap Added.binds ++ rest) =
      (part, rest)) (rest : List Json) :
    withValuesAll (parts.map (Formula.map Added.expr))
        ((parts.flatMap Formula.atoms).flatMap Added.binds ++ rest) = (parts, rest) := by
  induction parts with
  | nil => rw [List.map_nil, withValuesAll]; rfl
  | cons part parts ih =>
    rw [List.forall_mem_cons] at h
    rw [List.map_cons, List.flatMap_cons, List.flatMap_append, List.append_assoc, withValuesAll]
    simp only [h.1, ih h.2]

/-- **Expressions get back their own values.** -/
theorem withValues_map {f : Formula Added} (h : ∀ a ∈ f.atoms, placeholderCount a.expr = a.binds.length)
    (rest : List Json) :
    withValues (f.map Added.expr) (f.atoms.flatMap Added.binds ++ rest) = (f, rest) := by
  induction f generalizing rest with
  | atom a =>
    have ha := h a (by rw [Formula.atoms_atom]; exact List.mem_cons_self)
    rw [Formula.map_atom, Formula.atoms_atom, List.flatMap_singleton, withValues, ha, List.take_left, List.drop_left]
  | joined p parts ih =>
    rw [Formula.atoms_joined] at h
    have hparts : ∀ part ∈ parts, ∀ rest, withValues (part.map Added.expr) (part.atoms.flatMap Added.binds ++ rest) =
        (part, rest) :=
      fun part hpart => ih part hpart fun a ha => h a (List.mem_flatMap.mpr ⟨part, hpart, ha⟩)
    rw [Formula.map_joined, Formula.atoms_joined, withValues, withValuesAll_map hparts]

/-! ## Conditions -/

namespace Dialect

/-- **The reading of a condition**: its entries together, each read, if there is a place for each value. -/
def readCondition? (d : Dialect) (e : Expressions) : Option (Formula Added) :=
  (e.exprs.mapM d.read?).bind fun entries =>
    match withValues (.join .and entries) e.binds with
    | (reading, []) => some reading
    | _ => none

/-- The expression is read as it stands, and it has a value for each placeholder. -/
def Stands (d : Dialect) (a : Added) : Prop :=
  d.read? a.expr = some (.atom a.expr) ∧ placeholderCount a.expr = a.binds.length

theorem stands_comparison (d : Dialect) (column : String) (op : Operator) (value : String) :
    d.Stands ⟨comparison column op, [comparisonBind op value]⟩ :=
  ⟨d.read_comparison column op, (bound_comparison column op value).2⟩

theorem mapM_read {d : Dialect} {entries : List (Formula Added)} (h : ∀ entry ∈ entries, entry.Sound d.Stands) :
    (entries.map fun entry => formulaText (entry.map Added.expr)).mapM d.read? =
      some (entries.map (Formula.map Added.expr)) := by
  induction entries with
  | nil => rfl
  | cons entry entries ih =>
    rw [List.forall_mem_cons] at h
    have hread : d.read? (formulaText (entry.map Added.expr)) = some (entry.map Added.expr) :=
      read_formulaText (h.1.mono fun _ ha => ha.1)
    rw [List.map_cons, List.mapM_cons, hread, ih h.2]
    rfl

/-- **A condition is read as the outline that it was written from**, if its expressions stand as they are. -/
theorem readCondition_expressions {d : Dialect} {o : Outline} (h : o.Sound d.Stands) :
    d.readCondition? o.expressions = some o.whole := by
  have hentries : o.expressions.exprs.mapM d.read? = some (o.entries.map (Formula.map Added.expr)) := mapM_read h
  have hvalues : withValues (o.whole.map Added.expr) o.expressions.binds = (o.whole, []) := by
    have hatoms : ∀ a ∈ o.whole.atoms, placeholderCount a.expr = a.binds.length := by
      intro a ha
      rw [Outline.whole, Formula.atoms_join] at ha
      obtain ⟨entry, hentry, ha⟩ := List.mem_flatMap.mp ha
      exact ((h entry hentry).of_mem_atoms a ha).2
    have hwhole := withValues_map hatoms []
    rwa [List.append_nil, ← Outline.binds_expressions] at hwhole
  unfold readCondition?
  rw [hentries, Option.bind_some, ← Formula.map_join]
  show (match withValues (o.whole.map Added.expr) o.expressions.binds with | (reading, []) => _ | _ => _) = _
  rw [hvalues]

end Dialect

end TermSearch.Sql
