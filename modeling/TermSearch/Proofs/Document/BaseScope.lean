import TermSearch.Proofs.Definition.Invariant
import TermSearch.Proofs.Document.Operation
import TermSearch.Regex.Reader

/-!
# A search stays within its base

Groups start from the base without its conditions, *or* widens, and merging leaves out what is empty. Still a
compiled query wants no document that the base does not want (`Compiler.base_accepts_of_compile`), whatever the rules
build, as long as none drops the conditions of its own scope. The invariant is `Within`: it holds of the scope
of a rule after each operation, and of a merge once it holds of all its parts.
-/

namespace TermSearch

open Document

namespace Document

variable [PatternEngine]

/-- The query wants nothing that the base does not want. -/
def Within (base q : DocumentQuery) : Prop :=
  ∀ document, q.clauses.filter.Wants document → base.clauses.filter.Wants document

variable {base q : DocumentQuery}

theorem within_compare (h : Within base q) (field : String) (op : Operator) (value : String) :
    Within base (Query.compare q field op value) := by
  intro document hwants
  rw [compare_filter] at hwants
  exact h document (Selector.wants_of_and hwants)

theorem within_perform (h : Within base q) {m : Query.Method DocumentQuery} {q' : DocumentQuery}
    (hperform : Query.perform m q = .ok q') : Within base q' := by
  intro document hwants
  obtain ⟨added, hadded⟩ := perform_filter hperform
  rw [hadded] at hwants
  exact h document (Selector.wants_of_and hwants)

theorem within_push (h : Within base q) (added : DocumentQuery) : Within base (Query.merge q .and [added]) := by
  intro document hwants
  rw [merge_filter] at hwants
  exact h document (Selector.combine_and_wants.mp hwants _ List.mem_cons_self)

/-- **A merge stays within the base** under either connective. -/
theorem within_merge (p : Predicate) (first : DocumentQuery) (rest : List DocumentQuery)
    (h : ∀ q ∈ first :: rest, Within base q) : Within base (Query.merge first p rest) := by
  intro document hwants
  rw [merge_filter] at hwants
  have hne : (first :: rest).map (·.clauses.filter) ≠ [] := List.cons_ne_nil _ _
  -- even *or* leads back to some part, and each part stays within the base
  obtain ⟨part, hpart, hwants⟩ := Selector.exists_wants_of_combine hne hwants
  obtain ⟨q, hq, rfl⟩ := List.mem_map.mp hpart
  exact h q hq document hwants

end Document

namespace Compiler

/-- Rules that keep conditions build within the base. -/
theorem rulesEstablish_within [PatternEngine] {c : Compiler DocumentQuery}
    (hrules : ∀ name body, c.definition.declarations.rules.get? name = some body → body.KeepsConditions) :
    c.RulesEstablish (Within c.scope) := by
  intro name body hget calls v negated
  have hleads := hrules name body hget c.scope calls { visit := v, scope := .start c.scope negated }
  obtain ⟨q, touched, hsingle, hwithin⟩ := Scope.LeadsTo.current_holds (P := Within c.scope)
    (fun q field op value hq => within_compare hq field op value)
    (fun q m q' hperform hq => within_perform hq hperform)
    (fun q added hq => within_push hq added) hleads fun _ hwants => hwants
  rw [hsingle]
  exact hwithin

/-- **A compiled search never escapes its base scope.** -/
theorem base_accepts_of_compile [PatternEngine] (c : Compiler DocumentQuery)
    (hrules : ∀ name body, c.definition.declarations.rules.get? name = some body → body.KeepsConditions)
    (baseFilter : Filter) (hbase : c.scope.clauses.filter.compile = .ok baseFilter) (root : Group)
    (q : DocumentQuery) (hcompile : c.compile root = .ok q) (filter : Filter)
    (hfilter : q.clauses.filter.compile = .ok filter) (document : Json) (haccepts : filter.accepts document = true) :
    baseFilter.accepts document = true := by
  have hwithin : Within c.scope q :=
    compile_holds (fun _ hwants => hwants) (rulesEstablish_within hrules) within_merge hcompile
  have hwants : q.clauses.filter.Wants document := Selector.wants_iff_accepts.mpr ⟨filter, hfilter, haccepts⟩
  obtain ⟨filter', hfilter', haccepts'⟩ := Selector.wants_iff_accepts.mp (hwithin document hwants)
  rw [hbase] at hfilter'
  cases hfilter'
  exact haccepts'

/-- A rule that widens as far as it can: an open group with branches that drop everything. -/
def looseRule : RuleBody DocumentQuery :=
  .ofSteps [fun _ _ => .build (.grouped .or
    [.compareBy "title", .clear, .push (.ofSource "books"), .method (.filterEq "kind" (.string "novel"))])]

/-- The books of one shelf, searched by the loose rule. -/
def looseCompiler : Compiler DocumentQuery where
  definition :=
    { declarations := { Declarations.none with rules := .single "loose" looseRule }
      matchers := [{ rule := "loose", rank := 0, fields := .any, onlyIf := none, exceptIf := none }] }
  scope := (ClauseQuery.ofSource "books").mapFilter fun _ => .field "shelf" (.string "A")

theorem looseCompiler_keepsConditions (name : String) (body : RuleBody DocumentQuery)
    (h : looseCompiler.definition.declarations.rules.get? name = some body) : body.KeepsConditions := by
  simp only [looseCompiler, KeyMap.get?_single] at h
  split at h
  · cases h
    exact RuleBody.keepsConditions_ofSteps (by simp)
  · cases h

theorem base_accepts_of_compile_loose :
    ∃ (q : DocumentQuery) (filter : Filter),
      looseCompiler.compile ⟨[.term (.bare "Emma"), .term (.bare "Dune")], [.or]⟩ = .ok q ∧
      q.clauses.filter.compile = .ok filter ∧
      filter.accepts (.ofFields [("kind", .string "novel"), ("shelf", .string "A")]) = true ∧
      ∀ document, filter.accepts document = true →
        (Filter.all [.field "shelf" (.eq (.string "A"))]).accepts document = true := by
  obtain ⟨q, hcompile, filter, hfilter, haccepts⟩ :
      ∃ q, looseCompiler.compile ⟨[.term (.bare "Emma"), .term (.bare "Dune")], [.or]⟩ = .ok q ∧
        ∃ filter, q.clauses.filter.compile = .ok filter ∧
          filter.accepts (.ofFields [("kind", .string "novel"), ("shelf", .string "A")]) = true :=
    ⟨_, rfl, _, rfl, by decide +kernel⟩
  refine ⟨q, filter, hcompile, hfilter, haccepts, fun document => ?_⟩
  exact base_accepts_of_compile looseCompiler looseCompiler_keepsConditions _ rfl _ q hcompile filter hfilter document

end Compiler

end TermSearch
