import TermSearch.Document.Filter
import TermSearch.Json.Text
import TermSearch.PatternEngine
import TermSearch.Query.Clause

/-!
# Selectors

A selector is a JSON object that says which documents are wanted:

* a member `$and` or `$or` holds a list of selectors;
* any other member names a path, and its value is what the values found there have to equal, or an object of
  operators such as `$gt`, each of which they have to pass.

`Selector.compile` gives the filter that a selector means, or the first thing wrong with it in the order of its
keys; `Selector.parse` takes a value only if it compiles. Patterns are read by the engine at hand. Conjunction
(`Selector.and`) puts the members of two selectors side by side as long as they have no key in common.
-/

namespace TermSearch.Document

/-! ## What can be wrong -/

/-- Why a value is no selector. -/
inductive SelectorError where
  | notAnObject (value : Json)
  | unknownConnective (key : String)
  | notAList (key : String)
  | notASelector (key : String) (item : Json)
  | strayOptions
  | operandNotAList (operator : String) (operand : Json)
  | patternNotText (operand : Json)
  | badPattern (pattern : String) (cause : PatternRefusal)
  | unknownOperator (operator : String)

/-- The wording of the cause. -/
def SelectorError.message : SelectorError → String
  | .notAnObject value => "expected an object, got " ++ value.render
  | .unknownConnective key => "unknown top-level operator `" ++ key ++ "`"
  | .notAList key => "`" ++ key ++ "` takes an array of selectors"
  | .notASelector key item => "`" ++ key ++ "` entry is not a selector: " ++ item.render
  | .strayOptions => "`$options` needs a string and a `$regex`"
  | .operandNotAList operator operand => "`" ++ operator ++ "` takes an array, got " ++ operand.render
  | .patternNotText operand => "`$regex` takes a string, got " ++ operand.render
  | .badPattern pattern cause => "invalid `$regex` `" ++ pattern ++ "`: " ++ cause.message
  | .unknownOperator operator => "unknown operator `" ++ operator ++ "`"

/-! ## Operators of a field -/

/-- Whether a key stands for an operator. -/
def isOperatorKey (key : String) : Bool := key.toList.head? = some '$'

/-- Whether the members of an object are operators: there are some, and each key stands for one. -/
def areOperators (fields : KeyMap Json) : Bool := !fields.isEmpty && fields.keys.all isOperatorKey

/-- The operand of an operator that takes a list. -/
def listOperand (operator : String) : Json → Except SelectorError (List Json)
  | .array items => .ok items
  | other => .error (.operandNotAList operator other)

/-- How the pattern of an operator document is read: `i`, `m` and `s` among its options set a flag. -/
def patternFlags (options : String) : PatternFlags where
  ignoreCase := 'i' ∈ options.toList
  multiLine := 'm' ∈ options.toList
  dotAll := 's' ∈ options.toList

section

variable [PatternEngine]

/-- The texts that a pattern with options occurs in. -/
def compilePattern (options : String) : Json → Except SelectorError (String → Bool)
  | .string pattern =>
    match PatternEngine.read (patternFlags options) pattern with
    | .ok occursIn => .ok occursIn
    | .error cause => .error (.badPattern pattern cause)
  | other => .error (.patternNotText other)

/-- The options of an operator document; they need a pattern beside them. -/
def patternOptions (fields : KeyMap Json) : Except SelectorError String :=
  match fields.get? "$options" with
  | none => .ok ""
  | some (.string options) => if fields.has "$regex" then .ok options else .error .strayOptions
  | some _ => .error .strayOptions

/-- Several tests as one. -/
def PathTest.ofList : List PathTest → PathTest
  | [test] => test
  | tests => .all tests

/-- The test of an operator other than negation; the options of a pattern are no test of their own. -/
def operatorTest (options operator : String) (operand : Json) :
    Except SelectorError (Option PathTest) :=
  match operator with
  | "$eq" => .ok (some (.eq operand))
  | "$ne" => .ok (some (.ne operand))
  | "$gt" => .ok (some (.compare .gt operand))
  | "$gte" => .ok (some (.compare .gte operand))
  | "$lt" => .ok (some (.compare .lt operand))
  | "$lte" => .ok (some (.compare .lte operand))
  | "$in" => (listOperand operator operand).map (some ∘ .isIn)
  | "$nin" => (listOperand operator operand).map (some ∘ .notIn)
  | "$exists" => .ok (some (.exists (operand.bool?.getD !operand.isNull)))
  | "$regex" => (compilePattern options operand).map (some ∘ .matches)
  | "$options" => .ok none
  | other => .error (.unknownOperator other)

mutual

/-- The test that the value of a member stands for. -/
def testOf : Json → Except SelectorError PathTest
  | .object fields =>
    if areOperators fields then
      match patternOptions fields with
      | .error cause => .error cause
      | .ok options =>
        match operatorTests options fields with
        | .error cause => .error cause
        | .ok tests => .ok (.ofList tests)
    else .ok (.eq (.object fields))
  | value => .ok (.eq value)

/-- The tests of the operators of an object. -/
def operatorTests (options : String) : {low : Option String} → Entries Json low → Except SelectorError (List PathTest)
  | _, .nil => .ok []
  | _, .cons operator _ operand rest =>
    let test :=
      if operator = "$not" then (testOf operand).map fun test => some (.not test)
      else operatorTest options operator operand
    match test with
    | .error cause => .error cause
    | .ok test =>
      match operatorTests options rest with
      | .error cause => .error cause
      | .ok tests => .ok (test.toList ++ tests)

end

/-! ## Members of a selector -/

mutual

/-- The filters of the members of a selector. -/
def memberFilters : {low : Option String} → Entries Json low → Except SelectorError (List Filter)
  | _, .nil => .ok []
  | _, .cons key _ value rest =>
    let part :=
      if key = "$and" then (listedFilters key value).map Filter.all
      else if key = "$or" then (listedFilters key value).map Filter.any
      else if isOperatorKey key then .error (.unknownConnective key)
      else (testOf value).map (Filter.field key)
    match part with
    | .error cause => .error cause
    | .ok part =>
      match memberFilters rest with
      | .error cause => .error cause
      | .ok parts => .ok (part :: parts)

/-- The filters of the selectors that a connective joins. -/
def listedFilters (key : String) : Json → Except SelectorError (List Filter)
  | .array items => itemFilters key items
  | _ => .error (.notAList key)

/-- The filters of a list of selectors. -/
def itemFilters (key : String) : List Json → Except SelectorError (List Filter)
  | [] => .ok []
  | item :: rest =>
    match itemFilter key item with
    | .error cause => .error cause
    | .ok part =>
      match itemFilters key rest with
      | .error cause => .error cause
      | .ok parts => .ok (part :: parts)

/-- The filter of one selector of a list. -/
def itemFilter (key : String) : Json → Except SelectorError Filter
  | .object fields => (memberFilters fields).map Filter.all
  | other => .error (.notASelector key other)

end

end

/-! ## Selectors -/

/-- A selector, as the members of its object. -/
structure Selector where
  fields : KeyMap Json

namespace Selector

/-- The selector that wants every document. -/
def empty : Selector := ⟨.nil⟩

/-- The selector with one member. -/
def field (key : String) (value : Json) : Selector := ⟨KeyMap.single key value⟩

/-- The selector as a value. -/
def toJson (s : Selector) : Json := .object s.fields

/-- Whether the selector has no members. -/
def isEmpty (s : Selector) : Bool := s.fields.isEmpty

/-- **The filter that a selector means.** -/
def compile [PatternEngine] (s : Selector) : Except SelectorError Filter := (memberFilters s.fields).map Filter.all

/-- The selector that a value is, if it compiles. -/
def parse [PatternEngine] : Json → Except SelectorError Selector
  | .object fields => (compile ⟨fields⟩).map fun _ => ⟨fields⟩
  | other => .error (.notAnObject other)

/-- Whether a document is wanted. -/
def wants [PatternEngine] (s : Selector) (document : Json) : Except SelectorError Bool :=
  s.compile.map (·.accepts document)

/-- The key that a connective has in a selector. -/
def connectiveKey : Predicate → String
  | .and => "$and"
  | .or => "$or"

/-- Selectors under a connective, as one selector. -/
def join (p : Predicate) (parts : List Selector) : Selector :=
  field (connectiveKey p) (.array (parts.map toJson))

/-- Whether two selectors have no key in common. -/
def disjoint (a b : Selector) : Bool := b.fields.keys.all fun key => !a.fields.has key

/-- The conjunction of two selectors: an empty one adds nothing, selectors without a common key are put side
by side, and others are listed. -/
def and (a b : Selector) : Selector :=
  if b.isEmpty then a
  else if a.isEmpty then b
  else if disjoint a b then ⟨a.fields.extend b.fields.toList⟩
  else join .and [a, b]

/-- The texts of the single members. -/
def entries (s : Selector) : List String :=
  s.fields.toList.map fun (key, value) => (field key value).toJson.render

end Selector

instance : Condition Selector where
  empty := .empty
  isEmpty := Selector.isEmpty
  entries := Selector.entries
  join := Selector.join

end TermSearch.Document
