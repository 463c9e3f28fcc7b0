import Mathlib
import Relevance.Query.Parser

/-! The grammar of query syntax, as relations between tokens and the query that they stand for.

There is one relation for each rule; those for further operands give the values of all of them. A
value is absent where analysis left no terms; absent operands are dropped from their combination,
and a combination of nothing is absent itself.
-/

set_option autoImplicit false

namespace Relevance.Query.Grammar

open Analysis

structure IsBoost (text : String) (factor : Float) : Prop where
  read : Decimal.read? text.toList = some factor
  finite : factor.isFinite = true
  positive : 0.0 < factor

inductive Boosted : Option Query → List Token → Option Query → Prop where
  | absent {value : Option Query} : Boosted value [] value
  | present {value : Option Query} {text : String} {factor : Float} :
      IsBoost text factor → Boosted value [.boost text] (value.map (boost factor))

mutual

inductive Primary (analyzer : Analyzer) : List Token → Option Query → Prop where
  | word {text : String} {suffix : List Token} {value : Option Query} :
      Boosted (ofTerms? (analyzer.termsOf text)) suffix value →
      Primary analyzer (.word text :: suffix) value
  | phrase {text : String} {suffix : List Token} {value : Option Query} :
      Boosted (ofTerms? (analyzer.termsOf text)) suffix value →
      Primary analyzer (.phrase text :: suffix) value
  | group {inner suffix : List Token} {node value : Option Query} :
      Disjunction analyzer inner node → Boosted node suffix value →
      Primary analyzer (.leftParen :: (inner ++ .rightParen :: suffix)) value
  | emptyGroup {suffix : List Token} {value : Option Query} :
      Boosted none suffix value → Primary analyzer (.leftParen :: .rightParen :: suffix) value

inductive Operand (analyzer : Analyzer) : List Token → Option Query → Prop where
  | not {tokens : List Token} {value : Option Query} :
      Operand analyzer tokens value → Operand analyzer (.not :: tokens) (value.map negate)
  | primary {tokens : List Token} {value : Option Query} :
      Primary analyzer tokens value → Operand analyzer tokens value

inductive Conjuncts (analyzer : Analyzer) : List Token → List (Option Query) → Prop where
  | nil : Conjuncts analyzer [] []
  | and {first rest : List Token} {value : Option Query} {values : List (Option Query)} :
      Operand analyzer first value → Conjuncts analyzer rest values →
      Conjuncts analyzer (.and :: (first ++ rest)) (value :: values)

inductive Conjunction (analyzer : Analyzer) : List Token → Option Query → Prop where
  | operands {first rest : List Token} {value : Option Query} {values : List (Option Query)} :
      Operand analyzer first value → Conjuncts analyzer rest values →
      Conjunction analyzer (first ++ rest) (conjunction? (value :: values).reduceOption)

inductive Disjuncts (analyzer : Analyzer) : List Token → List (Option Query) → Prop where
  | nil : Disjuncts analyzer [] []
  | or {first rest : List Token} {value : Option Query} {values : List (Option Query)} :
      Conjunction analyzer first value → Disjuncts analyzer rest values →
      Disjuncts analyzer (.or :: (first ++ rest)) (value :: values)
  | adjacent {first rest : List Token} {value : Option Query} {values : List (Option Query)} :
      Conjunction analyzer first value → Disjuncts analyzer rest values →
      Disjuncts analyzer (first ++ rest) (value :: values)

inductive Disjunction (analyzer : Analyzer) : List Token → Option Query → Prop where
  | operands {first rest : List Token} {value : Option Query} {values : List (Option Query)} :
      Conjunction analyzer first value → Disjuncts analyzer rest values →
      Disjunction analyzer (first ++ rest) (disjunction? (value :: values).reduceOption)

end

theorem boostOfText?_eq_some {text : String} {factor : Float} :
    boostOfText? text = some factor ↔ IsBoost text factor := by
  unfold boostOfText?
  constructor
  · intro found
    split at found
    · next read =>
      split at found
      · next fits =>
        obtain rfl := Option.some.inj found
        rw [Bool.and_eq_true] at fits
        exact ⟨read, fits.1, of_decide_eq_true fits.2⟩
      · contradiction
    · contradiction
  · rintro ⟨read, finite, positive⟩
    simp [read, finite, positive]

variable {analyzer : Analyzer} {tokens : List Token} {value : Option Query}

theorem operandBegins_append {front : List Token} (begins : operandBegins front = true)
    (rest : List Token) : operandBegins (front ++ rest) = true := by
  cases front with
  | nil => simp [operandBegins] at begins
  | cons token front => exact begins

theorem begins_of_append_eq {front rest whole : List Token} (begins : operandBegins front = true)
    (same : front ++ rest = whole) : operandBegins whole = true :=
  same ▸ operandBegins_append begins rest

theorem Primary.begins (derived : Primary analyzer tokens value) :
    operandBegins tokens = true := by
  cases derived <;> rfl

theorem Operand.begins (derived : Operand analyzer tokens value) :
    operandBegins tokens = true := by
  cases derived with
  | not => rfl
  | primary derived => exact derived.begins

theorem Conjunction.begins (derived : Conjunction analyzer tokens value) :
    operandBegins tokens = true := by
  cases derived with
  | operands first rest => exact operandBegins_append first.begins _

theorem Disjunction.begins (derived : Disjunction analyzer tokens value) :
    operandBegins tokens = true := by
  cases derived with
  | operands first rest => exact operandBegins_append first.begins _

theorem Disjunction.ne_nil (derived : Disjunction analyzer tokens value) : tokens ≠ [] := by
  intro empty
  subst empty
  have begins := derived.begins
  contradiction

def NoBoost (rest : List Token) : Prop :=
  ∀ text, rest.head? ≠ some (.boost text)

structure EndsConjunction (rest : List Token) : Prop where
  noBoost : NoBoost rest
  noAnd : rest.head? ≠ some .and

def EndsDisjunction (rest : List Token) : Prop :=
  ∀ token, rest.head? = some token → token = .rightParen

theorem noBoost_cons {token : Token} {rest : List Token} :
    NoBoost (token :: rest) ↔ ∀ text, token ≠ .boost text := by
  simp [NoBoost]

theorem noBoost_of_begins {rest : List Token} (begins : operandBegins rest = true) :
    NoBoost rest := by
  rintro text head
  simp [operandBegins, head, Token.startsOperand] at begins

theorem endsConjunction_of_begins {rest : List Token} (begins : operandBegins rest = true) :
    EndsConjunction rest :=
  ⟨noBoost_of_begins begins, fun head => by
    simp [operandBegins, head, Token.startsOperand] at begins⟩

theorem EndsDisjunction.endsConjunction {rest : List Token} (ends : EndsDisjunction rest) :
    EndsConjunction rest where
  noBoost _ head := nomatch ends _ head
  noAnd head := nomatch ends _ head

theorem EndsDisjunction.not_begins {rest : List Token} (ends : EndsDisjunction rest) :
    operandBegins rest = false := by
  cases rest with
  | nil => rfl
  | cons token rest => rw [ends token rfl]; rfl

theorem endsDisjunction_nil : EndsDisjunction [] := by
  simp [EndsDisjunction]

theorem endsDisjunction_rightParen (rest : List Token) :
    EndsDisjunction (.rightParen :: rest) := by
  simp [EndsDisjunction]

theorem Conjuncts.noBoost {values : List (Option Query)} {rest : List Token}
    (derived : Conjuncts analyzer tokens values) (ends : EndsConjunction rest) :
    NoBoost (tokens ++ rest) := by
  cases derived with
  | nil => exact ends.noBoost
  | and => simp [noBoost_cons]

theorem Disjuncts.endsConjunction {values : List (Option Query)} {rest : List Token}
    (derived : Disjuncts analyzer tokens values) (ends : EndsDisjunction rest) :
    EndsConjunction (tokens ++ rest) := by
  cases derived with
  | nil => exact ends.endsConjunction
  | or => exact ⟨by simp [noBoost_cons], by simp⟩
  | adjacent first others =>
    rw [List.append_assoc]
    exact endsConjunction_of_begins (operandBegins_append first.begins _)

end Relevance.Query.Grammar
