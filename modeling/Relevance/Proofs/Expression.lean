import Relevance.Proofs.Grammar

/-! Token lists that the grammar derives, seen without precedence and without values.

What matters about the tokens of a query alone, such as how its parentheses pair up, is proved by
induction on this one relation.
-/

set_option autoImplicit false

namespace Relevance.Query.Grammar

open Analysis

inductive Expression : List Token → Prop where
  | leaf {token : Token} : token.isLeaf = true → Expression [token]
  | emptyGroup : Expression [.leftParen, .rightParen]
  | group {inner : List Token} :
      Expression inner → Expression (.leftParen :: (inner ++ [.rightParen]))
  | boosted {tokens : List Token} {text : String} {factor : Float} :
      Expression tokens → IsBoost text factor → Expression (tokens ++ [.boost text])
  | not {tokens : List Token} : Expression tokens → Expression (.not :: tokens)
  | operator {first rest : List Token} {token : Token} : token = .and ∨ token = .or →
      Expression first → Expression rest → Expression (first ++ token :: rest)
  | adjacent {first rest : List Token} :
      Expression first → Expression rest → Expression (first ++ rest)

variable {analyzer : Analyzer}

theorem Expression.begins {tokens : List Token} (expression : Expression tokens) :
    operandBegins tokens = true := by
  induction expression with
  | leaf leaf =>
    simp only [operandBegins, List.head?_cons, Option.any_some]
    unfold Token.isLeaf at leaf
    split at leaf <;> first | rfl | contradiction
  | emptyGroup | group | not => rfl
  | boosted _ _ ih | operator _ _ _ ih | adjacent _ _ ih => exact operandBegins_append ih _

theorem Boosted.extends {front suffix : List Token} {node value : Option Query}
    (boosted : Boosted node suffix value) (expression : Expression front) :
    Expression (front ++ suffix) := by
  cases boosted with
  | absent => rwa [List.append_nil]
  | present read => exact .boosted expression read

-- Further operands are joined to all that stands before them, so a list of them is read as what
-- extends an expression.
mutual

theorem Primary.expression {tokens : List Token} {value : Option Query} :
    Primary analyzer tokens value → Expression tokens
  | .word boosted => boosted.extends (.leaf rfl)
  | .phrase boosted => boosted.extends (.leaf rfl)
  | .group inner boosted => by
    have extended := boosted.extends (.group inner.expression)
    simpa using extended
  | .emptyGroup boosted => boosted.extends .emptyGroup
termination_by structural derived => derived

theorem Operand.expression {tokens : List Token} {value : Option Query} :
    Operand analyzer tokens value → Expression tokens
  | .not operand => .not operand.expression
  | .primary primary => primary.expression
termination_by structural derived => derived

theorem Conjuncts.extends {tokens : List Token} {values : List (Option Query)} :
    Conjuncts analyzer tokens values →
    ∀ {front : List Token}, Expression front → Expression (front ++ tokens)
  | .nil, front, expression => by rwa [List.append_nil]
  | .and first others, front, expression => by
    have extended := others.extends (.operator (.inl rfl) expression first.expression)
    simpa using extended
termination_by structural derived => derived

theorem Conjunction.expression {tokens : List Token} {value : Option Query} :
    Conjunction analyzer tokens value → Expression tokens
  | .operands first others => others.extends first.expression
termination_by structural derived => derived

theorem Disjuncts.extends {tokens : List Token} {values : List (Option Query)} :
    Disjuncts analyzer tokens values →
    ∀ {front : List Token}, Expression front → Expression (front ++ tokens)
  | .nil, front, expression => by rwa [List.append_nil]
  | .or first others, front, expression => by
    have extended := others.extends (.operator (.inr rfl) expression first.expression)
    simpa using extended
  | .adjacent first others, front, expression => by
    have extended := others.extends (.adjacent expression first.expression)
    simpa using extended
termination_by structural derived => derived

theorem Disjunction.expression {tokens : List Token} {value : Option Query} :
    Disjunction analyzer tokens value → Expression tokens
  | .operands first others => others.extends first.expression
termination_by structural derived => derived

end

end Relevance.Query.Grammar
