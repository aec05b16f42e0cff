import Wiring.Grammar.SyntaxTree

/-!
Why a text is no sentence of the grammar, and the wording of each cause.
-/

set_option autoImplicit false

namespace Wiring.Grammar

inductive CastTail where
  | await
  | methodCall
  | fieldAccess
  | tryOperator
  | indexing
  | call

inductive Cause where
  | unlexable
  | expected (alternatives : List String)
  | keywordAsName (word : String)
  | leftOver (inside : Option Delimiter)
  | semicolonMissing
  | comparisonChain
  | castTail (what : CastTail)
  | attributeOnRange
  | attributeInAttribute
  | labelWithoutLoop
  | labelledBreakValue
  | rangeBoundMissing
  | rangeInSlicePattern
  | memberExpected
  | indexSuffix
  | secondReceiver
  | lateReceiver
  | binderOnOptional
  | captureNotAllowed
  | constNotAllowed
  | objectWithoutTrait
  | boundsWithoutTrait
  | numberTooLarge
  | stringSuffix (suffix : String)
  | nestedMissing
  | nestedLiteral
  | nestedToken
  /-- The attribute has no list of arguments; the text is the attribute as it should begin. -/
  | argumentsMissing (shape : String)
  | argumentsNotListed (shape : String)
  | rule (text : String)

/-- A refusal: its cause, the line that it points at, and whether the input had ended there. -/
structure SyntaxError where
  cause : Cause
  line : Nat
  atEnd : Bool

def CastTail.words : CastTail → String
  | .await => "`.await`"
  | .methodCall => "a method call"
  | .fieldAccess => "a field access"
  | .tryOperator => "`?`"
  | .indexing => "indexing"
  | .call => "a function call"

def expectedText : List String → String
  | [] => "unexpected token"
  | [only] => "expected " ++ only
  | [first, second] => "expected " ++ first ++ " or " ++ second
  | many => "expected one of: " ++ ", ".intercalate many

def Cause.text : Cause → String
  | .unlexable => "cannot parse string into token stream"
  | .expected alternatives => expectedText alternatives
  | .keywordAsName word => "expected identifier, found keyword `" ++ word ++ "`"
  | .leftOver none => "unexpected token"
  | .leftOver (some .parenthesis) => "unexpected token, expected `)`"
  | .leftOver (some .bracket) => "unexpected token, expected `]`"
  | .leftOver (some .brace) => "unexpected token, expected `\x7d`"
  | .semicolonMissing => "unexpected token, expected `;`"
  | .comparisonChain => "comparison operators cannot be chained"
  | .castTail what => "casts cannot be followed by " ++ what.words
  | .attributeOnRange =>
      "attributes are not allowed on range expressions starting with `..`"
  | .attributeInAttribute => "unexpected attribute inside of attribute"
  | .labelWithoutLoop => "expected loop or block expression"
  | .labelledBreakValue => "parentheses required"
  | .rangeBoundMissing => "expected range upper bound"
  | .rangeInSlicePattern =>
      "range pattern is not allowed unparenthesized inside slice pattern"
  | .memberExpected => "expected identifier or integer"
  | .indexSuffix => "expected unsuffixed integer"
  | .secondReceiver => "unexpected second method receiver"
  | .lateReceiver => "unexpected method receiver"
  | .binderOnOptional => "`for<...>` binder not allowed with `?` trait polarity modifier"
  | .captureNotAllowed => "`use<...>` precise capturing syntax is not allowed here"
  | .constNotAllowed => "`const` is not allowed here"
  | .objectWithoutTrait => "at least one trait is required for an object type"
  | .boundsWithoutTrait => "at least one trait must be specified"
  | .numberTooLarge => "number too large to fit in target type"
  | .stringSuffix suffix => "unexpected suffix `" ++ suffix ++ "` on string literal"
  | .nestedMissing => "expected nested attribute"
  | .nestedLiteral => "unexpected literal in nested attribute, expected ident"
  | .nestedToken => "unexpected token in nested attribute, expected ident"
  | .argumentsMissing shape => "expected attribute arguments in parentheses: " ++ shape
  | .argumentsNotListed shape => "expected parentheses: " ++ shape
  | .rule text => text

def SyntaxError.message (error : SyntaxError) : String :=
  match error.atEnd, error.cause with
  | true, .expected [] => "unexpected end of input"
  | true, cause => "unexpected end of input, " ++ cause.text
  | false, cause => cause.text

end Wiring.Grammar
