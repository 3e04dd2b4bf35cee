import PageSkins.Record.Check
import PageSkins.Value.Literal

/-!
# Issues in words

How the issues of records are told.
-/

namespace PageSkins

def PathStep.words : PathStep → String
  | .field n => n
  | .item i => "item " ++ String.ofList (Decimal.natDigits i)

def Cause.words : Cause → String
  | .missing => "is missing"
  | .notText => "is no text"
  | .notInteger => "is no integer"
  | .integerMalformed => "is no integer in digits"
  | .integerFraction => "has a fraction"
  | .integerTooLong => "is too large"
  | .notFinite => "is not finite"
  | .notFlag => "is no flag"
  | .flagMalformed => "is no word for true or false"
  | .notMoment => "is no moment"
  | .momentMalformed => "is no moment that can be read"
  | .dayMalformed => "is no date that can be read"
  | .notMap => "is no map"
  | .keyNotText => "has a key that is no text"
  | .notList => "is no list"
  | .notRecord => "is no record"
  | .notRecordOfKind => "is no record of a known kind"
  | .unknownField => "is not known"
  | .unknownChoice => "is none of the choices"
  | .unknownKind => "is of no known kind"
  | .kindMissing => "names no kind"
  | .notAddress => "is no address"
  | .addressMalformed => "is no address that can be read"
  | .addressScheme => "has a scheme other than http and https"
  | .addressTooLong => "is too long an address"
  | .frozen => "cannot be changed"
  | .refused rule => "is refused: " ++ rule

def Issue.words (i : Issue) : String := " > ".intercalate (i.path.map PathStep.words) ++ " " ++ i.cause.words

def issueWords (issues : List Issue) : String := "; ".intercalate (issues.map Issue.words)

end PageSkins
